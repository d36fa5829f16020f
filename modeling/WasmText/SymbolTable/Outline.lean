import WasmText.SymbolTable.Basic

/-!
# The printed structure of a symbol table

All slots with their links, the head of the free list, the count of entries and the initial capacity.
-/
namespace WasmText

def Entry.outline (e : Entry) : Outline :=
  .record "Binding" [("name", e.name.outline), ("index", .nat e.index.toNat)]

def Slot.outline (s : Slot) : Outline :=
  .record "BindingSlot"
    [("binding", .option Entry.outline s.entry), ("next", .option .nat s.next),
      ("prev", .option .nat s.prev)]

def SymbolTable.outline (t : SymbolTable) : Outline :=
  .record "BindingTable"
    [("slots", .ofList Slot.outline t.slots.toList), ("free_head", .option .nat t.freeHead),
      ("len", .nat t.len), ("initial_capacity", .nat t.initialCapacity)]

end WasmText
