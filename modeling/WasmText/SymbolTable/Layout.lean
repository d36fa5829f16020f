import WasmText.SymbolTable.Failure
import WasmText.SymbolTable.Basic

/-!
# The layout of a symbol table

Where entries lie, told without any links: an array of optional entries in which a colliding entry
takes the highest free slot, or its own main slot from an entry that is not at home there.
-/
namespace WasmText

structure Layout where
  cells : List (Option Entry)
  deriving DecidableEq

namespace Layout

def capacity (l : Layout) : Nat :=
  l.cells.length

def entries (l : Layout) : List Entry :=
  l.cells.filterMap id

def mainSlot (l : Layout) (name : Name) : Nat :=
  name.hash.toNat % l.capacity

def blank (capacity : Nat) : Layout :=
  ⟨List.replicate capacity none⟩

def write (l : Layout) (i : Nat) (e : Entry) : Layout :=
  ⟨l.cells.set i (some e)⟩

/-- The free slot with the highest number. -/
def highestFree? (l : Layout) : Option Nat :=
  (List.range l.capacity).reverse.find? fun i => l.cells[i]? == some none

/-- Places an entry, unless there is no room for it. -/
def place? (l : Layout) (e : Entry) : Option Layout :=
  match l.cells[l.mainSlot e.name]? with
  | none => none
  | some none => some (l.write (l.mainSlot e.name) e)
  | some (some occupant) =>
    l.highestFree?.map fun free =>
      if l.mainSlot occupant.name = l.mainSlot e.name then l.write free e
      else (l.write free occupant).write (l.mainSlot e.name) e

/-- Places entries one after another and stops at the first without room. -/
def placeAll : List Entry → Layout → Layout
  | [], l => l
  | e :: rest, l =>
    match l.place? e with
    | some l => placeAll rest l
    | none => l

def resize (storage : Storage) (l : Layout) (capacity : Nat) : Layout :=
  if storage.grants capacity then placeAll l.entries (blank capacity) else l

/-- The slots an insertion needs: some at first, twice as many when none is free. -/
def neededCapacity (initial : Nat) (l : Layout) : Nat :=
  if l.capacity = 0 then initial
  else if l.highestFree?.isNone then 2 * l.capacity
  else l.capacity

/-- Adds an entry after making room for it. Where storage is refused nothing changes. -/
def insert (storage : Storage) (initial : Nat) (l : Layout) (e : Entry) : Layout :=
  let needed := l.neededCapacity initial
  if needed = l.capacity then (l.place? e).getD l
  else if storage.grants needed then
    let grown := l.resize storage needed
    (grown.place? e).getD grown
  else l

@[simp] theorem capacity_write (l : Layout) (i : Nat) (e : Entry) :
    (l.write i e).capacity = l.capacity := by
  simp [write, capacity]

@[simp] theorem capacity_blank (c : Nat) : (blank c).capacity = c := by
  simp [blank, capacity]

end Layout

/-- The layout of a table's slots. -/
def SymbolTable.layout (t : SymbolTable) : Layout :=
  ⟨t.slots.toList.map Slot.entry⟩

theorem SymbolTable.entries_layout (t : SymbolTable) : t.layout.entries = t.entries := by
  simp [SymbolTable.layout, Layout.entries, SymbolTable.entries, List.filterMap_map]

theorem SymbolTable.capacity_layout (t : SymbolTable) : t.layout.capacity = t.capacity := by
  simp [SymbolTable.layout, Layout.capacity, SymbolTable.capacity]

end WasmText
