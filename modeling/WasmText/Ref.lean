import WasmText.SymbolTable.Lookup

/-!
# References

A reference to a function, a local, a global, a type, an import or a label: a name still to be
resolved, or a plain index. An index is taken as written, whatever it points into.
-/
namespace WasmText

inductive Ref
  | name (n : Name)
  | index (i : UInt32)
  deriving DecidableEq

namespace Ref

def resolve (t : SymbolTable) : Ref → Option UInt32
  | name n => t.lookup n
  | index i => some i

def text : Ref → String
  | name n => n.text
  | index i => Nat.repr i.toNat

def outline : Ref → Outline
  | name n => .variant "Name" [n.outline]
  | index i => .variant "Index" [.nat i.toNat]

@[simp] theorem resolve_name (t : SymbolTable) (n : Name) : (name n).resolve t = t.lookup n := rfl

@[simp] theorem resolve_index (t : SymbolTable) (i : UInt32) : (index i).resolve t = some i := rfl

end Ref
end WasmText
