import WasmText.Diagnostic.Basic

/-!
# Failures of a symbol table

Storage can be refused, and a table that is made smaller than its entries runs out of room or, with
no slots at all, has no main slot for a name. The remaining causes would be broken links.
-/
namespace WasmText

/-- The octets that a slot takes up. -/
def Storage.slotSize : Nat := 56

/-- No array takes up more than half the numbers of 64 bits. -/
def Storage.limit : Nat := UInt64.size / 2

/-- Which numbers of slots the system lets a table reserve: never more than can be addressed. -/
structure Storage where
  grants : Nat → Bool
  addressable : ∀ slots, grants slots = true → Storage.slotSize * slots < Storage.limit

namespace Storage

/-- Storage that may take up so many octets at a time. -/
def ofMemory (octets : Nat) : Storage where
  grants slots := slotSize * slots ≤ octets ∧ slotSize * slots < limit
  addressable _ h := (of_decide_eq_true h).2

/-- Storage that is refused only beyond the address space. -/
def addressSpace : Storage :=
  ofMemory limit

end Storage

namespace SymbolTable

inductive Failure
  | refused (slots : Nat)
  | noFreeSlot
  | unreachable
  | entryLost
  | noSlots
  | outOfRange (index slots : Nat)
  deriving DecidableEq

namespace Failure

def message : Failure → String
  | refused slots => "Could not grow binding table to " ++ Nat.repr slots ++ " slots"
  | noFreeSlot => "Binding table has no free slot for a colliding name"
  | unreachable => "Displaced binding is not reachable from its main slot"
  | entryLost => "Binding table lost an entry it just inserted"
  | noSlots => "attempt to calculate the remainder with a divisor of zero"
  | outOfRange index slots =>
    "index out of bounds: the len is " ++ Nat.repr slots ++ " but the index is " ++ Nat.repr index

/-- The diagnostic for a failure. A name without a main slot and a link past the slots are faults that
stop the program and have none. -/
def diagnostic? (f : Failure) : Option Diagnostic :=
  match f with
  | refused _ =>
    some ((Diagnostic.ofKind .allocation f.message).withDetail .compilationStage
      "Binding Table Growth")
  | noFreeSlot | entryLost =>
    some ((Diagnostic.ofKind .compiler f.message).withDetail .compilationStage "Binding Insertion")
  | unreachable =>
    some ((Diagnostic.ofKind .compiler f.message).withDetail .compilationStage "Binding Relocation")
  | noSlots | outOfRange _ _ => none

end Failure
end SymbolTable
end WasmText
