import WasmText.SymbolTable.Growth
import WasmText.SymbolTable.Lookup

/-!
# What the links of a symbol table say

The slots that `next` links visit, as a relation without a bound on their number, and the entries of
a chain as a list. `WellLinked` says of the free list that it holds every free slot once, from the
highest down, and of every chain that it begins at its main slot and holds every slot of that main slot
once.
-/
namespace WasmText.SymbolTable

/-- From a start, the links visit these slots of the table and end behind the last. -/
inductive Follows (t : SymbolTable) : Option Nat → List Nat → Prop
  | done : Follows t none []
  | step {i : Nat} {rest : List Nat} (lt : i < t.capacity) (tail : Follows t (t.slot i).next rest) :
      Follows t (some i) (i :: rest)

/-- Each slot of a list links back to the one before it, the first one to the given one. -/
def BackLinked (t : SymbolTable) : Option Nat → List Nat → Prop
  | _, [] => True
  | before, i :: rest => (t.slot i).prev = before ∧ BackLinked t (some i) rest

/-- The slot holds an entry whose main slot is the given one. -/
def BelongsTo (t : SymbolTable) (main i : Nat) : Prop :=
  ∃ e, (t.slot i).entry = some e ∧ t.mainSlot e.name = main

structure WellLinked (t : SymbolTable) : Prop where
  free : ∃ is, t.Follows t.freeHead is ∧ is.Pairwise (· > ·) ∧ t.BackLinked none is ∧
    ∀ i, i ∈ is ↔ i < t.capacity ∧ (t.slot i).entry = none
  chains : ∀ main i, t.BelongsTo main i → t.BelongsTo main main ∧
    ∃ is, t.Follows (some main) is ∧ is.Nodup ∧ ∀ j, j ∈ is ↔ t.BelongsTo main j

/-- The entries that so many links visit. -/
def entriesFrom (t : SymbolTable) : Nat → Option Nat → List Entry
  | 0, _ | _, none => []
  | steps + 1, some i => (t.slot i).entry.toList ++ entriesFrom t steps (t.slot i).next

/-- The chain of a main slot, empty unless the slot holds an entry that is at home there. -/
def chain (t : SymbolTable) (main : Nat) : List Entry :=
  match (t.slot main).entry with
  | some e => if t.mainSlot e.name = main then t.entriesFrom t.capacity (some main) else []
  | none => []

theorem Follows.unique {t : SymbolTable} {start : Option Nat} {is js : List Nat}
    (h : t.Follows start is) (g : t.Follows start js) : is = js := by
  induction h generalizing js with
  | done =>
    cases g
    rfl
  | step _ _ ih =>
    cases g with
    | step _ tail => rw [ih tail]

theorem Follows.lt_capacity {t : SymbolTable} {start : Option Nat} {is : List Nat}
    (h : t.Follows start is) : ∀ i ∈ is, i < t.capacity := by
  induction h with
  | done => simp
  | step lt _ ih => simpa using ⟨lt, ih⟩

end WasmText.SymbolTable
