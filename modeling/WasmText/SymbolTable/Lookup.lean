import WasmText.SymbolTable.Basic

/-!
# Looking up a name

A name is searched along the chain from its main slot, and the first entry with that name counts.
No chain is longer than the table has slots, which bounds the search; `Searches` tells how a search without
a bound ends, if it does.
-/
namespace WasmText.SymbolTable

/-- The first slot with the name along `next` links; a free slot ends the search. -/
def search (t : SymbolTable) (name : Name) : Nat → Option Nat → Option Nat
  | 0, _ => none
  | _, none => none
  | steps + 1, some i =>
    match (t.slot i).entry with
    | none => none
    | some e => if e.name = name then some i else search t name steps (t.slot i).next

def slotOf? (t : SymbolTable) (name : Name) : Option Nat :=
  if t.capacity = 0 then none else t.search name t.capacity (some (t.mainSlot name))

/-- From a link, a search for a name visits these slots of the table, goes on by so many of their links, and
ends with the slot of the name or without one. -/
inductive Searches (t : SymbolTable) (name : Name) : Option Nat → List Nat → Nat → Option Nat → Prop
  | ended : Searches t name none [] 0 none
  | vacant {i : Nat} (lt : i < t.capacity) (free : (t.slot i).entry = none) :
      Searches t name (some i) [i] 0 none
  | found {i : Nat} {e : Entry} (lt : i < t.capacity) (occupied : (t.slot i).entry = some e)
      (same : e.name = name) : Searches t name (some i) [i] 0 (some i)
  | passed {i : Nat} {e : Entry} {visited : List Nat} {steps : Nat} {result : Option Nat}
      (lt : i < t.capacity) (occupied : (t.slot i).entry = some e) (other : e.name ≠ name)
      (tail : Searches t name (t.slot i).next visited steps result) :
      Searches t name (some i) (i :: visited) (steps + 1) result

def lookup (t : SymbolTable) (name : Name) : Option UInt32 :=
  (t.slotOf? name).bind fun i => (t.slot i).entry.map Entry.index

theorem lookup_of_capacity_zero {t : SymbolTable} (h : t.capacity = 0) (name : Name) :
    t.lookup name = none := by
  simp [lookup, slotOf?, h]

/-- A search finds only slots that hold an entry of the name. -/
theorem name_of_search {t : SymbolTable} {name : Name} {steps : Nat} {start : Option Nat} {i : Nat}
    (h : t.search name steps start = some i) : ∃ e, (t.slot i).entry = some e ∧ e.name = name := by
  fun_induction search t name steps start with
  | case1 | case2 | case3 => simp at h
  | case4 steps j e he hn =>
    obtain rfl := Option.some.inj h
    exact ⟨e, he, hn⟩
  | case5 _ _ _ _ _ ih => exact ih h

/-- A search that ends is found by every bound that its slots stay below. -/
theorem Searches.search_eq {t : SymbolTable} {name : Name} {start : Option Nat} {visited : List Nat}
    {steps : Nat} {result : Option Nat} (h : t.Searches name start visited steps result) {bound : Nat}
    (enough : visited.length ≤ bound) : t.search name bound start = result := by
  induction h generalizing bound with
  | ended => cases bound <;> rfl
  | vacant lt free =>
    cases bound with
    | zero => simp at enough
    | succ bound => simp [search, free]
  | found lt occupied same =>
    cases bound with
    | zero => simp at enough
    | succ bound => simp [search, occupied, same]
  | passed lt occupied other tail ih =>
    cases bound with
    | zero => simp at enough
    | succ bound =>
      rw [search, occupied]
      simp only [if_neg other]
      exact ih (Nat.le_of_succ_le_succ enough)

/-- There is one way for a search to end. -/
theorem Searches.unique {t : SymbolTable} {name : Name} {start : Option Nat} {visited visited' : List Nat}
    {steps steps' : Nat} {result result' : Option Nat} (h : t.Searches name start visited steps result)
    (h' : t.Searches name start visited' steps' result') :
    visited' = visited ∧ steps' = steps ∧ result' = result := by
  induction h generalizing visited' steps' with
  | ended =>
    cases h'
    exact ⟨rfl, rfl, rfl⟩
  | vacant lt free => cases h' <;> simp_all
  | found lt occupied same => cases h' <;> simp_all
  | passed lt occupied other tail ih =>
    cases h' with
    | vacant _ free => simp [occupied] at free
    | found _ occupied' same =>
      obtain rfl := Option.some.inj (occupied.symm.trans occupied')
      exact absurd same other
    | passed _ _ _ tail' =>
      obtain ⟨rfl, rfl, rfl⟩ := ih tail'
      exact ⟨rfl, rfl, rfl⟩

/-- What is found under a name is the position of an entry with that name. -/
theorem mem_entries_of_lookup {t : SymbolTable} {name : Name} {index : UInt32}
    (h : t.lookup name = some index) : ⟨name, index⟩ ∈ t.entries := by
  obtain ⟨i, hi, hx⟩ := Option.bind_eq_some_iff.mp h
  simp only [slotOf?] at hi
  split at hi
  · simp at hi
  · obtain ⟨e, he, rfl⟩ := name_of_search hi
    rw [he] at hx
    obtain rfl : e.index = index := by simpa using hx
    have hlt : i < t.capacity := lt_capacity_of_occupied (by simp [he])
    rw [slot_eq_getElem hlt] at he
    exact List.mem_filterMap.mpr ⟨_, Array.getElem_mem_toList hlt, he⟩

end WasmText.SymbolTable
