import WasmText.Proofs.SymbolTable.Store

/-!
# Searches end

A search that starts at an occupied slot stays in the chain of the entry there, which need not be the chain
of the name; at a vacant slot it stops at once. So the search for any name in a reachable table ends after at
most as many steps as there are entries (`search_of_reachable`).
-/
namespace WasmText.SymbolTable

variable {t : SymbolTable} {name : Name} {start result : Option Nat} {visited : List Nat} {steps : Nat}

theorem Searches.steps_le (h : t.Searches name start visited steps result) : steps ≤ visited.length := by
  induction h with
  | ended | vacant | found => exact Nat.zero_le _
  | passed _ _ _ _ ih => exact Nat.succ_le_succ ih

/-- Along links that visit occupied slots alone, a search ends before them or with the last. -/
theorem exists_searches {is : List Nat} (name : Name) (walk : t.Leads start is none)
    (occupied : ∀ i ∈ is, (t.slot i).entry ≠ none) :
    ∃ visited steps result, t.Searches name start visited steps result ∧ visited <+: is := by
  induction is generalizing start with
  | nil =>
    obtain rfl := walk
    exact ⟨[], 0, none, .ended, List.prefix_rfl⟩
  | cons i rest ih =>
    obtain ⟨rfl, tail⟩ := walk
    have taken := occupied i (by simp)
    have lt := lt_capacity_of_occupied taken
    obtain ⟨e, he⟩ := Option.ne_none_iff_exists'.mp taken
    by_cases same : e.name = name
    · exact ⟨[i], 0, some i, .found lt he same, by simp⟩
    · obtain ⟨visited, steps, result, searched, front⟩ := ih tail fun j hj => occupied j (by simp [hj])
      exact ⟨i :: visited, steps + 1, result, .passed lt he same searched, by simpa using front⟩

/-- A name with an entry has its main slot to the chain of that entry. -/
theorem belongsTo_mainSlot (linked : t.WellLinked) (bound : ∃ e ∈ t.entries, e.name = name) :
    t.BelongsTo (t.mainSlot name) (t.mainSlot name) := by
  obtain ⟨e, he, rfl⟩ := bound
  obtain ⟨i, occupied⟩ := mem_entries_iff.mp he
  exact (linked.chains (t.mainSlot e.name) i ⟨e, occupied, rfl⟩).1

/-- A search that starts at an occupied slot ends in the chain of the entry there. -/
theorem exists_searches_of_occupied (linked : t.WellLinked) (name : Name) {home i : Nat}
    (own : t.BelongsTo home i) :
    ∃ visited steps result, t.Searches name (some i) visited steps result ∧ visited.Nodup ∧
      ∀ j ∈ visited, t.BelongsTo home j := by
  obtain ⟨-, chain, chained⟩ := wellLinked_iff.mp linked
  obtain ⟨rest, behind, walk⟩ := chained.suffix own
  have belongs : ∀ j ∈ i :: rest, t.BelongsTo home j :=
    fun j hj => (chained.mem_iff home j).mp (behind.subset hj)
  have occupied : ∀ j ∈ i :: rest, (t.slot j).entry ≠ none := fun j hj => (belongs j hj).occupied
  obtain ⟨visited, steps, result, searched, front⟩ := exists_searches name walk occupied
  have nodup : (i :: rest).Nodup := behind.sublist.nodup (chained.nodup home)
  exact ⟨visited, steps, result, searched, front.sublist.nodup nodup,
    fun j hj => belongs j (front.subset hj)⟩

/-- The search for a name that visits these slots and makes so many steps stays within the table: it goes
on by no more links than there are entries, a vacant slot can only be the main slot and ends it, and a name
with an entry is compared with the entries of its own main slot alone. -/
structure SearchBounds (t : SymbolTable) (name : Name) (visited : List Nat) (steps : Nat) : Prop where
  lt_capacity : ∀ i ∈ visited, i < t.capacity
  nodup : visited.Nodup
  steps_le : steps ≤ t.entries.length
  length_le : (t.slot (t.mainSlot name)).entry ≠ none → visited.length ≤ t.entries.length
  vacant : ∀ i ∈ visited, (t.slot i).entry = none → visited = [t.mainSlot name] ∧ steps = 0
  same_chain : (∃ e ∈ t.entries, e.name = name) → ∀ i ∈ visited, t.BelongsTo (t.mainSlot name) i

theorem SearchBounds.length_le_capacity (h : t.SearchBounds name visited steps) :
    visited.length ≤ t.capacity := by
  have inside : visited ⊆ List.range t.capacity := fun i hi => List.mem_range.mpr (h.lt_capacity i hi)
  simpa using h.nodup.length_le_of_subset inside

theorem exists_searchBounds (linked : t.WellLinked) (name : Name) (slots : t.capacity ≠ 0) :
    ∃ visited steps result, t.Searches name (some (t.mainSlot name)) visited steps result ∧
      t.SearchBounds name visited steps := by
  cases occupied : (t.slot (t.mainSlot name)).entry with
  | none =>
    have lt := mainSlot_lt slots name
    have unbound : ¬ ∃ e ∈ t.entries, e.name = name :=
      fun bound => (belongsTo_mainSlot linked bound).occupied occupied
    exact ⟨[t.mainSlot name], 0, none, .vacant lt occupied,
      by simpa using lt, List.nodup_singleton _, Nat.zero_le _, fun taken => absurd occupied taken, by simp,
      fun bound => absurd bound unbound⟩
  | some occupant =>
    obtain ⟨visited, steps, result, searched, nodup, belongs⟩ :=
      exists_searches_of_occupied linked name ⟨occupant, occupied, rfl⟩
    have taken : ∀ i ∈ visited, (t.slot i).entry ≠ none := fun i hi => (belongs i hi).occupied
    have length_le := length_le_length_entries nodup taken
    refine ⟨visited, steps, result, searched, fun i hi => (belongs i hi).lt_capacity, nodup,
      Nat.le_trans searched.steps_le length_le, fun _ => length_le,
      fun i hi vacant => absurd vacant (taken i hi), fun bound i hi => ?_⟩
    have at_home := (belongsTo_mainSlot linked bound).unique ⟨occupant, occupied, rfl⟩
    rw [at_home]
    exact belongs i hi

/-- The search for any name in a reachable table that has slots ends in one way, stays within the table, and
gives what `slotOf?` gives. -/
theorem search_of_reachable (reached : Reachable t) (name : Name) :
    (t.capacity = 0 → t.slotOf? name = none) ∧
    (t.capacity ≠ 0 →
      (∃ visited steps found, t.Searches name (some (t.mainSlot name)) visited steps found) ∧
      ∀ visited steps found, t.Searches name (some (t.mainSlot name)) visited steps found →
        t.SearchBounds name visited steps ∧ t.slotOf? name = found) := by
  refine ⟨fun zero => by rw [slotOf?, if_pos zero], fun slots => ?_⟩
  obtain ⟨visited, steps, found, searched, bounds⟩ :=
    exists_searchBounds (wellLinked_of_reachable reached) name slots
  refine ⟨⟨visited, steps, found, searched⟩, fun visited' steps' found' searched' => ?_⟩
  obtain ⟨rfl, rfl, rfl⟩ := searched.unique searched'
  refine ⟨bounds, ?_⟩
  rw [slotOf?, if_neg slots]
  exact searched.search_eq bounds.length_le_capacity

/-- The slot where the search for one name starts holds the other, which lives there as the second of its own
chain. -/
theorem search_crowded :
    crowded.mainSlot ⟨[100]⟩ = 3 ∧ (crowded.slot 3).entry = some ⟨⟨[101]⟩, 2⟩ ∧
    crowded.Searches ⟨[100]⟩ (some (crowded.mainSlot ⟨[100]⟩)) [3] 1 none ∧
    crowded.SearchBounds ⟨[100]⟩ [3] 1 ∧ crowded.slotOf? ⟨[100]⟩ = none ∧
    crowded.Searches ⟨[101]⟩ (some (crowded.mainSlot ⟨[101]⟩)) [0, 3] 1 (some 3) ∧
    crowded.SearchBounds ⟨[101]⟩ [0, 3] 1 ∧ crowded.slotOf? ⟨[101]⟩ = some 3 := by
  have reached : Reachable crowded := .step _ _ (.step _ _ (.start (by decide)))
  have capacity : crowded.capacity = 4 := by decide +kernel
  have slots : crowded.capacity ≠ 0 := by simp [capacity]
  have first : (crowded.slot 0).entry = some ⟨⟨[97]⟩, 1⟩ ∧ (crowded.slot 0).next = some 3 := by
    decide +kernel
  have second : (crowded.slot 3).entry = some ⟨⟨[101]⟩, 2⟩ ∧ (crowded.slot 3).next = none := by
    decide +kernel
  have home : crowded.mainSlot ⟨[100]⟩ = 3 := by decide +kernel
  have home' : crowded.mainSlot ⟨[101]⟩ = 0 := by decide +kernel
  have absent : crowded.Searches ⟨[100]⟩ (some (crowded.mainSlot ⟨[100]⟩)) [3] 1 none := by
    rw [home]
    refine .passed (by simp [capacity]) second.1 (by decide) ?_
    rw [second.2]
    exact .ended
  have there : crowded.Searches ⟨[101]⟩ (some (crowded.mainSlot ⟨[101]⟩)) [0, 3] 1 (some 3) := by
    rw [home']
    refine .passed (by simp [capacity]) first.1 (by decide) ?_
    rw [first.2]
    exact .found (by simp [capacity]) second.1 rfl
  obtain ⟨bounds, none⟩ := ((search_of_reachable reached ⟨[100]⟩).2 slots).2 _ _ _ absent
  obtain ⟨bounds', found⟩ := ((search_of_reachable reached ⟨[101]⟩).2 slots).2 _ _ _ there
  exact ⟨home, second.1, absent, bounds, none, there, bounds', found⟩

end WasmText.SymbolTable
