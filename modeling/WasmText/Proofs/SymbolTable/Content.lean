import WasmText.Proofs.SymbolTable.Placing

/-!
# The content of a table

The entries of a table as a list up to order: placing adds the one entry and loses none, and free slots
and entries together fill the table.
-/
namespace WasmText.SymbolTable

variable {t u : SymbolTable}

theorem entries_eq_filterMap (t : SymbolTable) :
    t.entries = (List.range t.capacity).filterMap fun i => (t.slot i).entry := by
  have slots : t.slots.toList = (List.range t.capacity).map t.slot := by
    apply List.ext_getElem
    · simp [capacity]
    · intro i hi _
      simp only [List.getElem_map, List.getElem_range]
      rw [slot_eq_getElem (by simpa using hi), Array.getElem_toList]
  rw [entries, slots, List.filterMap_map]
  rfl

theorem mem_entries_iff {e : Entry} : e ∈ t.entries ↔ ∃ i, (t.slot i).entry = some e := by
  rw [entries_eq_filterMap, List.mem_filterMap]
  refine ⟨fun ⟨i, _, he⟩ => ⟨i, he⟩, fun ⟨i, he⟩ => ⟨i, ?_, he⟩⟩
  exact List.mem_range.mpr (lt_capacity_of_occupied (by simp [he]))

/-- A table has as many entries as occupied slots. -/
theorem length_entries_eq (t : SymbolTable) : t.entries.length =
    ((List.range t.capacity).filter fun i => (t.slot i).entry.isSome).length := by
  rw [entries_eq_filterMap, List.length_filterMap_eq_countP, List.countP_eq_length_filter]

theorem length_le_length_entries {is : List Nat} (nodup : is.Nodup)
    (occupied : ∀ i ∈ is, (t.slot i).entry ≠ none) : is.length ≤ t.entries.length := by
  rw [length_entries_eq]
  refine nodup.length_le_of_subset fun i hi => ?_
  have taken := occupied i hi
  exact List.mem_filter.mpr
    ⟨List.mem_range.mpr (lt_capacity_of_occupied taken), Option.isSome_iff_ne_none.mpr taken⟩

theorem length_entries_le (t : SymbolTable) : t.entries.length ≤ t.capacity := by
  rw [entries_eq_filterMap]
  simpa using List.length_filterMap_le (fun i => (t.slot i).entry) (List.range t.capacity)

/-- Filling one vacant position adds its value. -/
theorem filterMap_range_fill {α : Type} {f g : Nat → Option α} {n k : Nat} {a : α} (lt : k < n)
    (vacant : f k = none) (filled : ∀ i, g i = if k = i then some a else f i) :
    ((List.range n).filterMap g).Perm (a :: (List.range n).filterMap f) := by
  obtain ⟨before, behind, split⟩ := List.append_of_mem (List.mem_range.mpr lt)
  have nodup : (before ++ k :: behind).Nodup := split ▸ List.nodup_range
  simp only [List.nodup_append, List.nodup_cons, List.mem_cons] at nodup
  have same_before : before.filterMap g = before.filterMap f := by
    refine List.filterMap_congr fun i hi => ?_
    rw [filled, if_neg (nodup.2.2 i hi k (.inl rfl)).symm]
  have same_behind : behind.filterMap g = behind.filterMap f := by
    refine List.filterMap_congr fun i hi => ?_
    rw [filled, if_neg fun same : k = i => nodup.2.1.1 (same ▸ hi)]
  rw [split, List.filterMap_append, List.filterMap_append, same_before,
    List.filterMap_cons_some (by rw [filled, if_pos rfl]), List.filterMap_cons_none vacant,
    same_behind]
  exact List.perm_middle

theorem Placing.perm {e : Entry} {i : Nat} (h : t.Placing e i u) (capacity : u.capacity = t.capacity) :
    u.entries.Perm (e :: t.entries) := by
  rw [entries_eq_filterMap, entries_eq_filterMap, capacity]
  cases h with
  | single _ listed _ _ _ entry =>
    exact filterMap_range_fill (listed.lt_capacity i (by simp)) (listed.vacant (by simp)) entry
  | second _ listed _ _ _ _ entry =>
    exact filterMap_range_fill (listed.lt_capacity i (by simp)) (listed.vacant (by simp)) entry
  | @evict home pred free _ _ _ chain _ _ listed chained chain_home _ _ entry =>
    have own := (chained.mem_iff home i).mp (by simp [chain_home])
    have main_lt := own.lt_capacity
    obtain ⟨occupant, occupied, -⟩ := own
    have vacant := listed.vacant (i := free) (by simp)
    have ne : i ≠ free := by
      rintro rfl
      simp [vacant] at occupied
    let left : Nat → Option Entry := fun j => if i = j then none else (t.slot j).entry
    let moved : Nat → Option Entry := fun j => if free = j then some occupant else left j
    have old := filterMap_range_fill (f := left) (g := fun j => (t.slot j).entry) (a := occupant)
      main_lt (by simp [left]) fun j => by by_cases hj : i = j <;> simp [left, hj, ← occupied]
    have between := filterMap_range_fill (f := left) (g := moved)
      (listed.lt_capacity free (by simp)) (by simp [left, vacant]) fun j => rfl
    have new := filterMap_range_fill (f := moved) (g := fun j => (u.slot j).entry) (a := e)
      main_lt (by simp [moved, left, ne.symm]) fun j => by
        rw [entry, occupied]
        by_cases hj : i = j <;> simp [moved, left, hj]
    exact new.trans ((between.trans old.symm).cons e)

/-- Free slots and entries together are as many as there are slots. -/
theorem FreeList.length_add {free : List Nat} (h : t.FreeList free) :
    free.length + t.entries.length = t.capacity := by
  let taken : Nat → Bool := fun i => (t.slot i).entry.isSome
  have listed : free.Perm ((List.range t.capacity).filter (!taken ·)) := by
    refine (List.perm_ext_iff_of_nodup h.nodup (List.nodup_range.filter _)).mpr fun i => ?_
    simp [h.mem_iff, taken]
  have split := List.length_eq_length_filter_add taken (l := List.range t.capacity)
  rw [List.length_range] at split
  rw [length_entries_eq, listed.length_eq]
  show _ + ((List.range t.capacity).filter taken).length = _
  omega

/-- A well-linked table has no free slot exactly when it has as many entries as slots. -/
theorem freeHead_eq_none_iff_length (linked : t.WellLinked) :
    t.freeHead = none ↔ t.entries.length = t.capacity := by
  obtain ⟨⟨free, listed⟩, -⟩ := wellLinked_iff.mp linked
  have total := listed.length_add
  rw [listed.head_eq, List.head?_eq_none_iff, ← List.length_eq_zero_iff]
  omega

end WasmText.SymbolTable
