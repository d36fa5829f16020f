import WasmText.Proofs.SymbolTable.Content

/-!
# Where entries go when another is placed

Placing an entry leaves the others in their slots, but for the one that it displaces, which goes to the first
free slot (`Placing.entry_relocated`). In the order in which its slots were taken, a chain begins with the
first and goes on with the latest, and placing adds the new slot at the end of that order
(`Placing.exists_chained`).
-/
namespace WasmText.SymbolTable

variable {t u : SymbolTable}

/-- Where the entry of a slot is after another was placed in slot `i`: an entry that was there has moved to
the first free slot. -/
def relocated (t : SymbolTable) (i j : Nat) : Nat :=
  if j = i then t.freeHead.getD j else j

/-- The first member, and then the others from the last on. -/
def firstThenLatest {α : Type} : List α → List α
  | [] => []
  | first :: rest => first :: rest.reverse

section List

variable {α β : Type}

theorem firstThenLatest_perm (l : List α) : (firstThenLatest l).Perm l := by
  cases l with
  | nil => rfl
  | cons first rest => exact rest.reverse_perm.cons first

theorem firstThenLatest_firstThenLatest (l : List α) : firstThenLatest (firstThenLatest l) = l := by
  cases l <;> simp [firstThenLatest]

theorem firstThenLatest_map (f : α → β) (l : List α) :
    firstThenLatest (l.map f) = (firstThenLatest l).map f := by
  cases l <;> simp [firstThenLatest]

theorem firstThenLatest_filterMap {f : α → Option β} {l : List α} (all : ∀ a ∈ l, f a ≠ none) :
    firstThenLatest (l.filterMap f) = (firstThenLatest l).filterMap f := by
  cases l with
  | nil => rfl
  | cons first rest =>
    obtain ⟨b, hb⟩ := Option.ne_none_iff_exists'.mp (all first (by simp))
    simp [firstThenLatest, hb]

/-- Searched in this order, a list gives its first member or else the last that is sought. -/
theorem find?_firstThenLatest (p : α → Bool) (first : α) (rest : List α) :
    (firstThenLatest (first :: rest)).find? p =
      if p first then some first else ((first :: rest).filter p).getLast? := by
  by_cases sought : p first
  · simp [firstThenLatest, sought]
  · rw [firstThenLatest, List.find?_cons_of_neg sought, if_neg sought, List.filter_cons_of_neg sought,
      ← List.head?_filter, List.filter_reverse, List.head?_reverse]

end List

theorem relocated_of_ne {i j : Nat} (ne : j ≠ i) : t.relocated i j = j :=
  if_neg ne

theorem map_relocated_of_not_mem {i : Nat} {l : List Nat} (absent : i ∉ l) :
    l.map (t.relocated i) = l := by
  refine (List.map_congr_left fun j hj => relocated_of_ne ?_).trans l.map_id
  rintro rfl
  exact absent hj

theorem map_relocated_of_nodup {i : Nat} {before behind : List Nat}
    (nodup : (before ++ i :: behind).Nodup) :
    (before ++ i :: behind).map (t.relocated i) = before ++ t.relocated i i :: behind := by
  simp only [List.nodup_append, List.nodup_cons, List.mem_cons] at nodup
  rw [List.map_append, List.map_cons, map_relocated_of_not_mem nodup.2.1.1,
    map_relocated_of_not_mem fun member => nodup.2.2 i member i (.inl rfl) rfl]

theorem Chained.not_mem_of_vacant {chain : Nat → List Nat} {i : Nat} (h : t.Chained chain)
    (vacant : (t.slot i).entry = none) (main : Nat) : i ∉ chain main := by
  intro member
  obtain ⟨occupant, occupied, -⟩ := (h.mem_iff main i).mp member
  simp [vacant] at occupied

/-- An entry that was placed took a free slot, or one from which another entry moved to the first free
slot. -/
theorem Placing.entry_cases {e : Entry} {i : Nat} (h : t.Placing e i u) :
    (t.slot i).entry = none ∧ (∀ j, (u.slot j).entry = if i = j then some e else (t.slot j).entry) ∨
    ∃ free, t.freeHead = some free ∧ (t.slot free).entry = none ∧ (t.slot i).entry ≠ none ∧
      ∀ j, (u.slot j).entry =
        if i = j then some e else if free = j then (t.slot i).entry else (t.slot j).entry := by
  cases h with
  | single _ listed _ _ _ entry => exact .inl ⟨listed.vacant (by simp), entry⟩
  | second _ listed _ _ _ _ entry => exact .inl ⟨listed.vacant (by simp), entry⟩
  | @evict home _ free _ _ _ _ _ _ listed chained chain_home _ _ entry =>
    obtain ⟨occupant, occupied, -⟩ := (chained.mem_iff home i).mp (by simp [chain_home])
    exact .inr ⟨free, listed.walk.1, listed.vacant (by simp), by simp [occupied], entry⟩

/-- Entries that were there before are found where they are now. -/
theorem Placing.entry_relocated {e : Entry} {i j : Nat} (h : t.Placing e i u)
    (occupied : (t.slot j).entry ≠ none) :
    t.relocated i j ≠ i ∧ (u.slot (t.relocated i j)).entry = (t.slot j).entry := by
  rcases h.entry_cases with ⟨vacant, entry⟩ | ⟨free, head, vacant, taken, entry⟩
  · have ne : j ≠ i := by
      rintro rfl
      exact occupied vacant
    rw [relocated_of_ne ne, entry, if_neg (Ne.symm ne)]
    exact ⟨ne, rfl⟩
  · have free_ne : free ≠ i := by
      rintro rfl
      exact taken vacant
    by_cases hj : j = i
    · subst j
      have moved : t.relocated i i = free := by simp [relocated, head]
      rw [moved, entry, if_neg (Ne.symm free_ne), if_pos rfl]
      exact ⟨free_ne, rfl⟩
    · have ne : free ≠ j := by
        rintro rfl
        exact occupied vacant
      rw [relocated_of_ne hj, entry, if_neg (Ne.symm hj), if_neg ne]
      exact ⟨hj, rfl⟩

theorem Placing.relocated_injective {e : Entry} {i j k : Nat} (h : t.Placing e i u)
    (occupied_j : (t.slot j).entry ≠ none) (occupied_k : (t.slot k).entry ≠ none)
    (same : t.relocated i j = t.relocated i k) : j = k := by
  rcases h.entry_cases with ⟨vacant, -⟩ | ⟨free, head, vacant, -, -⟩
  · have ne : ∀ {l}, (t.slot l).entry ≠ none → l ≠ i := by
      rintro l occupied rfl
      exact occupied vacant
    rwa [relocated_of_ne (ne occupied_j), relocated_of_ne (ne occupied_k)] at same
  · have ne : ∀ {l}, (t.slot l).entry ≠ none → l ≠ free := by
      rintro l occupied rfl
      exact occupied vacant
    have moved : t.relocated i i = free := by simp [relocated, head]
    by_cases hj : j = i <;> by_cases hk : k = i
    · rw [hj, hk]
    · rw [hj, moved, relocated_of_ne hk] at same
      exact absurd same.symm (ne occupied_k)
    · rw [hk, moved, relocated_of_ne hj] at same
      exact absurd same (ne occupied_j)
    · rwa [relocated_of_ne hj, relocated_of_ne hk] at same

/-- Slots that held entries are now other ones than the new entry's, and hold entries still. -/
theorem Placing.taken_relocated {e : Entry} {i : Nat} {l : List Nat} (h : t.Placing e i u)
    (taken : ∀ j ∈ l, (t.slot j).entry ≠ none) :
    ∀ j ∈ l.map (t.relocated i), j ≠ i ∧ (u.slot j).entry ≠ none := by
  intro j member
  obtain ⟨k, hk, rfl⟩ := List.mem_map.mp member
  obtain ⟨ne, same⟩ := h.entry_relocated (taken k hk)
  exact ⟨ne, same ▸ taken k hk⟩

/-- Of slots that held entries the same entries are read where these are now. -/
theorem Placing.filterMap_relocated {e : Entry} {i : Nat} {l : List Nat} (h : t.Placing e i u)
    (taken : ∀ j ∈ l, (t.slot j).entry ≠ none) :
    (l.map (t.relocated i)).filterMap (fun j => (u.slot j).entry) =
      l.filterMap fun j => (t.slot j).entry := by
  rw [List.filterMap_map]
  exact List.filterMap_congr fun j hj => (h.entry_relocated (taken j hj)).2

/-- A chain that gets a new slot gets it as the second, and the place of a displaced entry in its chain goes
to the slot it moved to. -/
theorem Placing.exists_chained {e : Entry} {i : Nat} (h : t.Placing e i u) :
    ∃ chain chain', t.Chained chain ∧ u.Chained chain' ∧ ∀ main l, chain main = firstThenLatest l →
      chain' main = firstThenLatest (l.map (t.relocated i) ++
        if t.mainSlot e.name = main then [i] else []) := by
  have aside : ∀ {is l : List Nat}, i ∉ is → is = firstThenLatest l → l.map (t.relocated i) = l := by
    rintro is l absent rfl
    exact map_relocated_of_not_mem fun member =>
      absent ((firstThenLatest_perm l).mem_iff.mpr member)
  have empty : ∀ {is l : List Nat}, is = [] → is = firstThenLatest l → l = [] := by
    rintro is l rfl same
    cases l with
    | nil => rfl
    | cons first rest => simp [firstThenLatest] at same
  cases h with
  | @single above below chain home listed chained _ chained' _ =>
    have absent := chained.not_mem_of_vacant (listed.vacant (i := i) (by simp))
    refine ⟨chain, _, chained, chained', fun main l same => ?_⟩
    rw [aside (absent main) same, home]
    by_cases hm : i = main
    · subst main
      have none_there : chain i = [] := chained.eq_nil fun own => absent i ((chained.mem_iff i i).mpr own)
      simp [empty none_there same, firstThenLatest]
    · simp [hm, Ne.symm hm, same]
  | @second main₀ below rest chain home listed chained chain_main _ chained' _ =>
    have absent := chained.not_mem_of_vacant (listed.vacant (i := i) (by simp))
    refine ⟨chain, _, chained, chained', fun main l same => ?_⟩
    rw [aside (absent main) same, home]
    by_cases hm : main₀ = main
    · subst main
      have l_eq : l = main₀ :: rest.reverse := by
        rw [← firstThenLatest_firstThenLatest l, ← same, chain_main]
        rfl
      simp [l_eq, firstThenLatest]
    · simp [hm, Ne.symm hm, same]
  | @evict home pred free below front rest chain main₀ displaced listed chained chain_home _ chained' _ =>
    have own := (chained.mem_iff home i).mp (by simp [chain_home])
    have moved : t.relocated i i = free := by simp [relocated, listed.walk.1]
    refine ⟨chain, _, chained, chained', fun main l same => ?_⟩
    rw [main₀]
    by_cases hm : i = main
    · subst main
      have none_there : chain i = [] := chained.eq_nil fun at_home => displaced (own.unique at_home)
      simp [empty none_there same, firstThenLatest]
    · rw [if_neg hm, List.append_nil, firstThenLatest_map, ← same, Function.update_of_ne (Ne.symm hm)]
      by_cases hh : home = main
      · subst main
        have split : chain home = (front ++ [pred]) ++ i :: rest := by simp [chain_home]
        rw [split, map_relocated_of_nodup (split ▸ chained.nodup home), moved, Function.update_self]
        simp
      · have absent : i ∉ chain main := fun member =>
          hh (own.unique ((chained.mem_iff main i).mp member))
        rw [Function.update_of_ne (Ne.symm hh), map_relocated_of_not_mem absent]

end WasmText.SymbolTable
