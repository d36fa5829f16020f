import WasmText.Proofs.SymbolTable.Relocation

/-!
# Chains as lists of entries

The chain of a main slot, read as the list of its entries, is a bucket of a hash table. Placing an entry
puts it behind the first of its own bucket and leaves the others as they are, although entries of another
chain may have moved. A name is looked up in its own bucket alone.
-/
namespace WasmText.SymbolTable

variable {t u : SymbolTable} {chain : Nat → List Nat} {main : Nat}

/-- A bucket with one entry more, behind the first if there is one. -/
def behindFirst (e : Entry) : List Entry → List Entry
  | [] => [e]
  | first :: rest => first :: e :: rest

theorem entriesFrom_eq {start : Option Nat} {is : List Nat} {steps : Nat}
    (walk : t.Leads start is none) (enough : is.length ≤ steps) :
    t.entriesFrom steps start = is.filterMap fun i => (t.slot i).entry := by
  induction is generalizing start steps with
  | nil =>
    obtain rfl := walk
    cases steps <;> rfl
  | cons i rest ih =>
    obtain ⟨rfl, tail⟩ := walk
    obtain ⟨steps, rfl⟩ : ∃ n, steps = n + 1 := ⟨steps - 1, by simp at enough; omega⟩
    have shorter : rest.length ≤ steps := by simpa using enough
    cases occupied : (t.slot i).entry with
    | none => simp [entriesFrom, occupied, ih tail shorter]
    | some e => simp [entriesFrom, occupied, ih tail shorter]

theorem chain_of_vacant (vacant : (t.slot main).entry = none) : t.chain main = [] := by
  simp [SymbolTable.chain, vacant]

theorem chain_of_foreign (foreign : ¬ t.BelongsTo main main) : t.chain main = [] := by
  cases occupied : (t.slot main).entry with
  | none => exact chain_of_vacant occupied
  | some e =>
    have : t.mainSlot e.name ≠ main := fun home => foreign ⟨e, occupied, home⟩
    simp [SymbolTable.chain, occupied, this]

/-- The chain holds the entries of the slots it visits, and the bound on its length cuts nothing off. -/
theorem Chained.chain_eq (h : t.Chained chain) (main : Nat) :
    t.chain main = (chain main).filterMap fun i => (t.slot i).entry := by
  by_cases own : t.BelongsTo main main
  · have walk := h.walk main (List.ne_nil_of_mem ((h.mem_iff main main).mpr own))
    obtain ⟨e, occupied, home⟩ := own
    simp [SymbolTable.chain, occupied, home, entriesFrom_eq walk (h.length_le main)]
  · rw [chain_of_foreign own, h.eq_nil own, List.filterMap_nil]

/-- The entries of a chain are the entries of its main slot. -/
theorem mem_chain_iff (linked : t.WellLinked) {e : Entry} :
    e ∈ t.chain main ↔ e ∈ t.entries ∧ t.mainSlot e.name = main := by
  obtain ⟨-, chain, chained⟩ := wellLinked_iff.mp linked
  rw [chained.chain_eq, List.mem_filterMap, mem_entries_iff]
  constructor
  · rintro ⟨i, hi, occupied⟩
    obtain ⟨e', occupied', home⟩ := (chained.mem_iff main i).mp hi
    obtain rfl := Option.some.inj (occupied'.symm.trans occupied)
    exact ⟨⟨i, occupied⟩, home⟩
  · rintro ⟨⟨i, occupied⟩, home⟩
    exact ⟨i, (chained.mem_iff main i).mpr ⟨e, occupied, home⟩, occupied⟩

theorem firstThenLatest_snoc (e : Entry) (es : List Entry) :
    firstThenLatest (es ++ [e]) = behindFirst e (firstThenLatest es) := by
  cases es <;> simp [firstThenLatest, behindFirst]

/-- Placing an entry adds it to its own chain and to no other. -/
theorem Placing.chain_eq {e : Entry} {i : Nat} (h : t.Placing e i u) (m : Nat) :
    u.chain m = if t.mainSlot e.name = m then behindFirst e (t.chain m) else t.chain m := by
  obtain ⟨chain, chain', chained, chained', next⟩ := h.exists_chained
  obtain ⟨l, chain_m⟩ : ∃ l, chain m = firstThenLatest l :=
    ⟨_, (firstThenLatest_firstThenLatest (chain m)).symm⟩
  have taken : ∀ j ∈ l, (t.slot j).entry ≠ none := by
    intro j hj vacant
    exact chained.not_mem_of_vacant vacant m (chain_m ▸ (firstThenLatest_perm l).mem_iff.mpr hj)
  have taken' : ∀ j ∈ l.map (t.relocated i) ++ [i], (u.slot j).entry ≠ none := by
    intro j hj
    rcases List.mem_append.mp hj with member | own
    · exact (h.taken_relocated taken j member).2
    · simp [List.mem_singleton.mp own, h.entry_self]
  rw [chained'.chain_eq, chained.chain_eq, next m l chain_m, chain_m,
    ← firstThenLatest_filterMap taken]
  by_cases own : t.mainSlot e.name = m
  · rw [if_pos own, if_pos own, ← firstThenLatest_filterMap taken', List.filterMap_append,
      h.filterMap_relocated taken, ← firstThenLatest_snoc]
    simp [h.entry_self]
  · rw [if_neg own, if_neg own, List.append_nil, ← firstThenLatest_filterMap fun j hj =>
      taken' j (List.mem_append_left [i] hj), h.filterMap_relocated taken]

/-- Along links that visit occupied slots alone, a search finds the first entry of the name. -/
theorem search_eq {name : Name} {start : Option Nat} {is : List Nat} {steps : Nat}
    (walk : t.Leads start is none) (occupied : ∀ i ∈ is, (t.slot i).entry ≠ none)
    (enough : is.length ≤ steps) :
    ((t.search name steps start).bind fun i => (t.slot i).entry) =
      (is.filterMap fun i => (t.slot i).entry).find? (·.name = name) := by
  induction is generalizing start steps with
  | nil =>
    obtain rfl := walk
    cases steps <;> rfl
  | cons i rest ih =>
    obtain ⟨rfl, tail⟩ := walk
    obtain ⟨steps, rfl⟩ : ∃ n, steps = n + 1 := ⟨steps - 1, by simp at enough; omega⟩
    obtain ⟨e, he⟩ := Option.ne_none_iff_exists'.mp (occupied i (by simp))
    have found := ih tail (fun j hj => occupied j (by simp [hj])) (by simpa using enough)
    by_cases same : e.name = name
    · simp [search, he, same]
    · simp [search, he, same, found]

/-- Looking up a name finds the first entry of that name in the chain of its main slot. Where the main slot
holds an entry of another chain the search walks the rest of that chain, in which the name does not occur. -/
theorem lookup_eq_find? (linked : t.WellLinked) (name : Name) :
    t.lookup name = ((t.chain (t.mainSlot name)).find? (·.name = name)).map Entry.index := by
  obtain ⟨-, chain, chained⟩ := wellLinked_iff.mp linked
  by_cases zero : t.capacity = 0
  · rw [lookup_of_capacity_zero zero, chain_of_vacant (by rw [slot_eq_blank (by omega)]; rfl)]
    rfl
  have unfolded : t.lookup name = ((t.search name t.capacity (some (t.mainSlot name))).bind
      fun i => (t.slot i).entry).map Entry.index := by
    rw [lookup, slotOf?, if_neg zero, Option.map_bind]
    rfl
  rw [unfolded]
  congr 1
  cases occupied : (t.slot (t.mainSlot name)).entry with
  | none =>
    obtain ⟨steps, hs⟩ : ∃ n, t.capacity = n + 1 := ⟨t.capacity - 1, by omega⟩
    simp [hs, search, occupied, chain_of_vacant occupied]
  | some occupant =>
    obtain ⟨home, home_eq⟩ : ∃ home, t.mainSlot occupant.name = home := ⟨_, rfl⟩
    have own : t.BelongsTo home (t.mainSlot name) := ⟨occupant, occupied, home_eq⟩
    have length := chained.length_le home
    have walk := chained.walk home (List.ne_nil_of_mem ((chained.mem_iff _ _).mpr own))
    have taken : ∀ i ∈ chain home, (t.slot i).entry ≠ none :=
      fun i hi => ((chained.mem_iff home i).mp hi).occupied
    by_cases at_home : home = t.mainSlot name
    · rw [at_home] at walk taken length
      rw [search_eq walk taken length, chained.chain_eq]
    · obtain ⟨before, rest, split⟩ := List.append_of_mem ((chained.mem_iff _ _).mpr own)
      rw [split] at walk taken length
      have foreign : ¬ t.BelongsTo (t.mainSlot name) (t.mainSlot name) := fun h =>
        at_home (own.unique h)
      rw [search_eq walk.suffix (fun i hi => taken i (List.mem_append_right before hi))
        (by simp at length ⊢; omega), chain_of_foreign foreign, List.find?_nil]
      refine List.find?_eq_none.mpr fun e he => ?_
      obtain ⟨i, hi, hie⟩ := List.mem_filterMap.mp he
      have belongs := (chained.mem_iff home i).mp (split ▸ List.mem_append_right before hi)
      have other : t.mainSlot e.name = home := (belongs.unique ⟨e, hie, rfl⟩).symm
      simp only [decide_eq_true_eq]
      rintro rfl
      exact at_home other.symm

/-- A name that cannot be found has no entry. -/
theorem lookup_eq_none_iff (linked : t.WellLinked) (name : Name) :
    t.lookup name = none ↔ ∀ e ∈ t.entries, e.name ≠ name := by
  rw [lookup_eq_find? linked, Option.map_eq_none_iff, List.find?_eq_none]
  simp only [mem_chain_iff linked, decide_eq_true_eq]
  constructor
  · rintro absent e he rfl
    exact absent e ⟨he, rfl⟩ rfl
  · exact fun absent e he => absent e he.1

end WasmText.SymbolTable
