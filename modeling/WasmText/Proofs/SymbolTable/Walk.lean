import Mathlib.Data.List.Nodup
import WasmText.SymbolTable.Links

/-!
# Walks along links

Following the links of a table from a start to a stop, as a relation that can be cut and joined
(`leads_append`). The free list and the chains of a table are walks; `wellLinked_iff` says that a
table is well linked when its free list and its chains can be named by the slots they visit.
-/
namespace WasmText.SymbolTable

/-- From a start, the links visit these slots and lead on to a stop. -/
def Leads (t : SymbolTable) : Option Nat → List Nat → Option Nat → Prop
  | start, [], stop => start = stop
  | start, i :: rest, stop => start = some i ∧ Leads t (t.slot i).next rest stop

variable {t u : SymbolTable} {start stop before : Option Nat}

theorem leads_append {is js : List Nat} : t.Leads start (is ++ js) stop ↔
    ∃ mid, t.Leads start is mid ∧ t.Leads mid js stop := by
  induction is generalizing start with
  | nil => simp [Leads]
  | cons i rest ih => simp [Leads, ih, and_assoc]

/-- The last slot of a walk is the one that leads to the stop. -/
theorem leads_concat {is : List Nat} {last : Nat} : t.Leads start (is ++ [last]) stop ↔
    t.Leads start is (some last) ∧ (t.slot last).next = stop := by
  rw [leads_append]
  simp [Leads]

theorem Leads.congr {is : List Nat} (h : t.Leads start is stop)
    (same : ∀ i ∈ is, (u.slot i).next = (t.slot i).next) : u.Leads start is stop := by
  induction is generalizing start with
  | nil => exact h
  | cons i rest ih =>
    obtain ⟨rfl, tail⟩ := h
    refine ⟨rfl, ?_⟩
    rw [same i (by simp)]
    exact ih tail fun j hj => same j (by simp [hj])

theorem Leads.start_eq {is : List Nat} (h : t.Leads start is stop) :
    start = is.head?.or stop := by
  cases is with
  | nil => exact h
  | cons i rest => exact h.1

/-- A walk that enters at a slot in the middle sees the rest. -/
theorem Leads.suffix {is rest : List Nat} {i : Nat} (h : t.Leads start (is ++ i :: rest) stop) :
    t.Leads (some i) (i :: rest) stop := by
  obtain ⟨mid, _, tail⟩ := leads_append.mp h
  obtain rfl := tail.1
  exact tail

/-- Relinking the last slot of a walk changes where it stops. -/
theorem Leads.redirect {is : List Nat} {stop' : Option Nat} (h : t.Leads start is stop)
    (nodup : is.Nodup) (next : ∀ i ∈ is, (u.slot i).next =
      if is.getLast? = some i then stop' else (t.slot i).next) :
    u.Leads (is.head?.or stop') is stop' := by
  rcases List.eq_nil_or_concat is with rfl | ⟨init, last, rfl⟩
  · rfl
  · rw [List.concat_eq_append] at *
    obtain ⟨walk, -⟩ := leads_concat.mp h
    have fresh : last ∉ init := by simpa using (List.nodup_append.mp nodup).2.2 last
    rw [leads_concat]
    constructor
    · have start_eq : (init ++ [last]).head?.or stop' = start := by
        rw [walk.start_eq]
        cases init <;> rfl
      rw [start_eq]
      refine walk.congr fun i hi => ?_
      rw [next i (by simp [hi])]
      have ne : last ≠ i := fun same => fresh (same ▸ hi)
      simp [ne]
    · simpa using next last (by simp)

theorem follows_iff {is : List Nat} : t.Follows start is ↔
    t.Leads start is none ∧ ∀ i ∈ is, i < t.capacity := by
  constructor
  · intro h
    refine ⟨?_, h.lt_capacity⟩
    induction h with
    | done => rfl
    | step _ _ ih => exact ⟨rfl, ih⟩
  · rintro ⟨h, lt⟩
    induction is generalizing start with
    | nil =>
      obtain rfl := h
      exact .done
    | cons i rest ih =>
      obtain ⟨rfl, tail⟩ := h
      exact .step (lt i (by simp)) (ih tail fun j hj => lt j (by simp [hj]))

theorem backLinked_append {is js : List Nat} : t.BackLinked before (is ++ js) ↔
    t.BackLinked before is ∧ t.BackLinked (is.getLast?.or before) js := by
  induction is generalizing before with
  | nil => simp [BackLinked]
  | cons i rest ih =>
    rw [List.cons_append, BackLinked, ih, BackLinked, and_assoc, List.getLast?_cons]
    cases rest.getLast? <;> simp

theorem BackLinked.congr {is : List Nat} (h : t.BackLinked before is)
    (same : ∀ i ∈ is, (u.slot i).prev = (t.slot i).prev) : u.BackLinked before is := by
  induction is generalizing before with
  | nil => trivial
  | cons i rest ih =>
    exact ⟨(same i (by simp)).trans h.1, ih h.2 fun j hj => same j (by simp [hj])⟩

/-- The free list visits these slots: every free slot once, from the highest down. -/
structure FreeList (t : SymbolTable) (free : List Nat) : Prop where
  walk : t.Leads t.freeHead free none
  back : t.BackLinked none free
  falling : free.Pairwise (· > ·)
  mem_iff : ∀ i, i ∈ free ↔ i < t.capacity ∧ (t.slot i).entry = none

theorem FreeList.nodup {free : List Nat} (h : t.FreeList free) : free.Nodup :=
  h.falling.imp fun hij => Nat.ne_of_gt hij

/-- The links of a free slot lead to its neighbours on the list. -/
theorem FreeList.links {above below : List Nat} {i : Nat}
    (h : t.FreeList (above ++ i :: below)) :
    (t.slot i).next = below.head? ∧ (t.slot i).prev = above.getLast? := by
  constructor
  · simpa using h.walk.suffix.2.start_eq
  · simpa using (backLinked_append.mp h.back).2.1

theorem FreeList.lt_capacity {free : List Nat} (h : t.FreeList free) : ∀ i ∈ free, i < t.capacity :=
  fun i hi => ((h.mem_iff i).mp hi).1

theorem FreeList.vacant {free : List Nat} (h : t.FreeList free) {i : Nat} (hi : i ∈ free) :
    (t.slot i).entry = none :=
  ((h.mem_iff i).mp hi).2

theorem FreeList.next_lt {above below : List Nat} {i : Nat} (h : t.FreeList (above ++ i :: below)) :
    ∀ j ∈ (t.slot i).next, j < t.capacity := by
  rw [h.links.1]
  exact fun j hj => h.lt_capacity j (by simp [List.mem_of_head? hj])

theorem FreeList.prev_lt {above below : List Nat} {i : Nat} (h : t.FreeList (above ++ i :: below)) :
    ∀ j ∈ (t.slot i).prev, j < t.capacity := by
  rw [h.links.2]
  exact fun j hj => h.lt_capacity j (by simp [List.mem_of_getLast? hj])

theorem FreeList.congr {free : List Nat} (h : t.FreeList free)
    (capacity : u.capacity = t.capacity) (head : u.freeHead = t.freeHead)
    (vacant : ∀ i, (u.slot i).entry = none ↔ (t.slot i).entry = none)
    (next : ∀ i, (u.slot i).next = (t.slot i).next)
    (prev : ∀ i, (u.slot i).prev = (t.slot i).prev) : u.FreeList free where
  walk := head ▸ h.walk.congr fun i _ => next i
  back := h.back.congr fun i _ => prev i
  falling := h.falling
  mem_iff i := by rw [h.mem_iff, capacity, vacant]

variable {chain : Nat → List Nat} {main : Nat}

/-- By main slot, the slots of its chain: each once, from the main slot on. -/
structure Chained (t : SymbolTable) (chain : Nat → List Nat) : Prop where
  walk : ∀ main, chain main ≠ [] → t.Leads (some main) (chain main) none
  nodup : ∀ main, (chain main).Nodup
  mem_iff : ∀ main i, i ∈ chain main ↔ t.BelongsTo main i

theorem mainSlot_congr (capacity : u.capacity = t.capacity) (name : Name) :
    u.mainSlot name = t.mainSlot name := by
  rw [mainSlot, mainSlot, capacity]

theorem belongsTo_congr {main i j : Nat} (capacity : u.capacity = t.capacity)
    (entry : (u.slot j).entry = (t.slot i).entry) : u.BelongsTo main j ↔ t.BelongsTo main i := by
  simp only [BelongsTo, entry, mainSlot_congr capacity]

theorem belongsTo_of_entry {main i : Nat} {e : Entry} (capacity : u.capacity = t.capacity)
    (entry : (u.slot i).entry = some e) : u.BelongsTo main i ↔ t.mainSlot e.name = main := by
  simp [BelongsTo, entry, mainSlot_congr capacity]

theorem BelongsTo.occupied {main i : Nat} (h : t.BelongsTo main i) : (t.slot i).entry ≠ none := by
  obtain ⟨e, he, -⟩ := h
  simp [he]

theorem BelongsTo.lt_capacity {main i : Nat} (h : t.BelongsTo main i) : i < t.capacity :=
  lt_capacity_of_occupied h.occupied

theorem BelongsTo.unique {main main' i : Nat} (h : t.BelongsTo main i) (h' : t.BelongsTo main' i) :
    main = main' := by
  obtain ⟨e, he, rfl⟩ := h
  obtain ⟨e', he', rfl⟩ := h'
  rw [Option.some.inj (he.symm.trans he')]

theorem Chained.eq_cons (h : t.Chained chain) (ne : chain main ≠ []) :
    ∃ rest, chain main = main :: rest := by
  have start := (h.walk main ne).start_eq
  cases hc : chain main with
  | nil => exact absurd hc ne
  | cons i rest => exact ⟨rest, by simpa [hc, eq_comm] using start⟩

/-- A chain that has a slot at all begins at its main slot. -/
theorem Chained.belongsTo_main {i : Nat} (h : t.Chained chain) (hi : t.BelongsTo main i) :
    t.BelongsTo main main := by
  obtain ⟨rest, hc⟩ := h.eq_cons (List.ne_nil_of_mem ((h.mem_iff main i).mpr hi))
  exact (h.mem_iff main main).mp (by simp [hc])

theorem Chained.eq_nil (h : t.Chained chain) (foreign : ¬ t.BelongsTo main main) :
    chain main = [] :=
  List.eq_nil_iff_forall_not_mem.mpr fun i hi =>
    foreign (h.belongsTo_main ((h.mem_iff main i).mp hi))

theorem Chained.congr (h : t.Chained chain)
    (belongs : ∀ main i, u.BelongsTo main i ↔ t.BelongsTo main i)
    (next : ∀ i, (t.slot i).entry ≠ none → (u.slot i).next = (t.slot i).next) :
    u.Chained chain where
  walk main ne := (h.walk main ne).congr fun i hi => next i ((h.mem_iff main i).mp hi).occupied
  nodup := h.nodup
  mem_iff main i := (h.mem_iff main i).trans (belongs main i).symm

/-- A slot of a chain that is not its main slot has a predecessor there. -/
theorem Chained.split {home i : Nat} (h : t.Chained chain)
    (own : t.BelongsTo home i) (ne : home ≠ i) :
    ∃ front pred rest, chain home = front ++ pred :: i :: rest := by
  have member := (h.mem_iff home i).mpr own
  obtain ⟨first, chain_home⟩ := h.eq_cons (List.ne_nil_of_mem member)
  obtain ⟨before, rest, split⟩ := List.append_of_mem member
  rcases List.eq_nil_or_concat before with rfl | ⟨front, pred, rfl⟩
  · rw [split, List.nil_append] at chain_home
    exact absurd (List.cons.inj chain_home).1.symm ne
  · exact ⟨front, pred, rest, by simp [split]⟩

/-- From an occupied slot the links visit the rest of its chain. -/
theorem Chained.suffix {home i : Nat} (h : t.Chained chain) (own : t.BelongsTo home i) :
    ∃ rest, i :: rest <:+ chain home ∧ t.Leads (some i) (i :: rest) none := by
  have member := (h.mem_iff home i).mpr own
  have walk := h.walk home (List.ne_nil_of_mem member)
  obtain ⟨before, rest, split⟩ := List.append_of_mem member
  rw [split] at walk ⊢
  exact ⟨rest, List.suffix_append before (i :: rest), walk.suffix⟩

theorem Chained.length_le (h : t.Chained chain) (main : Nat) :
    (chain main).length ≤ t.capacity := by
  have inside : chain main ⊆ List.range t.capacity := fun i hi =>
    List.mem_range.mpr ((h.mem_iff main i).mp hi).lt_capacity
  simpa using (h.nodup main).length_le_of_subset inside

theorem wellLinked_iff : t.WellLinked ↔ (∃ free, t.FreeList free) ∧ ∃ chain, t.Chained chain := by
  constructor
  · rintro ⟨⟨free, walk, falling, back, mem_iff⟩, chains⟩
    refine ⟨⟨free, (follows_iff.mp walk).1, back, falling, mem_iff⟩, ?_⟩
    have chain : ∀ main, ∃ is, (is ≠ [] → t.Leads (some main) is none) ∧ is.Nodup ∧
        ∀ i, i ∈ is ↔ t.BelongsTo main i := by
      intro main
      by_cases own : ∃ i, t.BelongsTo main i
      · obtain ⟨i, hi⟩ := own
        obtain ⟨-, is, walk, nodup, mem_iff⟩ := chains main i hi
        exact ⟨is, fun _ => (follows_iff.mp walk).1, nodup, mem_iff⟩
      · exact ⟨[], by simp, by simp, by simpa using own⟩
    choose chain walk nodup mem_iff using chain
    exact ⟨chain, walk, nodup, mem_iff⟩
  · rintro ⟨⟨free, hfree⟩, chain, hchain⟩
    constructor
    · refine ⟨free, follows_iff.mpr ⟨hfree.walk, ?_⟩, hfree.falling, hfree.back, hfree.mem_iff⟩
      exact fun i hi => ((hfree.mem_iff i).mp hi).1
    · intro main i hi
      have ne := List.ne_nil_of_mem ((hchain.mem_iff main i).mpr hi)
      refine ⟨hchain.belongsTo_main hi, chain main, follows_iff.mpr ⟨hchain.walk main ne, ?_⟩,
        hchain.nodup main, hchain.mem_iff main⟩
      exact fun j hj => ((hchain.mem_iff main j).mp hj).lt_capacity

end WasmText.SymbolTable
