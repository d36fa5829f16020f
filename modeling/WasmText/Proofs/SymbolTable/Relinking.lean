import Mathlib.Logic.Function.Basic
import WasmText.Proofs.SymbolTable.Walk
import WasmText.SymbolTable.Placement

/-!
# Relinking

What a change of links does to the free list and to the chains, said of any two tables that differ in
the links and entries named: a free slot leaves its list, an entry starts a chain, joins one as the
second, or moves to another slot within one.
-/
namespace WasmText.SymbolTable

variable {t u : SymbolTable} {chain : Nat → List Nat} {main : Nat}

theorem FreeList.remove {above below : List Nat} {i : Nat}
    (h : t.FreeList (above ++ i :: below)) (capacity : u.capacity = t.capacity)
    (head : u.freeHead = (above ++ below).head?)
    (entry : ∀ j, (u.slot j).entry = none ↔ i ≠ j ∧ (t.slot j).entry = none)
    (next : ∀ j, i ≠ j → (t.slot j).entry = none → (u.slot j).next =
      if above.getLast? = some j then below.head? else (t.slot j).next)
    (prev : ∀ j, i ≠ j → (t.slot j).entry = none → (u.slot j).prev =
      if below.head? = some j then above.getLast? else (t.slot j).prev) :
    u.FreeList (above ++ below) := by
  obtain ⟨next_i, -⟩ := h.links
  obtain ⟨mid, walk_above, walk_below⟩ := leads_append.mp h.walk
  obtain ⟨back_above, back_below⟩ := backLinked_append.mp h.back
  obtain ⟨nodup_above, ⟨fresh_below, nodup_below⟩, apart⟩ :
      above.Nodup ∧ (i ∉ below ∧ below.Nodup) ∧ ∀ j ∈ above, j ≠ i ∧ j ∉ below := by
    have := h.nodup
    simp only [List.nodup_append, List.nodup_cons, List.mem_cons] at this
    exact ⟨this.1, this.2.1, fun j hj => ⟨this.2.2 j hj i (.inl rfl),
      fun below => this.2.2 j hj j (.inr below) rfl⟩⟩
  have free : ∀ j, j ∈ above ∨ j ∈ below → i ≠ j ∧ (t.slot j).entry = none := by
    intro j hj
    refine ⟨?_, ((h.mem_iff j).mp (by simpa using hj.imp_right .inr)).2⟩
    rintro rfl
    exact hj.elim (fun above => (apart _ above).1 rfl) fresh_below
  constructor
  · refine leads_append.mpr ⟨below.head?, ?_, ?_⟩
    · rw [head, List.head?_append]
      exact walk_above.redirect nodup_above fun j hj =>
        next j (free j (.inl hj)).1 (free j (.inl hj)).2
    · rw [← next_i]
      refine walk_below.2.congr fun j hj => ?_
      rw [next j (free j (.inr hj)).1 (free j (.inr hj)).2, if_neg]
      exact fun last => (apart j (List.mem_of_getLast? last)).2 hj
  · refine backLinked_append.mpr ⟨back_above.congr fun j hj => ?_, ?_⟩
    · rw [prev j (free j (.inl hj)).1 (free j (.inl hj)).2, if_neg]
      exact fun first => (apart j hj).2 (List.mem_of_head? first)
    · cases below with
      | nil => trivial
      | cons j rest =>
        have first := free j (.inr (by simp))
        refine ⟨by simpa using prev j first.1 first.2, back_below.2.2.congr fun l hl => ?_⟩
        have later := free l (.inr (by simp [hl]))
        have ne : j ≠ l := fun same => (List.nodup_cons.mp nodup_below).1 (same ▸ hl)
        simpa [ne] using prev l later.1 later.2
  · exact h.falling.sublist (by simp)
  · intro j
    have old := h.mem_iff j
    rw [capacity, entry]
    by_cases hj : i = j
    · subst j
      simpa using ⟨fun hi => (apart i hi).1 rfl, fresh_below⟩
    · simpa [hj, Ne.symm hj] using old

theorem FreeList.slot_popFree {free : Nat} {below : List Nat} (h : t.FreeList (free :: below))
    (j : Nat) : (t.popFree free).slot j =
      { t.slot j with prev := if below.head? = some j then none else (t.slot j).prev } := by
  have h : t.FreeList ([] ++ free :: below) := h
  rw [SymbolTable.slot_popFree h.next_lt, h.links.1]
  split_ifs <;> rfl

/-- What becomes of the popped slot does not matter, as long as the other free slots stay as they are. -/
theorem FreeList.pop {free : Nat} {below : List Nat} (h : t.FreeList (free :: below))
    (capacity : u.capacity = t.capacity) (head : u.freeHead = (t.popFree free).freeHead)
    (entry : ∀ j, (u.slot j).entry = none ↔ free ≠ j ∧ (t.slot j).entry = none)
    (next : ∀ j, free ≠ j → (t.slot j).entry = none →
      (u.slot j).next = ((t.popFree free).slot j).next)
    (prev : ∀ j, free ≠ j → (t.slot j).entry = none →
      (u.slot j).prev = ((t.popFree free).slot j).prev) : u.FreeList below := by
  have slot := h.slot_popFree
  have h : t.FreeList ([] ++ free :: below) := h
  refine h.remove capacity ?_ entry (fun j hj hv => ?_) fun j hj hv => ?_
  · rw [head, freeHead_popFree, h.links.1, List.nil_append]
  · simp [next j hj hv, slot]
  · simp [prev j hj hv, slot]

/-- One chain may change as long as the slots of the others and their links stay. -/
theorem Chained.replace {is : List Nat} (h : t.Chained chain)
    (walk : u.Leads (some main) is none) (nodup : is.Nodup)
    (mem_iff : ∀ i, i ∈ is ↔ u.BelongsTo main i)
    (others : ∀ other, other ≠ main → ∀ i, u.BelongsTo other i ↔ t.BelongsTo other i)
    (next : ∀ other, other ≠ main → ∀ i ∈ chain other, (u.slot i).next = (t.slot i).next) :
    u.Chained (Function.update chain main is) := by
  constructor
  · exact (Function.forall_update_iff chain fun m is => is ≠ [] → u.Leads (some m) is none).mpr
      ⟨fun _ => walk, fun other ne hne => (h.walk other hne).congr (next other ne)⟩
  · exact (Function.forall_update_iff chain fun _ is => is.Nodup).mpr
      ⟨nodup, fun other _ => h.nodup other⟩
  · exact (Function.forall_update_iff chain fun m is => ∀ i, i ∈ is ↔ u.BelongsTo m i).mpr
      ⟨mem_iff, fun other ne i => (h.mem_iff other i).trans (others other ne i).symm⟩

/-- An entry that takes its free main slot starts a chain. -/
theorem Chained.single {e : Entry} (h : t.Chained chain) (capacity : u.capacity = t.capacity)
    (home : t.mainSlot e.name = main) (vacant : (t.slot main).entry = none)
    (entry : ∀ i, (u.slot i).entry = if main = i then some e else (t.slot i).entry)
    (next : ∀ i, (t.slot i).entry ≠ none → (u.slot i).next = (t.slot i).next)
    (loose : (u.slot main).next = none) : u.Chained (Function.update chain main [main]) := by
  have untouched : ∀ other, ¬ t.BelongsTo other main := by simp [BelongsTo, vacant]
  have settled : ∀ other, u.BelongsTo other main ↔ main = other := by
    intro other
    rw [belongsTo_of_entry capacity (by rw [entry, if_pos rfl]), home]
  have kept : ∀ other i, main ≠ i → (u.BelongsTo other i ↔ t.BelongsTo other i) := by
    intro other i hi
    exact belongsTo_congr capacity (by rw [entry, if_neg hi])
  refine h.replace ?_ (by simp) (fun i => ?_) (fun other ne i => ?_) fun other _ i hi => ?_
  · exact ⟨rfl, loose⟩
  · by_cases hi : main = i
    · simp [← hi, settled]
    · simpa [kept _ _ hi, Ne.symm hi] using fun own => untouched _ (h.belongsTo_main own)
  · by_cases hi : main = i
    · simp [← hi, settled, untouched, Ne.symm ne]
    · exact kept other i hi
  · exact next i ((h.mem_iff other i).mp hi).occupied

/-- An entry that is linked behind the main slot becomes the second of the chain. -/
theorem Chained.second {e : Entry} {free : Nat} {rest : List Nat} (h : t.Chained chain)
    (capacity : u.capacity = t.capacity) (home : t.mainSlot e.name = main)
    (chain_main : chain main = main :: rest) (vacant : (t.slot free).entry = none)
    (entry : ∀ i, (u.slot i).entry = if free = i then some e else (t.slot i).entry)
    (next : ∀ i, (u.slot i).next = if main = i then some free
      else if free = i then (t.slot main).next else (t.slot i).next) :
    u.Chained (Function.update chain main (main :: free :: rest)) := by
  have own : t.BelongsTo main main := (h.mem_iff main main).mp (by simp [chain_main])
  have untouched : ∀ other, ¬ t.BelongsTo other free := by simp [BelongsTo, vacant]
  have ne : main ≠ free := fun same => untouched main (same ▸ own)
  have settled : ∀ other, u.BelongsTo other free ↔ main = other := by
    intro other
    rw [belongsTo_of_entry capacity (by rw [entry, if_pos rfl]), home]
  have kept : ∀ other i, free ≠ i → (u.BelongsTo other i ↔ t.BelongsTo other i) := by
    intro other i hi
    exact belongsTo_congr capacity (by rw [entry, if_neg hi])
  have walk := h.walk main (by simp [chain_main])
  have nodup := h.nodup main
  have free_fresh := mt (h.mem_iff main free).mp (untouched main)
  rw [chain_main] at walk nodup free_fresh
  refine h.replace ?_ ?_ (fun i => ?_) (fun other hm i => ?_) fun other hm i hi => ?_
  · refine ⟨rfl, by simp [next], ?_⟩
    rw [next, if_neg ne, if_pos rfl]
    refine walk.2.congr fun i hi => ?_
    have main_ne : main ≠ i := fun same => (List.nodup_cons.mp nodup).1 (same ▸ hi)
    have free_ne : free ≠ i := fun same => free_fresh (by simp [same, hi])
    rw [next, if_neg main_ne, if_neg free_ne]
  · have : (free :: main :: rest).Nodup := List.nodup_cons.mpr ⟨free_fresh, nodup⟩
    exact (List.Perm.swap main free rest).nodup this
  · by_cases hi : free = i
    · simp [← hi, settled]
    · simp [kept _ _ hi, ← h.mem_iff, chain_main, Ne.symm hi]
  · by_cases hi : free = i
    · simp [← hi, settled, untouched, Ne.symm hm]
    · exact kept other i hi
  · have there := (h.mem_iff other i).mp hi
    have main_ne : main ≠ i := fun same => hm (there.unique (same ▸ own))
    have free_ne : free ≠ i := fun same => untouched other (same ▸ there)
    rw [next, if_neg main_ne, if_neg free_ne]

/-- A walk that is led past a slot to another one, and from there on as before, visits the other one
instead. -/
theorem Leads.exchange {start stop : Option Nat} {front rest : List Nat} {pred i j : Nat}
    (h : t.Leads start (front ++ pred :: i :: rest) stop)
    (nodup : (front ++ pred :: i :: rest).Nodup) (fresh : j ∉ front ++ pred :: i :: rest)
    (next : ∀ k, i ≠ k → (u.slot k).next = if j = k then (t.slot i).next
      else if pred = k then some j else (t.slot k).next) :
    u.Leads start (front ++ pred :: j :: rest) stop := by
  obtain ⟨_, walk_front, rfl, -, walk_rest⟩ := leads_append.mp h
  simp only [List.nodup_append, List.nodup_cons, List.mem_cons, not_or] at nodup
  obtain ⟨-, ⟨⟨pred_i, pred_rest⟩, i_rest, -⟩, apart⟩ := nodup
  simp only [List.mem_append, List.mem_cons, not_or] at fresh
  obtain ⟨j_front, j_pred, j_i, j_rest⟩ := fresh
  refine leads_append.mpr ⟨some pred, walk_front.congr fun k hk => ?_, rfl, ?_⟩
  · have ne := fun l there => (apart k hk l there).symm
    rw [next k (ne i (.inr (.inl rfl))), if_neg fun same : j = k => j_front (same ▸ hk),
      if_neg (ne pred (.inl rfl))]
  · rw [next pred (Ne.symm pred_i), if_neg j_pred, if_pos rfl]
    refine ⟨rfl, ?_⟩
    rw [next j (Ne.symm j_i), if_pos rfl]
    refine walk_rest.congr fun k hk => ?_
    have i_ne : i ≠ k := fun same => i_rest (same ▸ hk)
    have j_ne : j ≠ k := fun same => j_rest (same ▸ hk)
    have pred_ne : pred ≠ k := fun same => pred_rest (same ▸ hk)
    rw [next k i_ne, if_neg j_ne, if_neg pred_ne]

theorem nodup_exchange {front rest : List Nat} {i j : Nat} (nodup : (front ++ i :: rest).Nodup)
    (fresh : j ∉ front ++ i :: rest) : (front ++ j :: rest).Nodup := by
  rw [List.nodup_middle, List.nodup_cons] at nodup ⊢
  refine ⟨fun hj => fresh ?_, nodup.2⟩
  rcases List.mem_append.mp hj with hj | hj <;> simp [hj]

/-- A chain in whose middle a free slot takes the place of another stays the same otherwise. -/
theorem Chained.move {home pred free : Nat} {front rest : List Nat} (h : t.Chained chain)
    (capacity : u.capacity = t.capacity) (chain_home : chain home = front ++ pred :: main :: rest)
    (vacant : (t.slot free).entry = none)
    (entry : ∀ i, (u.slot i).entry = if free = i then (t.slot main).entry
      else if main = i then none else (t.slot i).entry)
    (next : ∀ i, main ≠ i → (u.slot i).next = if free = i then (t.slot main).next
      else if pred = i then some free else (t.slot i).next) :
    u.Chained (Function.update chain home (front ++ pred :: free :: rest)) := by
  have walk := h.walk home (by simp [chain_home])
  have nodup := h.nodup home
  have member := h.mem_iff home
  rw [chain_home] at walk nodup member
  have own := (member main).mp (by simp)
  have untouched : ∀ other, ¬ t.BelongsTo other free := by simp [BelongsTo, vacant]
  have fresh : free ∉ front ++ pred :: main :: rest := mt (member free).mp (untouched home)
  have ne : free ≠ main := fun same => untouched home (same ▸ own)
  have moved : ∀ other, u.BelongsTo other free ↔ other = home := by
    intro other
    rw [belongsTo_congr capacity (by rw [entry, if_pos rfl])]
    exact ⟨fun there => there.unique own, fun same => same ▸ own⟩
  have left : ∀ other, ¬ u.BelongsTo other main := by simp [BelongsTo, entry, ne]
  have kept : ∀ other i, free ≠ i → main ≠ i → (u.BelongsTo other i ↔ t.BelongsTo other i) := by
    intro other i hf hm
    exact belongsTo_congr capacity (by rw [entry, if_neg hf, if_neg hm])
  refine h.replace (walk.exchange nodup fresh next) ?_ (fun i => ?_) (fun other ho i => ?_)
    fun other ho i hi => ?_
  · rw [List.append_cons] at nodup fresh ⊢
    exact nodup_exchange nodup fresh
  · by_cases hf : free = i
    · simp [← hf, moved]
    · by_cases hm : main = i
      · subst i
        rw [List.append_cons, List.nodup_middle, List.nodup_cons, List.mem_append] at nodup
        simpa [left, Ne.symm hf, or_assoc] using nodup.1
      · simp [kept _ _ hf hm, ← member, Ne.symm hf, Ne.symm hm]
  · by_cases hf : free = i
    · simp [← hf, moved, untouched, ho]
    · by_cases hm : main = i
      · subst i
        exact iff_of_false (left other) fun there => ho (there.unique own)
      · exact kept other i hf hm
  · have there := (h.mem_iff other i).mp hi
    have main_ne : main ≠ i := fun same => ho (there.unique (same ▸ own))
    have free_ne : free ≠ i := fun same => untouched other (same ▸ there)
    have pred_ne : pred ≠ i := fun same => ho (there.unique (same ▸ (member pred).mp (by simp)))
    rw [next i main_ne, if_neg free_ne, if_neg pred_ne]

theorem Chained.slot_evict {home pred free : Nat} {front rest : List Nat} (h : t.Chained chain)
    (chain_home : chain home = front ++ pred :: main :: rest) (free_lt : free < t.capacity) (j : Nat) :
    (t.evict pred main free).slot j =
      if free = j then t.slot main else if main = j then .blank
      else if pred = j then { t.slot j with next := some free } else t.slot j := by
  have inside : ∀ i ∈ chain home, i < t.capacity := fun i hi =>
    ((h.mem_iff home i).mp hi).lt_capacity
  have ne : pred ≠ main := by
    have nodup := h.nodup home
    simp only [chain_home, List.nodup_append, List.nodup_cons, List.mem_cons, not_or] at nodup
    exact nodup.2.1.1.1
  exact SymbolTable.slot_evict (inside pred (by simp [chain_home]))
    (inside main (by simp [chain_home])) free_lt ne j

/-- Evicting an entry moves it within its chain. -/
theorem Chained.evict {home pred free : Nat} {front rest : List Nat} (h : t.Chained chain)
    (chain_home : chain home = front ++ pred :: main :: rest) (free_lt : free < t.capacity)
    (vacant : (t.slot free).entry = none) : (t.evict pred main free).Chained
      (Function.update chain home (front ++ pred :: free :: rest)) := by
  have evicted := h.slot_evict chain_home free_lt
  refine h.move (capacity_evict t pred main free) chain_home vacant (fun j => ?_) fun j hj => ?_
  · rw [evicted]
    split_ifs <;> rfl
  · rw [evicted, if_neg hj]
    split_ifs <;> rfl

theorem Chained.popFree {free : Nat} {below : List Nat}
    (h : t.Chained chain) (listed : t.FreeList (free :: below)) : (t.popFree free).Chained chain :=
  h.congr (fun _ i => belongsTo_congr (capacity_popFree t free) (by rw [listed.slot_popFree]))
    fun i _ => by rw [listed.slot_popFree]

end WasmText.SymbolTable
