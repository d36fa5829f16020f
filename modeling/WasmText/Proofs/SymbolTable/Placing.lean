import Mathlib.Tactic.SplitIfs
import WasmText.Proofs.SymbolTable.Relinking

/-!
# Placing an entry in a well-linked table

An entry that finds a free slot is placed in one of three ways (`Placing`), and none of the faults that
broken links could cause arises (`place_of_room`).
-/
namespace WasmText.SymbolTable

variable {t u : SymbolTable}

theorem stray?_eq_none {link : Option Nat} (inside : ∀ i ∈ link, i < t.capacity) :
    t.stray? link = none := by
  cases link with
  | none => rfl
  | some i => simpa [stray?] using inside i rfl

/-- A walk from a slot to the target passes through the target's predecessor, which the search finds. -/
theorem predecessor?_eq {front : List Nat} {i pred target steps : Nat}
    (walk : t.Leads (some i) (front ++ [pred]) (some target)) (fresh : target ∉ front ++ [pred])
    (enough : front.length < steps) : t.predecessor? target steps i = some pred := by
  induction front generalizing i steps with
  | nil =>
    obtain ⟨steps, rfl⟩ : ∃ n, steps = n + 1 := ⟨steps - 1, by omega⟩
    obtain ⟨hi, link⟩ := walk
    obtain rfl := Option.some.inj hi
    simp [predecessor?, show (t.slot i).next = some target from link]
  | cons j rest ih =>
    obtain ⟨steps, rfl⟩ : ∃ n, steps = n + 1 := ⟨steps - 1, by simp at enough; omega⟩
    obtain ⟨hi, tail⟩ := walk
    obtain rfl := Option.some.inj hi
    obtain ⟨n, hn⟩ : ∃ n, (rest ++ [pred]).head? = some n := by cases rest <;> simp
    have link : (t.slot i).next = some n := by simpa [hn] using tail.start_eq
    have ne : n ≠ target := by
      rintro rfl
      exact fresh (List.mem_cons_of_mem i (List.mem_of_head? hn))
    rw [link] at tail
    simp only [predecessor?, link, if_neg ne]
    exact ih tail (fun hi => fresh (List.mem_cons_of_mem i hi)) (by simp at enough; omega)

theorem Chained.predecessor? {home pred i : Nat} {front rest : List Nat} {chain : Nat → List Nat}
    (h : t.Chained chain) (chain_home : chain home = front ++ pred :: i :: rest) :
    t.predecessor? i t.capacity home = some pred := by
  have walk := h.walk home (by simp [chain_home])
  have nodup := h.nodup home
  have length := h.length_le home
  have split : chain home = (front ++ [pred]) ++ i :: rest := by simp [chain_home]
  rw [split] at walk nodup length
  obtain ⟨_, walk_front, rfl, -⟩ := leads_append.mp walk
  refine predecessor?_eq walk_front ?_ ?_
  · exact fun hi => (List.nodup_append.mp nodup).2.2 i hi i (by simp) rfl
  · simp at length
    omega

/-- Placing an entry, told with the free slots and the chains before and after. -/
inductive Placing (t : SymbolTable) (e : Entry) (i : Nat) (u : SymbolTable) : Prop
  | single {above below : List Nat} {chain : Nat → List Nat} (home : t.mainSlot e.name = i)
      (listed : t.FreeList (above ++ i :: below)) (chained : t.Chained chain)
      (listed' : u.FreeList (above ++ below)) (chained' : u.Chained (Function.update chain i [i]))
      (entry : ∀ j, (u.slot j).entry = if i = j then some e else (t.slot j).entry)
  | second {main : Nat} {below rest : List Nat} {chain : Nat → List Nat}
      (home : t.mainSlot e.name = main) (listed : t.FreeList (i :: below)) (chained : t.Chained chain)
      (chain_main : chain main = main :: rest) (listed' : u.FreeList below)
      (chained' : u.Chained (Function.update chain main (main :: i :: rest)))
      (entry : ∀ j, (u.slot j).entry = if i = j then some e else (t.slot j).entry)
  | evict {home pred free : Nat} {below front rest : List Nat} {chain : Nat → List Nat}
      (main : t.mainSlot e.name = i) (displaced : home ≠ i) (listed : t.FreeList (free :: below))
      (chained : t.Chained chain) (chain_home : chain home = front ++ pred :: i :: rest)
      (listed' : u.FreeList below)
      (chained' : u.Chained (Function.update
        (Function.update chain home (front ++ pred :: free :: rest)) i [i]))
      (entry : ∀ j, (u.slot j).entry =
        if i = j then some e else if free = j then (t.slot i).entry else (t.slot j).entry)

theorem place_single {e : Entry} {above below : List Nat} {chain : Nat → List Nat}
    (listed : t.FreeList (above ++ t.mainSlot e.name :: below)) (chained : t.Chained chain) :
    ∃ u, t.place e = (.ok (t.mainSlot e.name), u) ∧ t.Placing e (t.mainSlot e.name) u := by
  generalize home : t.mainSlot e.name = main at *
  have lt := listed.lt_capacity main (by simp)
  have vacant := listed.vacant (i := main) (by simp)
  have placed : t.place e = (.ok main, (t.unlinkFree main).settle main e) := by
    simp [place, Nat.ne_of_gt (Nat.zero_lt_of_lt lt), home, vacant,
      stray?_eq_none listed.next_lt, stray?_eq_none listed.prev_lt]
  obtain ⟨next_main, prev_main⟩ := listed.links
  have unlinked := slot_unlinkFree lt listed.next_lt listed.prev_lt
  rw [next_main, prev_main] at unlinked
  have settled := slot_settle (t := t.unlinkFree main) (i := main) (by simpa) e
  have entry : ∀ j, (((t.unlinkFree main).settle main e).slot j).entry =
      if main = j then some e else (t.slot j).entry := by
    intro j
    rw [settled, unlinked]
    split_ifs <;> rfl
  have next : ∀ j, (((t.unlinkFree main).settle main e).slot j).next = if main = j then none
      else if above.getLast? = some j then below.head? else (t.slot j).next := by
    intro j
    rw [settled, unlinked]
    split_ifs <;> rfl
  refine ⟨_, placed, .single home listed chained
    (listed.remove (by simp) ?_ ?_ (fun j hj _ => ?_) fun j hj _ => ?_)
    (chained.single (by simp) home vacant entry (fun j hj => ?_) (by simp [next])) entry⟩
  · rw [freeHead_settle, freeHead_unlinkFree, next_main, prev_main, listed.walk.start_eq]
    cases above <;> simp
  · intro j
    rw [entry]
    by_cases hj : main = j <;> simp [hj]
  · rw [next, if_neg hj]
  · rw [settled, if_neg hj, unlinked]
  · have main_ne : main ≠ j := fun same => hj (same ▸ vacant)
    have last_ne : above.getLast? ≠ some j := fun last =>
      hj (listed.vacant (by simp [List.mem_of_getLast? last]))
    rw [next, if_neg main_ne, if_neg last_ne]

theorem place_second {e : Entry} {free : Nat} {below rest : List Nat} {chain : Nat → List Nat}
    (listed : t.FreeList (free :: below)) (chained : t.Chained chain)
    (chain_main : chain (t.mainSlot e.name) = t.mainSlot e.name :: rest) :
    ∃ u, t.place e = (.ok free, u) ∧ t.Placing e free u := by
  generalize home : t.mainSlot e.name = main at *
  have own := (chained.mem_iff main main).mp (by simp [chain_main])
  have main_lt := own.lt_capacity
  obtain ⟨occupant, occupied, at_home⟩ := own
  have free_lt := listed.lt_capacity free (by simp)
  have vacant := listed.vacant (i := free) (by simp)
  have head : t.freeHead = some free := listed.walk.1
  let v := t.popFree free
  let u := (v.linkSecond main free).settle free e
  have placed : t.place e = (.ok free, u) := by
    have free_inside : t.stray? (some free) = none := stray?_eq_none (by simpa)
    have next_inside := stray?_eq_none (show t.FreeList ([] ++ free :: below) from listed).next_lt
    simp [place, Nat.ne_of_gt (Nat.zero_lt_of_lt main_lt), home, occupied, head, free_inside,
      next_inside, at_home, u, v]
  have same_capacity : v.capacity = t.capacity := capacity_popFree t free
  have popped : ∀ j, v.slot j = _ := listed.slot_popFree
  have linked : ∀ j, (v.linkSecond main free).slot j = _ :=
    slot_linkSecond (by rwa [same_capacity]) (by rwa [same_capacity])
  have settled : ∀ j, u.slot j = _ := slot_settle (by simpa [same_capacity]) e
  have entry : ∀ j, (u.slot j).entry = if free = j then some e else (v.slot j).entry := by
    intro j
    rw [settled, linked]
    split_ifs <;> rfl
  have next : ∀ j, (u.slot j).next = if main = j then some free
      else if free = j then (v.slot main).next else (v.slot j).next := by
    intro j
    rw [settled, linked]
    split_ifs <;> rfl
  have chained_u : u.Chained (Function.update chain main (main :: free :: rest)) := by
    refine (chained.popFree listed).second (by simp [u, v]) ?_ chain_main ?_ entry next
    · rw [mainSlot_congr same_capacity, home]
    · rw [listed.slot_popFree, vacant]
  refine ⟨u, placed, .second home listed chained chain_main
    (listed.pop (by simp [u, v]) (by simp [u, v]) (fun j => ?_) (fun j hj hv => ?_)
      fun j hj hv => ?_) chained_u fun j => ?_⟩
  · rw [entry, popped]
    by_cases hj : free = j <;> simp [hj]
  · have main_ne : main ≠ j := by
      rintro rfl
      simp [hv] at occupied
    rw [next, if_neg main_ne, if_neg hj]
  · rw [settled, if_neg hj, linked]
  · rw [entry, popped]

theorem place_evict {e occupant : Entry} {free : Nat} {below : List Nat} {chain : Nat → List Nat}
    (listed : t.FreeList (free :: below)) (chained : t.Chained chain)
    (occupied : (t.slot (t.mainSlot e.name)).entry = some occupant)
    (displaced : t.mainSlot occupant.name ≠ t.mainSlot e.name) :
    ∃ u, t.place e = (.ok (t.mainSlot e.name), u) ∧ t.Placing e (t.mainSlot e.name) u := by
  generalize main_eq : t.mainSlot e.name = main at *
  generalize home_eq : t.mainSlot occupant.name = home at *
  have own : t.BelongsTo home main := ⟨occupant, occupied, home_eq⟩
  have main_lt := own.lt_capacity
  have free_lt := listed.lt_capacity free (by simp)
  have vacant := listed.vacant (i := free) (by simp)
  have head : t.freeHead = some free := listed.walk.1
  obtain ⟨front, pred, rest, chain_home⟩ := chained.split own displaced
  let v := t.popFree free
  let w := v.evict pred main free
  let u := w.settle main e
  have same_capacity : v.capacity = t.capacity := capacity_popFree t free
  have chained_v : v.Chained chain := chained.popFree listed
  have placed : t.place e = (.ok main, u) := by
    have free_inside : t.stray? (some free) = none := stray?_eq_none (by simpa)
    have next_inside := stray?_eq_none (show t.FreeList ([] ++ free :: below) from listed).next_lt
    have found : (t.popFree free).predecessor? main (t.popFree free).capacity home = some pred :=
      chained_v.predecessor? chain_home
    simp only [place, if_neg (Nat.ne_of_gt (Nat.zero_lt_of_lt main_lt)), main_eq, occupied, head,
      free_inside, next_inside, home_eq, if_neg displaced, found]
    rfl
  have popped : ∀ j, v.slot j = _ := listed.slot_popFree
  have evicted : ∀ j, w.slot j = _ := chained_v.slot_evict chain_home (by rwa [same_capacity])
  have settled : ∀ j, u.slot j = _ := slot_settle (by simpa [w, same_capacity]) e
  have chained_w : w.Chained (Function.update chain home (front ++ pred :: free :: rest)) :=
    chained_v.evict chain_home (by rwa [same_capacity]) (by rw [popped, vacant])
  have main_ne : free ≠ main := by
    rintro rfl
    simp [vacant] at occupied
  have w_main : w.slot main = .blank := by rw [evicted, if_neg main_ne, if_pos rfl]
  have w_entry : ∀ j, (w.slot j).entry = if free = j then (t.slot main).entry
      else if main = j then none else (t.slot j).entry := by
    intro j
    rw [evicted, popped, popped]
    split_ifs <;> rfl
  have u_entry : ∀ j, (u.slot j).entry = if main = j then some e else (w.slot j).entry := by
    intro j
    rw [settled]
    split_ifs <;> rfl
  have chained_u : u.Chained (Function.update
      (Function.update chain home (front ++ pred :: free :: rest)) main [main]) := by
    refine chained_w.single (by simp [u]) ?_ (by rw [w_main]; rfl) u_entry (fun i hi => ?_) ?_
    · rw [mainSlot_congr (u := w) (t := t) (by simp [w, same_capacity]), main_eq]
    · rw [settled]
      split_ifs <;> rfl
    · rw [settled, if_pos rfl, w_main]
      rfl
  have aside : ∀ j, free ≠ j → (t.slot j).entry = none → u.slot j = v.slot j := by
    intro j hj hv
    have main_ne : main ≠ j := by
      rintro rfl
      simp [hv] at occupied
    have pred_ne : pred ≠ j := by
      rintro rfl
      obtain ⟨e', he', -⟩ := (chained.mem_iff home pred).mp (by simp [chain_home])
      simp [hv] at he'
    rw [settled, if_neg main_ne, evicted, if_neg hj, if_neg main_ne, if_neg pred_ne]
  refine ⟨u, placed, .evict main_eq displaced listed chained chain_home
    (listed.pop (by simp [u, w, v]) (by simp [u, w, v]) (fun j => ?_) (fun j hj hv => ?_) fun j hj hv => ?_)
    chained_u fun j => ?_⟩
  · rw [u_entry, w_entry]
    by_cases hm : main = j
    · subst j
      simp [occupied]
    · by_cases hf : free = j <;> simp [hm, hf, occupied]
  · rw [aside j hj hv]
  · rw [aside j hj hv]
  · rw [u_entry, w_entry]
    split_ifs <;> rfl

theorem FreeList.head_eq {free : List Nat} (h : t.FreeList free) : t.freeHead = free.head? := by
  simpa using h.walk.start_eq

theorem FreeList.eq_cons {free : List Nat} {i : Nat} (h : t.FreeList free)
    (head : t.freeHead = some i) : ∃ below, free = i :: below := by
  rw [h.head_eq] at head
  exact List.head?_eq_some_iff.mp head

/-- The free list is empty exactly when every slot holds an entry. -/
theorem freeHead_eq_none_iff (linked : t.WellLinked) :
    t.freeHead = none ↔ ∀ i < t.capacity, (t.slot i).entry ≠ none := by
  obtain ⟨⟨free, listed⟩, -⟩ := wellLinked_iff.mp linked
  rw [listed.head_eq, List.head?_eq_none_iff, List.eq_nil_iff_forall_not_mem]
  simp only [listed.mem_iff, not_and, ne_eq]

theorem freeHead_of_capacity_zero (linked : t.WellLinked) (zero : t.capacity = 0) :
    t.freeHead = none :=
  (freeHead_eq_none_iff linked).mpr fun i hi => absurd hi (by omega)

theorem capacity_ne_zero (linked : t.WellLinked) (room : t.freeHead ≠ none) : t.capacity ≠ 0 :=
  mt (freeHead_of_capacity_zero linked) room

/-- A well-linked table with a free slot finds room for any entry, and none of its links is at fault. -/
theorem place_of_room (linked : t.WellLinked) (room : t.freeHead ≠ none) (e : Entry) :
    ∃ i u, t.place e = (.ok i, u) ∧ t.Placing e i u := by
  have capacity := capacity_ne_zero linked room
  obtain ⟨⟨free, listed⟩, chain, chained⟩ := wellLinked_iff.mp linked
  have main_lt := mainSlot_lt capacity e.name
  cases occupied : (t.slot (t.mainSlot e.name)).entry with
  | none =>
    obtain ⟨above, below, rfl⟩ := List.append_of_mem ((listed.mem_iff _).mpr ⟨main_lt, occupied⟩)
    exact ⟨_, place_single listed chained⟩
  | some occupant =>
    obtain ⟨i, head⟩ := Option.ne_none_iff_exists'.mp room
    obtain ⟨below, rfl⟩ := listed.eq_cons head
    by_cases home : t.mainSlot occupant.name = t.mainSlot e.name
    · have own : t.BelongsTo (t.mainSlot e.name) (t.mainSlot e.name) := ⟨occupant, occupied, home⟩
      obtain ⟨rest, chain_main⟩ :=
        chained.eq_cons (List.ne_nil_of_mem ((chained.mem_iff _ _).mpr own))
      exact ⟨_, place_second listed chained chain_main⟩
    · exact ⟨_, place_evict listed chained occupied home⟩

theorem place_of_full (linked : t.WellLinked) (capacity : t.capacity ≠ 0)
    (full : t.freeHead = none) (e : Entry) : t.place e = (.error .noFreeSlot, t) := by
  have occupied := (freeHead_eq_none_iff linked).mp full _ (mainSlot_lt capacity e.name)
  obtain ⟨occupant, ho⟩ := Option.ne_none_iff_exists'.mp occupied
  simp [place, capacity, ho, full]

theorem place_of_capacity_zero (capacity : t.capacity = 0) (e : Entry) :
    t.place e = (.error .noSlots, t) := by
  simp [place, capacity]

/-- An entry that was placed was placed in one of the three ways. -/
theorem placing_of_place {e : Entry} {i : Nat} (linked : t.WellLinked)
    (h : t.place e = (.ok i, u)) : t.freeHead ≠ none ∧ t.Placing e i u := by
  by_cases capacity : t.capacity = 0
  · simp [place_of_capacity_zero capacity] at h
  · by_cases full : t.freeHead = none
    · simp [place_of_full linked capacity full] at h
    · obtain ⟨j, v, placed, placing⟩ := place_of_room linked full e
      obtain ⟨hj, rfl⟩ := Prod.mk.inj (placed.symm.trans h)
      obtain rfl := Except.ok.inj hj
      exact ⟨full, placing⟩

theorem Placing.wellLinked {e : Entry} {i : Nat} (h : t.Placing e i u) : u.WellLinked := by
  cases h with
  | single _ _ _ listed' chained' _ => exact wellLinked_iff.mpr ⟨⟨_, listed'⟩, _, chained'⟩
  | second _ _ _ _ listed' chained' _ => exact wellLinked_iff.mpr ⟨⟨_, listed'⟩, _, chained'⟩
  | evict _ _ _ _ _ listed' chained' _ => exact wellLinked_iff.mpr ⟨⟨_, listed'⟩, _, chained'⟩

theorem Placing.entry_self {e : Entry} {i : Nat} (h : t.Placing e i u) :
    (u.slot i).entry = some e := by
  cases h with
  | single _ _ _ _ _ entry => simp [entry]
  | second _ _ _ _ _ _ entry => simp [entry]
  | evict _ _ _ _ _ _ _ entry => simp [entry]

/-- What is placed may get another position, and whatever is not a slot or the free list may change. -/
theorem Placing.congr {v : SymbolTable} {e e' : Entry} {i : Nat} (h : t.Placing e i u)
    (name : e'.name = e.name) (capacity : v.capacity = u.capacity)
    (head : v.freeHead = u.freeHead)
    (entry : ∀ j, (v.slot j).entry = if i = j then some e' else (u.slot j).entry)
    (next : ∀ j, (v.slot j).next = (u.slot j).next)
    (prev : ∀ j, (v.slot j).prev = (u.slot j).prev) : t.Placing e' i v := by
  have settled := h.entry_self
  have vacant : ∀ j, (v.slot j).entry = none ↔ (u.slot j).entry = none := by
    intro j
    rw [entry]
    by_cases hj : i = j
    · simp [← hj, settled]
    · simp [hj]
  have belongs : ∀ main j, v.BelongsTo main j ↔ u.BelongsTo main j := by
    intro main j
    by_cases hj : i = j
    · subst j
      rw [belongsTo_of_entry capacity (by rw [entry, if_pos rfl]), belongsTo_of_entry rfl settled,
        name]
    · exact belongsTo_congr capacity (by rw [entry, if_neg hj])
  have listed : ∀ {free}, u.FreeList free → v.FreeList free := fun h =>
    h.congr capacity head vacant next prev
  have chained : ∀ {chain}, u.Chained chain → v.Chained chain := fun h =>
    h.congr belongs fun j _ => next j
  have main_eq : t.mainSlot e'.name = t.mainSlot e.name := by rw [name]
  cases h with
  | single home listed₀ chained₀ listed' chained' entry' =>
    refine .single (main_eq.trans home) listed₀ chained₀ (listed listed') (chained chained')
      fun j => ?_
    rw [entry, entry']
    split_ifs <;> rfl
  | second home listed₀ chained₀ chain_main listed' chained' entry' =>
    refine .second (main_eq.trans home) listed₀ chained₀ chain_main (listed listed')
      (chained chained') fun j => ?_
    rw [entry, entry']
    split_ifs <;> rfl
  | evict main displaced listed₀ chained₀ chain_home listed' chained' entry' =>
    refine .evict (main_eq.trans main) displaced listed₀ chained₀ chain_home (listed listed')
      (chained chained') fun j => ?_
    rw [entry, entry']
    split_ifs <;> rfl

/-- Whatever comes of placing an entry, the table stays well linked. -/
theorem wellLinked_place (linked : t.WellLinked) (e : Entry) : (t.place e).2.WellLinked := by
  by_cases capacity : t.capacity = 0
  · rwa [place_of_capacity_zero capacity]
  · by_cases full : t.freeHead = none
    · rwa [place_of_full linked capacity full]
    · obtain ⟨i, u, placed, placing⟩ := place_of_room linked full e
      rw [placed]
      exact placing.wellLinked

end WasmText.SymbolTable
