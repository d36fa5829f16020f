import WasmText.Proofs.SymbolTable.Resizing

/-!
# The order of placements

The slots of a table in the order in which their entries were placed since its slots were last made: first
the entries that were placed again, in the order of their old slots, then those inserted since. An entry
that is displaced keeps its rank. In every chain the first slot is the one placed first, and the others
follow from the last to the second (`InOrder`).
-/
namespace WasmText.SymbolTable

variable {t u r : SymbolTable} {storage : Storage} {order : List Nat}

/-- The order of slots after an entry was placed in slot `i`. -/
def orderPlaced (t : SymbolTable) (i : Nat) (order : List Nat) : List Nat :=
  order.map (t.relocated i) ++ [i]

/-- The order of slots after entries were placed one after another up to the first that fails. -/
def orderAll : List Entry → SymbolTable → List Nat → List Nat
  | [], _, order => order
  | e :: rest, t, order =>
    match t.place e with
    | (.ok i, u) => orderAll rest u (t.orderPlaced i order)
    | (.error _, _) => order

def orderResized (storage : Storage) (t : SymbolTable) (c : Nat) (order : List Nat) : List Nat :=
  if storage.grants c then orderAll t.entries (t.cleared c) [] else order

/-- The table in which an insertion places its entry. -/
def readied (storage : Storage) (t : SymbolTable) : SymbolTable :=
  if t.freeHead.isSome then t else (t.resize storage t.growthSize).2

def orderReadied (storage : Storage) (t : SymbolTable) (order : List Nat) : List Nat :=
  if t.freeHead.isSome then order else t.orderResized storage t.growthSize order

def orderInserted (storage : Storage) (t : SymbolTable) (name : Name) (order : List Nat) : List Nat :=
  match (t.insert storage name).1 with
  | .ok i => (t.readied storage).orderPlaced i (t.orderReadied storage order)
  | .error _ => order

def orderActed (storage : Storage) (t : SymbolTable) (order : List Nat) : Action → List Nat
  | .insert name | .bind name _ => t.orderInserted storage name order
  | .write .. | .copy => order
  | .resize c => t.orderResized storage c order

def orderRun : List (Storage × Action) → SymbolTable → List Nat → List Nat
  | [], _, order => order
  | (storage, action) :: rest, t, order =>
    orderRun rest (t.act storage action).2 (t.orderActed storage order action)

/-- The slot holds an entry whose main slot is the given one. -/
def atHome (t : SymbolTable) (main i : Nat) : Bool :=
  (t.slot i).entry.any fun e => t.mainSlot e.name = main

theorem atHome_iff {main i : Nat} : t.atHome main i = true ↔ t.BelongsTo main i := by
  cases h : (t.slot i).entry <;> simp [atHome, BelongsTo, h]

/-- Chains of one table are the same. -/
theorem Chained.unique {chain chain' : Nat → List Nat} (h : t.Chained chain) (h' : t.Chained chain')
    (main : Nat) : chain main = chain' main := by
  by_cases own : t.BelongsTo main main
  · have follows : ∀ {chain : Nat → List Nat}, t.Chained chain → t.Follows (some main) (chain main) :=
      fun h => follows_iff.mpr ⟨h.walk main (List.ne_nil_of_mem ((h.mem_iff main main).mpr own)),
        fun i hi => ((h.mem_iff main i).mp hi).lt_capacity⟩
    exact (follows h).unique (follows h')
  · rw [h.eq_nil own, h'.eq_nil own]

/-- The slots are those that hold an entry, and each chain has its own of them in the order of their
placement but for the first, after which the latest comes first. -/
structure InOrder (t : SymbolTable) (order : List Nat) : Prop where
  nodup : order.Nodup
  taken : ∀ i ∈ order, (t.slot i).entry ≠ none
  chained : t.Chained fun main => firstThenLatest (order.filter (t.atHome main))

theorem InOrder.mem_iff {i : Nat} (h : t.InOrder order) : i ∈ order ↔ (t.slot i).entry ≠ none := by
  refine ⟨h.taken i, fun occupied => ?_⟩
  obtain ⟨e, he⟩ := Option.ne_none_iff_exists'.mp occupied
  have there := (h.chained.mem_iff _ i).mpr ⟨e, he, rfl⟩
  exact (List.mem_filter.mp ((firstThenLatest_perm _).mem_iff.mp there)).1

theorem inOrder_cleared (t : SymbolTable) (c : Nat) : (t.cleared c).InOrder [] :=
  ⟨.nil, by simp, chained_cleared t c⟩

theorem InOrder.congr (h : t.InOrder order)
    (vacant : ∀ i, (u.slot i).entry = none ↔ (t.slot i).entry = none)
    (belongs : ∀ main i, u.BelongsTo main i ↔ t.BelongsTo main i)
    (next : ∀ i, (u.slot i).next = (t.slot i).next) : u.InOrder order := by
  have same : u.atHome = t.atHome := by
    funext main i
    rw [Bool.eq_iff_iff, atHome_iff, atHome_iff, belongs]
  refine ⟨h.nodup, fun i hi => by simpa [vacant] using h.taken i hi, ?_⟩
  rw [same]
  exact h.chained.congr belongs fun i _ => next i

theorem Placing.atHome_relocated {e : Entry} {i j : Nat} (h : t.Placing e i u)
    (capacity : u.capacity = t.capacity) (occupied : (t.slot j).entry ≠ none) (main : Nat) :
    u.atHome main (t.relocated i j) = t.atHome main j := by
  simp only [atHome, (h.entry_relocated occupied).2, mainSlot_congr capacity]

theorem Placing.atHome_self {e : Entry} {i : Nat} (h : t.Placing e i u)
    (capacity : u.capacity = t.capacity) (main : Nat) :
    u.atHome main i = decide (t.mainSlot e.name = main) := by
  simp [atHome, h.entry_self, mainSlot_congr capacity]

theorem InOrder.placing {e : Entry} {i : Nat} (h : t.InOrder order) (placing : t.Placing e i u)
    (capacity : u.capacity = t.capacity) : u.InOrder (t.orderPlaced i order) := by
  have moved := placing.taken_relocated h.taken
  have members : ∀ main, (t.orderPlaced i order).filter (u.atHome main) =
      (order.filter (t.atHome main)).map (t.relocated i) ++
        if t.mainSlot e.name = main then [i] else [] := by
    intro main
    have same : order.filter (u.atHome main ∘ t.relocated i) = order.filter (t.atHome main) :=
      List.filter_congr fun j hj => placing.atHome_relocated capacity (h.taken j hj) main
    rw [orderPlaced, List.filter_append, List.filter_map, same, List.filter_singleton,
      placing.atHome_self capacity]
    by_cases home : t.mainSlot e.name = main <;> simp [home]
  refine ⟨?_, fun j hj => ?_, ?_⟩
  · have nodup := h.nodup.map_on fun j hj k hk =>
      placing.relocated_injective (h.taken j hj) (h.taken k hk)
    exact List.nodup_append.mpr ⟨nodup, List.nodup_singleton i, fun j hj k hk same =>
      (moved j hj).1 (same.trans (List.mem_singleton.mp hk))⟩
  · rcases List.mem_append.mp hj with hj | hj
    · exact (moved j hj).2
    · obtain rfl := List.mem_singleton.mp hj
      simp [placing.entry_self]
  · obtain ⟨chain, chain', chained, chained', next⟩ := placing.exists_chained
    have same : (fun main => firstThenLatest ((t.orderPlaced i order).filter (u.atHome main))) =
        chain' := funext fun main => by
      rw [members, next main _ (chained.unique h.chained main)]
    rwa [same]

/-- An entry that finds no place leaves the table as it was. -/
theorem eq_of_place_error {e : Entry} {f : Failure} (linked : t.WellLinked)
    (failed : t.place e = (.error f, u)) : u = t := by
  by_cases capacity : t.capacity = 0
  · rw [place_of_capacity_zero capacity] at failed
    exact (congrArg Prod.snd failed).symm
  · by_cases full : t.freeHead = none
    · rw [place_of_full linked capacity full] at failed
      exact (congrArg Prod.snd failed).symm
    · obtain ⟨i, v, placed, -⟩ := place_of_room linked full e
      simp [placed] at failed

theorem InOrder.placeAll {es : List Entry} (h : t.InOrder order) (linked : t.WellLinked) :
    (placeAll es t).2.InOrder (orderAll es t order) := by
  induction es generalizing t order with
  | nil => exact h
  | cons e rest ih =>
    rcases placed : t.place e with ⟨_ | i, u⟩
    · obtain rfl := eq_of_place_error linked placed
      simpa [SymbolTable.placeAll, orderAll, placed] using h
    · have placing := (placing_of_place linked placed).2
      have capacity : u.capacity = t.capacity := by simpa [placed] using capacity_place t e
      simp only [SymbolTable.placeAll, orderAll, placed]
      exact ih (h.placing placing capacity) placing.wellLinked

theorem InOrder.resize (h : t.InOrder order) (storage : Storage) (c : Nat) :
    (t.resize storage c).2.InOrder (t.orderResized storage c order) := by
  rw [SymbolTable.resize, orderResized]
  split
  · exact (inOrder_cleared t c).placeAll (wellLinked_cleared t c)
  · exact h

theorem Readied.eq_readied (h : t.Readied storage r) : r = t.readied storage := by
  cases h with
  | same room => rw [readied, if_pos (Option.isSome_iff_ne_none.mpr room)]
  | grown full resized => rw [readied, if_neg (by simp [full]), resized]

theorem InOrder.readied (h : t.InOrder order) (ready : t.Readied storage r) :
    r.InOrder (t.orderReadied storage order) := by
  cases ready with
  | same room => rwa [orderReadied, if_pos (Option.isSome_iff_ne_none.mpr room)]
  | grown full resized =>
    rw [orderReadied, if_neg (by simp [full])]
    simpa [resized] using h.resize storage t.growthSize

theorem InOrder.insert (h : t.InOrder order) (sound : t.Sound) (storage : Storage) (name : Name) :
    (t.insert storage name).2.InOrder (t.orderInserted storage name order) := by
  rcases insert_cases sound.linked sound.initial storage name with
    ⟨-, -, inserted⟩ | ⟨r, i, u, ready, placing, capacity, -, -, inserted⟩
  · simpa [orderInserted, inserted] using h
  · simp only [orderInserted, inserted, ← ready.eq_readied]
    exact (h.readied ready).placing placing capacity

theorem InOrder.setIndex (h : t.InOrder order) (i : Nat) (index : UInt32) :
    (t.setIndex i index).InOrder order := by
  refine h.congr (fun j => ?_) (belongsTo_setIndex t i index) (by simp [slot_setIndex])
  by_cases hj : i = j <;> simp [slot_setIndex, hj]

theorem InOrder.act (h : t.InOrder order) (sound : t.Sound) (storage : Storage) (action : Action) :
    (t.act storage action).2.InOrder (t.orderActed storage order action) := by
  cases action with
  | insert name => exact h.insert sound storage name
  | bind name index =>
    have inserted := h.insert sound storage name
    rcases outcome : t.insert storage name with ⟨_ | i, u⟩
    · rw [outcome] at inserted
      simpa [SymbolTable.act, bind, orderActed, outcome] using inserted
    · rw [outcome] at inserted
      simpa [SymbolTable.act, bind, orderActed, outcome] using inserted.setIndex i index
  | write i index => exact h.setIndex i index
  | copy => exact h
  | resize c => exact h.resize storage c

theorem inOrder_start (requested : Nat) : (withInitialCapacity requested).InOrder [] := by
  rw [← cleared_withInitialCapacity]
  exact inOrder_cleared _ 0

theorem InOrder.run (h : t.InOrder order) (sound : t.Sound) (steps : List (Storage × Action)) :
    (run steps t).InOrder (orderRun steps t order) := by
  induction steps generalizing t order with
  | nil => exact h
  | cons step rest ih =>
    exact ih (h.act sound step.1 step.2) (sound_act sound step.1 step.2)

theorem inOrder_run (requested : Nat) (steps : List (Storage × Action)) :
    (run steps (withInitialCapacity requested)).InOrder
      (orderRun steps (withInitialCapacity requested) []) :=
  (inOrder_start requested).run (sound_start requested) steps

end WasmText.SymbolTable
