import WasmText.Proofs.SymbolTable.PlacementOrder

/-!
# Which entry of a name is found

The placements of a table are the entries that its last resizing placed again, in the order of their old
slots, and then those that were inserted since (`placements_resize`, `placements_bound`). Among the entries
of a main slot the one placed first is at the head of the chain, and every later one comes right behind it.
So a name that the first of them bears is found there, and any other name where it was placed last
(`lookup_of_run`).
-/
namespace WasmText.SymbolTable

variable {t u r : SymbolTable} {storage : Storage} {order : List Nat}

def entriesAt (t : SymbolTable) (order : List Nat) : List Entry :=
  order.filterMap fun i => (t.slot i).entry

/-- The entries that a run leaves in the table, in the order in which they were placed since its slots were
last made. -/
def placements (steps : List (Storage × Action)) (t : SymbolTable) : List Entry :=
  (run steps t).entriesAt (orderRun steps t [])

theorem InOrder.entriesAt_placing {e : Entry} {i : Nat} (h : t.InOrder order)
    (placing : t.Placing e i u) : u.entriesAt (t.orderPlaced i order) = t.entriesAt order ++ [e] := by
  rw [entriesAt, orderPlaced, List.filterMap_append, placing.filterMap_relocated h.taken]
  simp [entriesAt, placing.entry_self]

/-- Entries are placed behind one another until no slot is left. -/
theorem InOrder.entriesAt_placeAll {es : List Entry} (h : t.InOrder order) (linked : t.WellLinked) :
    (SymbolTable.placeAll es t).2.entriesAt (orderAll es t order) =
      t.entriesAt order ++ es.take (t.capacity - t.entries.length) := by
  induction es generalizing t order with
  | nil => simp [SymbolTable.placeAll, orderAll]
  | cons e rest ih =>
    by_cases room : t.freeHead = none
    · have full : t.entries.length = t.capacity := (freeHead_eq_none_iff_length linked).mp room
      rcases placed : t.place e with ⟨_ | i, u⟩
      · obtain rfl := eq_of_place_error linked placed
        simp [SymbolTable.placeAll, orderAll, placed, full]
      · exact absurd room (placing_of_place linked placed).1
    · obtain ⟨i, u, placed, placing⟩ := place_of_room linked room e
      have capacity : u.capacity = t.capacity := by simpa [placed] using capacity_place t e
      have length := (placing.perm capacity).length_eq
      have fewer := length_entries_le u
      rw [List.length_cons] at length
      obtain ⟨left, more⟩ : ∃ n, t.capacity - t.entries.length = n + 1 :=
        ⟨t.capacity - u.entries.length, by omega⟩
      have left_eq : u.capacity - u.entries.length = left := by omega
      simp only [SymbolTable.placeAll, orderAll, placed]
      rw [ih (h.placing placing capacity) placing.wellLinked, h.entriesAt_placing placing, left_eq,
        more, List.take_succ_cons, List.append_assoc, List.singleton_append]

theorem entriesAt_resize {c : Nat} (granted : storage.grants c = true) (t : SymbolTable)
    (order : List Nat) :
    (t.resize storage c).2.entriesAt (t.orderResized storage c order) = t.entries.take c := by
  rw [SymbolTable.resize, orderResized, if_pos granted, if_pos granted,
    (inOrder_cleared t c).entriesAt_placeAll (wellLinked_cleared t c)]
  simp [entriesAt]

/-- Growing places all entries again, so they come in the order of their slots. -/
theorem entriesAt_readied (ready : t.Readied storage r) (initial : 0 < t.initialCapacity)
    (order : List Nat) : r.entriesAt (t.orderReadied storage order) =
      if t.freeHead = none then t.entries else t.entriesAt order := by
  cases ready with
  | same room => rw [orderReadied, if_pos (Option.isSome_iff_ne_none.mpr room), if_neg room]
  | grown full resized =>
    have granted : storage.grants t.growthSize = true := by
      by_contra refused
      simp [resize_refused (Bool.not_eq_true _ ▸ refused)] at resized
    have fewer := length_entries_le t
    have larger := capacity_lt_growthSize initial
    have again := entriesAt_resize granted t order
    rw [resized, List.take_of_length_le (by omega)] at again
    rw [orderReadied, if_neg (by simp [full]), if_pos full, again]

/-- An insertion that succeeds places its entry last. -/
theorem InOrder.entriesAt_act {action : Action} {e : Entry} (h : t.InOrder order) (sound : t.Sound)
    (asks : action.bound = some e) (done : (t.act storage action).1 = .ok ()) :
    (t.act storage action).2.entriesAt (t.orderActed storage order action) =
      (if t.freeHead = none then t.entries else t.entriesAt order) ++ [e] := by
  cases action with
  | insert name =>
    obtain rfl := Option.some.inj asks
    rcases insert_cases sound.linked sound.initial storage name with
      ⟨-, -, inserted⟩ | ⟨r, i, u, ready, placing, -, -, -, inserted⟩
    · simp [SymbolTable.act, inserted, Except.map] at done
    · simp only [SymbolTable.act, orderActed, orderInserted, inserted, ← ready.eq_readied]
      rw [(h.readied ready).entriesAt_placing placing, entriesAt_readied ready sound.initial]
  | bind name index =>
    obtain rfl := Option.some.inj asks
    rcases insert_cases sound.linked sound.initial storage name with
      ⟨-, -, inserted⟩ | ⟨r, i, u, ready, placing, -, -, -, inserted⟩
    · simp [SymbolTable.act, bind, inserted] at done
    · simp only [SymbolTable.act, bind, orderActed, orderInserted, inserted, ← ready.eq_readied]
      rw [(h.readied ready).entriesAt_placing (placing.setIndex index),
        entriesAt_readied ready sound.initial]
  | _ => simp [Action.bound] at asks

theorem entriesAt_cons {e : Entry} {j : Nat} (occupied : (t.slot j).entry = some e) (rest : List Nat) :
    t.entriesAt (j :: rest) = e :: t.entriesAt rest := by
  simp [entriesAt, occupied]

theorem entriesAt_setIndex_of_not_mem {i : Nat} (absent : i ∉ order) (index : UInt32) :
    (t.setIndex i index).entriesAt order = t.entriesAt order := by
  refine List.filterMap_congr fun j hj => ?_
  have apart : i ≠ j := fun same => absent (same ▸ hj)
  simp [slot_setIndex, apart]

/-- Writing a position changes the entry of its slot where that was placed. -/
theorem entriesAt_setIndex (nodup : order.Nodup) (taken : ∀ j ∈ order, (t.slot j).entry ≠ none) (i : Nat)
    (index : UInt32) : (t.setIndex i index).entriesAt order =
      (t.entriesAt order).modify (order.idxOf i) fun e => { e with index := index } := by
  induction order with
  | nil => rfl
  | cons j rest ih =>
    obtain ⟨e, occupied⟩ := Option.ne_none_iff_exists'.mp (taken j (by simp))
    obtain ⟨absent, nodup_rest⟩ := List.nodup_cons.mp nodup
    by_cases here : j = i
    · subst j
      have written : ((t.setIndex i index).slot i).entry = some { e with index := index } := by
        simp [slot_setIndex, occupied]
      rw [entriesAt_cons written, entriesAt_cons occupied, entriesAt_setIndex_of_not_mem absent,
        List.idxOf_cons_self, List.modify_zero_cons]
    · have kept : ((t.setIndex i index).slot j).entry = some e := by
        simp [slot_setIndex, occupied, Ne.symm here]
      have later := ih nodup_rest fun k hk => taken k (by simp [hk])
      rw [entriesAt_cons kept, entriesAt_cons occupied, later, List.idxOf_cons_ne rest here,
        List.modify_succ_cons]

/-- The entries in the order of their placement are the entries of the table. -/
theorem InOrder.perm_entries (h : t.InOrder order) : (t.entriesAt order).Perm t.entries := by
  have members : order.Perm ((List.range t.capacity).filter fun i => (t.slot i).entry.isSome) := by
    refine (List.perm_ext_iff_of_nodup h.nodup (List.nodup_range.filter _)).mpr fun i => ?_
    rw [h.mem_iff, List.mem_filter, List.mem_range, Option.isSome_iff_ne_none]
    exact ⟨fun taken => ⟨lt_capacity_of_occupied taken, taken⟩, And.right⟩
  have taken : ((List.range t.capacity).filter fun i => (t.slot i).entry.isSome).filterMap
      (fun i => (t.slot i).entry) = t.entries := by
    rw [entries_eq_filterMap, List.filterMap_filter]
    refine List.filterMap_congr fun i _ => ?_
    cases (t.slot i).entry <;> rfl
  exact taken ▸ members.filterMap _

/-- The chain of a main slot starts with the entry that was placed first among its own; the others follow
from the last on. -/
theorem InOrder.chain_eq (h : t.InOrder order) (main : Nat) : t.chain main =
    firstThenLatest ((t.entriesAt order).filter fun e => t.mainSlot e.name = main) := by
  have own : (t.entriesAt order).filter (fun e => t.mainSlot e.name = main) =
      (order.filter (t.atHome main)).filterMap fun i => (t.slot i).entry := by
    rw [entriesAt, List.filter_filterMap, List.filterMap_filter]
    refine List.filterMap_congr fun i _ => ?_
    cases occupied : (t.slot i).entry with
    | none => simp [atHome, occupied]
    | some e => simp [atHome, occupied, Option.filter]
  rw [h.chained.chain_eq, own, firstThenLatest_filterMap]
  exact fun i hi => h.taken i (List.mem_filter.mp hi).1

/-- Entries of a name are among those of its main slot. -/
theorem filter_mainSlot_name (t : SymbolTable) (name : Name) (es : List Entry) :
    (es.filter fun e => t.mainSlot e.name = t.mainSlot name).filter (·.name = name) =
      es.filter (·.name = name) := by
  rw [List.filter_filter]
  refine List.filter_congr fun e _ => ?_
  by_cases named : e.name = name <;> simp [named]

/-- Of the entries of a main slot the one placed first is found under its name, and under any other name
the one placed last. -/
theorem InOrder.lookup_eq {e : Entry} (h : t.InOrder order) (linked : t.WellLinked)
    (member : e ∈ t.entries) :
    ∃ first, (t.entriesAt order).find? (fun e' => t.mainSlot e'.name = t.mainSlot e.name) = some first ∧
      (first.name = e.name → t.lookup e.name = some first.index) ∧
      (first.name ≠ e.name → ∃ last,
        ((t.entriesAt order).filter (·.name = e.name)).getLast? = some last ∧
        t.lookup e.name = some last.index) := by
  have placed : e ∈ t.entriesAt order := h.perm_entries.mem_iff.mpr member
  cases own : (t.entriesAt order).filter fun e' => t.mainSlot e'.name = t.mainSlot e.name with
  | nil => simpa using List.filter_eq_nil_iff.mp own e placed
  | cons first rest =>
    have found : t.lookup e.name = (if first.name = e.name then some first
        else ((t.entriesAt order).filter (·.name = e.name)).getLast?).map Entry.index := by
      rw [lookup_eq_find? linked, h.chain_eq, own, find?_firstThenLatest, ← own, filter_mainSlot_name]
      simp only [decide_eq_true_eq]
    refine ⟨first, by rw [← List.head?_filter, own, List.head?_cons], fun named => ?_, fun other => ?_⟩
    · rw [found, if_pos named, Option.map_some]
    · have named : e ∈ (t.entriesAt order).filter (·.name = e.name) :=
        List.mem_filter.mpr ⟨placed, by simp⟩
      have last := List.getLast?_eq_some_getLast (List.ne_nil_of_mem named)
      exact ⟨_, last, by rw [found, if_neg other, last, Option.map_some]⟩

/-- With storage a resizing fails only for want of slots. -/
theorem refused_of_resize {c slots : Nat} (failed : (t.resize storage c).1 = .error (.refused slots)) :
    storage.grants c = false := by
  by_contra granted
  rw [Bool.not_eq_false] at granted
  rcases Nat.lt_or_ge c t.entries.length with fewer_slots | enough
  · rcases Nat.eq_zero_or_pos c with rfl | pos
    · rw [resize_of_no_slots granted (List.ne_nil_of_length_pos fewer_slots)] at failed
      simp at failed
    · obtain ⟨u, resized, -⟩ := resize_of_overfull granted pos fewer_slots
      simp [resized] at failed
  · obtain ⟨u, resized⟩ := resize_of_room granted enough
    simp [resized] at failed

/-- What is refused changes neither the table nor the order. -/
theorem act_of_refused {action : Action} {slots : Nat} (sound : t.Sound)
    (refused : (t.act storage action).1 = .error (.refused slots)) (order : List Nat) :
    (t.act storage action).2 = t ∧ t.orderActed storage order action = order := by
  cases action with
  | insert name =>
    rcases insert_cases sound.linked sound.initial storage name with
      ⟨-, -, inserted⟩ | ⟨r, i, u, -, -, -, -, -, inserted⟩
    · simp [act, orderActed, orderInserted, inserted]
    · simp [act, inserted, Except.map] at refused
  | bind name index =>
    rcases insert_cases sound.linked sound.initial storage name with
      ⟨-, -, inserted⟩ | ⟨r, i, u, -, -, -, -, -, inserted⟩
    · simp [act, bind, orderActed, orderInserted, inserted]
    · simp [act, bind, inserted] at refused
  | write i index => simp [act] at refused
  | copy => simp [act] at refused
  | resize c =>
    have denied : storage.grants c = false := refused_of_resize refused
    simp [act, orderActed, orderResized, resize_refused denied, denied]

theorem run_snoc (steps : List (Storage × Action)) (step : Storage × Action) (t : SymbolTable) :
    run (steps ++ [step]) t = ((run steps t).act step.1 step.2).2 := by
  simp [run]

theorem orderRun_snoc (steps : List (Storage × Action)) (step : Storage × Action) (t : SymbolTable)
    (order : List Nat) : orderRun (steps ++ [step]) t order =
      (run steps t).orderActed step.1 (orderRun steps t order) step.2 := by
  induction steps generalizing t order with
  | nil => rfl
  | cons first rest ih => exact ih _ _

section Laws

variable (requested : Nat) (steps : List (Storage × Action)) (storage : Storage)

/-- An insertion that succeeds places its entry last, and where the table had to grow, behind all the others in
the order of their slots. -/
theorem placements_bound {action : Action} {e : Entry} (asks : action.bound = some e)
    (done : ((run steps (withInitialCapacity requested)).act storage action).1 = .ok ()) :
    placements (steps ++ [(storage, action)]) (withInitialCapacity requested) =
      (if (run steps (withInitialCapacity requested)).freeHead = none
        then (run steps (withInitialCapacity requested)).entries
        else placements steps (withInitialCapacity requested)) ++ [e] := by
  simp only [placements, run_snoc, orderRun_snoc]
  exact (inOrder_run requested steps).entriesAt_act (sound_run (sound_start requested) steps) asks done

/-- A resizing that gets storage places entries again, in the order of their slots, while there is room. -/
theorem placements_resize {c : Nat} (granted : storage.grants c = true) :
    placements (steps ++ [(storage, .resize c)]) (withInitialCapacity requested) =
      (run steps (withInitialCapacity requested)).entries.take c := by
  simp only [placements, run_snoc, orderRun_snoc]
  exact entriesAt_resize granted _ _

/-- What is refused changes no placement. -/
theorem placements_refused {action : Action} {slots : Nat}
    (refused : ((run steps (withInitialCapacity requested)).act storage action).1 =
      .error (.refused slots)) :
    placements (steps ++ [(storage, action)]) (withInitialCapacity requested) =
      placements steps (withInitialCapacity requested) := by
  obtain ⟨same, kept⟩ := act_of_refused (sound_run (sound_start requested) steps) refused
    (orderRun steps (withInitialCapacity requested) [])
  simp only [placements, run_snoc, orderRun_snoc, same, kept]

/-- Writing a position changes the entry of its slot, and no entry changes its place. -/
theorem placements_write (i : Nat) (index : UInt32) :
    placements (steps ++ [(storage, .write i index)]) (withInitialCapacity requested) =
      (placements steps (withInitialCapacity requested)).modify
        ((orderRun steps (withInitialCapacity requested) []).idxOf i) fun e => { e with index := index } := by
  have ordered := inOrder_run requested steps
  simp only [placements, run_snoc, orderRun_snoc]
  exact entriesAt_setIndex ordered.nodup ordered.taken i index

theorem placements_copy :
    placements (steps ++ [(storage, .copy)]) (withInitialCapacity requested) =
      placements steps (withInitialCapacity requested) := by
  simp only [placements, run_snoc, orderRun_snoc, act, orderActed]

end Laws

/-- After any run, the placements are the entries of the table: those that the last resizing placed again, and
behind them every one that was inserted since. Writing a position changes the entry of its slot and none of
their places, and a copy and what is refused change nothing. A name with an entry is found at the entry placed first among
those of its main slot if that one has the name, and otherwise at the entry of the name that was placed last. -/
theorem lookup_of_run (requested : Nat) (steps : List (Storage × Action)) :
    let start := withInitialCapacity requested
    let t := run steps start
    let placed := placements steps start
    placed.Perm t.entries ∧
    (∀ storage c, storage.grants c = true →
      placements (steps ++ [(storage, .resize c)]) start = t.entries.take c) ∧
    (∀ storage action e, action.bound = some e → (t.act storage action).1 = .ok () →
      placements (steps ++ [(storage, action)]) start =
        (if t.freeHead = none then t.entries else placed) ++ [e]) ∧
    (∀ storage action slots, (t.act storage action).1 = .error (.refused slots) →
      placements (steps ++ [(storage, action)]) start = placed) ∧
    (∀ storage i index, placements (steps ++ [(storage, .write i index)]) start =
      placed.modify ((orderRun steps start []).idxOf i) fun e => { e with index := index }) ∧
    (∀ storage, placements (steps ++ [(storage, .copy)]) start = placed) ∧
    ∀ name, (∃ e ∈ t.entries, e.name = name) →
      ∃ first, placed.find? (fun e => t.mainSlot e.name = t.mainSlot name) = some first ∧
        (first.name = name → t.lookup name = some first.index) ∧
        (first.name ≠ name → ∃ last, (placed.filter (·.name = name)).getLast? = some last ∧
          t.lookup name = some last.index) := by
  intro start t placed
  have sound : t.Sound := sound_run (sound_start requested) steps
  have ordered := inOrder_run requested steps
  refine ⟨ordered.perm_entries, fun storage c granted => placements_resize requested steps storage granted,
    fun storage action e asks done => placements_bound requested steps storage asks done,
    fun storage action slots refused => placements_refused requested steps storage refused,
    placements_write requested steps, placements_copy requested steps, ?_⟩
  rintro _ ⟨e, member, rfl⟩
  exact ordered.lookup_eq sound.linked member

/-- Two names of one main slot, the second of them bound twice, and then the same number of slots again. -/
def rehashing : List (Storage × Action) :=
  [.bind ⟨[97]⟩ 1, .bind ⟨[101]⟩ 2, .bind ⟨[101]⟩ 3, .resize 4].map (.addressSpace, ·)

theorem lookup_rehashing :
    (run (rehashing.take 3) (withInitialCapacity 4)).lookup ⟨[97]⟩ = some 1 ∧
    (run (rehashing.take 3) (withInitialCapacity 4)).lookup ⟨[101]⟩ = some 3 ∧
    placements (rehashing.take 3 ++ [(.addressSpace, .bind ⟨[97]⟩ 4)]) (withInitialCapacity 4) =
      placements (rehashing.take 3) (withInitialCapacity 4) ++ [⟨⟨[97]⟩, 4⟩] ∧
    placements (rehashing.take 3 ++ [(.ofMemory 0, .resize 4)]) (withInitialCapacity 4) =
      placements (rehashing.take 3) (withInitialCapacity 4) ∧
    placements rehashing (withInitialCapacity 4) = [⟨⟨[97]⟩, 1⟩, ⟨⟨[101]⟩, 3⟩, ⟨⟨[101]⟩, 2⟩] ∧
    placements (rehashing ++ [(.addressSpace, .write 3 7)]) (withInitialCapacity 4) =
      [⟨⟨[97]⟩, 1⟩, ⟨⟨[101]⟩, 7⟩, ⟨⟨[101]⟩, 2⟩] ∧
    (run rehashing (withInitialCapacity 4)).lookup ⟨[101]⟩ = some 2 := by
  have placed : placements (rehashing.take 3) (withInitialCapacity 4) =
      [⟨⟨[97]⟩, 1⟩, ⟨⟨[101]⟩, 2⟩, ⟨⟨[101]⟩, 3⟩] := by decide +kernel
  have room : (run (rehashing.take 3) (withInitialCapacity 4)).freeHead ≠ none := by decide +kernel
  obtain ⟨perm, resized, bound, refused, -, -, looked⟩ := lookup_of_run 4 (rehashing.take 3)
  obtain ⟨perm', -, -, -, written, -, looked'⟩ := lookup_of_run 4 rehashing
  have again : placements rehashing (withInitialCapacity 4) =
      [⟨⟨[97]⟩, 1⟩, ⟨⟨[101]⟩, 3⟩, ⟨⟨[101]⟩, 2⟩] :=
    (resized .addressSpace 4 (by decide)).trans (by decide +kernel)
  rw [placed] at perm looked
  rw [again] at perm' looked'
  refine ⟨?_, ?_, ?_, refused (.ofMemory 0) (.resize 4) 4 (by decide +kernel), again, ?_, ?_⟩
  · obtain ⟨first, found, named, -⟩ := looked ⟨[97]⟩ ⟨⟨⟨[97]⟩, 1⟩, perm.mem_iff.mp (by simp), rfl⟩
    obtain rfl : ⟨⟨[97]⟩, 1⟩ = first := Option.some.inj (found ▸ by decide +kernel)
    exact named rfl
  · obtain ⟨first, found, -, other⟩ := looked ⟨[101]⟩ ⟨⟨⟨[101]⟩, 2⟩, perm.mem_iff.mp (by simp), rfl⟩
    obtain rfl : ⟨⟨[97]⟩, 1⟩ = first := Option.some.inj (found ▸ by decide +kernel)
    obtain ⟨last, latest, index⟩ := other (by decide)
    obtain rfl : ⟨⟨[101]⟩, 3⟩ = last := Option.some.inj (latest ▸ by decide)
    exact index
  · rw [bound .addressSpace (.bind ⟨[97]⟩ 4) ⟨⟨[97]⟩, 4⟩ rfl (by decide +kernel), if_neg room]
  · rw [written .addressSpace 3 7, again]
    decide +kernel
  · obtain ⟨first, found, -, other⟩ :=
      looked' ⟨[101]⟩ ⟨⟨⟨[101]⟩, 2⟩, perm'.mem_iff.mp (by simp), rfl⟩
    obtain rfl : ⟨⟨[97]⟩, 1⟩ = first := Option.some.inj (found ▸ by decide +kernel)
    obtain ⟨last, latest, index⟩ := other (by decide)
    obtain rfl : ⟨⟨[101]⟩, 2⟩ = last := Option.some.inj (latest ▸ by decide)
    exact index

end WasmText.SymbolTable
