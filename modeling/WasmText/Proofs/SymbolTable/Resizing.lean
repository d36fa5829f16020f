import Mathlib.Data.List.Perm.Basic
import WasmText.Proofs.SymbolTable.Bucket
import WasmText.Proofs.SymbolTable.Invariant

/-!
# Resizing to any number of slots

Entries are placed again in slot order until the slots are used up, and not before: a resizing fails
exactly when there are more entries than slots, and then keeps as many as there are slots
(`resize_of_overfull`). Since nothing else loses an entry, the count of a table exceeds its entries by
those that failed resizings have dropped (`resize_of_run`).
-/
namespace WasmText.SymbolTable

variable {t u : SymbolTable} {storage : Storage}

theorem placeAll_append {es : List Entry} (placed : placeAll es t = (.ok (), u)) (more : List Entry) :
    placeAll (es ++ more) t = placeAll more u := by
  induction es generalizing t with
  | nil =>
    obtain rfl : t = u := congrArg Prod.snd placed
    rfl
  | cons e rest ih =>
    rcases first : t.place e with ⟨_ | _, v⟩
    · simp [placeAll, first] at placed
    · simp only [placeAll, first] at placed
      simp only [List.cons_append, placeAll, first]
      exact ih placed

theorem wellLinked_of_placeAll {es : List Entry} (linked : t.WellLinked)
    (placed : placeAll es t = (.ok (), u)) : u.WellLinked := by
  simpa [placed] using wellLinked_placeAll linked es

theorem capacity_of_placeAll {es : List Entry} (placed : placeAll es t = (.ok (), u)) :
    u.capacity = t.capacity := by
  simpa [placed] using capacity_placeAll es t

/-- Of more entries than there are free slots, the first are placed until the table is full. -/
theorem placeAll_of_overfull {es : List Entry} (linked : t.WellLinked) (zero : t.capacity ≠ 0)
    (fewer_slots : t.capacity < t.entries.length + es.length) :
    ∃ u, placeAll es t = (.error .noFreeSlot, u) ∧ u.WellLinked ∧ u.freeHead = none ∧
      u.entries.Perm (es.take (t.capacity - t.entries.length) ++ t.entries) := by
  have fewer := length_entries_le t
  have split := List.take_append_drop (t.capacity - t.entries.length) es
  have fitting : (es.take (t.capacity - t.entries.length)).length =
      t.capacity - t.entries.length := List.length_take_of_le (by omega)
  obtain ⟨u, placed⟩ : ∃ u, placeAll (es.take (t.capacity - t.entries.length)) t = (.ok (), u) :=
    placeAll_of_room linked (by omega)
  have linked_u := wellLinked_of_placeAll linked placed
  have capacity := capacity_of_placeAll placed
  have perm := perm_placeAll linked placed
  have full : u.freeHead = none := by
    have length := perm.length_eq
    rw [List.length_append] at length
    rw [freeHead_eq_none_iff_length linked_u]
    omega
  refine ⟨u, ?_, linked_u, full, perm⟩
  rw [← split, placeAll_append placed]
  cases rest : es.drop (t.capacity - t.entries.length) with
  | nil =>
    have := List.drop_eq_nil_iff.mp rest
    omega
  | cons e behind => simp [placeAll, place_of_full linked_u (by omega) full]

/-- A resizing to fewer slots than entries, but not to none, ends with a full table of the first entries. -/
theorem resize_of_overfull {c : Nat} (granted : storage.grants c = true) (pos : 0 < c)
    (fewer_slots : c < t.entries.length) :
    ∃ u, t.resize storage c = (.error .noFreeSlot, u) ∧ u.WellLinked ∧ u.freeHead = none ∧
      u.entries.Perm (t.entries.take c) := by
  have zero : (t.cleared c).capacity ≠ 0 := by
    rw [capacity_cleared]
    omega
  have too_many : (t.cleared c).capacity < (t.cleared c).entries.length + t.entries.length := by simpa
  obtain ⟨u, placed, linked, full, perm⟩ := placeAll_of_overfull (wellLinked_cleared t c) zero too_many
  exact ⟨u, by rw [resize, if_pos granted, placed], linked, full, by simpa using perm⟩

/-- Without slots there is no main slot for the first entry. -/
theorem resize_of_no_slots (granted : storage.grants 0 = true) (some_entry : t.entries ≠ []) :
    t.resize storage 0 = (.error .noSlots, t.cleared 0) := by
  rw [resize, if_pos granted]
  cases entries : t.entries with
  | nil => exact absurd entries some_entry
  | cons e rest => simp [placeAll, place_of_capacity_zero (t := t.cleared 0) (by simp)]

/-- Entries of a name that no two of them have are the same. -/
theorem eq_of_name_once {es : List Entry} {e e' : Entry} {name : Name}
    (once : (es.map Entry.name).count name ≤ 1) (he : e ∈ es) (he' : e' ∈ es)
    (named : e.name = name) (named' : e'.name = name) : e = e' := by
  have length : (es.filter (·.name == name)).length ≤ 1 := by
    rw [← List.countP_eq_length_filter]
    simpa [List.count_eq_countP, List.countP_map, Function.comp_def] using once
  have mem : ∀ {a}, a ∈ es → a.name = name → a ∈ es.filter (·.name == name) := fun ha hn =>
    List.mem_filter.mpr ⟨ha, by simpa using hn⟩
  obtain ⟨a, only⟩ := List.length_eq_one_iff.mp
    (Nat.le_antisymm length (List.length_pos_of_mem (mem he named)))
  have eq_a : ∀ {b}, b ∈ es → b.name = name → b = a := fun hb hn => by
    simpa [only] using mem hb hn
  rw [eq_a he named, eq_a he' named']

/-- Tables of the same entries find the same under a name that no two of these have. -/
theorem lookup_eq_of_perm {name : Name} (linked : t.WellLinked) (linked_u : u.WellLinked)
    (perm : u.entries.Perm t.entries) (once : (t.entries.map Entry.name).count name ≤ 1) :
    u.lookup name = t.lookup name := by
  have absent : u.lookup name = none ↔ t.lookup name = none := by
    rw [lookup_eq_none_iff linked_u, lookup_eq_none_iff linked]
    simp only [perm.mem_iff]
  cases looked : t.lookup name with
  | none => exact absent.mpr looked
  | some i =>
    cases looked_u : u.lookup name with
    | none => rw [absent.mp looked_u] at looked; simp at looked
    | some j =>
      have found := mem_entries_of_lookup looked
      have found_u := perm.mem_iff.mp (mem_entries_of_lookup looked_u)
      have same := eq_of_name_once once found_u found rfl rfl
      simpa using same

/-- The entries that an action drops: those that a resizing which failed has not placed again. -/
def dropped (storage : Storage) (t : SymbolTable) : Action → Nat
  | .resize c =>
    match t.resize storage c with
    | (.ok (), _) => 0
    | (.error _, u) => t.entries.length - u.entries.length
  | _ => 0

/-- The entries that the actions of a run drop. -/
def droppedIn : List (Storage × Action) → SymbolTable → Nat
  | [], _ => 0
  | (storage, action) :: rest, t =>
    t.dropped storage action + droppedIn rest (t.act storage action).2

/-- However a resizing ends, it adds no entry. -/
theorem length_entries_resize_le (t : SymbolTable) (storage : Storage) (c : Nat) :
    (t.resize storage c).2.entries.length ≤ t.entries.length := by
  cases granted : storage.grants c with
  | false => simp [resize_refused granted]
  | true =>
    rcases Nat.lt_or_ge c t.entries.length with fewer_slots | enough
    · have fewer := length_entries_le (t.resize storage c).2
      rw [capacity_resize granted] at fewer
      omega
    · obtain ⟨u, resized⟩ := resize_of_room granted enough
      rw [resized]
      exact Nat.le_of_eq (perm_resize resized).length_eq

theorem length_entries_setIndex (t : SymbolTable) (i : Nat) (index : UInt32) :
    (t.setIndex i index).entries.length = t.entries.length := by
  have capacity : (t.setIndex i index).capacity = t.capacity := by simp [setIndex]
  rw [entries_eq_filterMap, entries_eq_filterMap, capacity, List.length_filterMap_eq_countP,
    List.length_filterMap_eq_countP]
  refine List.countP_congr fun j _ => ?_
  rw [slot_setIndex]
  by_cases hj : i = j <;> simp [hj]

/-- An action that adds an entry counts it, and the count keeps the entries that are dropped. -/
theorem len_act (sound : t.Sound) (storage : Storage) (action : Action) :
    (t.act storage action).2.len + t.entries.length =
      t.len + (t.act storage action).2.entries.length + t.dropped storage action := by
  cases action with
  | insert name =>
    rcases insert_cases sound.linked sound.initial storage name with
      ⟨-, -, inserted⟩ | ⟨r, i, u, ready, placing, capacity, len, -, inserted⟩
    · simp [act, inserted, dropped]
    · have length := (placing.perm capacity).length_eq
      rw [List.length_cons, ready.perm.length_eq] at length
      simp only [act, inserted, dropped]
      omega
  | bind name index =>
    rcases bind_cases sound.linked sound.initial storage name index with
      ⟨-, -, bound⟩ | ⟨r, i, u, ready, placing, capacity, len, -, bound⟩
    · simp [act, bound, dropped]
    · have length := (placing.perm capacity).length_eq
      rw [List.length_cons, ready.perm.length_eq] at length
      simp only [act, bound, dropped]
      omega
  | write i index =>
    have length := length_entries_setIndex t i index
    have len : (t.setIndex i index).len = t.len := rfl
    simp only [act, dropped]
    omega
  | copy => simp [act, dropped]
  | resize c =>
    have len := len_resize storage t c
    have fewer := length_entries_resize_le t storage c
    simp only [act, dropped]
    rcases resized : t.resize storage c with ⟨_ | _, u⟩
    · rw [resized] at len fewer
      simp only at len fewer ⊢
      omega
    · rw [resized] at len
      simp only at len ⊢
      rw [len, (perm_resize resized).length_eq]
      omega

theorem Sound.len_run (sound : t.Sound) (steps : List (Storage × Action)) :
    (run steps t).len + t.entries.length =
      t.len + (run steps t).entries.length + droppedIn steps t := by
  induction steps generalizing t with
  | nil => simp [run, droppedIn]
  | cons step rest ih =>
    have first := len_act sound step.1 step.2
    have next := ih (sound_act sound step.1 step.2)
    have unfolded : run (step :: rest) t = run rest (t.act step.1 step.2).2 := rfl
    rw [unfolded, droppedIn]
    omega

theorem droppedIn_eq_zero {steps : List (Storage × Action)}
    (resized : ∀ before storage c behind, steps = before ++ (storage, .resize c) :: behind →
      ((run before t).resize storage c).1 = .ok ()) : droppedIn steps t = 0 := by
  induction steps generalizing t with
  | nil => rfl
  | cons step rest ih =>
    obtain ⟨storage, action⟩ := step
    have later : droppedIn rest (t.act storage action).2 = 0 :=
      ih fun before storage' c behind split =>
        resized ((storage, action) :: before) storage' c behind (by rw [split, List.cons_append])
    have now : t.dropped storage action = 0 := by
      cases action with
      | resize c =>
        have ok : (t.resize storage c).1 = .ok () := resized [] storage c rest rfl
        rcases outcome : t.resize storage c with ⟨_ | _, u⟩
        · simp [outcome] at ok
        · simp [dropped, outcome]
      | _ => rfl
    rw [droppedIn, now, later]

/-- After any run, a resizing succeeds and keeps all entries when there are as many slots as entries; with
fewer it fails and keeps the first ones that fill the slots, or none for want of a slot; where storage is
refused it changes nothing. The count of entries exceeds the entries by those that such failures dropped. -/
theorem resize_of_run (requested : Nat) (steps : List (Storage × Action)) :
    let t := run steps (withInitialCapacity requested)
    (∀ storage c, storage.grants c = true → t.entries.length ≤ c →
      ∃ u, t.resize storage c = (.ok (), u) ∧ u.capacity = c ∧ u.entries.Perm t.entries ∧
        u.len = t.len ∧
        ∀ name, (t.entries.map Entry.name).count name ≤ 1 → u.lookup name = t.lookup name) ∧
    (∀ storage c, storage.grants c = true → 0 < c → c < t.entries.length →
      ∃ u, t.resize storage c = (.error .noFreeSlot, u) ∧ u.capacity = c ∧
        u.entries.Perm (t.entries.take c) ∧ u.len = t.len ∧ u.WellLinked ∧
        ∀ i < c, (u.slot i).entry ≠ none) ∧
    (∀ storage, storage.grants 0 = true → 0 < t.entries.length →
      ∃ u, t.resize storage 0 = (.error .noSlots, u) ∧ u.capacity = 0 ∧ u.entries = [] ∧
        u.len = t.len) ∧
    (∀ storage c, storage.grants c = false → t.resize storage c = (.error (.refused c), t)) ∧
    (Failure.noFreeSlot.diagnostic?.map fun d => (d.kind, d.message)) =
      some (.compiler, "Binding table has no free slot for a colliding name") ∧
    Failure.noSlots.diagnostic? = none ∧
    (∀ c, (Failure.refused c).diagnostic?.map Diagnostic.kind = some .allocation) ∧
    t.len = t.entries.length + droppedIn steps (withInitialCapacity requested) ∧
    ((∀ before storage c behind, steps = before ++ (storage, .resize c) :: behind →
      ((run before (withInitialCapacity requested)).resize storage c).1 = .ok ()) →
        t.len = t.entries.length) := by
  intro t
  have sound : t.Sound := sound_run (sound_start requested) steps
  have len_of : ∀ {storage c outcome u}, t.resize storage c = (outcome, u) → u.len = t.len :=
    fun {storage c _ _} resized => by simpa [resized] using len_resize storage t c
  have counted : t.len = t.entries.length + droppedIn steps (withInitialCapacity requested) := by
    have law := (sound_start requested).len_run steps
    have empty_start : (withInitialCapacity requested).len = 0 := rfl
    rwa [entries_withInitialCapacity, List.length_nil, empty_start, Nat.add_zero,
      Nat.zero_add] at law
  refine ⟨fun storage c granted enough => ?_, fun storage c granted pos fewer_slots => ?_,
    fun storage granted pos => ?_, fun storage c refused => resize_refused refused t, rfl, rfl,
    fun _ => rfl, counted, fun resized => ?_⟩
  · obtain ⟨u, resized⟩ := resize_of_room granted enough
    have perm := perm_resize resized
    exact ⟨u, resized, capacity_of_resize resized, perm, len_of resized, fun name once =>
      lookup_eq_of_perm sound.linked (wellLinked_of_resize resized) perm once⟩
  · obtain ⟨u, resized, linked, full, perm⟩ := resize_of_overfull granted pos fewer_slots
    have capacity : u.capacity = c := by simpa [resized] using capacity_resize granted t
    refine ⟨u, resized, capacity, perm, len_of resized, linked, ?_⟩
    rw [← capacity]
    exact (freeHead_eq_none_iff linked).mp full
  · have resized := resize_of_no_slots granted (List.ne_nil_of_length_pos pos)
    exact ⟨_, resized, by simp, by simp, len_of resized⟩
  · rw [counted, droppedIn_eq_zero resized, Nat.add_zero]

/-- Three names are bound, and then the table is made too small for them. -/
def shrinking : List (Storage × Action) :=
  [.bind ⟨[97]⟩ 1, .bind ⟨[98]⟩ 2, .bind ⟨[99]⟩ 3, .resize 2].map (.addressSpace, ·)

theorem resize_shrinking :
    let full := run (shrinking.take 3) (withInitialCapacity 4)
    (∃ u, full.resize .addressSpace 3 = (.ok (), u) ∧ u.lookup ⟨[98]⟩ = full.lookup ⟨[98]⟩) ∧
    (∃ u, full.resize .addressSpace 2 = (.error .noFreeSlot, u) ∧
      u.entries.Perm (full.entries.take 2)) ∧
    (∃ u, full.resize .addressSpace 0 = (.error .noSlots, u) ∧ u.entries = []) ∧
    full.resize (.ofMemory 0) 5 = (.error (.refused 5), full) ∧ full.len = full.entries.length ∧
    (run shrinking (withInitialCapacity 4)).len = 3 ∧
    droppedIn shrinking (withInitialCapacity 4) = 1 := by
  intro full
  have length : full.entries.length = 3 := by decide +kernel
  obtain ⟨fits, fewer_slots, none, refused, -, -, -, -, kept⟩ := resize_of_run 4 (shrinking.take 3)
  obtain ⟨-, -, -, -, -, -, -, counted, -⟩ := resize_of_run 4 shrinking
  have dropped : droppedIn shrinking (withInitialCapacity 4) = 1 := by decide +kernel
  have left : (run shrinking (withInitialCapacity 4)).entries.length = 2 := by decide +kernel
  refine ⟨?_, ?_, ?_, refused (.ofMemory 0) 5 (by decide), kept ?_, ?_, dropped⟩
  · obtain ⟨u, resized, -, -, -, same⟩ := fits .addressSpace 3 (by decide) (Nat.le_of_eq length)
    exact ⟨u, resized, same ⟨[98]⟩ (by decide +kernel)⟩
  · obtain ⟨u, resized, -, perm, -⟩ := fewer_slots .addressSpace 2 (by decide) (by decide)
      (show 2 < full.entries.length by omega)
    exact ⟨u, resized, perm⟩
  · obtain ⟨u, resized, -, entries, -⟩ := none .addressSpace (by decide)
      (show 0 < full.entries.length by omega)
    exact ⟨u, resized, entries⟩
  · intro before storage c behind split
    have member : (storage, Action.resize c) ∈ shrinking.take 3 := by simp [split]
    simp [shrinking] at member
  · rw [counted, left, dropped]

end WasmText.SymbolTable
