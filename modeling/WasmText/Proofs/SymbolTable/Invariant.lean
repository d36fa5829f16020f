import WasmText.Proofs.SymbolTable.Insertion
import WasmText.SymbolTable.Run

/-!
# Reachable tables

Every action keeps a table well linked, whether it succeeds or not, so an insertion into a reachable
table can fail for want of storage alone. The count of entries has no part in this: after a resizing that
ran out of room it no longer tells how many entries there are.
-/
namespace WasmText.SymbolTable

variable {t u r : SymbolTable} {storage : Storage}

/-- What every action keeps. -/
structure Sound (t : SymbolTable) : Prop where
  linked : t.WellLinked
  initial : 0 < t.initialCapacity
  addressable : Storage.slotSize * t.capacity < Storage.limit

theorem sound_start (requested : Nat) : (withInitialCapacity requested).Sound where
  linked := wellLinked_withInitialCapacity requested
  initial := by
    rw [withInitialCapacity, roundUp, Nat.one_shiftLeft]
    exact Nat.two_pow_pos _
  addressable := by simp [Storage.limit, UInt64.size]

theorem sound_resize (h : t.Sound) (storage : Storage) (c : Nat) :
    (t.resize storage c).2.Sound where
  linked := wellLinked_resize h.linked storage c
  initial := by simpa using h.initial
  addressable := by
    cases granted : storage.grants c with
    | false => simpa [resize_refused granted] using h.addressable
    | true =>
      rw [capacity_resize granted]
      exact storage.addressable c granted

theorem Readied.sound (h : t.Readied storage r) (sound : t.Sound) : r.Sound := by
  cases h with
  | same => exact sound
  | grown _ resized => simpa [resized] using sound_resize sound storage t.growthSize

theorem sound_bind (h : t.Sound) (storage : Storage) (name : Name) (index : UInt32) :
    (t.bind storage name index).2.Sound := by
  rcases bind_cases h.linked h.initial storage name index with
    ⟨-, -, bound⟩ | ⟨r, i, u, ready, placing, capacity, -, initial, bound⟩
  · rwa [bound]
  · rw [bound]
    refine ⟨placing.wellLinked, initial ▸ h.initial, ?_⟩
    rw [capacity]
    exact (ready.sound h).addressable

theorem sound_insert (h : t.Sound) (storage : Storage) (name : Name) :
    (t.insert storage name).2.Sound := by
  rcases insert_cases h.linked h.initial storage name with
    ⟨-, -, inserted⟩ | ⟨r, i, u, ready, placing, capacity, -, initial, inserted⟩
  · rwa [inserted]
  · rw [inserted]
    refine ⟨placing.wellLinked, initial ▸ h.initial, ?_⟩
    rw [capacity]
    exact (ready.sound h).addressable

theorem sound_setIndex (h : t.Sound) (i : Nat) (index : UInt32) : (t.setIndex i index).Sound where
  linked := wellLinked_setIndex h.linked i index
  initial := h.initial
  addressable := by simpa [setIndex] using h.addressable

theorem sound_act (h : t.Sound) (storage : Storage) (action : Action) :
    (t.act storage action).2.Sound := by
  cases action with
  | insert name => exact sound_insert h storage name
  | bind name index => exact sound_bind h storage name index
  | write i index => exact sound_setIndex h i index
  | copy => exact h
  | resize capacity => exact sound_resize h storage capacity

theorem initialCapacity_act (h : t.Sound) (storage : Storage) (action : Action) :
    (t.act storage action).2.initialCapacity = t.initialCapacity := by
  cases action with
  | insert name =>
    rcases insert_cases h.linked h.initial storage name with
      ⟨-, -, inserted⟩ | ⟨r, i, u, -, -, -, -, initial, inserted⟩
    · simp [act, inserted]
    · simpa [act, inserted] using initial
  | bind name index =>
    rcases bind_cases h.linked h.initial storage name index with
      ⟨-, -, bound⟩ | ⟨r, i, u, -, -, -, -, initial, bound⟩
    · simp [act, bound]
    · simpa [act, bound] using initial
  | write i index => rfl
  | copy => rfl
  | resize capacity => exact initialCapacity_resize storage t capacity

theorem sound_of_reachable (reached : Reachable t) : t.Sound := by
  induction reached with
  | start => exact sound_start _
  | step storage action _ ih => exact sound_act ih storage action

theorem sound_run (sound : t.Sound) (steps : List (Storage × Action)) : (run steps t).Sound := by
  induction steps generalizing t with
  | nil => exact sound
  | cons step rest ih => exact ih (sound_act sound step.1 step.2)

theorem reachable_run (reached : Reachable t) (steps : List (Storage × Action)) :
    Reachable (run steps t) := by
  induction steps generalizing t with
  | nil => exact reached
  | cons step rest ih => exact ih (.step step.1 step.2 reached)

/-- The tables that actions lead to are those that runs end with. -/
theorem reachable_iff_run : Reachable t ↔ ∃ requested ≤ maxCapacity, ∃ steps,
    t = run steps (withInitialCapacity requested) := by
  constructor
  · intro reached
    induction reached with
    | @start requested le => exact ⟨requested, le, [], rfl⟩
    | step storage action _ ih =>
      obtain ⟨requested, le, steps, rfl⟩ := ih
      exact ⟨requested, le, steps ++ [(storage, action)], by simp [run]⟩
  · rintro ⟨requested, le, steps, rfl⟩
    exact reachable_run (.start le) steps

/-- The free list and the chains of every reachable table are in order. -/
theorem wellLinked_of_reachable (reached : Reachable t) : t.WellLinked :=
  (sound_of_reachable reached).linked

/-- A table that lost an entry when it was made too small. -/
def squeezed : SymbolTable :=
  let full := (empty.act .addressSpace (.bind ⟨[97]⟩ 1)).2.act .addressSpace (.bind ⟨[98]⟩ 2)
  (full.2.act .addressSpace (.resize 1)).2

theorem reachable_squeezed : Reachable squeezed :=
  .step _ _ (.step _ _ (.step _ _ reachable_empty))

theorem wellLinked_squeezed : squeezed.entries = [⟨⟨[97]⟩, 1⟩] ∧ squeezed.len = 2 ∧
    squeezed.WellLinked :=
  ⟨by decide +kernel, by decide +kernel, wellLinked_of_reachable reachable_squeezed⟩

/-- Where a displaced entry stands in the way of a name, the search for its predecessor ends at a slot
that links to it. -/
def PredecessorFound (t : SymbolTable) (name : Name) : Prop :=
  ∀ occupant free, (t.slot (t.mainSlot name)).entry = some occupant →
    t.mainSlot occupant.name ≠ t.mainSlot name → t.freeHead = some free →
    ∃ pred, (t.popFree free).predecessor? (t.mainSlot name) t.capacity (t.mainSlot occupant.name) =
      some pred ∧ ((t.popFree free).slot pred).next = some (t.mainSlot name)

theorem predecessorFound_of_wellLinked (linked : t.WellLinked) (name : Name) : t.PredecessorFound name := by
  intro occupant free occupied displaced head
  obtain ⟨⟨is, listed⟩, chain, chained⟩ := wellLinked_iff.mp linked
  obtain ⟨below, rfl⟩ := listed.eq_cons head
  obtain ⟨front, pred, rest, chain_home⟩ := chained.split ⟨occupant, occupied, rfl⟩ displaced
  have popped := chained.popFree listed
  have walk := popped.walk (t.mainSlot occupant.name) (by simp [chain_home])
  have found := popped.predecessor? chain_home
  rw [capacity_popFree] at found
  refine ⟨pred, found, ?_⟩
  rw [chain_home] at walk
  have tail : (t.popFree free).Leads (some pred) (pred :: t.mainSlot name :: rest) none := walk.suffix
  simpa using tail.2.start_eq

/-- An insertion into a reachable table fails only when it needs slots that are refused, and then changes
nothing; each search it makes for a predecessor finds one. -/
theorem insert_of_reachable (reached : Reachable t) (storage : Storage) (name : Name) :
    (t.freeHead = none ↔ ∀ i < t.capacity, (t.slot i).entry ≠ none) ∧
    2 * t.capacity < UInt64.size ∧
    (t.freeHead = none ∧ storage.grants t.growthSize = false →
      t.insert storage name = (.error (.refused t.growthSize), t)) ∧
    (¬ (t.freeHead = none ∧ storage.grants t.growthSize = false) →
      ∃ i u, t.insert storage name = (.ok i, u) ∧ (u.slot i).entry = some ⟨name, 0⟩) ∧
    (∀ f, (t.insert storage name).1 = .error f →
      f.diagnostic?.map Diagnostic.kind = some .allocation) ∧
    (∀ r, t.Readied storage r → r.PredecessorFound name) ∧
    ∀ before e behind u, t.entries = before ++ e :: behind →
      placeAll before (t.cleared t.growthSize) = (.ok (), u) → u.PredecessorFound e.name := by
  have sound := sound_of_reachable reached
  refine ⟨freeHead_eq_none_iff sound.linked, ?_, ?_, ?_, ?_, ?_, ?_⟩
  · have := sound.addressable
    simp only [Storage.slotSize, Storage.limit, UInt64.size] at this ⊢
    omega
  · rintro ⟨full, refused⟩
    exact insert_of_refused full refused name
  · intro granted
    rcases insert_cases sound.linked sound.initial storage name with
      ⟨full, refused, -⟩ | ⟨r, i, u, -, placing, -, -, -, inserted⟩
    · exact absurd ⟨full, refused⟩ granted
    · exact ⟨i, u, inserted, placing.entry_self⟩
  · intro f failed
    rcases insert_cases sound.linked sound.initial storage name with
      ⟨-, -, inserted⟩ | ⟨r, i, u, -, -, -, -, -, inserted⟩
    · rw [inserted] at failed
      cases failed
      rfl
    · simp [inserted] at failed
  · exact fun r ready => predecessorFound_of_wellLinked (ready.wellLinked sound.linked) name
  · intro before e behind u _ placed
    have linked := wellLinked_placeAll (wellLinked_cleared t t.growthSize) before
    rw [placed] at linked
    exact predecessorFound_of_wellLinked linked e.name

theorem insert_of_squeezed :
    squeezed.insert (.ofMemory 111) ⟨[99]⟩ = (.error (.refused 2), squeezed) ∧
    ∃ i u, squeezed.insert (.ofMemory 112) ⟨[99]⟩ = (.ok i, u) ∧
      (u.slot i).entry = some ⟨⟨[99]⟩, 0⟩ := by
  have size : squeezed.growthSize = 2 := by decide +kernel
  constructor
  · rw [← size]
    exact (insert_of_reachable reachable_squeezed (.ofMemory 111) ⟨[99]⟩).2.2.1 (by decide +kernel)
  · exact (insert_of_reachable reachable_squeezed (.ofMemory 112) ⟨[99]⟩).2.2.2.1
      (by decide +kernel)

end WasmText.SymbolTable
