import WasmText.Proofs.SymbolTable.Growing

/-!
# Insertion

An insertion makes a table ready (`Readied`) and then places its entry there. It is refused when no slot
is free and storage for more is not granted, and in no other case does it fail (`insert_cases`).
-/
namespace WasmText.SymbolTable

variable {t u r : SymbolTable} {storage : Storage}

/-- The number of slots that an insertion asks for when no slot is free. -/
def growthSize (t : SymbolTable) : Nat :=
  if t.capacity = 0 then t.initialCapacity else 2 * t.capacity

/-- The table in which an insertion places its entry: the same while a slot is free, else a larger one. -/
inductive Readied (storage : Storage) (t : SymbolTable) : SymbolTable → Prop
  | same (room : t.freeHead ≠ none) : Readied storage t t
  | grown {r : SymbolTable} (full : t.freeHead = none)
      (resized : t.resize storage t.growthSize = (.ok (), r)) : Readied storage t r

theorem capacity_lt_growthSize (initial : 0 < t.initialCapacity) : t.capacity < t.growthSize := by
  rw [growthSize]
  split <;> omega

theorem capacity_of_resize {c : Nat} (h : t.resize storage c = (.ok (), r)) : r.capacity = c := by
  cases granted : storage.grants c with
  | false => simp [resize_refused granted] at h
  | true => simpa [h] using capacity_resize granted t

theorem wellLinked_of_resize {c : Nat} (h : t.resize storage c = (.ok (), r)) : r.WellLinked := by
  rw [resize] at h
  split at h
  · have placed := wellLinked_placeAll (wellLinked_cleared t c) t.entries
    rwa [h] at placed
  · simp at h

/-- Growing makes room. -/
theorem room_of_resize {c : Nat} (larger : t.capacity < c)
    (h : t.resize storage c = (.ok (), r)) : r.freeHead ≠ none := by
  have length := (perm_resize h).length_eq
  have fewer := length_entries_le t
  rw [ne_eq, freeHead_eq_none_iff_length (wellLinked_of_resize h), capacity_of_resize h]
  omega

theorem Readied.wellLinked (h : t.Readied storage r) (linked : t.WellLinked) : r.WellLinked := by
  cases h with
  | same => exact linked
  | grown _ resized => exact wellLinked_of_resize resized

theorem Readied.room (h : t.Readied storage r) (initial : 0 < t.initialCapacity) :
    r.freeHead ≠ none := by
  cases h with
  | same room => exact room
  | grown _ resized => exact room_of_resize (capacity_lt_growthSize initial) resized

theorem Readied.perm (h : t.Readied storage r) : r.entries.Perm t.entries := by
  cases h with
  | same => rfl
  | grown _ resized => exact perm_resize resized

theorem Readied.len_eq (h : t.Readied storage r) : r.len = t.len := by
  cases h with
  | same => rfl
  | grown _ resized => simpa [resized] using len_resize storage t t.growthSize

theorem Readied.initialCapacity_eq (h : t.Readied storage r) :
    r.initialCapacity = t.initialCapacity := by
  cases h with
  | same => rfl
  | grown _ resized => simpa [resized] using initialCapacity_resize storage t t.growthSize

/-- A table that keeps its number of slots was ready as it was. -/
theorem Readied.eq_of_capacity (h : t.Readied storage r) (initial : 0 < t.initialCapacity)
    (capacity : r.capacity = t.capacity) : r = t := by
  cases h with
  | same => rfl
  | grown _ resized =>
    have := capacity_lt_growthSize initial
    have := capacity_of_resize resized
    omega

/-- A table is ready for an insertion, or can be made so unless storage is refused. -/
theorem exists_readied (t : SymbolTable) (storage : Storage) (initial : 0 < t.initialCapacity) :
    (t.freeHead = none ∧ storage.grants t.growthSize = false) ∨ ∃ r, t.Readied storage r := by
  by_cases full : t.freeHead = none
  · cases granted : storage.grants t.growthSize with
    | false => exact .inl ⟨full, rfl⟩
    | true =>
      have fewer := length_entries_le t
      have := capacity_lt_growthSize initial
      obtain ⟨r, resized⟩ := resize_of_room granted (t := t) (by omega)
      exact .inr ⟨r, .grown full resized⟩
  · exact .inr ⟨t, .same full⟩

theorem insert_of_refused (full : t.freeHead = none)
    (refused : storage.grants t.growthSize = false) (name : Name) :
    t.insert storage name = (.error (.refused t.growthSize), t) := by
  by_cases zero : t.capacity = 0
  · have size : t.growthSize = t.initialCapacity := if_pos zero
    rw [size] at refused ⊢
    simp [insert, ensureSlots, zero, resize_refused refused]
  · have size : t.growthSize = 2 * t.capacity := if_neg zero
    rw [size] at refused ⊢
    simp [insert, ensureSlots, zero, ensureFree, full, resize_refused refused]

theorem insert_of_room {name : Name} {i : Nat} (linked : t.WellLinked) (room : t.freeHead ≠ none)
    (placed : t.place ⟨name, 0⟩ = (.ok i, u)) (settled : (u.slot i).entry = some ⟨name, 0⟩) :
    t.insert storage name = (.ok i, u.counted) := by
  have occupied : (u.slot i).entry.isSome := by simp [settled]
  simp [insert, ensureSlots, capacity_ne_zero linked room, ensureFree, room, placed, occupied]

/-- A table that has to grow is inserted into as if it had grown before. -/
theorem Readied.insert_eq (h : t.Readied storage r) (linked : t.WellLinked)
    (initial : 0 < t.initialCapacity) (name : Name) :
    t.insert storage name = r.insert storage name := by
  have linked_r := h.wellLinked linked
  have room_r := h.room initial
  cases h with
  | same => rfl
  | grown full resized =>
    have capacity_r := capacity_ne_zero linked_r room_r
    by_cases zero : t.capacity = 0
    · rw [growthSize, if_pos zero] at resized
      simp [insert, ensureSlots, zero, resized, capacity_r]
    · rw [growthSize, if_neg zero] at resized
      simp [insert, ensureSlots, zero, ensureFree, full, resized, capacity_r, room_r]

theorem slot_counted (t : SymbolTable) (i : Nat) : t.counted.slot i = t.slot i := rfl

theorem Placing.counted {e : Entry} {i : Nat} (h : t.Placing e i u) : t.Placing e i u.counted := by
  refine h.congr rfl rfl rfl (fun j => ?_) (fun _ => rfl) fun _ => rfl
  by_cases hj : i = j
  · simp [← hj, slot_counted, h.entry_self]
  · simp [hj, slot_counted]

/-- An insertion is refused and changes nothing, or it places its entry and counts it. -/
theorem insert_cases (linked : t.WellLinked) (initial : 0 < t.initialCapacity) (storage : Storage)
    (name : Name) :
    (t.freeHead = none ∧ storage.grants t.growthSize = false ∧
      t.insert storage name = (.error (.refused t.growthSize), t)) ∨
    ∃ r i u, t.Readied storage r ∧ r.Placing ⟨name, 0⟩ i u ∧ u.capacity = r.capacity ∧
      u.len = t.len + 1 ∧ u.initialCapacity = t.initialCapacity ∧
      t.insert storage name = (.ok i, u) := by
  rcases exists_readied t storage initial with ⟨full, refused⟩ | ⟨r, ready⟩
  · exact .inl ⟨full, refused, insert_of_refused full refused name⟩
  · have linked_r := ready.wellLinked linked
    have room := ready.room initial
    obtain ⟨i, u, placed, placing⟩ := place_of_room linked_r room ⟨name, 0⟩
    have capacity : u.capacity = r.capacity := by simpa [placed] using capacity_place r ⟨name, 0⟩
    have len : u.len = r.len := by simpa [placed] using len_place r ⟨name, 0⟩
    have initial_eq : u.initialCapacity = r.initialCapacity := by
      simpa [placed] using initialCapacity_place r ⟨name, 0⟩
    refine .inr ⟨r, i, u.counted, ready, placing.counted, capacity, ?_, ?_, ?_⟩
    · simp [SymbolTable.counted, len, ready.len_eq]
    · simp [SymbolTable.counted, initial_eq, ready.initialCapacity_eq]
    · rw [ready.insert_eq linked initial]
      exact insert_of_room linked_r room placed placing.entry_self

theorem slot_setIndex (t : SymbolTable) (i : Nat) (index : UInt32) (j : Nat) :
    (t.setIndex i index).slot j =
      ⟨if i = j then (t.slot j).entry.map fun e => { e with index := index } else (t.slot j).entry,
        (t.slot j).next, (t.slot j).prev⟩ := by
  rw [setIndex, slot_modifySlot]
  by_cases hi : i = j
  · by_cases lt : j < t.capacity
    · simp [hi, lt]
    · simp [hi, lt, slot_eq_blank (Nat.not_lt.mp lt), Slot.blank]
  · simp [hi]

theorem belongsTo_setIndex (t : SymbolTable) (i : Nat) (index : UInt32) (main j : Nat) :
    (t.setIndex i index).BelongsTo main j ↔ t.BelongsTo main j := by
  have capacity : (t.setIndex i index).capacity = t.capacity := by simp [setIndex]
  by_cases hj : i = j
  · subst j
    simp [BelongsTo, slot_setIndex, mainSlot_congr capacity]
  · exact belongsTo_congr capacity (by simp [slot_setIndex, hj])

/-- Writing a position changes no link and no name. -/
theorem wellLinked_setIndex (linked : t.WellLinked) (i : Nat) (index : UInt32) :
    (t.setIndex i index).WellLinked := by
  have capacity : (t.setIndex i index).capacity = t.capacity := by simp [setIndex]
  obtain ⟨⟨free, listed⟩, chain, chained⟩ := wellLinked_iff.mp linked
  refine wellLinked_iff.mpr ⟨⟨free, listed.congr capacity (by simp [setIndex]) (fun j => ?_)
    (by simp [slot_setIndex]) (by simp [slot_setIndex])⟩, chain,
    chained.congr (belongsTo_setIndex t i index) (by simp [slot_setIndex])⟩
  by_cases hj : i = j <;> simp [slot_setIndex, hj]

theorem Placing.setIndex {e : Entry} {i : Nat} (h : t.Placing e i u) (index : UInt32) :
    t.Placing { e with index := index } i (u.setIndex i index) := by
  refine h.congr rfl (by simp [SymbolTable.setIndex]) (by simp [SymbolTable.setIndex])
    (fun j => ?_) (by simp [slot_setIndex]) (by simp [slot_setIndex])
  by_cases hj : i = j
  · simp [← hj, slot_setIndex, h.entry_self]
  · simp [hj, slot_setIndex]

/-- A binding is refused and changes nothing, or it places its entry and counts it. -/
theorem bind_cases (linked : t.WellLinked) (initial : 0 < t.initialCapacity) (storage : Storage)
    (name : Name) (index : UInt32) :
    (t.freeHead = none ∧ storage.grants t.growthSize = false ∧
      t.bind storage name index = (.error (.refused t.growthSize), t)) ∨
    ∃ r i u, t.Readied storage r ∧ r.Placing ⟨name, index⟩ i u ∧ u.capacity = r.capacity ∧
      u.len = t.len + 1 ∧ u.initialCapacity = t.initialCapacity ∧
      t.bind storage name index = (.ok (), u) := by
  rcases insert_cases linked initial storage name with
    ⟨full, refused, inserted⟩ | ⟨r, i, u, ready, placing, capacity, len, initial_eq, inserted⟩
  · exact .inl ⟨full, refused, by simp [bind, inserted]⟩
  · refine .inr ⟨r, i, u.setIndex i index, ready, placing.setIndex index, ?_, len, initial_eq, ?_⟩
    · simpa [SymbolTable.setIndex] using capacity
    · simp [bind, inserted]

/-- A binding that fails changed nothing: no slot was free, and more were refused. -/
theorem refused_of_bind {name : Name} {index : UInt32} {f : Failure} (linked : t.WellLinked)
    (initial : 0 < t.initialCapacity) (failed : t.bind storage name index = (.error f, u)) :
    u = t ∧ t.freeHead = none ∧ storage.grants t.growthSize = false ∧ f = .refused t.growthSize := by
  rcases bind_cases linked initial storage name index with
    ⟨full, refused, bound⟩ | ⟨r, i, v, -, -, -, -, -, bound⟩
  · rw [bound] at failed
    obtain ⟨cause, rfl⟩ := Prod.mk.inj failed
    exact ⟨rfl, full, refused, (Except.error.inj cause).symm⟩
  · simp [bound] at failed

end WasmText.SymbolTable
