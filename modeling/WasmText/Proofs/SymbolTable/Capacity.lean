import WasmText.Proofs.SymbolTable.Invariant
import WasmText.Proofs.SymbolTable.Rounding

/-!
# The number of slots

An insertion changes the number of slots only where all of them are taken: from none to the rounded initial
capacity, else to twice as many. So a table that is only inserted into has the least power of two of slots
that is enough for what was asked for at the start and for its entries (`capacity_of_run`).
-/
namespace WasmText.SymbolTable

variable {t u : SymbolTable} {storage : Storage} {name : Name} {n requested : Nat}

/-- An insertion that is not refused storage succeeds, fills one slot more, and changes the number of slots
only when they were all taken. -/
theorem insert_of_stored (sound : t.Sound)
    (stored : ∀ slots, (t.insert storage name).1 ≠ .error (.refused slots)) :
    ∃ i u, t.insert storage name = (.ok i, u) ∧ u.Sound ∧ u.len = t.len + 1 ∧
      u.initialCapacity = t.initialCapacity ∧ u.entries.length = t.entries.length + 1 ∧
      u.capacity = if t.entries.length = t.capacity then t.growthSize else t.capacity := by
  have kept := sound_insert sound storage name
  rcases insert_cases sound.linked sound.initial storage name with
    ⟨-, -, inserted⟩ | ⟨r, i, u, ready, placing, capacity, len, initial, inserted⟩
  · exact absurd (by rw [inserted]) (stored t.growthSize)
  · rw [inserted] at kept
    refine ⟨i, u, inserted, kept, len, initial, ?_, ?_⟩
    · rw [(placing.perm capacity).length_eq, List.length_cons, ready.perm.length_eq]
    · rw [capacity]
      cases ready with
      | same room =>
        rw [if_neg (mt (freeHead_eq_none_iff_length sound.linked).mpr room)]
      | grown full resized =>
        rw [if_pos ((freeHead_eq_none_iff_length sound.linked).mp full), capacity_of_resize resized]

/-- The number of slots changes exactly when all are taken, and then to the size that the table grows to. -/
theorem capacity_of_insert (sound : t.Sound)
    (stored : ∀ slots, (t.insert storage name).1 ≠ .error (.refused slots)) :
    ∃ i u, t.insert storage name = (.ok i, u) ∧
      (u.capacity ≠ t.capacity ↔ ∀ j < t.capacity, (t.slot j).entry ≠ none) ∧
      (u.capacity ≠ t.capacity → u.capacity = t.growthSize) ∧
      u.entries.length = t.entries.length + 1 := by
  obtain ⟨i, u, inserted, -, -, -, length, capacity⟩ := insert_of_stored sound stored
  have full_iff : t.entries.length = t.capacity ↔ ∀ j < t.capacity, (t.slot j).entry ≠ none :=
    (freeHead_eq_none_iff_length sound.linked).symm.trans (freeHead_eq_none_iff sound.linked)
  have larger := capacity_lt_growthSize sound.initial
  refine ⟨i, u, inserted, ?_, fun changed => ?_, length⟩
  · rw [← full_iff, capacity]
    by_cases full : t.entries.length = t.capacity
    · simp only [full, if_true, ne_eq, iff_true]
      omega
    · simp [full]
  · rw [capacity] at changed ⊢
    split at changed
    · rename_i full
      rw [if_pos full]
    · exact absurd rfl changed

/-- What holds of a table into which so many names were inserted, and nothing else was done to it. -/
structure Inserted (requested n : Nat) (t : SymbolTable) : Prop where
  sound : t.Sound
  len : t.len = n
  length : t.entries.length = n
  initial : t.initialCapacity = roundUp (max requested 1)
  capacity : n = 0 ∧ t.capacity = 0 ∨ LeastPower (max requested 1) n t.capacity

theorem inserted_start (requested : Nat) : Inserted requested 0 (withInitialCapacity requested) :=
  ⟨sound_start requested, rfl, rfl, rfl, .inl ⟨rfl, rfl⟩⟩

/-- One name more needs more slots where the names fill a power of two, and the next one up is the double. -/
theorem Inserted.insert (h : Inserted requested n t)
    (stored : ∀ slots, (t.insert storage name).1 ≠ .error (.refused slots)) :
    ∃ i u, t.insert storage name = (.ok i, u) ∧ Inserted requested (n + 1) u := by
  obtain ⟨i, u, inserted, sound, len, initial, length, capacity⟩ := insert_of_stored h.sound stored
  refine ⟨i, u, inserted, sound, by rw [len, h.len], by rw [length, h.length],
    initial.trans h.initial, .inr ?_⟩
  rw [capacity, h.length, growthSize, h.initial]
  rcases h.capacity with ⟨rfl, zero⟩ | least
  · rw [if_pos zero.symm, if_pos zero]
    exact leastPower_roundUp (max requested 1)
  · have pos := Nat.pos_of_isPowerOfTwo least.power
    by_cases full : n = t.capacity
    · rw [if_pos full, if_neg (Nat.ne_of_gt pos), ← full]
      rw [← full] at least
      exact least.double
    · rw [if_neg full]
      exact least.succ_of_lt (Nat.lt_of_le_of_ne least.right_le full)

theorem Inserted.exists_free (h : Inserted requested n t) :
    ∃ free, t.Follows t.freeHead free ∧ free.length = t.capacity - n := by
  obtain ⟨⟨free, listed⟩, -⟩ := wellLinked_iff.mp h.sound.linked
  have total := listed.length_add
  rw [h.length] at total
  exact ⟨free, follows_iff.mpr ⟨listed.walk, listed.lt_capacity⟩, by omega⟩

/-- A refusal would end the run, so a run that is not refused storage was refused none on its way. -/
theorem Inserted.insertAll {inserts : List (Storage × Name)} (h : Inserted requested n t)
    (stored : ∀ slots, (t.insertAll inserts).1 ≠ .error (.refused slots)) :
    ∃ u, t.insertAll inserts = (.ok (), u) ∧ Inserted requested (n + inserts.length) u := by
  induction inserts generalizing n t with
  | nil => exact ⟨t, rfl, h⟩
  | cons first rest ih =>
    obtain ⟨storage, name⟩ := first
    have stored_first : ∀ slots, (t.insert storage name).1 ≠ .error (.refused slots) := by
      intro slots refused
      rcases outcome : t.insert storage name with ⟨_ | _, v⟩
      · simp only [outcome] at refused
        exact stored slots (by simp [SymbolTable.insertAll, outcome, refused])
      · simp [outcome] at refused
    obtain ⟨i, v, inserted, next⟩ := h.insert stored_first
    simp only [SymbolTable.insertAll, inserted] at stored ⊢
    obtain ⟨u, done, held⟩ := ih next stored
    exact ⟨u, done, by rwa [List.length_cons, Nat.add_comm rest.length, ← Nat.add_assoc]⟩

theorem Sound.initialCapacity_run (sound : t.Sound) (steps : List (Storage × Action)) :
    (run steps t).initialCapacity = t.initialCapacity := by
  induction steps generalizing t with
  | nil => rfl
  | cons step rest ih =>
    have first := initialCapacity_act sound step.1 step.2
    exact (ih (sound_act sound step.1 step.2)).trans first

/-- After any run, an insertion that is not refused storage changes the number of slots exactly when all
are taken, to the rounded initial capacity or to twice as many, and takes one slot more. A table that names
are only inserted into has as many entries as names, all its other slots free, and the least power of two
of slots that is enough for them and for what was asked for. -/
theorem capacity_of_run (requested : Nat) (steps : List (Storage × Action)) :
    let start := withInitialCapacity requested
    let t := run steps start
    (∀ storage name, (∀ slots, (t.insert storage name).1 ≠ .error (.refused slots)) →
      ∃ i u, t.insert storage name = (.ok i, u) ∧
        (u.capacity ≠ t.capacity ↔ ∀ j < t.capacity, (t.slot j).entry ≠ none) ∧
        (u.capacity ≠ t.capacity → u.capacity =
          if t.capacity = 0 then 2 ^ Nat.clog 2 (max requested 1) else 2 * t.capacity) ∧
        u.entries.length = t.entries.length + 1) ∧
    ∀ inserts, inserts ≠ [] →
      (∀ slots, (start.insertAll inserts).1 ≠ .error (.refused slots)) →
      ∃ u, start.insertAll inserts = (.ok (), u) ∧ u.len = inserts.length ∧
        (∃ free, u.Follows u.freeHead free ∧ free.length = u.capacity - inserts.length) ∧
        LeastPower (max requested 1) inserts.length u.capacity := by
  intro start t
  have sound : t.Sound := sound_run (sound_start requested) steps
  have initial : t.initialCapacity = 2 ^ Nat.clog 2 (max requested 1) :=
    ((sound_start requested).initialCapacity_run steps).trans
      (initialCapacity_withInitialCapacity requested)
  refine ⟨fun storage name stored => ?_, fun inserts ne stored => ?_⟩
  · obtain ⟨i, u, inserted, changes, grown, length⟩ := capacity_of_insert sound stored
    rw [growthSize, initial] at grown
    exact ⟨i, u, inserted, changes, grown, length⟩
  · obtain ⟨u, done, held⟩ := (inserted_start requested).insertAll stored
    rw [Nat.zero_add] at held
    have least := held.capacity.resolve_left fun none => ne (List.length_eq_zero_iff.mp none.1)
    exact ⟨u, done, held.len, held.exists_free, least⟩

/-- Two names are bound, and then the table is made too small for them. -/
def squeezing : List (Storage × Action) :=
  [.bind ⟨[97]⟩ 1, .bind ⟨[98]⟩ 2, .resize 1].map (.addressSpace, ·)

/-- Nine names of one letter each. -/
def nineInserts : List (Storage × Name) :=
  (List.range 9).map fun i => (.addressSpace, ⟨[UInt8.ofNat (97 + i)]⟩)

theorem capacity_squeezing :
    (∃ i u, (run squeezing (withInitialCapacity 5)).insert .addressSpace ⟨[99]⟩ = (.ok i, u) ∧
      u.capacity = 2 ∧ u.entries.length = 2) ∧
    ∃ u, (withInitialCapacity 5).insertAll nineInserts = (.ok (), u) ∧ u.len = 9 ∧
      LeastPower 5 9 u.capacity := by
  have taken : (run squeezing (withInitialCapacity 5)).capacity = 1 ∧
      (run squeezing (withInitialCapacity 5)).entries.length = 1 ∧
      ((run squeezing (withInitialCapacity 5)).slot 0).entry ≠ none := by decide +kernel
  have stored : ((run squeezing (withInitialCapacity 5)).insert .addressSpace ⟨[99]⟩).1 = .ok 1 ∧
      ((withInitialCapacity 5).insertAll nineInserts).1 = .ok () := by decide +kernel
  obtain ⟨law, inserting⟩ := capacity_of_run 5 squeezing
  constructor
  · obtain ⟨i, u, inserted, changed, size, length⟩ :=
      law .addressSpace ⟨[99]⟩ (by simp [stored.1])
    rw [taken.1] at changed size
    refine ⟨i, u, inserted, size (changed.mpr fun j hj => ?_), by rw [length, taken.2.1]⟩
    obtain rfl : j = 0 := by omega
    exact taken.2.2
  · obtain ⟨u, done, len, -, least⟩ := inserting nineInserts (by decide) (by simp [stored.2])
    exact ⟨u, done, len, least⟩

end WasmText.SymbolTable
