import WasmText.Config.Basic
import WasmText.Proofs.SymbolTable.Capacity

/-!
# The initial capacity

Settings are accepted exactly when a table takes their number of slots as it is, without rounding it up. The
first insertion into such a table asks for that number and no other, and from then on the table has that
number of slots times a power of two (`capacity_of_accepted`).
-/
namespace WasmText

namespace SymbolTable

/-- The size `d` is `c`, doubled any number of times. -/
def Doubles (c d : Nat) : Prop :=
  ∃ p : Nat, p.isPowerOfTwo ∧ d = c * p

theorem Doubles.refl (c : Nat) : Doubles c c :=
  ⟨1, Nat.isPowerOfTwo_one, (Nat.mul_one c).symm⟩

theorem Doubles.once {c d : Nat} (h : Doubles (2 * c) d) : Doubles c d := by
  obtain ⟨p, power, rfl⟩ := h
  refine ⟨p * 2, Nat.isPowerOfTwo_mul_two_of_isPowerOfTwo power, ?_⟩
  rw [Nat.mul_comm 2, Nat.mul_assoc, Nat.mul_comm 2]

variable {t : SymbolTable} {storage : Storage}

/-- Beyond the largest power of two that 64 bits hold the next one is its double, which they do not. -/
theorem le_maxCapacity_of_isPowerOfTwo {n : Nat} (power : n.isPowerOfTwo) (lt : n < UInt64.size) :
    n ≤ maxCapacity := by
  by_contra above
  have double := two_mul_le_of_lt (c := maxCapacity) ⟨63, rfl⟩ power (by omega)
  rw [maxCapacity, UInt64.size] at double
  rw [UInt64.size] at lt
  omega

/-- An insertion of any outcome keeps the number of slots or makes it what the table grows to. -/
theorem capacity_insert (sound : t.Sound) (storage : Storage) (name : Name) :
    (t.insert storage name).2.capacity = t.capacity ∨
      (t.insert storage name).2.capacity = t.growthSize := by
  rcases insert_cases sound.linked sound.initial storage name with
    ⟨-, -, inserted⟩ | ⟨r, i, u, ready, -, capacity, -, -, inserted⟩
  · exact .inl (by rw [inserted])
  · rw [inserted, capacity]
    cases ready with
    | same => exact .inl rfl
    | grown _ resized => exact .inr (capacity_of_resize resized)

/-- Insertions of any outcomes into a table that has slots double their number again and again. -/
theorem capacity_run_inserts (sound : t.Sound) (slots : t.capacity ≠ 0) (inserts : List (Storage × Name)) :
    Doubles t.capacity (run (inserts.map fun step => (step.1, .insert step.2)) t).capacity := by
  induction inserts generalizing t with
  | nil => exact .refl t.capacity
  | cons step rest ih =>
    obtain ⟨storage, name⟩ := step
    have sound' := sound_insert sound storage name
    rcases capacity_insert sound storage name with same | grown
    · have doubles := ih sound' (by rwa [same])
      rw [same] at doubles
      exact doubles
    · rw [growthSize, if_neg slots] at grown
      have doubles := ih sound' (by omega)
      rw [grown] at doubles
      exact doubles.once

/-- The first insertion gives a table its initial capacity, or is refused that and changes nothing. -/
theorem insert_of_capacity_zero (sound : t.Sound) (zero : t.capacity = 0) (storage : Storage)
    (name : Name) :
    (storage.grants t.initialCapacity = true → ∃ i u, t.insert storage name = (.ok i, u) ∧
      u.Sound ∧ u.capacity = t.initialCapacity) ∧
    (storage.grants t.initialCapacity = false →
      t.insert storage name = (.error (.refused t.initialCapacity), t)) := by
  have full := freeHead_of_capacity_zero sound.linked zero
  have size : t.growthSize = t.initialCapacity := if_pos zero
  rw [← size]
  refine ⟨fun granted => ?_, fun refused => insert_of_refused full refused name⟩
  have kept := sound_insert sound storage name
  rcases insert_cases sound.linked sound.initial storage name with
    ⟨-, refused, -⟩ | ⟨r, i, u, ready, -, capacity, -, -, inserted⟩
  · simp [granted] at refused
  · rw [inserted] at kept
    refine ⟨i, u, inserted, kept, ?_⟩
    cases ready with
    | same room => exact absurd full room
    | grown _ resized => rw [capacity, capacity_of_resize resized]

/-- Insertions of any outcomes into a table without slots give it none or a double of its initial capacity. -/
theorem capacity_run_inserts_of_zero (sound : t.Sound) (zero : t.capacity = 0)
    (inserts : List (Storage × Name)) :
    let u := run (inserts.map fun step => (step.1, .insert step.2)) t
    u.capacity = 0 ∨ Doubles t.initialCapacity u.capacity := by
  induction inserts with
  | nil => exact .inl zero
  | cons step rest ih =>
    obtain ⟨storage, name⟩ := step
    obtain ⟨first, refused⟩ := insert_of_capacity_zero sound zero storage name
    simp only [List.map_cons, run, List.foldl_cons, act]
    cases granted : storage.grants t.initialCapacity with
    | false =>
      rw [refused granted]
      exact ih
    | true =>
      obtain ⟨i, u, inserted, sound', capacity⟩ := first granted
      rw [inserted, ← capacity]
      have pos := sound.initial
      exact .inr (capacity_run_inserts sound' (by omega) rest)

end SymbolTable

namespace Config

theorem validate_eq_ok_iff (c : Config) : c.validate = .ok () ↔ c.initialCapacity.isPowerOfTwo := by
  rw [← isPowerOfTwo_iff, validate]
  split <;> simp_all

/-- Settings are accepted exactly when their number of slots is one that a table takes as it is, which are the
powers of two. The first insertion into the table then gives it that number, or is refused storage for it and
leaves the table without slots; insertions after it double the number, whatever comes of them. -/
theorem capacity_of_accepted (c : Config) (range : c.initialCapacity < UInt64.size) :
    (c.validate = .ok () ↔ c.initialCapacity ≤ SymbolTable.maxCapacity ∧
      c.newTable.initialCapacity = c.initialCapacity) ∧
    (c.validate = .ok () ↔ c.initialCapacity.isPowerOfTwo) ∧
    (c.validate = .ok () → ∀ storage name,
      (storage.grants c.initialCapacity = true → ∃ i u, c.newTable.insert storage name = (.ok i, u) ∧
        u.capacity = c.initialCapacity ∧
        ∀ inserts : List (Storage × Name), SymbolTable.Doubles c.initialCapacity
          (SymbolTable.run (inserts.map fun step => (step.1, .insert step.2)) u).capacity) ∧
      (storage.grants c.initialCapacity = false → ∃ f,
        c.newTable.insert storage name = (.error f, c.newTable) ∧ c.newTable.capacity = 0 ∧
        f = .refused c.initialCapacity ∧ f.diagnostic?.map Diagnostic.kind = some .allocation)) ∧
    (c.validate = .ok () → ∀ inserts : List (Storage × Name),
      let t := SymbolTable.run (inserts.map fun step => (step.1, .insert step.2)) c.newTable
      t.capacity = 0 ∨ SymbolTable.Doubles c.initialCapacity t.capacity) := by
  have rounded : c.newTable.initialCapacity = c.initialCapacity ↔ c.initialCapacity.isPowerOfTwo :=
    SymbolTable.roundUp_eq_self_iff c.initialCapacity
  have sound : c.newTable.Sound := SymbolTable.sound_start c.initialCapacity
  have exact_size (accepted : c.validate = .ok ()) : c.newTable.initialCapacity = c.initialCapacity :=
    rounded.mpr (c.validate_eq_ok_iff.mp accepted)
  refine ⟨?_, c.validate_eq_ok_iff, fun accepted storage name => ?_, fun accepted inserts => ?_⟩
  · rw [validate_eq_ok_iff, rounded]
    exact ⟨fun power => ⟨SymbolTable.le_maxCapacity_of_isPowerOfTwo power range, power⟩, And.right⟩
  · obtain ⟨first, refused⟩ := SymbolTable.insert_of_capacity_zero sound rfl storage name
    rw [exact_size accepted] at first refused
    refine ⟨fun granted => ?_, fun denied => ⟨_, refused denied, rfl, rfl, rfl⟩⟩
    obtain ⟨i, u, inserted, sound', capacity⟩ := first granted
    have pos := Nat.pos_of_isPowerOfTwo (c.validate_eq_ok_iff.mp accepted)
    refine ⟨i, u, inserted, capacity, fun inserts => ?_⟩
    rw [← capacity]
    exact SymbolTable.capacity_run_inserts sound' (by omega) inserts
  · rw [← exact_size accepted]
    exact SymbolTable.capacity_run_inserts_of_zero sound rfl inserts

theorem capacity_of_accepted_largest :
    (⟨SymbolTable.maxCapacity, true⟩ : Config).validate = .ok () ∧
    (⟨SymbolTable.maxCapacity + 1, true⟩ : Config).validate ≠ .ok () ∧
    (∃ f, (⟨SymbolTable.maxCapacity, true⟩ : Config).newTable.insert .addressSpace ⟨[97]⟩ =
      (.error f, (⟨SymbolTable.maxCapacity, true⟩ : Config).newTable) ∧
      f.diagnostic?.map Diagnostic.kind = some .allocation) ∧
    ∃ i u, (⟨4, true⟩ : Config).newTable.insert .addressSpace ⟨[97]⟩ = (.ok i, u) ∧ u.capacity = 4 ∧
      SymbolTable.Doubles 4
        (SymbolTable.run (SymbolTable.nineInserts.map fun step => (step.1, .insert step.2)) u).capacity := by
  obtain ⟨-, largest, refused, -⟩ := capacity_of_accepted ⟨SymbolTable.maxCapacity, true⟩ (by decide)
  obtain ⟨above, -, -, -⟩ := capacity_of_accepted ⟨SymbolTable.maxCapacity + 1, true⟩ (by decide)
  obtain ⟨-, four, first, -⟩ := capacity_of_accepted ⟨4, true⟩ (by decide)
  have accepted := largest.mpr ⟨63, rfl⟩
  refine ⟨accepted, fun taken => absurd (above.mp taken).1 (by decide), ?_, ?_⟩
  · obtain ⟨f, inserted, -, -, kind⟩ := (refused accepted .addressSpace ⟨[97]⟩).2 (by decide)
    exact ⟨f, inserted, kind⟩
  · obtain ⟨i, u, inserted, capacity, onwards⟩ :=
      (first (four.mpr ⟨2, rfl⟩) .addressSpace ⟨[97]⟩).1 (by decide)
    exact ⟨i, u, inserted, capacity, onwards SymbolTable.nineInserts⟩

end Config
end WasmText
