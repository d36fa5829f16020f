import Mathlib.Algebra.Order.Ring.Nat
import Mathlib.Data.Nat.Log
import WasmText.SymbolTable.Basic

/-!
# Rounding up to a power of two

The number of slots that was asked for is rounded up to the least power of two that is enough
(`leastPower_roundUp`), which leaves the powers of two as they are (`roundUp_eq_self_iff`).
-/
namespace WasmText.SymbolTable

variable {a c d n : Nat}

/-- The least power of two that is below neither of two numbers. -/
structure LeastPower (a b c : Nat) : Prop where
  power : c.isPowerOfTwo
  left_le : a ≤ c
  right_le : b ≤ c
  least : ∀ d, d.isPowerOfTwo → a ≤ d → b ≤ d → c ≤ d

/-- Between a power of two and its double there is no other. -/
theorem two_mul_le_of_lt (hc : c.isPowerOfTwo) (hd : d.isPowerOfTwo) (lt : c < d) : 2 * c ≤ d := by
  obtain ⟨i, rfl⟩ := hc
  obtain ⟨j, rfl⟩ := hd
  have step : i + 1 ≤ j := (Nat.pow_lt_pow_iff_right (by decide)).mp lt
  calc
    2 * 2 ^ i = 2 ^ (i + 1) := by rw [Nat.pow_succ, Nat.mul_comm]
    _ ≤ 2 ^ j := Nat.pow_le_pow_right (by decide) step

/-- The exponent of the power of two below the double is that of the least one that is enough. -/
theorem log2_eq_clog (pos : 0 < n) : (2 * n - 1).log2 = Nat.clog 2 n := by
  refine eq_of_forall_ge_iff fun k => ?_
  calc
    (2 * n - 1).log2 ≤ k ↔ (2 * n - 1).log2 < k + 1 := Nat.lt_succ_iff.symm
    _ ↔ 2 * n - 1 < 2 ^ (k + 1) := Nat.log2_lt (by omega)
    _ ↔ n ≤ 2 ^ k := by
      rw [Nat.pow_succ]
      omega
    _ ↔ Nat.clog 2 n ≤ k := (Nat.clog_le_iff_le_pow Nat.one_lt_two).symm

theorem roundUp_eq_two_pow_clog (n : Nat) : roundUp n = 2 ^ Nat.clog 2 n := by
  rcases Nat.eq_zero_or_pos n with rfl | pos
  · rfl
  · rw [roundUp, log2_eq_clog pos]
    exact Nat.one_shiftLeft _

theorem initialCapacity_withInitialCapacity (requested : Nat) :
    (withInitialCapacity requested).initialCapacity = 2 ^ Nat.clog 2 (max requested 1) :=
  roundUp_eq_two_pow_clog _

theorem leastPower_roundUp (n : Nat) : LeastPower n 1 (roundUp n) := by
  rw [roundUp_eq_two_pow_clog]
  refine ⟨⟨_, rfl⟩, Nat.le_pow_clog Nat.one_lt_two n, Nat.one_le_two_pow, ?_⟩
  rintro _ ⟨j, rfl⟩ enough -
  exact Nat.pow_le_pow_right (by decide) (Nat.clog_le_of_le_pow enough)

/-- Rounding up leaves the powers of two alone. -/
theorem roundUp_eq_self_iff (n : Nat) : roundUp (max n 1) = n ↔ n.isPowerOfTwo := by
  have least := leastPower_roundUp (max n 1)
  constructor
  · intro same
    rw [← same]
    exact least.power
  · intro power
    have pos := Nat.pos_of_isPowerOfTwo power
    have up : max n 1 ≤ roundUp (max n 1) := least.left_le
    have down : roundUp (max n 1) ≤ n := least.least n power (by omega) pos
    omega

/-- A power of two that is not used up is still the least for one more. -/
theorem LeastPower.succ_of_lt (h : LeastPower a n c) (lt : n < c) : LeastPower a (n + 1) c :=
  ⟨h.power, h.left_le, lt, fun d hd left right => h.least d hd left (by omega)⟩

/-- For one more than a power of two the least is its double. -/
theorem LeastPower.double (h : LeastPower a n n) : LeastPower a (n + 1) (2 * n) := by
  have pos := Nat.pos_of_isPowerOfTwo h.power
  have left := h.left_le
  refine ⟨?_, by omega, by omega, fun d hd _ more => two_mul_le_of_lt h.power hd (by omega)⟩
  rw [Nat.mul_comm]
  exact Nat.isPowerOfTwo_mul_two_of_isPowerOfTwo h.power

end WasmText.SymbolTable
