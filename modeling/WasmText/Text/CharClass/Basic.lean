/-!
# Classes of characters

A class is a list of ranges of code points in ascending order. `contains` stops at the first range
that begins above the code point, and by `contains_iff` misses nothing by it.
-/
namespace WasmText.CharClass

/-- Tells whether a code point lies in one of the ranges. -/
def contains : List (Nat × Nat) → Nat → Bool
  | [], _ => false
  | (low, high) :: rest, n => low ≤ n && (n ≤ high || contains rest n)

/-- Every range is in order and ends before the next one begins. -/
def Ascending : List (Nat × Nat) → Bool
  | [] => true
  | [(low, high)] => low ≤ high
  | (low, high) :: (low', high') :: rest =>
    low ≤ high && high < low' && Ascending ((low', high') :: rest)

theorem ascending_tail {r : Nat × Nat} {rest : List (Nat × Nat)}
    (h : Ascending (r :: rest) = true) : Ascending rest = true := by
  cases rest with
  | nil => rfl
  | cons s rest =>
    simp only [Ascending, Bool.and_eq_true] at h
    exact h.2

/-- No range begins before the first one does. -/
theorem le_of_ascending {r s : Nat × Nat} {rest : List (Nat × Nat)}
    (h : Ascending (r :: rest) = true) (hs : s ∈ rest) : r.1 ≤ s.1 := by
  induction rest generalizing r with
  | nil => cases hs
  | cons t rest ih =>
    have first : r.1 ≤ t.1 := by
      simp only [Ascending, Bool.and_eq_true, decide_eq_true_eq] at h
      omega
    rcases List.mem_cons.mp hs with rfl | hs
    · exact first
    · exact Nat.le_trans first (ih (ascending_tail h) hs)

theorem contains_iff {ranges : List (Nat × Nat)} (h : Ascending ranges = true) (n : Nat) :
    contains ranges n = true ↔ ∃ r ∈ ranges, r.1 ≤ n ∧ n ≤ r.2 := by
  induction ranges with
  | nil => simp [contains]
  | cons r rest ih =>
    simp only [contains, Bool.and_eq_true, Bool.or_eq_true, decide_eq_true_eq,
      ih (ascending_tail h), List.mem_cons, exists_eq_or_imp]
    constructor
    · rintro ⟨low, high | later⟩
      · exact .inl ⟨low, high⟩
      · exact .inr later
    · rintro (here | ⟨s, hs, low, high⟩)
      · exact ⟨here.1, .inl here.2⟩
      · exact ⟨Nat.le_trans (le_of_ascending h hs) low, .inr ⟨s, hs, low, high⟩⟩

end WasmText.CharClass
