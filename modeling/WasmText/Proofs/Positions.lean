import Mathlib.Data.List.Basic

/-!
# Lists by position

A list read at its positions in turn is the list again, and in a list put together of pieces of one length
every position is a piece and a position in it.
-/
namespace WasmText

variable {α β : Type}

/-- Reading a list at all its indices, and perhaps at some more, gives the list. -/
theorem filterMap_range_of_le {l : List α} {n : Nat} (le : l.length ≤ n) :
    (List.range n).filterMap (l[·]?) = l := by
  induction l generalizing n with
  | nil => simp
  | cons a rest ih =>
    cases n with
    | zero => simp at le
    | succ n =>
      have behind := ih (Nat.le_of_succ_le_succ le)
      simpa [List.range_succ_eq_map, List.filterMap_map, Function.comp_def] using behind

theorem filterMap_range_getElem? (l : List α) : (List.range l.length).filterMap (l[·]?) = l :=
  filterMap_range_of_le (Nat.le_refl _)

theorem length_flatMap_of_length {f : α → List β} {n : Nat} (length : ∀ a, (f a).length = n)
    (l : List α) : (l.flatMap f).length = n * l.length := by
  simp [List.length_flatMap, length, Nat.mul_comm]

/-- Position `r` of piece `q`, when all pieces have length `n`. -/
theorem getElem?_flatMap_of_length {f : α → List β} {n r : Nat} (length : ∀ a, (f a).length = n)
    (l : List α) (q : Nat) (lt : r < n) :
    (l.flatMap f)[n * q + r]? = (l[q]?).bind fun a => (f a)[r]? := by
  induction l generalizing q with
  | nil => simp
  | cons a rest ih =>
    cases q with
    | zero => simp [List.getElem?_append_left, length, lt]
    | succ q =>
      have behind : n * (q + 1) + r - n = n * q + r := by rw [Nat.mul_succ]; omega
      rw [List.flatMap_cons, List.getElem?_append_right (by rw [length, Nat.mul_succ]; omega), length,
        behind, ih, List.getElem?_cons_succ]

end WasmText
