import WasmText.Text.Split

/-!
# Lines of a text

A line ends at a line feed, one carriage return before it belongs to the line end, and a text that
ends with a line feed has no empty line behind it.
-/
namespace WasmText.Lines

def dropReturn (line : List Char) : List Char :=
  if line.getLast? = some '\r' then line.dropLast else line

/-- The lines of a text; only a stretch that a line feed closes loses its carriage return. -/
def ofText (text : List Char) : List (List Char) :=
  let stretches := Split.pieces '\n' text
  match stretches.getLast? with
  | none => []
  | some last => stretches.dropLast.map dropReturn ++ if last = [] then [] else [last]

theorem ofText_flatMap {ls : List (List Char)} (h : ∀ l ∈ ls, '\n' ∉ l) :
    ofText (ls.flatMap (· ++ ['\n'])) = ls.map dropReturn := by
  have stretches : Split.pieces '\n' (ls.flatMap (· ++ ['\n'])) = ls ++ [[]] := by
    induction ls with
    | nil => rfl
    | cons l rest ih =>
      rw [List.forall_mem_cons] at h
      rw [List.flatMap_cons, List.append_assoc, List.singleton_append,
        Split.pieces_append_separator _ h.1, ih h.2, List.cons_append]
  simp [ofText, stretches]

theorem dropReturn_append {line : List Char} (rest : List Char) (h : '\r' ∉ line) :
    dropReturn (line ++ rest) = line ++ dropReturn rest := by
  cases rest with
  | nil =>
    have other : line.getLast? ≠ some '\r' := fun last => h (List.mem_of_getLast? last)
    simp [dropReturn, other]
  | cons c rest =>
    have last : (line ++ c :: rest).getLast? = (c :: rest).getLast? := by
      simp [List.getLast?_append, List.getLast?_cons]
    rw [dropReturn, dropReturn, last, List.dropLast_append_of_ne_nil (List.cons_ne_nil c rest)]
    split <;> rfl

end WasmText.Lines
