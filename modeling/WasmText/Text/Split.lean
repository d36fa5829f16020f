/-!
# Splitting at a separator

A text with n separators has n + 1 pieces, some of them perhaps empty.
-/
namespace WasmText.Split

/-- Puts a character in front of the pieces behind it. -/
def extend (separator c : Char) (others : List (List Char)) : List (List Char) :=
  if c = separator then [] :: others
  else
    match others with
    | [] => [[c]]
    | first :: rest => (c :: first) :: rest

/-- The pieces between the separators. -/
def pieces (separator : Char) (text : List Char) : List (List Char) :=
  text.foldr (extend separator) [[]]

theorem pieces_cons (separator c : Char) (rest : List Char) :
    pieces separator (c :: rest) = extend separator c (pieces separator rest) := rfl

theorem pieces_append_separator {separator : Char} {line : List Char} (rest : List Char)
    (h : separator ∉ line) :
    pieces separator (line ++ separator :: rest) = line :: pieces separator rest := by
  induction line with
  | nil => simp [pieces_cons, extend]
  | cons c line ih =>
    simp only [List.mem_cons, not_or] at h
    simp [pieces_cons, extend, Ne.symm h.1, ih h.2]

end WasmText.Split
