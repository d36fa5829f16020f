import WasmText.Text.Split

/-!
# Outlines

The structure of a value as a tree of names, in one line of text: a bare word or number, a name with
its arguments in parentheses, a name with its named fields in braces, or a list in brackets.
-/
namespace WasmText

inductive Outline
  | atom (text : String)
  | variant (name : String) (arguments : List Outline)
  | record (name : String) (fields : List (String × Outline))
  | list (items : List Outline)

namespace Outline

mutual

/-- Writes the tree behind the text that precedes it. -/
def renderAfter (before : String) : Outline → String
  | .atom text => before ++ text
  | .variant name arguments => renderItems (before ++ name ++ "(") arguments ++ ")"
  | .record name fields => renderFields (before ++ name ++ " \x7b ") fields ++ " \x7d"
  | .list items => renderItems (before ++ "[") items ++ "]"

def renderItems (before : String) : List Outline → String
  | [] => before
  | [item] => renderAfter before item
  | item :: next :: rest => renderItems (renderAfter before item ++ ", ") (next :: rest)

def renderFields (before : String) : List (String × Outline) → String
  | [] => before
  | [(name, value)] => renderAfter (before ++ name ++ ": ") value
  | (name, value) :: next :: rest =>
    renderFields (renderAfter (before ++ name ++ ": ") value ++ ", ") (next :: rest)

end

def render (o : Outline) : String :=
  renderAfter "" o

def capitalize : List Char → List Char
  | [] => []
  | c :: rest => c.toUpper :: rest

/-- The title of a keyword: its parts between underscores, capitalized and joined (ASCII letters). -/
def title (keyword : String) : String :=
  String.ofList ((Split.pieces '_' keyword.toList).flatMap capitalize)

/-- A value without parts, shown as the title of its keyword. -/
def keyword (word : String) : Outline :=
  .atom (title word)

def nat (n : Nat) : Outline :=
  .atom (Nat.repr n)

def bool (b : Bool) : Outline :=
  .atom (if b then "true" else "false")

def option {α : Type} (f : α → Outline) : Option α → Outline
  | none => .atom "None"
  | some a => .variant "Some" [f a]

def ofList {α : Type} (f : α → Outline) (as : List α) : Outline :=
  .list (as.map f)

end Outline
end WasmText
