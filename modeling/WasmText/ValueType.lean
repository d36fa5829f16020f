import WasmText.Text.Outline

/-!
# Value types

The types of operands and results; `void` stands for the absence of a value.
-/
namespace WasmText

inductive ValueType
  | void
  | i32
  | i64
  | f32
  | f64
  deriving DecidableEq

namespace ValueType

/-- The keyword that denotes the type in source text. -/
def keyword : ValueType → String
  | void => "void"
  | i32 => "i32"
  | i64 => "i64"
  | f32 => "f32"
  | f64 => "f64"

def ofKeyword? : String → Option ValueType
  | "void" => some void
  | "i32" => some i32
  | "i64" => some i64
  | "f32" => some f32
  | "f64" => some f64
  | _ => none

def outline (t : ValueType) : Outline :=
  .keyword t.keyword

/-- The type that an encoded module names for such a value; `void` has none. -/
def encoded : ValueType → Option ValueType
  | void => none
  | t => some t

theorem ofKeyword?_keyword (t : ValueType) : ofKeyword? t.keyword = some t := by
  cases t <;> rfl

theorem keyword_injective {s t : ValueType} (h : s.keyword = t.keyword) : s = t := by
  have := congrArg ofKeyword? h
  simpa [ofKeyword?_keyword] using this

end ValueType
end WasmText
