import WasmText.Script.Summary

/-!
# Reading summaries of scripts

Recovers the commands that declare no module from their summary.
-/
namespace WasmText

namespace Json

def text? : Json → Option String
  | text s => some s
  | _ => none

def nat? : Json → Option Nat
  | nat n => some n
  | _ => none

def array? : Json → Option (List Json)
  | array items => some items
  | _ => none

end Json

def Name.ofSummary? (j : Json) : Option Name :=
  j.text?.map Name.ofString

def Const.ofSummary? (j : Json) : Option Const :=
  ((j.member? "type").bind Json.text?).bind fun keyword =>
    (ValueType.ofKeyword? keyword).bind fun type =>
      ((j.member? "value").bind Json.nat?).bind fun bits => Const.ofBits? type bits

def Invoke.ofSummary? (j : Json) : Option Invoke :=
  ((j.member? "name").bind Name.ofSummary?).bind fun name =>
    (((j.member? "args").bind Json.array?).bind fun items => items.mapM Const.ofSummary?).map
      fun arguments => ⟨name, arguments⟩

/-- Reads a command of a given kind whose invocation has been read. -/
def Command.ofParts? (keyword : String) (i : Invoke) (j : Json) : Option Command :=
  match keyword with
  | "invoke" => some (.invoke i)
  | "assert_return" =>
    match j.member? "expected" with
    | none => some (.assertReturn i none)
    | some expected => (Const.ofSummary? expected).map fun c => .assertReturn i (some c)
  | "assert_return_nan" => some (.assertReturnNan i)
  | "assert_trap" => ((j.member? "text").bind Name.ofSummary?).map fun text => .assertTrap i text
  | _ => none

def Command.ofSummary? (j : Json) : Option Command :=
  ((j.member? "type").bind Json.text?).bind fun keyword =>
    ((j.member? "invoke").bind Invoke.ofSummary?).bind fun i => Command.ofParts? keyword i j

def Script.ofSummary? (j : Json) : Option Script :=
  (((j.member? "commands").bind Json.array?).bind fun items =>
    items.mapM Command.ofSummary?).map Script.mk

end WasmText
