import WasmText.Module.Basic

/-!
# Scripts

A script is a list of commands, each of which declares a module, invokes an export, or asserts what
comes of either.
-/
namespace WasmText

/-- The call of an export with constant arguments. -/
structure Invoke where
  name : Name
  arguments : List Const
  deriving DecidableEq

inductive Command
  | module (m : Module)
  | invoke (i : Invoke)
  | assertInvalid (m : Module) (text : Name)
  | assertReturn (i : Invoke) (expected : Option Const)
  | assertReturnNan (i : Invoke)
  | assertTrap (i : Invoke) (text : Name)

structure Script where
  commands : List Command

namespace Command

def keyword : Command → String
  | module _ => "module"
  | invoke _ => "invoke"
  | assertInvalid .. => "assert_invalid"
  | assertReturn .. => "assert_return"
  | assertReturnNan _ => "assert_return_nan"
  | assertTrap .. => "assert_trap"

def invoke? : Command → Option Invoke
  | invoke i | assertReturn i _ | assertReturnNan i | assertTrap i _ => some i
  | module _ | assertInvalid .. => none

def module? : Command → Option Module
  | module m | assertInvalid m _ => some m
  | _ => none

/-- The text of the failure that an assertion expects. -/
def text? : Command → Option Name
  | assertInvalid _ text | assertTrap _ text => some text
  | _ => none

/-- The value that an assertion expects. -/
def expected? : Command → Option Const
  | assertReturn _ expected => expected
  | _ => none

end Command

def Invoke.outline (i : Invoke) : Outline :=
  .record "Invoke" [("name", i.name.outline), ("args", .ofList Const.outline i.arguments)]

def Command.outline : Command → Outline
  | module m => .variant "Module" [m.outline]
  | invoke i => .variant "Invoke" [i.outline]
  | assertInvalid m text =>
    .record "AssertInvalid" [("module", m.outline), ("text", text.outline)]
  | assertReturn i expected =>
    .record "AssertReturn"
      [("invoke", i.outline), ("expected", .option Const.outline expected)]
  | assertReturnNan i => .record "AssertReturnNan" [("invoke", i.outline)]
  | assertTrap i text => .record "AssertTrap" [("invoke", i.outline), ("text", text.outline)]

def Script.outline (s : Script) : Outline :=
  .record "Script" [("commands", .ofList Command.outline s.commands)]

end WasmText
