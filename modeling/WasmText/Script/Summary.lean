import WasmText.Json
import WasmText.Script.Basic

/-!
# Summaries of scripts

A script's commands as plain data. A module is summed up by its counts, its export names, the types of
its globals and whether it has a memory and a table; all other commands appear in full.
-/
namespace WasmText

def Module.summary (m : Module) : Json :=
  .object
    [("exports", .array (m.exports.map fun e => .text e.name.text)),
      ("func_types", .nat m.numTypes), ("funcs", .nat m.numFuncs),
      ("globals", .array (m.globals.types.toList.map fun t => .text t.keyword)),
      ("has_memory", .bool m.memory?.isSome), ("has_table", .bool m.table?.isSome),
      ("imports", .nat m.numImports)]

def Invoke.summary (i : Invoke) : Json :=
  .object [("args", .array (i.arguments.map Const.summary)), ("name", .text i.name.text)]

/-- A member of an object that is there only if its value is. -/
def Json.optional {α : Type} (key : String) (f : α → Json) (value : Option α) :
    List (String × Json) :=
  (value.map fun a => (key, f a)).toList

def Command.summary (c : Command) : Json :=
  .object
    (Json.optional "expected" Const.summary c.expected? ++
      Json.optional "invoke" Invoke.summary c.invoke? ++
      Json.optional "module" Module.summary c.module? ++
      Json.optional "text" (fun n => .text n.text) c.text? ++
      [("type", .text c.keyword)])

def Script.summary (s : Script) : Json :=
  .object [("commands", .array (s.commands.map Command.summary))]

end WasmText
