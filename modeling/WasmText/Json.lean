/-!
# Structured summaries

The values that a script's summary is made of. Numbers are natural numbers of any size, and the keys
of an object stand in the order in which they were given.
-/
namespace WasmText

inductive Json
  | bool (b : Bool)
  | nat (n : Nat)
  | text (s : String)
  | array (items : List Json)
  | object (members : List (String × Json))

namespace Json

/-- The value of a member of an object. -/
def member? (key : String) : Json → Option Json
  | .object members => members.lookup key
  | _ => none

end Json
end WasmText
