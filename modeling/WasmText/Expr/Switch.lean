import WasmText.Expr.Basic
import WasmText.SymbolTable.Growth

/-!
# Table switches

A switch is made from its cases: every labelled case is bound to its position among all cases, the
unlabelled ones counted too. A target that names a case is then resolved like any other reference.
-/
namespace WasmText.Switch
open SymbolTable (Failure)

/-- The entries for the labelled cases, the first of which has the given position. -/
def labelled : Nat → List Case → List Entry
  | _, [] => []
  | i, c :: rest =>
    match c.label with
    | some label => ⟨label, UInt32.ofNat i⟩ :: labelled (i + 1) rest
    | none => labelled (i + 1) rest

/-- A switch with its cases bound by label. -/
def make (storage : Storage) (label : Option Name) (key : Expr) (targets : List Target)
    (default : Target) (cases : List Case) : Except Failure Switch :=
  match SymbolTable.bindAll storage (labelled 0 cases) .empty with
  | (.ok (), symbols) => .ok ⟨label, key, targets, default, symbols, cases⟩
  | (.error f, _) => .error f

/-- Gives the symbol table of a switch one number of slots after another, each out of the storage it meets,
as long as this succeeds. -/
def resizeAll : List (Storage × Nat) → Switch → Except Failure Unit × Switch
  | [], s => (.ok (), s)
  | (storage, capacity) :: rest, s =>
    match s.symbols.resize storage capacity with
    | (.ok (), symbols) => resizeAll rest { s with symbols := symbols }
    | (.error f, symbols) => (.error f, { s with symbols := symbols })

def caseIndex? (s : Switch) (r : Ref) : Option UInt32 :=
  r.resolve s.symbols

/-- The case that a target enters; there is none for a branch or for an unknown case. -/
def caseFor? (s : Switch) : Target → Option Case
  | .case r => (s.caseIndex? r).bind fun i => s.cases[i.toNat]?
  | .branch _ => none

theorem caseFor?_branch (s : Switch) (r : Ref) : s.caseFor? (.branch r) = none := rfl

end WasmText.Switch
