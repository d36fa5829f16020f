import Mathlib.Order.Defs.Unbundled
import WasmText.Expr.Basic

/-!
# Places in an expression

An expression holds its operands in fields of their own, in a list, or in the bodies of its cases. Each of
these places has a name, and the places stand in the order of evaluation.
-/
namespace WasmText

/-- A field, counted in order of evaluation, a member of the list, or a member of the body of a case. -/
inductive Place
  | field (i : Nat)
  | member (i : Nat)
  | inCase (k i : Nat)

namespace Place

/-- Fields come before lists, and members go by their position, those of cases by that of the case first. -/
def Before : Place → Place → Prop
  | field i, field j | member i, member j => i < j
  | inCase k i, inCase l j => k < l ∨ k = l ∧ i < j
  | field _, member _ | field _, inCase _ _ | member _, inCase _ _ => True
  | _, _ => False

instance : IsStrictOrder Place Before where
  irrefl p := by cases p <;> simp [Before]
  trans p q r h k := by cases p <;> cases q <;> cases r <;> simp only [Before] at * <;> omega

end Place

namespace Expr
open Place

/-- What an expression holds at a place. -/
def at? (p : Place) : Expr → Option Expr
  | binary _ left right | compare _ left right =>
    match p with
    | field 0 => left
    | field 1 => right
    | _ => none
  | block _ body | loop _ _ body =>
    match p with
    | member i => body[i]?
    | _ => none
  | br _ value | ret value =>
    match p with
    | field 0 => value
    | _ => none
  | brIf _ condition value =>
    match p with
    | field 0 => condition
    | field 1 => value
    | _ => none
  | call _ operands | callImport _ operands =>
    match p with
    | member i => operands[i]?
    | _ => none
  | callIndirect _ position operands =>
    match p with
    | field 0 => position
    | member i => operands[i]?
    | _ => none
  | convert _ operand | unary _ operand | growMemory operand | setLocal _ operand
  | storeGlobal _ operand | load _ operand =>
    match p with
    | field 0 => operand
    | _ => none
  | ifThen condition whenTrue =>
    match p with
    | field 0 => condition
    | field 1 => whenTrue
    | _ => none
  | ifElse condition whenTrue whenFalse | select _ condition whenTrue whenFalse =>
    match p with
    | field 0 => condition
    | field 1 => whenTrue
    | field 2 => whenFalse
    | _ => none
  | store _ address value =>
    match p with
    | field 0 => address
    | field 1 => value
    | _ => none
  | tableswitch switch =>
    match p with
    | field 0 => switch.key
    | inCase k i => (switch.cases[k]?).bind fun c => c.body[i]?
    | _ => none
  | const _ | getLocal _ | hasFeature _ | loadGlobal _ | memorySize | nop | unreachable => none

end Expr
end WasmText
