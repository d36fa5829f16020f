import WasmText.Const
import WasmText.Expr.Operator
import WasmText.Ref

/-!
# Expressions

The instruction tree. An expression owns its operands; a table switch also carries the symbol table
that finds its cases by label.
-/
namespace WasmText

/-- Where a table switch goes: to one of its own cases, or out to an enclosing label. -/
inductive Target
  | case (r : Ref)
  | branch (r : Ref)
  deriving DecidableEq

mutual

inductive Expr
  | binary (op : Typed BinaryOp) (left right : Expr)
  | block (label : Option Name) (body : List Expr)
  | br (label : Ref) (value : Option Expr)
  | brIf (label : Ref) (condition : Expr) (value : Option Expr)
  | call (function : Ref) (operands : List Expr)
  | callImport (function : Ref) (operands : List Expr)
  | callIndirect (type : Ref) (position : Expr) (operands : List Expr)
  | compare (op : Typed CompareOp) (left right : Expr)
  | const (value : Const)
  | convert (op : Conversion) (operand : Expr)
  | getLocal (ref : Ref)
  | growMemory (pages : Expr)
  | hasFeature (feature : Name)
  | ifThen (condition whenTrue : Expr)
  | ifElse (condition whenTrue whenFalse : Expr)
  | load (access : MemoryAccess) (address : Expr)
  | loadGlobal (ref : Ref)
  | loop (inner outer : Option Name) (body : List Expr)
  | memorySize
  | nop
  | ret (value : Option Expr)
  | select (type : ValueType) (condition whenTrue whenFalse : Expr)
  | setLocal (ref : Ref) (value : Expr)
  | store (access : MemoryAccess) (address value : Expr)
  | storeGlobal (ref : Ref) (value : Expr)
  | tableswitch (switch : Switch)
  | unary (op : Typed UnaryOp) (operand : Expr)
  | unreachable

/-- A body that a table switch can enter. -/
structure Case where
  label : Option Name
  body : List Expr

/-- A jump by the value of a key; `symbols` finds the labelled cases. -/
structure Switch where
  label : Option Name
  key : Expr
  targets : List Target
  default : Target
  symbols : SymbolTable
  cases : List Case

end

namespace Expr

/-- The word that names the kind of instruction. -/
def keyword : Expr → String
  | binary .. => "binary"
  | block .. => "block"
  | br .. => "br"
  | brIf .. => "br_if"
  | call .. => "call"
  | callImport .. => "call_import"
  | callIndirect .. => "call_indirect"
  | compare .. => "compare"
  | const _ => "const"
  | convert .. => "convert"
  | getLocal _ => "get_local"
  | growMemory _ => "grow_memory"
  | hasFeature _ => "has_feature"
  | ifThen .. => "if"
  | ifElse .. => "if_else"
  | load .. => "load"
  | loadGlobal _ => "load_global"
  | loop .. => "loop"
  | memorySize => "memory_size"
  | nop => "nop"
  | ret _ => "return"
  | select .. => "select"
  | setLocal .. => "set_local"
  | store .. => "store"
  | storeGlobal .. => "store_global"
  | tableswitch _ => "tableswitch"
  | unary .. => "unary"
  | unreachable => "unreachable"

/-- The direct operands in evaluation order. A table switch has its key and then the bodies of its cases. -/
def children : Expr → List Expr
  | binary _ left right | compare _ left right => [left, right]
  | block _ body | loop _ _ body => body
  | br _ value | ret value => value.toList
  | brIf _ condition value => condition :: value.toList
  | call _ operands | callImport _ operands => operands
  | callIndirect _ position operands => position :: operands
  | convert _ operand | unary _ operand => [operand]
  | growMemory pages => [pages]
  | setLocal _ value | storeGlobal _ value => [value]
  | ifThen condition whenTrue => [condition, whenTrue]
  | ifElse condition whenTrue whenFalse | select _ condition whenTrue whenFalse =>
    [condition, whenTrue, whenFalse]
  | load _ address => [address]
  | store _ address value => [address, value]
  | tableswitch switch => switch.key :: switch.cases.flatMap Case.body
  | const _ | getLocal _ | hasFeature _ | loadGlobal _ | memorySize | nop | unreachable => []

theorem sizeOf_lt_of_mem_cases {e : Expr} {cases : List Case}
    (h : e ∈ cases.flatMap Case.body) : sizeOf e < sizeOf cases := by
  obtain ⟨⟨label, body⟩, hc, he⟩ := List.mem_flatMap.mp h
  have := List.sizeOf_lt_of_mem hc
  have := List.sizeOf_lt_of_mem he
  simp only [Case.mk.sizeOf_spec] at *
  omega

theorem sizeOf_lt_of_mem_option {e : Expr} {o : Option Expr} (h : e ∈ o.toList) :
    sizeOf e < sizeOf o := by
  cases o with
  | none => simp at h
  | some a =>
    obtain rfl : e = a := by simpa using h
    simp only [Option.some.sizeOf_spec]
    omega

/-- Every operand is smaller than the expression it belongs to. -/
theorem sizeOf_lt_of_mem_children {c e : Expr} (h : c ∈ e.children) : sizeOf c < sizeOf e := by
  cases e with
  | block | loop | call | callImport =>
    simp only [children] at h
    have := List.sizeOf_lt_of_mem h
    simp only [block.sizeOf_spec, loop.sizeOf_spec, call.sizeOf_spec, callImport.sizeOf_spec]
    omega
  | br | ret =>
    simp only [children] at h
    have := sizeOf_lt_of_mem_option h
    simp only [br.sizeOf_spec, ret.sizeOf_spec]
    omega
  | brIf =>
    simp only [children, List.mem_cons] at h
    simp only [brIf.sizeOf_spec]
    rcases h with rfl | h
    · omega
    · have := sizeOf_lt_of_mem_option h
      omega
  | callIndirect =>
    simp only [children, List.mem_cons] at h
    simp only [callIndirect.sizeOf_spec]
    rcases h with rfl | h
    · omega
    · have := List.sizeOf_lt_of_mem h
      omega
  | tableswitch switch =>
    obtain ⟨label, key, targets, default, symbols, cases⟩ := switch
    simp only [children, List.mem_cons] at h
    simp only [tableswitch.sizeOf_spec, Switch.mk.sizeOf_spec]
    rcases h with rfl | h
    · omega
    · have := sizeOf_lt_of_mem_cases h
      omega
  | const | getLocal | hasFeature | loadGlobal | memorySize | nop | unreachable =>
    simp [children] at h
  | _ =>
    simp only [children, List.mem_cons, List.not_mem_nil, or_false] at h
    rcases h with rfl | rfl | rfl <;>
    simp only [binary.sizeOf_spec, compare.sizeOf_spec, convert.sizeOf_spec, unary.sizeOf_spec,
      growMemory.sizeOf_spec, setLocal.sizeOf_spec, storeGlobal.sizeOf_spec, ifThen.sizeOf_spec,
      ifElse.sizeOf_spec, select.sizeOf_spec, load.sizeOf_spec, store.sizeOf_spec] <;>
    omega

end Expr
end WasmText
