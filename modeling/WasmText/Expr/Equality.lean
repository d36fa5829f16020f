import WasmText.Expr.Basic

/-!
# Equality of expressions

Two expressions are the same when they have the same instructions with the same operands. The symbol
table of a table switch takes no part in it, because it follows from the labels of the cases.
-/
namespace WasmText

mutual

def Expr.same : Expr → Expr → Bool
  | .binary op left right, .binary op' left' right' =>
    op == op' && left.same left' && right.same right'
  | .block label body, .block label' body' => label == label' && Expr.sameAll body body'
  | .br label value, .br label' value' => label == label' && Expr.sameOption value value'
  | .brIf label condition value, .brIf label' condition' value' =>
    label == label' && condition.same condition' && Expr.sameOption value value'
  | .call function operands, .call function' operands' =>
    function == function' && Expr.sameAll operands operands'
  | .callImport function operands, .callImport function' operands' =>
    function == function' && Expr.sameAll operands operands'
  | .callIndirect type position operands, .callIndirect type' position' operands' =>
    type == type' && position.same position' && Expr.sameAll operands operands'
  | .compare op left right, .compare op' left' right' =>
    op == op' && left.same left' && right.same right'
  | .const value, .const value' => value == value'
  | .convert op operand, .convert op' operand' => op == op' && operand.same operand'
  | .getLocal ref, .getLocal ref' => ref == ref'
  | .growMemory pages, .growMemory pages' => pages.same pages'
  | .hasFeature feature, .hasFeature feature' => feature == feature'
  | .ifThen condition whenTrue, .ifThen condition' whenTrue' =>
    condition.same condition' && whenTrue.same whenTrue'
  | .ifElse condition whenTrue whenFalse, .ifElse condition' whenTrue' whenFalse' =>
    condition.same condition' && whenTrue.same whenTrue' && whenFalse.same whenFalse'
  | .load access address, .load access' address' => access == access' && address.same address'
  | .loadGlobal ref, .loadGlobal ref' => ref == ref'
  | .loop inner outer body, .loop inner' outer' body' =>
    inner == inner' && outer == outer' && Expr.sameAll body body'
  | .memorySize, .memorySize => true
  | .nop, .nop => true
  | .ret value, .ret value' => Expr.sameOption value value'
  | .select type condition whenTrue whenFalse, .select type' condition' whenTrue' whenFalse' =>
    type == type' && condition.same condition' && whenTrue.same whenTrue' &&
      whenFalse.same whenFalse'
  | .setLocal ref value, .setLocal ref' value' => ref == ref' && value.same value'
  | .store access address value, .store access' address' value' =>
    access == access' && address.same address' && value.same value'
  | .storeGlobal ref value, .storeGlobal ref' value' => ref == ref' && value.same value'
  | .tableswitch switch, .tableswitch switch' => switch.same switch'
  | .unary op operand, .unary op' operand' => op == op' && operand.same operand'
  | .unreachable, .unreachable => true
  | _, _ => false

def Expr.sameAll : List Expr → List Expr → Bool
  | [], [] => true
  | e :: rest, e' :: rest' => e.same e' && Expr.sameAll rest rest'
  | _, _ => false

def Expr.sameOption : Option Expr → Option Expr → Bool
  | none, none => true
  | some e, some e' => e.same e'
  | _, _ => false

def Case.sameAll : List Case → List Case → Bool
  | [], [] => true
  | ⟨label, body⟩ :: rest, ⟨label', body'⟩ :: rest' =>
    label == label' && Expr.sameAll body body' && Case.sameAll rest rest'
  | _, _ => false

def Switch.same : Switch → Switch → Bool
  | ⟨label, key, targets, default, _, cases⟩, ⟨label', key', targets', default', _, cases'⟩ =>
    label == label' && key.same key' && targets == targets' && default == default' &&
      Case.sameAll cases cases'

end

/-- Cases are the same when their labels and bodies are. -/
def Case.same (a b : Case) : Bool :=
  a.label == b.label && Expr.sameAll a.body b.body

mutual

/-- The expression with the symbol table of every table switch in it made empty. -/
def Expr.eraseTables : Expr → Expr
  | .binary op left right => .binary op left.eraseTables right.eraseTables
  | .block label body => .block label (Expr.eraseAll body)
  | .br label value => .br label (Expr.eraseOption value)
  | .brIf label condition value =>
    .brIf label condition.eraseTables (Expr.eraseOption value)
  | .call function operands => .call function (Expr.eraseAll operands)
  | .callImport function operands => .callImport function (Expr.eraseAll operands)
  | .callIndirect type position operands =>
    .callIndirect type position.eraseTables (Expr.eraseAll operands)
  | .compare op left right => .compare op left.eraseTables right.eraseTables
  | .const value => .const value
  | .convert op operand => .convert op operand.eraseTables
  | .getLocal ref => .getLocal ref
  | .growMemory pages => .growMemory pages.eraseTables
  | .hasFeature feature => .hasFeature feature
  | .ifThen condition whenTrue => .ifThen condition.eraseTables whenTrue.eraseTables
  | .ifElse condition whenTrue whenFalse =>
    .ifElse condition.eraseTables whenTrue.eraseTables whenFalse.eraseTables
  | .load access address => .load access address.eraseTables
  | .loadGlobal ref => .loadGlobal ref
  | .loop inner outer body => .loop inner outer (Expr.eraseAll body)
  | .memorySize => .memorySize
  | .nop => .nop
  | .ret value => .ret (Expr.eraseOption value)
  | .select type condition whenTrue whenFalse =>
    .select type condition.eraseTables whenTrue.eraseTables whenFalse.eraseTables
  | .setLocal ref value => .setLocal ref value.eraseTables
  | .store access address value => .store access address.eraseTables value.eraseTables
  | .storeGlobal ref value => .storeGlobal ref value.eraseTables
  | .tableswitch switch => .tableswitch switch.eraseTables
  | .unary op operand => .unary op operand.eraseTables
  | .unreachable => .unreachable

def Expr.eraseAll : List Expr → List Expr
  | [] => []
  | e :: rest => e.eraseTables :: Expr.eraseAll rest

def Expr.eraseOption : Option Expr → Option Expr
  | none => none
  | some e => some e.eraseTables

def Case.eraseAll : List Case → List Case
  | [] => []
  | ⟨label, body⟩ :: rest => ⟨label, Expr.eraseAll body⟩ :: Case.eraseAll rest

def Switch.eraseTables : Switch → Switch
  | ⟨label, key, targets, default, _, cases⟩ =>
    ⟨label, key.eraseTables, targets, default, .empty, Case.eraseAll cases⟩

end

theorem Expr.eraseAll_eq_map (es : List Expr) : Expr.eraseAll es = es.map Expr.eraseTables := by
  induction es with
  | nil => simp [Expr.eraseAll]
  | cons e rest ih => simp [Expr.eraseAll, ih]

end WasmText
