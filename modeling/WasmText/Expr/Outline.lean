import WasmText.Expr.Basic
import WasmText.SymbolTable.Outline

/-!
# The printed structure of an expression
-/
namespace WasmText

def Target.outline : Target → Outline
  | case r => .record "Target" [("kind", .atom "Case"), ("var", r.outline)]
  | branch r => .record "Target" [("kind", .atom "Br"), ("var", r.outline)]

mutual

def Expr.outline : Expr → Outline
  | .binary op left right =>
    .record "Binary"
      [("op", op.outline BinaryOp.mnemonic), ("left", left.outline), ("right", right.outline)]
  | .block label body =>
    .record "Block"
      [("label", .option Name.outline label), ("exprs", .list (Expr.outlineAll body))]
  | .br label value =>
    .record "Br" [("var", label.outline), ("expr", Expr.outlineOption value)]
  | .brIf label condition value =>
    .record "BrIf"
      [("var", label.outline), ("cond", condition.outline), ("expr", Expr.outlineOption value)]
  | .call function operands =>
    .record "Call" [("var", function.outline), ("args", .list (Expr.outlineAll operands))]
  | .callImport function operands =>
    .record "CallImport" [("var", function.outline), ("args", .list (Expr.outlineAll operands))]
  | .callIndirect type position operands =>
    .record "CallIndirect"
      [("var", type.outline), ("expr", position.outline), ("args", .list (Expr.outlineAll operands))]
  | .compare op left right =>
    .record "Compare"
      [("op", op.outline CompareOp.mnemonic), ("left", left.outline), ("right", right.outline)]
  | .const value => .variant "Const" [value.outline]
  | .convert op operand => .record "Convert" [("op", op.outline), ("expr", operand.outline)]
  | .getLocal ref => .record "GetLocal" [("var", ref.outline)]
  | .growMemory pages => .record "GrowMemory" [("expr", pages.outline)]
  | .hasFeature feature => .record "HasFeature" [("text", feature.outline)]
  | .ifThen condition whenTrue =>
    .record "If" [("cond", condition.outline), ("true_", whenTrue.outline)]
  | .ifElse condition whenTrue whenFalse =>
    .record "IfElse"
      [("cond", condition.outline), ("true_", whenTrue.outline), ("false_", whenFalse.outline)]
  | .load access address =>
    .record "Load" [("access", access.outline), ("addr", address.outline)]
  | .loadGlobal ref => .record "LoadGlobal" [("var", ref.outline)]
  | .loop inner outer body =>
    .record "Loop"
      [("inner", .option Name.outline inner), ("outer", .option Name.outline outer),
        ("exprs", .list (Expr.outlineAll body))]
  | .memorySize => .atom "MemorySize"
  | .nop => .atom "Nop"
  | .ret value => .record "Return" [("expr", Expr.outlineOption value)]
  | .select type condition whenTrue whenFalse =>
    .record "Select"
      [("value_type", type.outline), ("cond", condition.outline), ("true_", whenTrue.outline),
        ("false_", whenFalse.outline)]
  | .setLocal ref value => .record "SetLocal" [("var", ref.outline), ("expr", value.outline)]
  | .store access address value =>
    .record "Store"
      [("access", access.outline), ("addr", address.outline), ("value", value.outline)]
  | .storeGlobal ref value =>
    .record "StoreGlobal" [("var", ref.outline), ("expr", value.outline)]
  | .tableswitch switch => .variant "Tableswitch" [switch.outline]
  | .unary op operand =>
    .record "Unary" [("op", op.outline UnaryOp.mnemonic), ("expr", operand.outline)]
  | .unreachable => .atom "Unreachable"

def Expr.outlineAll : List Expr → List Outline
  | [] => []
  | e :: rest => e.outline :: Expr.outlineAll rest

def Expr.outlineOption : Option Expr → Outline
  | none => .atom "None"
  | some e => .variant "Some" [e.outline]

def Case.outlineAll : List Case → List Outline
  | [] => []
  | ⟨label, body⟩ :: rest =>
    .record "Case"
      [("label", .option Name.outline label), ("exprs", .list (Expr.outlineAll body))] ::
      Case.outlineAll rest

def Switch.outline : Switch → Outline
  | ⟨label, key, targets, default, symbols, cases⟩ =>
    .record "Tableswitch"
      [("label", .option Name.outline label), ("expr", key.outline),
        ("targets", .ofList Target.outline targets), ("default_target", default.outline),
        ("case_bindings", symbols.outline), ("cases", .list (Case.outlineAll cases))]

end

end WasmText
