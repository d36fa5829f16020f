import WasmText.Expr.Traversal

/-!
# The expressions stored in an expression

All expressions that lie anywhere in a tree, listed by going through its fields one by one, and the
tree of instruction kinds.
-/
namespace WasmText

mutual

/-- The expression and all expressions in its fields, in the order of the fields. -/
def Expr.stored : Expr → List Expr
  | e@(.binary _ left right) => e :: (left.stored ++ right.stored)
  | e@(.block _ body) => e :: Expr.storedAll body
  | e@(.br _ value) => e :: Expr.storedOption value
  | e@(.brIf _ condition value) => e :: (condition.stored ++ Expr.storedOption value)
  | e@(.call _ operands) => e :: Expr.storedAll operands
  | e@(.callImport _ operands) => e :: Expr.storedAll operands
  | e@(.callIndirect _ position operands) => e :: (position.stored ++ Expr.storedAll operands)
  | e@(.compare _ left right) => e :: (left.stored ++ right.stored)
  | e@(.const _) => [e]
  | e@(.convert _ operand) => e :: operand.stored
  | e@(.getLocal _) => [e]
  | e@(.growMemory pages) => e :: pages.stored
  | e@(.hasFeature _) => [e]
  | e@(.ifThen condition whenTrue) => e :: (condition.stored ++ whenTrue.stored)
  | e@(.ifElse condition whenTrue whenFalse) =>
    e :: (condition.stored ++ whenTrue.stored ++ whenFalse.stored)
  | e@(.load _ address) => e :: address.stored
  | e@(.loadGlobal _) => [e]
  | e@(.loop _ _ body) => e :: Expr.storedAll body
  | e@(.memorySize) => [e]
  | e@(.nop) => [e]
  | e@(.ret value) => e :: Expr.storedOption value
  | e@(.select _ condition whenTrue whenFalse) =>
    e :: (condition.stored ++ whenTrue.stored ++ whenFalse.stored)
  | e@(.setLocal _ value) => e :: value.stored
  | e@(.store _ address value) => e :: (address.stored ++ value.stored)
  | e@(.storeGlobal _ value) => e :: value.stored
  | e@(.tableswitch switch) => e :: switch.stored
  | e@(.unary _ operand) => e :: operand.stored
  | e@(.unreachable) => [e]

def Expr.storedAll : List Expr → List Expr
  | [] => []
  | e :: rest => e.stored ++ Expr.storedAll rest

def Expr.storedOption : Option Expr → List Expr
  | none => []
  | some e => e.stored

def Case.storedAll : List Case → List Expr
  | [] => []
  | ⟨_, body⟩ :: rest => Expr.storedAll body ++ Case.storedAll rest

def Switch.stored : Switch → List Expr
  | ⟨_, key, _, _, _, cases⟩ => key.stored ++ Case.storedAll cases

end

namespace Expr

end Expr
end WasmText
