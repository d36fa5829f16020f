import WasmText.Expr.Basic

/-!
# Walking an expression

Counting and listing the nodes of a tree through `children` alone. The recursion ends because every
operand is smaller than its expression; the equations `nodes_eq` and `nodeCount_eq` are the ones to
reason with.
-/
namespace WasmText.Expr

/-- The expression and all expressions below it, each before its operands. -/
def nodes (e : Expr) : List Expr :=
  e :: e.children.attach.flatMap fun c => nodes c.val
termination_by sizeOf e
decreasing_by exact sizeOf_lt_of_mem_children c.property

/-- How many nodes the tree has, itself included. -/
def nodeCount (e : Expr) : Nat :=
  (e.children.attach.map fun c => nodeCount c.val).foldr (· + ·) 1
termination_by sizeOf e
decreasing_by exact sizeOf_lt_of_mem_children c.property

/-- The kind of a node and how many operands it has. -/
def signature (e : Expr) : String × Nat :=
  (e.keyword, e.children.length)

/-- The kinds of all nodes in order, each with its number of operands. -/
def preorder (e : Expr) : List (String × Nat) :=
  e.nodes.map signature

theorem nodes_eq (e : Expr) : e.nodes = e :: e.children.flatMap nodes := by
  rw [nodes]
  simp only [List.flatMap_def, List.map_attach_eq_pmap, List.pmap_eq_map]

theorem nodeCount_eq (e : Expr) : e.nodeCount = (e.children.map nodeCount).foldr (· + ·) 1 := by
  rw [nodeCount]
  simp only [List.map_attach_eq_pmap, List.pmap_eq_map]

theorem preorder_eq (e : Expr) : e.preorder = e.signature :: e.children.flatMap preorder := by
  rw [preorder, nodes_eq, List.map_cons, List.map_flatMap]
  rfl

/-- Induction through the operands. -/
theorem childrenInduction {motive : Expr → Prop}
    (step : ∀ e, (∀ c ∈ e.children, motive c) → motive e) (e : Expr) : motive e :=
  step e fun c _ => childrenInduction step c
termination_by sizeOf e
decreasing_by exact sizeOf_lt_of_mem_children ‹_›

end WasmText.Expr
