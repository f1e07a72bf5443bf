/-!
# Syntax trees

* `SyntaxNode`: what a parser says about one node: its kind, whether the grammar names it, whether
  it stands for something missing in the source, and its bytes.
* `SyntaxTree`: ordered trees of nodes, with `weight`, the number of nodes.
* `preorder`: the nodes with their depths, each before its children; `forestOf` reads such a list.
* `leaves`: the nodes without children from left to right.
-/

namespace CodeTags

/-- A node of a syntax tree; its text lies from byte `start` up to byte `stop` of the source. -/
structure SyntaxNode where
  kind : String
  named : Bool
  missing : Bool
  start : Nat
  stop : Nat
deriving DecidableEq, Repr

/-- An ordered tree of nodes. -/
inductive SyntaxTree where
  | node (label : SyntaxNode) (children : List SyntaxTree)

namespace SyntaxTree

mutual

/-- The number of nodes. -/
def weight : SyntaxTree → Nat
  | node _ ts => forestWeight ts + 1

/-- The number of nodes of several trees. -/
def forestWeight : List SyntaxTree → Nat
  | [] => 0
  | t :: ts => t.weight + forestWeight ts

end

mutual

/-- The nodes without children from left to right. -/
def leaves : SyntaxTree → List SyntaxNode
  | node l [] => [l]
  | node _ (t :: ts) => t.leaves ++ forestLeaves ts

/-- The leaves of several trees. -/
def forestLeaves : List SyntaxTree → List SyntaxNode
  | [] => []
  | t :: ts => t.leaves ++ forestLeaves ts

end

mutual

/-- Each node before its children, with its depth; the root has the depth that is given. -/
def preorder (depth : Nat) : SyntaxTree → List (Nat × SyntaxNode)
  | node l ts => (depth, l) :: forestPreorder (depth + 1) ts

/-- The nodes of several trees that stand at one depth. -/
def forestPreorder (depth : Nat) : List SyntaxTree → List (Nat × SyntaxNode)
  | [] => []
  | t :: ts => t.preorder depth ++ forestPreorder depth ts

end

/-- Puts a node in front of trees: it takes those that stand deeper as its children. -/
def adopt (n : Nat × SyntaxNode) (forest : List (Nat × SyntaxTree)) : List (Nat × SyntaxTree) :=
  (n.1, node n.2 ((forest.takeWhile (n.1 < ·.1)).map (·.2))) :: forest.dropWhile (n.1 < ·.1)

/-- The trees with their depths that a list of nodes in preorder stands for. -/
def forestOf (nodes : List (Nat × SyntaxNode)) : List (Nat × SyntaxTree) :=
  nodes.foldr adopt []

/-- The tree that a list of nodes in preorder begins with. -/
def ofPreorder? (nodes : List (Nat × SyntaxNode)) : Option SyntaxTree :=
  (forestOf nodes).head?.map (·.2)

theorem weight_pos (t : SyntaxTree) : 0 < t.weight := by
  cases t; simp [weight]

@[simp] theorem forestWeight_append (ts us : List SyntaxTree) :
    forestWeight (ts ++ us) = forestWeight ts + forestWeight us := by
  induction ts with
  | nil => simp [forestWeight]
  | cons t ts ih => simp [forestWeight, ih, Nat.add_assoc]

@[simp] theorem forestLeaves_append (ts us : List SyntaxTree) :
    forestLeaves (ts ++ us) = forestLeaves ts ++ forestLeaves us := by
  induction ts with
  | nil => simp [forestLeaves]
  | cons t ts ih => simp [forestLeaves, ih]

end SyntaxTree

end CodeTags
