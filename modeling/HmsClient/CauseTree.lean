/-! Errors that wrap other errors. An error is a node and the errors it wraps,
in order; a search visits a node before what it wraps and takes the first match.
The kinds of nodes are a parameter. -/
namespace HmsClient.CauseTree

/-- An error of some kind together with the errors it wraps. -/
inductive Tree (κ : Type) where
  | node (kind : κ) (causes : List (Tree κ))

namespace Tree

/-- The kinds in a tree, in the order a search visits them. -/
def nodes : Tree κ → List κ
  | .node kind causes => kind :: nodesOf causes
where
  nodesOf : List (Tree κ) → List κ
    | [] => []
    | cause :: rest => nodes cause ++ nodesOf rest

/-- An error and every error it wraps, in the order a search visits them. -/
def errors : Tree κ → List (Tree κ)
  | .node kind causes => .node kind causes :: errorsOf causes
where
  errorsOf : List (Tree κ) → List (Tree κ)
    | [] => []
    | cause :: rest => errors cause ++ errorsOf rest

/-- An error that wraps nothing. -/
def leaf (kind : κ) : Tree κ := .node kind []

/-- Whether a kind occurs anywhere in the tree. -/
def has (test : κ → Bool) (tree : Tree κ) : Bool := tree.nodes.any test

/-- What the first node that offers something offers. -/
def find (select : κ → Option β) (tree : Tree κ) : Option β := tree.nodes.findSome? select

end Tree

end HmsClient.CauseTree
