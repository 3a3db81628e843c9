import Retention.Yaml.Node

/-!
# Walks through a document

A walk reads what it needs of a document.  Where it comes to an alias it follows it to the node that
the alias stands for.  A node can hold aliases to itself, and few aliases can make a great many
nodes, so the aliases that a walk may follow are counted.
-/

namespace Retention.Yaml

/-- A walk that reads an `α`: from the nodes with anchors and the count of aliases that may still be
followed, to what is read and the count that is left. -/
def Walk (α : Type) : Type := List (Nat × Node) → Nat → Option (α × Nat)

namespace Walk

variable {α β : Type}

/-- Runs a walk. -/
def run (walk : Walk α) (anchored : List (Nat × Node)) (aliases : Nat) : Option (α × Nat) :=
  walk anchored aliases

/-- Ends with a value. -/
def done (a : α) : Walk α := fun _ aliases => some (a, aliases)

/-- Refuses the document. -/
def refuse : Walk α := fun _ _ => none

/-- One walk after another. -/
def andThen (walk : Walk α) (next : α → Walk β) : Walk β := fun anchored aliases =>
  (walk.run anchored aliases).bind fun (a, aliases) => (next a).run anchored aliases

instance : Monad Walk where
  pure := done
  bind := andThen

/-- Ends with a value or refuses the document. -/
def ofOption : Option α → Walk α
  | some a => done a
  | none => refuse

/-- The node itself, or the one that it is an alias of. -/
def follow : Node → Walk Node
  | .aliasTo anchor => fun anchored aliases =>
    match aliases with
    | 0 => none
    | aliases + 1 => (anchored.lookup anchor).map fun node => (node, aliases)
  | node => done node

/-- The count of aliases that a walk may follow in a document, for each unit of its size. -/
def aliasesPerSize : Nat := 100

/-- Walks through a document. -/
def through (document : Node) (walk : Node → Walk α) : Option α :=
  ((walk document).run document.anchored.reverse (aliasesPerSize * document.size)).map Prod.fst

/-! ## Scalars and collections -/

/-- The text of a scalar. -/
def text (node : Node) : Walk String := do
  match ← follow node with
  | .scalar _ _ _ text => done text
  | _ => refuse

/-- The entries of a mapping. -/
def entries (node : Node) : Walk (List (Node × Node)) := do
  match ← follow node with
  | .mapping _ _ entries => done entries
  | _ => refuse

/-- The entries of a mapping in which every key is a scalar, under the texts of their keys. -/
def members (node : Node) : Walk (List (String × Node)) := do
  (← entries node).mapM fun entry => do return (← text entry.1, entry.2)

/-- The value of the member with a name, where there is one; a name that is there twice refuses the
document. -/
def member (members : List (String × Node)) (name : String) (read : Node → Walk α) :
    Walk (Option α) :=
  match members.filter fun member => member.1 = name with
  | [] => done none
  | [(_, node)] => do return some (← read node)
  | _ => refuse

end Walk

end Retention.Yaml
