import Retention.Yaml.Token

/-!
# Nodes of YAML

What a YAML document holds: scalars, sequences and mappings, each perhaps with a tag.  A node can
carry an anchor, which is a number, and an alias stands for the node with an anchor.
-/

namespace Retention.Yaml

/-- A node of a document. -/
inductive Node where
  | aliasTo (anchor : Nat)
  | scalar (anchor : Option Nat) (tag : Option String) (style : Style) (text : String)
  | sequence (anchor : Option Nat) (tag : Option String) (items : List Node)
  | mapping (anchor : Option Nat) (tag : Option String) (entries : List (Node × Node))
  deriving Inhabited

namespace Node

/-- The plain scalar that stands where nothing is written. -/
def blank : Node := scalar none none .plain ""

/-! ## Size and anchors -/

mutual

/-- The size of a node: one for an alias or a scalar, and for a collection two more than what it
holds. -/
def size : Node → Nat
  | aliasTo _ => 1
  | scalar _ _ _ _ => 1
  | sequence _ _ items => sizeOfItems items + 2
  | mapping _ _ entries => sizeOfEntries entries + 2

/-- The size of the items of a sequence. -/
def sizeOfItems : List Node → Nat
  | [] => 0
  | item :: items => item.size + sizeOfItems items

/-- The size of the entries of a mapping. -/
def sizeOfEntries : List (Node × Node) → Nat
  | [] => 0
  | (key, value) :: entries => key.size + value.size + sizeOfEntries entries

end

/-- A node with the anchor that it carries. -/
def withAnchor (node : Node) : Option Nat → List (Nat × Node)
  | some anchor => [(anchor, node)]
  | none => []

mutual

/-- The nodes that carry anchors, in the order in which they begin. -/
def anchored : Node → List (Nat × Node)
  | aliasTo _ => []
  | scalar anchor tag style text => withAnchor (scalar anchor tag style text) anchor
  | sequence anchor tag items =>
    withAnchor (sequence anchor tag items) anchor ++ anchoredItems items
  | mapping anchor tag entries =>
    withAnchor (mapping anchor tag entries) anchor ++ anchoredEntries entries

/-- The items of a sequence that carry anchors. -/
def anchoredItems : List Node → List (Nat × Node)
  | [] => []
  | item :: items => item.anchored ++ anchoredItems items

/-- The keys and values of a mapping that carry anchors. -/
def anchoredEntries : List (Node × Node) → List (Nat × Node)
  | [] => []
  | (key, value) :: entries => key.anchored ++ value.anchored ++ anchoredEntries entries

end

end Node

end Retention.Yaml
