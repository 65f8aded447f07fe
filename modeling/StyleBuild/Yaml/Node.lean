import StyleBuild.Yaml.Token

/-!
# Nodes

A document is a tree of scalars, sequences and mappings. Each node knows where it starts. A
node may have an anchor, and an alias stands for the node of an anchor; since an anchor may be
set again, an alias refers to it by number, and the last node of a number counts.
-/

namespace StyleBuild.Yaml

/-- What nodes other than aliases have in common. -/
structure Label where
  mark : Mark := {}
  tag : Option String := none
  anchor : Option Nat := none
  deriving DecidableEq, Repr, Inhabited

/-- A node. -/
inductive Node where
  | scalar (label : Label) (text : String) (isPlain : Bool)
  | sequence (label : Label) (items : List Node)
  | mapping (label : Label) (entries : List (Node × Node))
  | alias (mark : Mark) (anchor : Nat)
  /-- The root of a document without content. -/
  | nothing (mark : Mark)
  deriving Repr, Inhabited

namespace Node

/-- Where a node starts. -/
def mark : Node → Mark
  | .scalar l _ _ | .sequence l _ | .mapping l _ => l.mark
  | .alias m _ | .nothing m => m

/-- A scalar without characters. -/
def empty (mark : Mark) : Node := .scalar { mark } "" true

/-- The anchor of a node. -/
def anchor? : Node → Option Nat
  | .scalar l _ _ | .sequence l _ | .mapping l _ => l.anchor
  | _ => none

mutual

/-- The anchored nodes of a tree, in the order of their starts. -/
def anchored : Node → List (Nat × Node)
  | .sequence l items =>
    (l.anchor.toList.map fun a => (a, .sequence l items)) ++ anchoredItems items
  | .mapping l entries =>
    (l.anchor.toList.map fun a => (a, .mapping l entries)) ++ anchoredEntries entries
  | n => n.anchor?.toList.map fun a => (a, n)

/-- The anchored nodes of a list. -/
def anchoredItems : List Node → List (Nat × Node)
  | [] => []
  | n :: ns => n.anchored ++ anchoredItems ns

/-- The anchored nodes of entries. -/
def anchoredEntries : List (Node × Node) → List (Nat × Node)
  | [] => []
  | (k, v) :: es => k.anchored ++ v.anchored ++ anchoredEntries es

end

mutual

/-- The number of events in a node: one for a scalar or an alias, two around a collection. -/
def events : Node → Nat
  | .sequence _ items => 2 + eventsOfItems items
  | .mapping _ entries => 2 + eventsOfEntries entries
  | _ => 1

/-- The number of events in a list of nodes. -/
def eventsOfItems : List Node → Nat
  | [] => 0
  | n :: ns => n.events + eventsOfItems ns

/-- The number of events in entries. -/
def eventsOfEntries : List (Node × Node) → Nat
  | [] => 0
  | (k, v) :: es => k.events + v.events + eventsOfEntries es

end

end Node

/-- A document: its root, and the nodes with anchors, the last one first. -/
structure Document where
  root : Node
  anchors : List (Nat × Node) := []
  deriving Repr, Inhabited

/-- The document of a root. -/
def Document.ofRoot (root : Node) : Document := ⟨root, root.anchored.reverse⟩

end StyleBuild.Yaml
