import SlotGrid.Json.Value
import SlotGrid.Markup.Node

/-!
# Snapshots of markup

A snapshot is a JSON value that shows a tree in full: texts, tags, attributes
and children. The members of its objects are in the order of their keys, so
that equal trees have equal snapshots; attributes, too, are ordered by name, and
their order in the element is not shown.

## Main definitions

* `Node.snapshot`, `snapshot` — the JSON value of a node and of a list of nodes.
-/

namespace SlotGrid.Markup

/-- The attributes in the order of their names. -/
def Attributes.sorted (attributes : Attributes) : List (String × String) :=
  attributes.entries.mergeSort fun a b => decide (a.1 ≤ b.1)

/-- The attributes as members of an object. -/
def Attributes.snapshot (attributes : Attributes) : Json.Value :=
  .object (attributes.sorted.map fun entry => (entry.1, .string entry.2))

mutual

/-- The JSON value of a node. -/
def Node.snapshot : Node → Json.Value
  | .text content => .object [("text", .string content), ("type", .string "text")]
  | .element tag attributes children =>
    .object [("attrs", attributes.snapshot), ("children", .array (snapshots children)),
      ("tag", .string tag), ("type", .string "element")]

/-- The JSON values of nodes, in order. -/
def snapshots : List Node → List Json.Value
  | [] => []
  | node :: rest => node.snapshot :: snapshots rest

end

/-- The JSON value of a list of nodes. -/
def snapshot (nodes : List Node) : Json.Value := .array (snapshots nodes)

end SlotGrid.Markup
