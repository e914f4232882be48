import SlotGrid.Markup.Node

/-!
# Placing content into slots

Content may carry the name of a slot. The content of a name replaces the first
`slot` element of that name which is met; every other slot shows the children
it has of its own, its fallback. A slot without a name takes the content
without a name. Placed content is left as it is, and the fallback of a slot
that is filled is not shown, nor are the slots in it met.

## Main definitions

* `SlotName`, `SlottedContent`.
* `assigned` — the content for a name.
* `Node.compose`, `compose` — a tree with content in its slots.
* `slotNames`, `unplaced` — the names of all slots of a tree, and the content
  that none of them takes.
-/

namespace SlotGrid.Slotting

open Markup (Attributes Node)

/-- The name of a slot, or of the slot that content is meant for; `none` is the
slot without a name. -/
abbrev SlotName := Option String

/-- A piece of content and the slot that it is meant for. -/
structure SlottedContent where
  slot : SlotName
  content : Node
  deriving Repr

/-- Content meant for the slot of this name, in order. -/
def assigned (name : SlotName) (children : List SlottedContent) : List Node :=
  (children.filter fun child => child.slot == name).map SlottedContent.content

/-- The name of a slot element. -/
def slotNameOf (attributes : Attributes) : SlotName := attributes.get? "name"

/-- The nodes that take the place of a tree, and the names that are filled
after it. -/
structure Composition where
  nodes : List Node
  filled : List SlotName

mutual

/-- Composes a node, given the names that are filled before it. -/
def composeNode (children : List SlottedContent) (filled : List SlotName) : Node → Composition
  | .text content => ⟨[.text content], filled⟩
  | .element tag attributes inner =>
    if tag = "slot" then
      let name := slotNameOf attributes
      let content := if filled.contains name then [] else assigned name children
      if content.isEmpty then composeAll children filled inner
      else ⟨content, name :: filled⟩
    else
      let composed := composeAll children filled inner
      ⟨[.element tag attributes composed.nodes], composed.filled⟩

/-- Composes nodes one after the other. -/
def composeAll (children : List SlottedContent) (filled : List SlotName) :
    List Node → Composition
  | [] => ⟨[], filled⟩
  | node :: rest =>
    let first := composeNode children filled node
    let others := composeAll children first.filled rest
    ⟨first.nodes ++ others.nodes, others.filled⟩

end

/-- A tree with content placed into its slots. -/
def compose (shadow : List Node) (children : List SlottedContent) : List Node :=
  (composeAll children [] shadow).nodes

mutual

/-- The names of the slots in a node, in document order. -/
def nodeSlotNames : Node → List SlotName
  | .text _ => []
  | .element tag attributes inner =>
    if tag = "slot" then slotNameOf attributes :: slotNames inner else slotNames inner

/-- The names of the slots in a list of nodes, in document order. -/
def slotNames : List Node → List SlotName
  | [] => []
  | node :: rest => nodeSlotNames node ++ slotNames rest

end

/-- Whether some slot of the tree has the name that content is meant for. -/
def hasPlace (shadow : List Node) (child : SlottedContent) : Bool :=
  (slotNames shadow).contains child.slot

/-- Content that no slot of the tree takes. -/
def unplaced (shadow : List Node) (children : List SlottedContent) : List SlottedContent :=
  children.filter fun child => !hasPlace shadow child

end SlotGrid.Slotting
