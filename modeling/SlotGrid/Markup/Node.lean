import SlotGrid.Markup.Attributes
import SlotGrid.Text.Blank

/-!
# Markup trees

A piece of markup is a list of nodes; a node is a text or an element with a
tag, attributes and children. Trees are built from elements step by step, and
text comes to a page only through them, never by joining strings.

## Main definitions

* `Node` — texts and elements.
* `Element` — an element under construction: `Element.setAttribute` and
  `Element.append`, and `Element.node`, the finished node.
* `Node.textContent` — the text of a node and all its descendants.
-/

namespace SlotGrid.Markup

/-- A text, or an element with a tag, attributes and children. -/
inductive Node where
  | text (content : String)
  | element (tag : String) (attributes : Attributes) (children : List Node)
  deriving Repr

mutual

/-- The text of a node and its descendants, in document order. -/
def Node.textContent : Node → String
  | .text content => content
  | .element _ _ children => textContents children

/-- The text of a list of nodes and their descendants. -/
def textContents : List Node → String
  | [] => ""
  | node :: rest => node.textContent ++ textContents rest

end

/-- The tag of a node, unless the node is a text. -/
def Node.tag? : Node → Option String
  | .text _ => none
  | .element tag _ _ => some tag

/-- An element whose parts can be named and replaced. -/
structure Element where
  tag : String
  attributes : Attributes
  children : List Node

namespace Element

/-- An element without attributes and children. -/
def new (tag : String) : Element := ⟨tag, .empty, []⟩

/-- The element as a node of a tree. -/
def node (element : Element) : Node :=
  .element element.tag element.attributes element.children

/-- Gives an attribute a value, in place of the one it had. -/
def setAttribute (element : Element) (name value : String) : Element :=
  { element with attributes := element.attributes.set name value }

/-- Adds children behind those that are there. -/
def append (element : Element) (children : List Node) : Element :=
  { element with children := element.children ++ children }

/-- The same tag and attributes around other children. -/
def withChildren (element : Element) (children : List Node) : Element :=
  { element with children := children }

/-- The value of an attribute, if it has one. -/
def attribute? (element : Element) (name : String) : Option String :=
  element.attributes.get? name

/-- Whether the words of the attribute `class` include `name`. -/
def hasClass (element : Element) (name : String) : Bool :=
  (element.attribute? "class").any fun classes => (Text.words classes).contains name

end Element

end SlotGrid.Markup
