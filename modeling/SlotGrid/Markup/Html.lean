import SlotGrid.Markup.Escape
import SlotGrid.Markup.Node

/-!
# HTML text of markup

An element is written as an opening tag, its children and a closing tag. Void
elements have neither children nor a closing tag. How a text is written depends
on the element around it: style sheets and scripts hold raw text, everything
else holds entities.

## Main definitions

* `openingTag`, `closingTag`, `isVoid`.
* `TextMode` — how texts are written, and `TextMode.inside`, how they are
  written inside an element.
* `Node.html`, `html` — the text of a node and of a list of nodes.
-/

namespace SlotGrid.Markup

/-- The elements that are written without children and closing tag. -/
def voidTags : List String := ["br", "hr", "img", "input", "link", "meta", "wbr"]

/-- The elements that hold raw text. -/
def rawTextTags : List String := ["style", "script"]

/-- Whether an element is written without children and closing tag. -/
def isVoid (tag : String) : Bool := voidTags.contains tag

/-- An attribute inside an opening tag, with the space in front of it. -/
def attributeChars (entry : String × String) : List Char :=
  ' ' :: entry.1.toList ++ '=' :: '"' :: escapeValue entry.2.toList ++ ['"']

/-- The opening tag of an element. -/
def openingTag (tag : String) (attributes : Attributes) : List Char :=
  '<' :: tag.toList ++ attributes.entries.flatMap attributeChars ++ ['>']

/-- The closing tag of an element. -/
def closingTag (tag : String) : List Char := '<' :: '/' :: tag.toList ++ ['>']

/-- How texts are written. -/
inductive TextMode where
  | entities
  | raw
  deriving DecidableEq, Repr

/-- How the texts directly inside an element are written. -/
def TextMode.inside (tag : String) : TextMode :=
  if rawTextTags.contains tag then .raw else .entities

/-- A text as a mode writes it. -/
def TextMode.write : TextMode → List Char → List Char
  | .entities, text => escapeText text
  | .raw, text => escapeRaw text

mutual

/-- The characters of a node whose surroundings write texts in `mode`. -/
def Node.write (mode : TextMode) : Node → List Char
  | .text content => mode.write content.toList
  | .element tag attributes children =>
    openingTag tag attributes ++
      if isVoid tag then [] else writeAll (.inside tag) children ++ closingTag tag

/-- The characters of nodes one behind the other. -/
def writeAll (mode : TextMode) : List Node → List Char
  | [] => []
  | node :: rest => node.write mode ++ writeAll mode rest

end

/-- The HTML text of a list of nodes. -/
def html (nodes : List Node) : String := String.ofList (writeAll .entities nodes)

/-- The HTML text of one node. -/
def Node.html (node : Node) : String := String.ofList (node.write .entities)

end SlotGrid.Markup
