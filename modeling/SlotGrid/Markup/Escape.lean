/-!
# Escapes of markup

Text and attribute values are written with entities for the characters that
could open or close something. Text of a style sheet or a script has no
entities; there only the opener of a closing tag is broken up, by a backslash
which a style sheet reads as nothing.

## Main definitions

* `textEntity`, `escapeText` — text between tags.
* `valueEntity`, `escapeValue` — attribute values between double quotes.
* `escapeRaw` — text of a style sheet or a script.
-/

namespace SlotGrid.Markup

/-- How text writes one character. -/
def textEntity (c : Char) : List Char :=
  if c = '<' then "&lt;".toList
  else if c = '>' then "&gt;".toList
  else if c = '&' then "&amp;".toList
  else [c]

/-- Text between tags. -/
def escapeText (text : List Char) : List Char := text.flatMap textEntity

/-- How an attribute value writes one character. -/
def valueEntity (c : Char) : List Char :=
  if c = '"' then "&quot;".toList else textEntity c

/-- An attribute value between double quotes. -/
def escapeValue (value : List Char) : List Char := value.flatMap valueEntity

/-- Text of a style sheet or a script: a backslash breaks up every opener of a
closing tag. -/
def escapeRaw : List Char → List Char
  | '<' :: '/' :: rest => '<' :: '\\' :: '/' :: escapeRaw rest
  | c :: rest => c :: escapeRaw rest
  | [] => []

/-- The second of two openers of a tag may open a closing tag. -/
example : escapeRaw "a <</b".toList = "a <<\\/b".toList := by decide

example : escapeValue "<\"&'>".toList = "&lt;&quot;&amp;'&gt;".toList := by decide

end SlotGrid.Markup
