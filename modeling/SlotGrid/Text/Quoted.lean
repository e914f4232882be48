import SlotGrid.Text.Printable

/-!
# Quoted text

Messages show a text between double quotes. A quote and a backslash are
escaped, four control characters have short escapes, and every other character
that is not shown as itself is written as its code in lower-case hexadecimal.

## Main definitions

* `quotedChar` — how one character is written.
* `quoted` — a whole text, quotes included.
-/

namespace SlotGrid.Text

/-- How quoted text writes one character. -/
def quotedChar (c : Char) : List Char :=
  if c = '"' ∨ c = '\\' then ['\\', c]
  else if c = '\x00' then ['\\', '0']
  else if c = '\t' then ['\\', 't']
  else if c = '\n' then ['\\', 'n']
  else if c = '\r' then ['\\', 'r']
  else if isShown c then [c]
  else ['\\', 'u', '{'] ++ Nat.toDigits 16 c.toNat ++ ['}']

/-- A text between double quotes. -/
def quoted (text : String) : String :=
  String.ofList ('"' :: text.toList.flatMap quotedChar ++ ['"'])

end SlotGrid.Text
