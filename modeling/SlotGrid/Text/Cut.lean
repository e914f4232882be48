/-!
# Cutting a text at a mark

## Main definitions

* `cut?` — the parts before and after the first occurrence of a character.
* `after?` — what follows a given beginning.
* `pieces` — the parts of a text in which a mark ends every part.
-/

namespace SlotGrid.Text

/-- The parts of `text` before and after its first `mark`, when it has one. -/
def cut? (mark : Char) (text : String) : Option (String × String) :=
  match text.toList.span (· != mark) with
  | (_, []) => none
  | (before, _ :: rest) => some (String.ofList before, String.ofList rest)

/-- What follows `start` in `text`, when `text` starts with it. -/
def after? (start text : String) : Option String :=
  (start.toList.isPrefixOf? text.toList).map String.ofList

/-- The parts of `text` that a `mark` ends; the last part may lack it. -/
def pieces (mark : Char) (text : String) : List String :=
  let parts := (text.toList.splitOn mark).map String.ofList
  if parts.getLast? = some "" then parts.dropLast else parts

example : cut? ':' "2:a:b" = some ("2", "a:b") := by decide

example : cut? '=' "no-fillers" = none := by decide

example : after? "--slot=" "--slot=1:x" = some "1:x" := by decide

example : pieces ';' "a;;b;" = ["a", "", "b"] := by decide

end SlotGrid.Text
