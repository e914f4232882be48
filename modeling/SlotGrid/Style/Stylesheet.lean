/-!
# Style sheets

A rule is a selector with declarations in source order; a style sheet is a list
of rules. Selectors, properties and values are written as they are.

## Main definitions

* `Declaration`, `Rule`, `Stylesheet`.
* `Rule.value?` — the value that the last declaration of a property gives.
* `Stylesheet.rule?` — the first rule of a selector.
* `Stylesheet.css` — the text of a sheet.
-/

namespace SlotGrid.Style

/-- A property and the value it is given. -/
structure Declaration where
  property : String
  value : String
  deriving DecidableEq, Repr

/-- A selector and its declarations in source order. -/
structure Rule where
  selector : String
  declarations : List Declaration
  deriving DecidableEq, Repr

/-- The line of a declaration. -/
def Declaration.css (declaration : Declaration) : String :=
  "    " ++ declaration.property ++ ": " ++ declaration.value ++ ";\n"

namespace Rule

/-- The value that the last declaration of a property gives. -/
def value? (rule : Rule) (property : String) : Option String :=
  (rule.declarations.reverse.find? fun declaration => declaration.property == property).map
    Declaration.value

/-- The lines of a rule. -/
def css (rule : Rule) : String :=
  rule.selector ++ " \x7b\n" ++ String.join (rule.declarations.map Declaration.css) ++ "\x7d\n"

end Rule

/-- Rules in source order. -/
structure Stylesheet where
  rules : List Rule
  deriving DecidableEq, Repr

namespace Stylesheet

/-- The sheet without rules. -/
def empty : Stylesheet := ⟨[]⟩

/-- The sheet with one more rule at its end. -/
def push (sheet : Stylesheet) (rule : Rule) : Stylesheet := ⟨sheet.rules ++ [rule]⟩

/-- The rules of one sheet behind those of another. -/
def append (sheet other : Stylesheet) : Stylesheet := ⟨sheet.rules ++ other.rules⟩

instance : Append Stylesheet := ⟨append⟩

/-- The number of rules. -/
def length (sheet : Stylesheet) : Nat := sheet.rules.length

/-- The first rule with exactly this selector. -/
def rule? (sheet : Stylesheet) (selector : String) : Option Rule :=
  sheet.rules.find? fun rule => rule.selector == selector

/-- The text of a sheet. -/
def css (sheet : Stylesheet) : String := String.join (sheet.rules.map Rule.css)

@[simp] theorem rules_append (sheet other : Stylesheet) :
    (sheet ++ other).rules = sheet.rules ++ other.rules := rfl

@[simp] theorem rules_push (sheet : Stylesheet) (rule : Rule) :
    (sheet.push rule).rules = sheet.rules ++ [rule] := rfl

end Stylesheet

end SlotGrid.Style
