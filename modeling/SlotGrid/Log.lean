import SlotGrid.Text.Blank
import SlotGrid.Text.Cut
import SlotGrid.Text.Terminal

/-!
# Log records

A record is a line of the program's account of what it does: how grave it is,
the part of the program it comes from, and a message. Only records at or above
a threshold are shown, which may differ from part to part, and only what is
visible of them: a message cannot command the terminal that shows it.

## Main definitions

* `Level`, `Threshold` — gravity, and the least gravity that is shown.
* `Directive`, `Filter` — thresholds of parts of the program, and all of them.
* `Filter.ofText`, `Filter.threshold` — reading them, and the one for a part.
* `Record`, `Record.line` — a record and its line.
* `text`, `lines` — what is shown of a list of records, as one text and as lines.
-/

namespace SlotGrid.Log

/-- How grave a record is. -/
inductive Level where
  | error
  | warn
  | info
  | debug
  | trace
  deriving DecidableEq, Repr

namespace Level

/-- The rank of a level; the gravest has rank one. -/
def rank : Level → Nat
  | .error => 1
  | .warn => 2
  | .info => 3
  | .debug => 4
  | .trace => 5

/-- A level in a line, as wide as the widest. -/
def label : Level → String
  | .error => "ERROR"
  | .warn => "WARN "
  | .info => "INFO "
  | .debug => "DEBUG"
  | .trace => "TRACE"

end Level

/-- The least grave level that is shown; `none` shows nothing. -/
abbrev Threshold := Option Level

/-- The words for thresholds. -/
def thresholds : List (String × Threshold) :=
  [("off", none), ("error", some .error), ("warn", some .warn), ("info", some .info),
    ("debug", some .debug), ("trace", some .trace)]

/-- The threshold that a word names, in whatever case its ASCII letters are. -/
def threshold? (word : String) : Option Threshold :=
  thresholds.lookup (String.ofList (word.toList.map Char.toLower))

example : threshold? "Warn" = some (some .warn) := by decide

/-- Whether a threshold lets a level through. -/
def shows (threshold : Threshold) (level : Level) : Bool :=
  threshold.any fun least => level.rank ≤ least.rank

/-- A message, how grave it is, and the part of the program it comes from. -/
structure Record where
  level : Level
  source : String
  message : String
  deriving DecidableEq, Repr

/-- The line of a record. -/
def Record.line (entry : Record) : String :=
  "[" ++ entry.level.label ++ " " ++ entry.source ++ "] " ++ entry.message

/-- What is shown of a record. A sequence in it that is not ended takes the line
break with it. -/
def Record.text (entry : Record) : String := Text.visible (entry.line ++ "\n")

/-! ## Filters -/

/-- A threshold for the records whose source starts with this text. -/
structure Directive where
  source : String
  threshold : Threshold
  deriving DecidableEq, Repr

/-- Reads a directive: a level, which is for every source; a source and its level,
with an equals sign between them; or a source whose level is left out, of which
everything is shown. -/
def Directive.ofText? (text : String) : Option Directive :=
  match Text.cut? '=' text with
  | none => some (((threshold? text).map (⟨"", ·⟩)).getD ⟨text, some .trace⟩)
  | some (source, level) =>
    if Text.trim level = "" then some ⟨source, some .trace⟩
    else (threshold? (Text.trim level)).map (⟨Text.trim source, ·⟩)

/-- The directives that decide which records are shown. -/
abbrev Filter := List Directive

namespace Filter

/-- Reads a filter: directives between commas, of which those that make no sense are
passed over. Errors are shown if there are none. What stands behind a slash is a
pattern for messages and left aside. -/
def ofText (text : String) : Filter :=
  let front := ((Text.cut? '/' text).map Prod.fst).getD text
  let parts := ((Text.pieces ',' front).map Text.trim).filter (· != "")
  let directives := parts.filterMap Directive.ofText?
  if directives.isEmpty then [⟨"", some .error⟩] else directives

/-- The threshold for a source is that of the longest directive for it, the last one of
several; nothing is shown of a source that has none. -/
def threshold (filter : Filter) (source : String) : Threshold :=
  let closer (best other : Directive) : Directive :=
    if (Text.after? other.source source).isSome && best.source.length ≤ other.source.length then
      other
    else best
  (filter.foldl closer ⟨"", none⟩).threshold

example : (ofText "INFO, grid_spec::slots = off").threshold "grid_spec::slots" = none := by
  decide

/-- What is shown of the records that a filter lets through, in order. -/
def text (filter : Filter) (records : List Record) : String :=
  let shown := records.filter fun entry => shows (filter.threshold entry.source) entry.level
  String.join (shown.map Record.text)

end Filter

/-- What is shown of the records when all parts have one threshold. -/
def text (threshold : Threshold) (records : List Record) : String :=
  Filter.text [⟨"", threshold⟩] records

/-- The lines that are shown. -/
def lines (threshold : Threshold) (records : List Record) : List String :=
  Text.pieces '\n' (text threshold records)

end SlotGrid.Log
