import SlotGrid.Component
import SlotGrid.Config.Json
import SlotGrid.Log
import SlotGrid.Markup.Snapshot
import SlotGrid.Text.Cut
import SlotGrid.Text.Quoted

/-!
# The command line

The arguments are attributes, as `name=value` or a bare name, and options:
`--json` asks for a snapshot instead of HTML, `--config=` gives a configuration
as JSON, and `--slot=N:text` gives the text of an insertion point. Attributes
override the configuration wherever they stand. An unusable argument ends the
program with the first such fault.

## Main definitions

* `Argument` — what an argument is, and `Argument.ofText`, its reading.
* `Options`, `Options.ofArguments` — what all arguments together ask for.
* `Fault`, `Fault.message` — why an argument is unusable.
* `run` — output, log and exit code of the program.
-/

namespace SlotGrid.CommandLine

open Log (Record)
open Slotting (SlottedContent)

/-! ## Arguments -/

/-- What an argument is. -/
inductive Argument where
  | json
  | config (text : String)
  | slot (payload : String)
  | unknown
  | assignment (name value : String)
  deriving DecidableEq, Repr

/-- Why an argument is unusable. -/
inductive Fault where
  | config (text : String) (fault : Json.Fault)
  | slotWithoutName (argument : String)
  | unknownOption (argument : String)
  deriving DecidableEq, Repr

/-- The wording of a fault. -/
def Fault.message : Fault → String
  | .config text fault => Config.faultMessage text fault
  | .slotWithoutName argument => "expected --slot=N:text, got " ++ Text.quoted argument
  | .unknownOption argument => "unknown option " ++ Text.quoted argument

/-- What an argument is. A name of a custom property may start like an option
does. -/
def Argument.ofText (argument : String) : Argument :=
  if argument = "--json" then .json
  else if let some text := Text.after? "--config=" argument then .config text
  else if let some payload := Text.after? "--slot=" argument then .slot payload
  else if (Text.after? "--" argument).isSome && (Text.after? "--dd-" argument).isNone then
    .unknown
  else if let some (name, value) := Text.cut? '=' argument then .assignment name value
  else .assignment argument ""

/-- What the arguments ask for. -/
structure Options where
  json : Bool
  config : Config
  slots : List SlottedContent
  /-- Attributes, which are set after everything else. -/
  assignments : List (String × String)
  deriving Repr

namespace Options

/-- What no arguments ask for. -/
def default : Options := ⟨false, .default, [], []⟩

/-- Takes one more argument into account. -/
def take (options : Options) (argument : String) : Except Fault Options :=
  match Argument.ofText argument with
  | .json => .ok { options with json := true }
  | .config text =>
    match Config.ofJson text with
    | .ok config => .ok { options with config := config }
    | .error fault => .error (.config text fault)
  | .slot payload =>
    match Text.cut? ':' payload with
    | some (name, text) => .ok { options with slots := options.slots ++ [⟨some name, .text text⟩] }
    | none => .error (.slotWithoutName argument)
  | .unknown => .error (.unknownOption argument)
  | .assignment name value =>
    .ok { options with assignments := options.assignments ++ [(name, value)] }

/-- What a list of arguments asks for. -/
def ofArguments (arguments : List String) : Except Fault Options :=
  arguments.foldlM take default

/-- The configuration with all attributes set. -/
def finalConfig (options : Options) : Config := options.config.setAll options.assignments

/-- The component that the arguments ask for. -/
def component (options : Options) : Component := .new options.finalConfig

/-- The nodes that the program prints. -/
def nodes (options : Options) : List Markup.Node := options.component.compose options.slots

/-- The text that the program prints, without its last line break. -/
def output (options : Options) : String :=
  if options.json then String.ofList ((Markup.snapshot options.nodes).pretty 0)
  else Markup.html options.nodes

end Options

/-! ## The account of a run -/

/-- The part of the program that a record comes from. -/
def source (part : String) : String := "grid_spec" ++ part

/-- The records of an attribute whose name means none. -/
def assignmentRecords (name : String) : List Record :=
  if (Config.Attribute.ofName? name).isSome then []
  else
    [⟨.debug, source "::config", "ignoring unknown grid attribute " ++ Text.quoted name⟩,
     ⟨.warn, source "", "unknown attribute " ++ Text.quoted name ++ " ignored"⟩]

/-- The record of a specification that is read. -/
def specificationRecord (text : String) : Record :=
  ⟨.trace, source "::spec", "grid spec " ++ Text.quoted text ++
    if isSingleCell (segments text) then " is a single cell, no grid"
    else " parsed into " ++ toString (Specification.parse text).rows.length ++ " rows"⟩

/-- The records of rows that are laid out, of which the first has this index. -/
def rowRecords (index : Nat) : List Row → List Record
  | [] => []
  | row :: rest =>
    ⟨.trace, source "::compiler", "row " ++ toString (index + 1) ++
      ": grid-template-columns: " ++ row.templateColumns⟩ :: rowRecords (index + 1) rest

/-- The records of a configuration that is rendered. -/
def renderRecords (config : Config) : List Record :=
  match render config with
  | .warning =>
    [⟨.warn, source "::component", "grid has no dim attribute, rendering warning"⟩]
  | .grid grid =>
    specificationRecord config.dim :: rowRecords 0 (Specification.parse config.dim).rows ++
      [⟨.debug, source "::compiler", "compiled grid: " ++ toString grid.rows.length ++
        " rows, " ++ toString grid.points.length ++ " insertion points"⟩]

/-- The records of content that finds no place. -/
def unplacedRecords (options : Options) : List Record :=
  let count := (Slotting.unplaced options.component.shadowTree options.slots).length
  if count = 0 then []
  else
    [⟨.debug, source "::slots",
      toString count ++ " slotted children matched no insertion point"⟩]

/-- The records of a run that prints something. -/
def Options.records (options : Options) : List Record :=
  options.assignments.flatMap (fun pair => assignmentRecords pair.1) ++
    renderRecords options.finalConfig ++
    [⟨.info, source "", "rendered " ++ toString options.component.rendered.points.length ++
      " insertion points, " ++ toString options.slots.length ++ " slotted children"⟩] ++
    unplacedRecords options

/-! ## Runs -/

/-- What a run leaves behind: its output, its log and its exit code. -/
structure Outcome where
  exitCode : Nat
  output : String
  records : List Record
  deriving DecidableEq, Repr

/-- Runs the program on its arguments. -/
def run (arguments : List String) : Outcome :=
  match Options.ofArguments arguments with
  | .ok options => ⟨0, options.output ++ "\n", options.records⟩
  | .error fault => ⟨1, "", [⟨.error, source "", "error: " ++ fault.message⟩]⟩

end SlotGrid.CommandLine
