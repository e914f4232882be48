import Mathlib.Data.List.Basic
import Mathlib.Data.List.Induction
import SlotGrid.Proofs.Changes

/-!
# The last change of a part

A configuration has seven parts, and each attribute is for one of them. Whatever a
configuration went through, each part is what the last change of that part left in it;
changes of the other parts and names that mean no attribute do not matter. So it is not
the order of changes that counts, but the order within each part.

## Main definitions

* `Config.Setting`, `Config.get` — what is set for one part of a configuration.
* `Change.concerns`, `Change.leaves` — the parts that a change is about, and what it
  leaves in them.
* `Config.lastChange?`, `Config.settingAfter` — the last change of a part, and the part
  after it.

## Main results

* `Config.ext_get` — the parts are all that there is in a configuration.
* `Config.get_configure` — what one change does to one part.
* `Config.get_foldl_configure` — what a run of changes does to one part.
* `Config.foldl_configure_congr`, `Config.setAll_congr` — runs and lists of attributes that
  are in the same order for each part.
* `Config.lastChange_counts` — the last change of each part counts.
-/

namespace SlotGrid

namespace Config

/-! ## Parts of a configuration -/

/-- What is set for a part of a configuration. -/
inductive Setting where
  | text (content : String)
  | flag (value : Bool)
  deriving DecidableEq, Repr

/-- What is set for one part. -/
def get (config : Config) : Attribute → Setting
  | .dim => .text config.dim
  | .slotStyle => .text config.slotStyle
  | .cellStyle => .text config.cellStyle
  | .rowStyle => .text config.rowStyle
  | .noFillers => .flag config.noFillers
  | .rowSpacing => .text config.spacing.row
  | .columnSpacing => .text config.spacing.column

/-- The parts are all that there is in a configuration. -/
theorem ext_get {config other : Config} (h : ∀ part, config.get part = other.get part) :
    config = other := by
  have hRow : config.spacing.row = other.spacing.row := Setting.text.inj (h .rowSpacing)
  have hColumn : config.spacing.column = other.spacing.column :=
    Setting.text.inj (h .columnSpacing)
  have hSpacing : config.spacing = other.spacing := by
    cases hConfig : config.spacing
    cases hOther : other.spacing
    rw [hConfig, hOther] at hRow hColumn
    rw [Style.Spacing.mk.injEq]
    exact ⟨hRow, hColumn⟩
  cases config
  cases other
  rw [Config.mk.injEq]
  exact ⟨Setting.text.inj (h .dim), Setting.text.inj (h .slotStyle),
    Setting.text.inj (h .cellStyle), Setting.text.inj (h .rowStyle),
    Setting.flag.inj (h .noFillers), hSpacing⟩

/-- What is set for a part when its attribute is given a value. Spacing is trimmed, and
`no-fillers` is true whatever its value. -/
def Attribute.given (part : Attribute) (value : String) : Setting :=
  match part with
  | .dim | .slotStyle | .cellStyle | .rowStyle => .text value
  | .noFillers => .flag true
  | .rowSpacing | .columnSpacing => .text (Text.trim value)

theorem get_set_self (config : Config) (part : Attribute) (value : String) :
    (config.set part value).get part = part.given value := by
  cases part <;> rfl

theorem get_set_of_ne (config : Config) {part other : Attribute} (h : other ≠ part)
    (value : String) : (config.set other value).get part = config.get part := by
  cases part <;> cases other <;> first | exact absurd rfl h | simp only [set, get]

theorem get_reset_self (config : Config) (part : Attribute) :
    (config.reset part).get part = default.get part := by
  cases part <;> rfl

theorem get_reset_of_ne (config : Config) {part other : Attribute} (h : other ≠ part) :
    (config.reset other).get part = config.get part := by
  cases part <;> cases other <;> first | exact absurd rfl h | simp only [reset, get]

/-! ## Names of parts -/

/-- A name means the attribute whose name it is in lower case. -/
theorem ofName?_eq_some_iff {name : String} {part : Attribute} :
    Attribute.ofName? name = some part ↔ Attribute.fold name = part.name := by
  constructor
  · intro h
    have hName : part.name = Attribute.fold name := by simpa using List.find?_some h
    exact hName.symm
  · intro h
    rw [Attribute.ofName?, h]
    cases part <;> rfl

theorem isSome_ofName?_iff {name : String} :
    (Attribute.ofName? name).isSome = true ↔
      ∃ part : Attribute, Attribute.fold name = part.name := by
  simp only [Option.isSome_iff_exists, ofName?_eq_some_iff]

/-- What a change of the attribute with this name does to one part, when changes of
other attributes leave that part alone. -/
theorem get_map_ofName? {config : Config} {change : Attribute → Config} {part : Attribute}
    (hOther : ∀ other, other ≠ part → (change other).get part = config.get part)
    (name : String) :
    (((Attribute.ofName? name).map change).getD config).get part =
      if Attribute.fold name = part.name then (change part).get part else config.get part := by
  simp only [← ofName?_eq_some_iff]
  cases hName : Attribute.ofName? name with
  | none => simp
  | some other =>
      by_cases hSame : other = part
      · simp [hSame]
      · simp [hSame, hOther other hSame]

end Config

/-! ## One change -/

namespace Change

open Config (Attribute Setting)

/-- Whether a change is about a part: by its name, or because it replaces everything. -/
def concerns (part : Attribute) : Change → Bool
  | .setAttribute name _ => Attribute.fold name == part.name
  | .removeAttribute name => Attribute.fold name == part.name
  | .setConfig _ => true

/-- What a change leaves in a part that it is about. -/
def leaves (part : Attribute) : Change → Setting
  | .setAttribute _ value => part.given value
  | .removeAttribute _ => Config.default.get part
  | .setConfig config => config.get part

end Change

namespace Config

theorem get_configure (config : Config) (change : Change) (part : Attribute) :
    (Change.configure config change).get part =
      if change.concerns part then change.leaves part else config.get part := by
  cases change with
  | setAttribute name value =>
      have hOther := fun other hNe => @get_set_of_ne config part other hNe value
      rw [Change.configure, setNamed?, get_map_ofName? hOther, get_set_self]
      simp only [Change.concerns, Change.leaves, beq_iff_eq]
  | removeAttribute name =>
      have hOther := fun other hNe => @get_reset_of_ne config part other hNe
      rw [Change.configure, resetNamed?, get_map_ofName? hOther, get_reset_self]
      simp only [Change.concerns, Change.leaves, beq_iff_eq]
  | setConfig other => rfl

/-! ## Runs of changes -/

/-- The last change of a part, if there is one. -/
def lastChange? (part : Attribute) (changes : List Change) : Option Change :=
  (changes.filter (Change.concerns part)).getLast?

/-- What is set for a part after changes. -/
def settingAfter (config : Config) (changes : List Change) (part : Attribute) : Setting :=
  match lastChange? part changes with
  | some change => change.leaves part
  | none => config.get part

theorem lastChange?_concat (part : Attribute) (changes : List Change) (change : Change) :
    lastChange? part (changes ++ [change]) =
      if change.concerns part then some change else lastChange? part changes := by
  rw [lastChange?, List.filter_append]
  cases hConcerns : change.concerns part with
  | true => simp [hConcerns]
  | false => simp [hConcerns, lastChange?]

/-- A run leaves in each part what the last change of that part did. -/
theorem get_foldl_configure (config : Config) (changes : List Change) (part : Attribute) :
    (changes.foldl Change.configure config).get part = config.settingAfter changes part := by
  -- by induction on what came before the last change of the run
  induction changes using List.reverseRecOn with
  | nil => rfl
  | append_singleton changes change ih =>
      rw [List.foldl_concat, get_configure, settingAfter, lastChange?_concat]
      cases hConcerns : change.concerns part with
      | true => rfl
      | false => exact ih

/-- Runs with the same changes of each part come to the same configuration. -/
theorem foldl_configure_congr (config : Config) {changes others : List Change}
    (h : ∀ part, changes.filter (Change.concerns part) = others.filter (Change.concerns part)) :
    changes.foldl Change.configure config = others.foldl Change.configure config := by
  apply ext_get
  intro part
  rw [get_foldl_configure, get_foldl_configure, settingAfter, settingAfter, lastChange?,
    lastChange?, h part]

/-- Changes that are about no common part are made in any order. -/
theorem configure_comm (config : Config) {change other : Change}
    (h : ∀ part, change.concerns part = true → other.concerns part = false) :
    Change.configure (Change.configure config change) other =
      Change.configure (Change.configure config other) change := by
  refine @foldl_configure_congr config [change, other] [other, change] fun part => ?_
  cases hChange : change.concerns part with
  | true => simp [hChange, h part hChange]
  | false => simp [List.filter_cons, hChange]

/-- Giving attributes is a run of changes. -/
theorem setAll_eq_foldl (config : Config) (attributes : List (String × String)) :
    config.setAll attributes =
      (attributes.map fun pair => Change.setAttribute pair.1 pair.2).foldl
        Change.configure config := by
  rw [List.foldl_map]
  rfl

/-- Attributes that are in the same order for each part come to the same configuration. -/
theorem setAll_congr (config : Config) {attributes others : List (String × String)}
    (h : ∀ part : Attribute,
      attributes.filter (fun pair => Attribute.fold pair.1 == part.name) =
        others.filter (fun pair => Attribute.fold pair.1 == part.name)) :
    config.setAll attributes = config.setAll others := by
  rw [setAll_eq_foldl, setAll_eq_foldl]
  apply foldl_configure_congr
  intro part
  have hAbout :
      (Change.concerns part ∘ fun pair : String × String => .setAttribute pair.1 pair.2) =
        fun pair => Attribute.fold pair.1 == part.name := rfl
  rw [List.filter_map, List.filter_map, hAbout, h part]

/-- The last change of each part counts, from any configuration and through any run: a part
is what its last change left in it, and as it was if there is none. A change takes effect
exactly if its name is that of a part in lower case. So changes of different parts are made
in any order, and attributes may be listed in any order that keeps the one within each part. -/
theorem lastChange_counts (start : Config) :
    (∀ (changes : List Change) (part : Attribute),
      (changes.foldl Change.configure start).get part = start.settingAfter changes part) ∧
    (∀ name value : String,
      ((start.setNamed? name value).isSome = true ↔
        ∃ part : Attribute, Attribute.fold name = part.name) ∧
      ((start.resetNamed? name).isSome = true ↔
        ∃ part : Attribute, Attribute.fold name = part.name)) ∧
    (∀ change other : Change,
      (∀ part, change.concerns part = true → other.concerns part = false) →
      Change.configure (Change.configure start change) other =
        Change.configure (Change.configure start other) change) ∧
    (∀ attributes others : List (String × String),
      (∀ part : Attribute,
        attributes.filter (fun pair => Attribute.fold pair.1 == part.name) =
          others.filter (fun pair => Attribute.fold pair.1 == part.name)) →
      ofAttributes attributes = ofAttributes others) := by
  refine ⟨get_foldl_configure start, fun name value => ?_, fun _ _ => configure_comm start,
    fun _ _ => setAll_congr .default⟩
  rw [setNamed?, resetNamed?, Option.isSome_map, Option.isSome_map]
  exact ⟨isSome_ofName?_iff, isSome_ofName?_iff⟩

/-- A gap between rows that is set and taken away again, a gap between columns that is set
with blank characters around it, and a style of rows beside the specification, which is
given once or twice. -/
theorem lastChange_counts_gaps :
    (([.setAttribute "--dd-gridspace-row" "1px", .setAttribute "--DD-gridspace-col" " 2px ",
        .removeAttribute "--dd-gridspace-ROW"] : List Change).foldl Change.configure .default).get
      .rowSpacing = .text "10px" ∧
    (([.setAttribute "--dd-gridspace-row" "1px", .setAttribute "--DD-gridspace-col" " 2px ",
        .removeAttribute "--dd-gridspace-ROW"] : List Change).foldl Change.configure .default).get
      .columnSpacing = .text "2px" ∧
    Change.configure (Change.configure .default (.setAttribute "dim" "50"))
        (.removeAttribute "ROW-STYLE") =
      Change.configure (Change.configure .default (.removeAttribute "ROW-STYLE"))
        (.setAttribute "dim" "50") ∧
    ofAttributes [("DIM", "50"), ("row-style", "r"), ("title", "t"), ("dim", "30 70")] =
      ofAttributes [("row-style", "r"), ("DIM", "50"), ("dim", "30 70")] := by
  obtain ⟨hGet, -, hComm, hAttributes⟩ := lastChange_counts .default
  refine ⟨?_, ?_, hComm _ _ fun part => ?_, hAttributes _ _ fun part => ?_⟩
  · rw [hGet]
    decide
  · rw [hGet]
    decide
  · cases part <;> decide
  · cases part <;> decide

end Config

end SlotGrid
