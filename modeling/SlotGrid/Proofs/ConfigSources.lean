import Mathlib.Data.List.Perm.Basic
import SlotGrid.Proofs.Changes
import SlotGrid.Proofs.ConfigObjects

/-!
# Two ways to give a configuration

A configuration is given as a JSON object or by attributes. Two readers that share
nothing have to make the same of every choice, so each of them is compared with the
configuration that holds the choice: the members of an object make it, in any order and
however the object is written, and attributes of different parts may be set in any
order. The two ways differ in one point. An attribute for spacing is trimmed, and a
string in an object is not, so blank characters around spacing tell where it came from.

## Main definitions

* `Choice` — what is chosen, with `Choice.config`, the configuration that holds it.
* `Choice.IsObject`, `Choice.attributes` — a choice in the two ways.
* `Config.trimSpacing` — what attributes leave of a configuration.

## Main results

* `Choice.ofJson_of_isObject` — the object of a choice.
* `Config.setAll_perm`, `Choice.ofAttributes_of_perm` — the attributes of a choice.
* `Choice.ofAttributes_ofJson` — both ways.
-/

namespace SlotGrid

open Style (Spacing hostRules)
open Json

/-- What is chosen for a grid; what is not chosen stays as it is without a choice. -/
structure Choice where
  dim : Option String
  slotStyle : Option String
  cellStyle : Option String
  rowStyle : Option String
  noFillers : Option Bool
  rowSpacing : Option String
  columnSpacing : Option String

/-- What is listed under a name when it is chosen. -/
def listed {α β : Type} (name : String) (shown : α → β) (chosen : Option α) : List (String × β) :=
  (chosen.map fun value => (name, shown value)).toList

namespace Choice

/-- The members of the object for the spacing that is chosen. -/
def spacingMembers (choice : Choice) : List (String × Json.Tree String) :=
  listed "row" .string choice.rowSpacing ++ listed "col" .string choice.columnSpacing

/-- The members of the object that holds what is chosen; these are those for spacing. -/
def members (choice : Choice) (spacing : List (String × Json.Tree String)) :
    List (String × Json.Tree String) :=
  listed "dim" .string choice.dim ++ listed "slot-style" .string choice.slotStyle ++
    listed "cell-style" .string choice.cellStyle ++ listed "row-style" .string choice.rowStyle ++
    listed "no-fillers" .boolean choice.noFillers ++
    listed "spacing" .object (if spacing = [] then none else some spacing)

/-- Whether an object of these members holds what is chosen and nothing else. -/
def IsObject (choice : Choice) (members : List (String × Json.Tree String)) : Prop :=
  ∃ spacing, spacing.Perm choice.spacingMembers ∧ members.Perm (choice.members spacing)

/-- The attributes that hold what is chosen. Of `no-fillers` the presence counts, so it
has any value. -/
def attributes (choice : Choice) (flag : String) : List (String × String) :=
  listed "dim" id choice.dim ++ listed "slot-style" id choice.slotStyle ++
    listed "cell-style" id choice.cellStyle ++ listed "row-style" id choice.rowStyle ++
    listed "no-fillers" id (if choice.noFillers = some true then some flag else none) ++
    listed "--dd-gridspace-row" id choice.rowSpacing ++
    listed "--dd-gridspace-col" id choice.columnSpacing

/-- The configuration that holds what is chosen. -/
def config (choice : Choice) : Config where
  dim := choice.dim.getD ""
  slotStyle := choice.slotStyle.getD ""
  cellStyle := choice.cellStyle.getD ""
  rowStyle := choice.rowStyle.getD ""
  noFillers := choice.noFillers.getD false
  spacing := ⟨choice.rowSpacing.getD "10px", choice.columnSpacing.getD "10px"⟩

/-- Whether the spacing that is chosen has no blank characters at its ends. -/
def IsTrimmed (choice : Choice) : Prop :=
  (∀ value ∈ choice.rowSpacing, Text.trim value = value) ∧
    ∀ value ∈ choice.columnSpacing, Text.trim value = value

end Choice

/-! ## The object -/

theorem valuesOf_append {τ : Type} (names : List String)
    (members others : List (String × Json.Tree τ)) :
    valuesOf names (members ++ others) = valuesOf names members ++ valuesOf names others := by
  simp [valuesOf]

theorem valuesOf_listed {α : Type} (names : List String) (key : String)
    (tree : α → Json.Tree String) (chosen : Option α) :
    valuesOf names (listed key tree chosen) =
      if key ∈ names then (chosen.map tree).toList else [] := by
  cases chosen <;> by_cases hKey : key ∈ names <;> simp [valuesOf, listed, hKey]

theorem gives_chosen {α : Type} {reads : Json.Tree String → α → Prop} (tree : α → Json.Tree String)
    (h : ∀ value, reads (tree value) value) (default : α) (chosen : Option α) :
    Gives reads default (chosen.map tree).toList (chosen.getD default) := by
  cases chosen with
  | none => exact .missing
  | some value => exact .given (h value)

theorem gives_string (default : String) (chosen : Option String) :
    Gives (fun tree text => tree.text? .texts = some text) default (chosen.map .string).toList
      (chosen.getD default) :=
  gives_chosen .string (fun _ => rfl) default chosen

namespace Choice

theorem isSpacingOf_spacingMembers (choice : Choice) :
    IsSpacingOf .texts choice.spacingMembers choice.config.spacing where
  row := by
    simp only [spacingMembers, valuesOf_append, valuesOf_listed]
    simpa [config] using gives_string "10px" choice.rowSpacing
  column := by
    simp only [spacingMembers, valuesOf_append, valuesOf_listed]
    simpa [config] using gives_string "10px" choice.columnSpacing

theorem isConfigOf_members (choice : Choice) {spacing : List (String × Json.Tree String)}
    (hSpacing : spacing.Perm choice.spacingMembers) :
    IsConfigOf .texts (choice.members spacing) choice.config := by
  have hOwn : IsSpacingOf .texts spacing choice.config.spacing :=
    ⟨choice.isSpacingOf_spacingMembers.row.perm ((hSpacing.symm.filter _).map _),
      choice.isSpacingOf_spacingMembers.column.perm ((hSpacing.symm.filter _).map _)⟩
  constructor <;> simp only [members, valuesOf_append, valuesOf_listed]
  · simpa [config] using gives_string "" choice.dim
  · simpa [config] using gives_string "" choice.slotStyle
  · simpa [config] using gives_string "" choice.cellStyle
  · simpa [config] using gives_string "" choice.rowStyle
  · simpa [config] using gives_chosen .boolean (fun _ => rfl) false choice.noFillers
  · by_cases hNil : spacing = []
    · subst hNil
      have hEmpty : choice.rowSpacing = none ∧ choice.columnSpacing = none := by
        simpa [spacingMembers, listed] using hSpacing.nil_eq
      simp [config, hEmpty, gives_nil_iff]
    · simpa [hNil] using Gives.given (isSpacing_object_iff.mpr hOwn)

theorem ofJson_of_isObject {choice : Choice} {members : List (String × Json.Tree String)}
    (hMembers : choice.IsObject members) {text : String}
    (hText : IsText .texts (.object members) text.toList) :
    Config.ofJson text = .ok choice.config := by
  obtain ⟨spacing, hSpacing, hPerm⟩ := hMembers
  exact (ofJson_object_eq_ok_iff hText).mpr
    ((isConfigOf_members choice hSpacing).perm (hPerm.symm.filter _))

end Choice

/-! ## Attributes in order -/

namespace Config

/-- The configuration with its spacing trimmed. -/
def trimSpacing (config : Config) : Config :=
  { config with spacing := ⟨Text.trim config.spacing.row, Text.trim config.spacing.column⟩ }

theorem setAll_append (config : Config) (attributes others : List (String × String)) :
    config.setAll (attributes ++ others) = (config.setAll attributes).setAll others :=
  List.foldl_append

/-- An attribute that is chosen is set. -/
theorem setAll_listed {name : String} {part : Config.Attribute}
    (hName : Config.Attribute.ofName? name = some part) (config : Config) (chosen : Option String) :
    config.setAll (listed name id chosen) = chosen.elim config (config.set part) := by
  cases chosen with
  | none => rfl
  | some value => simp [listed, Config.setAll, Config.setNamed?, hName]

/-- What a part becomes when something may be chosen for it. -/
theorem elim_set (config : Config) (part : Config.Attribute) (chosen : Option String) :
    chosen.elim config (config.set part) =
      match part with
      | .dim => { config with dim := chosen.getD config.dim }
      | .slotStyle => { config with slotStyle := chosen.getD config.slotStyle }
      | .cellStyle => { config with cellStyle := chosen.getD config.cellStyle }
      | .rowStyle => { config with rowStyle := chosen.getD config.rowStyle }
      | .noFillers => { config with noFillers := chosen.isSome || config.noFillers }
      | .rowSpacing => { config with spacing :=
          { config.spacing with row := (chosen.map Text.trim).getD config.spacing.row } }
      | .columnSpacing => { config with spacing := { config.spacing with
          column := (chosen.map Text.trim).getD config.spacing.column } } := by
  cases chosen <;> cases part <;> rfl

end Config

theorem getD_map_trim (chosen : Option String) :
    (chosen.map Text.trim).getD "10px" = Text.trim (chosen.getD "10px") := by
  cases chosen with
  | none => exact (by decide : "10px" = Text.trim "10px")
  | some value => rfl

theorem isSome_flag (chosen : Option Bool) (flag : String) :
    (if chosen = some true then some flag else none).isSome = chosen.getD false := by
  rcases chosen with _ | _ | _ <;> rfl

/-- The known names mean the attributes, in order. -/
theorem map_ofName?_knownNames :
    knownNames.map Config.Attribute.ofName? = Config.Attribute.all.map some := by
  decide

theorem Choice.ofAttributes_attributes (choice : Choice) (flag : String) :
    Config.ofAttributes (choice.attributes flag) = choice.config.trimSpacing := by
  have hNames := map_ofName?_knownNames
  simp only [knownNames, Config.Attribute.all, List.map_cons, List.map_nil,
    List.cons.injEq] at hNames
  obtain ⟨hDim, hSlot, hCell, hRow, hFillers, hRowSpacing, hColumnSpacing, -⟩ := hNames
  rw [Config.ofAttributes, attributes]
  simp only [Config.setAll_append, Config.setAll_listed hDim, Config.setAll_listed hSlot,
    Config.setAll_listed hCell, Config.setAll_listed hRow, Config.setAll_listed hFillers,
    Config.setAll_listed hRowSpacing, Config.setAll_listed hColumnSpacing, Config.elim_set,
    isSome_flag, Config.trimSpacing, config, ← getD_map_trim]
  simp [Config.default, Spacing.default]

/-! ## Attributes in any order -/

namespace Config

theorem set_comm (config : Config) {part other : Config.Attribute} (h : part ≠ other)
    (value another : String) :
    (config.set part value).set other another = (config.set other another).set part value := by
  cases part <;> cases other <;> first | exact absurd rfl h | rfl

theorem setNamed_comm (config : Config) {pair other : String × String}
    (h : Config.Attribute.ofName? pair.1 ≠ Config.Attribute.ofName? other.1) :
    config.setAll [pair, other] = config.setAll [other, pair] := by
  simp only [Config.setAll, List.foldl_cons, List.foldl_nil, Config.setNamed?]
  cases hPart : Config.Attribute.ofName? pair.1 with
  | none => simp
  | some part =>
      cases hOther : Config.Attribute.ofName? other.1 with
      | none => simp
      | some another =>
          rw [hPart, hOther] at h
          exact set_comm config (fun hEq => h (congrArg some hEq)) pair.2 other.2

/-- Attributes of different parts are set in any order. -/
theorem setAll_perm (config : Config) {attributes others : List (String × String)}
    (hPerm : attributes.Perm others)
    (hNames : (attributes.map Prod.fst).Pairwise fun name other =>
      Config.Attribute.ofName? name ≠ Config.Attribute.ofName? other) :
    config.setAll attributes = config.setAll others := by
  rw [List.pairwise_map] at hNames
  have : Std.Symm fun pair other : String × String =>
      Config.Attribute.ofName? pair.1 ≠ Config.Attribute.ofName? other.1 := ⟨fun _ _ h => h.symm⟩
  refine hPerm.foldl_eq' ?_ config
  intro pair hPair other hOther config
  by_cases hEq : pair = other
  · rw [hEq]
  · exact setNamed_comm config (hNames.forall hPair hOther hEq)

end Config

theorem sublist_listed {α β : Type} (name : String) (shown : α → β) (chosen : Option α) :
    ((listed name shown chosen).map Prod.fst).Sublist [name] := by
  cases chosen <;> simp [listed]

theorem Choice.ofAttributes_of_perm {choice : Choice} {flag : String}
    {attributes : List (String × String)} (hPerm : attributes.Perm (choice.attributes flag)) :
    Config.ofAttributes attributes = choice.config.trimSpacing := by
  rw [← ofAttributes_attributes choice flag]
  refine (Config.setAll_perm .default hPerm.symm ?_).symm
  have hSublist : ((choice.attributes flag).map Prod.fst).Sublist knownNames := by
    simp only [Choice.attributes, List.map_append]
    exact ((((((sublist_listed _ _ _).append (sublist_listed _ _ _)).append
      (sublist_listed _ _ _)).append (sublist_listed _ _ _)).append (sublist_listed _ _ _)).append
      (sublist_listed _ _ _)).append (sublist_listed _ _ _)
  refine List.Pairwise.sublist hSublist ?_
  decide

/-! ## Both ways -/

theorem Choice.trimSpacing_config_eq_iff (choice : Choice) :
    choice.config.trimSpacing = choice.config ↔ choice.IsTrimmed := by
  have hChosen (chosen : Option String) : Text.trim (chosen.getD "10px") = chosen.getD "10px" ↔
      ∀ value ∈ chosen, Text.trim value = value := by
    cases chosen with
    | none => exact ⟨by simp, fun _ => by decide⟩
    | some value => simp
  simp [Config.trimSpacing, config, IsTrimmed, hChosen]

theorem hostRules_inj {spacing other : Spacing} (h : hostRules spacing = hostRules other) :
    spacing = other := by
  cases spacing
  cases other
  simpa [hostRules, Style.referenceOr] using h

/-- What is chosen for a grid comes to the same whether it is given as an object or by
attributes, but for the blank characters around spacing, which the attributes lose. The
grid is the same in any case. -/
theorem Choice.ofAttributes_ofJson {choice : Choice} {members : List (String × Json.Tree String)}
    (hMembers : choice.IsObject members) {text : String}
    (hText : IsText .texts (.object members) text.toList) {flag : String}
    {attributes : List (String × String)} (hAttributes : attributes.Perm (choice.attributes flag)) :
    ∃ config, Config.ofJson text = .ok config ∧
      Config.ofAttributes attributes = config.trimSpacing ∧
      render (Config.ofAttributes attributes) = render config ∧
      (Config.ofAttributes attributes = config ↔ choice.IsTrimmed) ∧
      (hostRules (Config.ofAttributes attributes).spacing = hostRules config.spacing ↔
        choice.IsTrimmed) := by
  refine ⟨choice.config, ofJson_of_isObject hMembers hText, ?_⟩
  rw [ofAttributes_of_perm hAttributes, ← trimSpacing_config_eq_iff]
  refine ⟨rfl, rfl, Iff.rfl, ?_⟩
  constructor
  · intro h
    show { choice.config with spacing := choice.config.trimSpacing.spacing } = choice.config
    rw [hostRules_inj h]
  · intro h
    rw [h]

/-- Spacing without blank characters around it, given in both ways. -/
theorem Choice.ofAttributes_ofJson_narrow :
    Config.ofJson (String.ofList (Value.object
        [("no-fillers", .boolean true), ("dim", .string " 50 50 "),
          ("spacing", .object [("row", .string "2px")])]).compact) =
      .ok (Config.ofAttributes
        [("--dd-gridspace-row", "2px"), ("dim", " 50 50 "), ("no-fillers", "")]) := by
  have hText := isText_compact (.object
    [("no-fillers", .boolean true), ("dim", .string " 50 50 "),
      ("spacing", .object [("row", .string "2px")])])
  rw [← String.toList_ofList (l := Value.compact _)] at hText
  let choice : Choice := ⟨some " 50 50 ", none, none, none, some true, some "2px", none⟩
  have hMembers : choice.IsObject
      [("no-fillers", .boolean true), ("dim", .string " 50 50 "),
        ("spacing", .object [("row", .string "2px")])] :=
    ⟨[("row", .string "2px")], .refl _, .swap _ _ _⟩
  have hAttributes : [("--dd-gridspace-row", "2px"), ("dim", " 50 50 "), ("no-fillers", "")].Perm
      (choice.attributes "") := by decide
  obtain ⟨config, hRead, -, -, hEq, -⟩ := Choice.ofAttributes_ofJson hMembers hText hAttributes
  have hTrimmed : choice.IsTrimmed := ⟨by simp [choice]; decide, by simp [choice]⟩
  rw [hEq.mpr hTrimmed]
  exact hRead

/-- Spacing with blank characters around it is kept in an object and trimmed in an
attribute, and so the host rules are not the same. -/
theorem Choice.not_ofAttributes_ofJson_wide :
    ∃ config, Config.ofJson (String.ofList (Value.object
        [("spacing", .object [("row", .string " 2px ")])]).compact) = .ok config ∧
      Config.ofAttributes [("--dd-gridspace-row", " 2px ")] ≠ config ∧
      hostRules (Config.ofAttributes [("--dd-gridspace-row", " 2px ")]).spacing ≠
        hostRules config.spacing := by
  have hText := isText_compact (.object [("spacing", .object [("row", .string " 2px ")])])
  rw [← String.toList_ofList (l := Value.compact _)] at hText
  let choice : Choice := ⟨none, none, none, none, none, some " 2px ", none⟩
  have hMembers : choice.IsObject [("spacing", .object [("row", .string " 2px ")])] :=
    ⟨[("row", .string " 2px ")], .refl _, .refl _⟩
  refine ⟨choice.config, Choice.ofJson_of_isObject hMembers hText, ?_, ?_⟩
  · decide
  · intro h
    exact absurd (hostRules_inj h) (by decide)

end SlotGrid
