import SlotGrid.Config.Json
import SlotGrid.Proofs.RecordReading

/-!
# Texts that hold a configuration

A configuration and the spacing in it are records, so what is known about the reading
of records tells which texts hold a configuration: those that are JSON and say one. A
tree says a configuration by its members, and the items of an array are members too,
for they take the names of the parts in order. An array is read wherever an object is.

## Main definitions

* `spacingParts`, `configParts` — the parts of the two records.
* `IsSpacingOf`, `IsConfigOf` — what members make.
* `IsSpacing`, `IsConfig` — what a tree is read as.

## Main results

* `ofJson_eq_ok_iff_of_isText` — a text is read as what its tree is.
* `Config.ofJson_eq_ok_iff` — what is read of any text.
* `Config.ofJson_emptyArray` — a text that is read and holds no object.
-/

namespace SlotGrid

open Style (Spacing)
open Json

variable {τ : Type}

/-! ## Parts -/

/-- The parts of spacing. -/
def spacingParts (spelling : Spelling τ) : List (Part Spacing τ) :=
  [.string spelling "row" [] Spacing.row fun spacing value => { spacing with row := value },
   .string spelling "col" [] Spacing.column fun spacing value => { spacing with column := value }]

/-- The parts of a configuration. -/
def configParts (spelling : Spelling τ) : List (Part Config τ) :=
  [.string spelling "dim" [] Config.dim fun config value => { config with dim := value },
   .string spelling "slot-style" ["slotStyle"] Config.slotStyle
     fun config value => { config with slotStyle := value },
   .string spelling "cell-style" ["cellStyle"] Config.cellStyle
     fun config value => { config with cellStyle := value },
   .string spelling "row-style" ["rowStyle"] Config.rowStyle
     fun config value => { config with rowStyle := value },
   .boolean "no-fillers" ["noFillers"] Config.noFillers
     fun config value => { config with noFillers := value },
   .record spelling "spacing" [] (spacingParts spelling) .default Config.spacing
     fun config value => { config with spacing := value }]

variable {spelling : Spelling τ}

theorem isLawful_spacingParts : IsLawful (spacingParts spelling) where
  get_set := by simp [spacingParts, Part.string]
  apart := by
    simp only [spacingParts, Part.string, List.pairwise_cons, List.forall_mem_cons]
    and_intros <;> first | exact ⟨by simp [Part.names], fun _ _ => rfl, fun _ _ => rfl⟩ | simp
  ext spacing other h := by
    simp only [spacingParts, Part.string, List.forall_mem_cons] at h
    obtain ⟨hRow, hColumn, -⟩ := h
    cases spacing
    cases other
    simp only [Spacing.mk.injEq]
    exact ⟨hRow, hColumn⟩

theorem isLawful_configParts : IsLawful (configParts spelling) where
  get_set := by simp [configParts, Part.string, Part.boolean, Part.record]
  apart := by
    simp only [configParts, Part.string, Part.boolean, Part.record, List.pairwise_cons,
      List.forall_mem_cons]
    and_intros <;> first | exact ⟨by simp [Part.names], fun _ _ => rfl, fun _ _ => rfl⟩ | simp
  ext config other h := by
    simp only [configParts, Part.string, Part.boolean, Part.record, List.forall_mem_cons] at h
    obtain ⟨hDim, hSlot, hCell, hRow, hFillers, hSpacing, -⟩ := h
    cases config
    cases other
    simp only [Config.mk.injEq]
    exact ⟨hDim, hSlot, hCell, hRow, hFillers, hSpacing⟩

theorem follows_spacingParts :
    List.Forall₂ (Field.Follows spelling) spacingShape.fields (spacingParts spelling) :=
  .cons (Field.follows_string _ _ _ _) (.cons (Field.follows_string _ _ _ _) .nil)

theorem follows_configParts :
    List.Forall₂ (Field.Follows spelling) configShape.fields (configParts spelling) := by
  refine .cons (Field.follows_string _ _ _ _) ?_
  refine .cons (Field.follows_string _ _ _ _) ?_
  refine .cons (Field.follows_string _ _ _ _) ?_
  refine .cons (Field.follows_string _ _ _ _) ?_
  refine .cons (Field.follows_boolean _ _ _ _) ?_
  refine .cons ?_ .nil
  exact Field.follows_record _ _ follows_spacingParts isLawful_spacingParts.apart _ _

/-! ## What members make -/

/-- Whether members make this spacing: a member that is missing leaves ten pixels. -/
structure IsSpacingOf (spelling : Spelling τ) (members : List (String × Json.Tree τ))
    (spacing : Spacing) : Prop where
  row : Gives (fun tree text => tree.text? spelling = some text) "10px"
    (valuesOf ["row"] members) spacing.row
  column : Gives (fun tree text => tree.text? spelling = some text) "10px"
    (valuesOf ["col"] members) spacing.column

/-- Whether a tree is read as this spacing. -/
def IsSpacing (spelling : Spelling τ) (tree : Json.Tree τ) (spacing : Spacing) : Prop :=
  ∃ members, tree.members? spelling ["row", "col"] = some members ∧
    IsSpacingOf spelling members spacing

/-- Whether members make this configuration: a member that is missing leaves the
default. -/
structure IsConfigOf (spelling : Spelling τ) (members : List (String × Json.Tree τ))
    (config : Config) : Prop where
  dim : Gives (fun tree text => tree.text? spelling = some text) ""
    (valuesOf ["dim"] members) config.dim
  slotStyle : Gives (fun tree text => tree.text? spelling = some text) ""
    (valuesOf ["slot-style", "slotStyle"] members) config.slotStyle
  cellStyle : Gives (fun tree text => tree.text? spelling = some text) ""
    (valuesOf ["cell-style", "cellStyle"] members) config.cellStyle
  rowStyle : Gives (fun tree text => tree.text? spelling = some text) ""
    (valuesOf ["row-style", "rowStyle"] members) config.rowStyle
  noFillers : Gives (fun tree value => tree.truth? = some value) false
    (valuesOf ["no-fillers", "noFillers"] members) config.noFillers
  spacing : Gives (IsSpacing spelling) ⟨"10px", "10px"⟩
    (valuesOf ["spacing"] members) config.spacing

theorem fill_spacingParts_eq_some_iff {members : List (String × Json.Tree τ)} {spacing : Spacing} :
    fill (spacingParts spelling) [] .default members = some spacing ↔
      IsSpacingOf spelling members spacing := by
  rw [fill_eq_some_iff isLawful_spacingParts]
  simp only [spacingParts, Part.string, List.forall_mem_cons]
  constructor
  · rintro ⟨hRow, hColumn, -⟩
    exact ⟨hRow, hColumn⟩
  · rintro ⟨hRow, hColumn⟩
    exact ⟨hRow, hColumn, by simp⟩

theorem record?_spacingParts_eq_some_iff {tree : Json.Tree τ} {spacing : Spacing} :
    tree.record? spelling (spacingParts spelling) .default = some spacing ↔
      IsSpacing spelling tree spacing := by
  simp only [Tree.record?, Option.bind_eq_some_iff, fill_spacingParts_eq_some_iff]
  rfl

theorem fill_configParts_eq_some_iff {members : List (String × Json.Tree τ)} {config : Config} :
    fill (configParts spelling) [] .default members = some config ↔
      IsConfigOf spelling members config := by
  rw [fill_eq_some_iff isLawful_configParts]
  simp only [configParts, Part.string, Part.boolean, Part.record, List.forall_mem_cons]
  have hSpacing : Gives (fun tree spacing =>
      tree.record? spelling (spacingParts spelling) .default = some spacing) Config.default.spacing
        (valuesOf ["spacing"] members) config.spacing ↔
      Gives (IsSpacing spelling) Config.default.spacing
        (valuesOf ["spacing"] members) config.spacing :=
    Gives.congr fun _ _ => record?_spacingParts_eq_some_iff
  constructor
  · rintro ⟨hDim, hSlot, hCell, hRow, hFillers, hOwn, -⟩
    exact ⟨hDim, hSlot, hCell, hRow, hFillers, hSpacing.mp hOwn⟩
  · rintro ⟨hDim, hSlot, hCell, hRow, hFillers, hOwn⟩
    exact ⟨hDim, hSlot, hCell, hRow, hFillers, hSpacing.mpr hOwn, by simp⟩

/-- The proper names of the parts of a configuration, in order. -/
def configNames : List String :=
  ["dim", "slot-style", "cell-style", "row-style", "no-fillers", "spacing"]

/-- Whether a tree is read as this configuration. -/
def IsConfig (spelling : Spelling τ) (tree : Json.Tree τ) (config : Config) : Prop :=
  ∃ members, tree.members? spelling configNames = some members ∧
    IsConfigOf spelling members config

/-- A text is read as the configuration that its tree is. -/
theorem ofJson_eq_ok_iff_of_isText {tree : Json.Tree τ} {text : String}
    (h : IsText spelling tree text.toList) {config : Config} :
    Config.ofJson text = .ok config ↔ IsConfig spelling tree config := by
  rw [Config.ofJson, ← toOption_eq_some_iff,
    Shape.parse_of_isText follows_configParts isLawful_configParts.apart h, Tree.record?,
    Option.bind_eq_some_iff]
  exact exists_congr fun members => and_congr_right fun _ => fill_configParts_eq_some_iff

theorem isSound_spacingShape : ∀ field ∈ spacingShape.fields, field.IsSound := by
  simp only [spacingShape, List.forall_mem_cons]
  exact ⟨Field.isSound_string _ _ _, Field.isSound_string _ _ _, by simp⟩

theorem isSound_configShape : ∀ field ∈ configShape.fields, field.IsSound := by
  simp only [configShape, List.forall_mem_cons]
  exact ⟨Field.isSound_string _ _ _, Field.isSound_string _ _ _, Field.isSound_string _ _ _,
    Field.isSound_string _ _ _, Field.isSound_boolean _ _ _,
    Field.isSound_record _ _ isSound_spacingShape _, by simp⟩

/-! ## Objects whose strings have texts -/

theorem mapM_member?_texts (members : List (String × Json.Tree String)) :
    members.mapM Spelling.texts.member? = some members := by
  induction members with
  | nil => rfl
  | cons member members ih =>
      rw [List.mapM_cons, ih]
      rfl

theorem isSpacing_object_iff {members : List (String × Json.Tree String)} {spacing : Spacing} :
    IsSpacing .texts (.object members) spacing ↔ IsSpacingOf .texts members spacing := by
  simp [IsSpacing, Tree.members?, mapM_member?_texts]

theorem isConfig_object_iff {members : List (String × Json.Tree String)} {config : Config} :
    IsConfig .texts (.object members) config ↔ IsConfigOf .texts members config := by
  simp [IsConfig, Tree.members?, mapM_member?_texts]

theorem ofJson_object_eq_ok_iff {members : List (String × Json.Tree String)} {text : String}
    (h : IsText .texts (.object members) text.toList) {config : Config} :
    Config.ofJson text = .ok config ↔ IsConfigOf .texts members config :=
  (ofJson_eq_ok_iff_of_isText h).trans isConfig_object_iff

/-! ## Every text -/

/-- A text is read as a configuration exactly if it is JSON and says that configuration,
as an object or as an array of the parts in order. -/
theorem Config.ofJson_eq_ok_iff (text : String) (config : Config) :
    Config.ofJson text = .ok config ↔ (∃ tree, IsText .pieces tree text.toList) ∧
      ∀ tree, IsText .pieces tree text.toList → IsConfig .pieces tree config := by
  constructor
  · intro h
    exact ⟨Shape.parse_sound isSound_configShape h, fun tree hTree =>
      (ofJson_eq_ok_iff_of_isText hTree).mp h⟩
  · rintro ⟨⟨tree, hTree⟩, hConfig⟩
    exact (ofJson_eq_ok_iff_of_isText hTree).mpr (hConfig tree hTree)

/-- A text is no object when its first character is another one. -/
theorem not_isText_object {text more : List Char} {c : Char} (hText : skipSpace text = c :: more)
    (hc : c ≠ '{') (members : List (τ × Json.Tree τ)) :
    ¬ IsText spelling (.object members) text := by
  rintro ⟨start, rest, hStart, hTree, -⟩
  cases hTree with
  | object hMembers =>
      rw [hStart.skipSpace_cons (by decide)] at hText
      exact hc (List.cons.inj hText).1.symm

/-- An array without items is no object, and it is read as the configuration without
attributes. -/
theorem Config.ofJson_emptyArray :
    Config.ofJson "[]" = .ok .default ∧ IsText .pieces (.array []) "[]".toList ∧
      ∀ members, ¬ IsText .pieces (.object members) "[]".toList := by
  have hText : IsText .pieces (.array []) "[]".toList :=
    ⟨_, _, .refl _, .array (.noItem (.refl _)), .refl _⟩
  have hConfig : IsConfig .pieces (.array []) .default :=
    ⟨[], rfl, .missing, .missing, .missing, .missing, .missing, .missing⟩
  exact ⟨(ofJson_eq_ok_iff_of_isText hText).mpr hConfig, hText,
    not_isText_object rfl (by decide)⟩

end SlotGrid
