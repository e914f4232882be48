import SlotGrid.Proofs.ConfigTrees
import SlotGrid.Proofs.WrittenValues

/-!
# Objects that hold a configuration

A configuration is mostly written as an object. The rule that an object has to obey is
the same for a configuration and for the spacing in it: no two members name one field,
and the value of a member that names a field is of use for the field. Nothing else can
make the reader refuse an object, and nothing but the members that name fields can
change what it reads.

## Main definitions

* `Breaks` — the rule, with `spacingFields` and `configFields`.
* `known` — the members that name a field.

## Main results

* `exists_isConfigOf_iff` — members that obey the rule make a configuration.
* `IsConfigOf.perm` — they make it in any order.
* `Config.ofJson_object` — what is read of an object.
-/

namespace SlotGrid

open Style (Spacing)
open Json

/-! ## The rule -/

/-- Whether members break the rule for fields, each of which is given by its names and
by the values that are of use for it: two members name one field, or the value of one
is of no use. -/
def Breaks (fields : List (List String × (Json.Tree String → Prop)))
    (members : List (String × Json.Tree String)) : Prop :=
  (∃ field ∈ fields, 2 ≤ (valuesOf field.1 members).length) ∨
    ∃ field ∈ fields, ∃ tree ∈ valuesOf field.1 members, ¬ field.2 tree

/-- Whether a value is a string. -/
def IsString (tree : Json.Tree String) : Prop := ∃ text, tree = .string text

/-- Whether a value is a truth value. -/
def IsBoolean (tree : Json.Tree String) : Prop := ∃ value, tree = .boolean value

/-- The fields of a spacing object. -/
def spacingFields : List (List String × (Json.Tree String → Prop)) :=
  [(["row"], IsString), (["col"], IsString)]

/-- The fields of a configuration object. -/
def configFields : List (List String × (Json.Tree String → Prop)) :=
  [(["dim"], IsString), (["slot-style", "slotStyle"], IsString),
    (["cell-style", "cellStyle"], IsString), (["row-style", "rowStyle"], IsString),
    (["no-fillers", "noFillers"], IsBoolean),
    (["spacing"], fun tree => ∃ members, tree = .object members ∧ ¬ Breaks spacingFields members)]

/-- The members that name a field. -/
def known (members : List (String × Json.Tree String)) : List (String × Json.Tree String) :=
  members.filter fun member => configFields.any fun field => member.1 ∈ field.1

theorem not_breaks_iff {fields : List (List String × (Json.Tree String → Prop))}
    {members : List (String × Json.Tree String)} :
    ¬ Breaks fields members ↔ ∀ field ∈ fields, (valuesOf field.1 members).length ≤ 1 ∧
      ∀ tree ∈ valuesOf field.1 members, field.2 tree := by
  simp only [Breaks, not_or, not_exists, not_and, not_le, not_not, Nat.lt_succ_iff]
  constructor
  · rintro ⟨hOnce, hUse⟩ field hField
    exact ⟨hOnce field hField, hUse field hField⟩
  · intro h
    exact ⟨fun field hField => (h field hField).1, fun field hField => (h field hField).2⟩

/-- Something is given to a field exactly if its members obey the rule. -/
theorem exists_gives_iff_of_uses {α : Type} {reads : Json.Tree String → α → Prop}
    {uses : Json.Tree String → Prop} (default : α) (trees : List (Json.Tree String))
    (h : ∀ tree ∈ trees, (∃ value, reads tree value) ↔ uses tree) :
    (∃ value, Gives reads default trees value) ↔
      trees.length ≤ 1 ∧ ∀ tree ∈ trees, uses tree := by
  rw [exists_gives_iff]
  exact and_congr_right fun _ => forall₂_congr h

theorem exists_text?_iff (tree : Json.Tree String) :
    (∃ text, tree.text? .texts = some text) ↔ IsString tree := by
  cases tree <;> simp [Tree.text?, IsString, Spelling.texts]

theorem exists_truth?_iff (tree : Json.Tree String) :
    (∃ value, tree.truth? = some value) ↔ IsBoolean tree := by
  cases tree <;> simp [Tree.truth?, IsBoolean]

theorem exists_isSpacingOf_iff {members : List (String × Json.Tree String)} :
    (∃ spacing, IsSpacingOf .texts members spacing) ↔ ¬ Breaks spacingFields members := by
  have hText (trees : List (Json.Tree String)) :=
    exists_gives_iff_of_uses "10px" trees fun tree _ => exists_text?_iff tree
  simp only [not_breaks_iff, spacingFields, List.forall_mem_cons, ← hText]
  constructor
  · rintro ⟨spacing, hRow, hColumn⟩
    exact ⟨⟨_, hRow⟩, ⟨_, hColumn⟩, by simp⟩
  · rintro ⟨⟨row, hRow⟩, ⟨column, hColumn⟩, -⟩
    exact ⟨⟨row, column⟩, hRow, hColumn⟩

/-- A value other than an array is read as spacing exactly if it is an object that
obeys the rule. -/
theorem exists_isSpacing_iff {tree : Json.Tree String} (hTree : ∀ items, tree ≠ .array items) :
    (∃ spacing, IsSpacing .texts tree spacing) ↔
      ∃ members, tree = .object members ∧ ¬ Breaks spacingFields members := by
  cases tree with
  | object members => simp [isSpacing_object_iff, exists_isSpacingOf_iff]
  | array items => exact absurd rfl (hTree items)
  | null | boolean | number | string => simp [IsSpacing, Tree.members?]

theorem exists_isConfigOf_iff {members : List (String × Json.Tree String)}
    (hSpacing : ∀ items, .array items ∉ valuesOf ["spacing"] members) :
    (∃ config, IsConfigOf .texts members config) ↔ ¬ Breaks configFields members := by
  have hText (trees : List (Json.Tree String)) :=
    exists_gives_iff_of_uses "" trees fun tree _ => exists_text?_iff tree
  have hTruth (trees : List (Json.Tree String)) :=
    exists_gives_iff_of_uses false trees fun tree _ => exists_truth?_iff tree
  have hOwn := exists_gives_iff_of_uses (⟨"10px", "10px"⟩ : Spacing) (valuesOf ["spacing"] members)
    fun tree hTree => exists_isSpacing_iff fun items hEq => hSpacing items (hEq ▸ hTree)
  rw [not_breaks_iff]
  simp only [configFields, List.forall_mem_cons, ← hText, ← hTruth, ← hOwn]
  constructor
  · rintro ⟨config, hDim, hSlot, hCell, hRow, hFillers, hSpacing⟩
    exact ⟨⟨_, hDim⟩, ⟨_, hSlot⟩, ⟨_, hCell⟩, ⟨_, hRow⟩, ⟨_, hFillers⟩, ⟨_, hSpacing⟩, by simp⟩
  · rintro ⟨⟨dim, hDim⟩, ⟨slotStyle, hSlot⟩, ⟨cellStyle, hCell⟩, ⟨rowStyle, hRow⟩,
      ⟨noFillers, hFillers⟩, ⟨spacing, hSpacing⟩, -⟩
    exact ⟨⟨dim, slotStyle, cellStyle, rowStyle, noFillers, spacing⟩, hDim, hSlot, hCell, hRow,
      hFillers, hSpacing⟩

/-- Only the members that name a field count, in any order. -/
theorem valuesOf_perm {members others : List (String × Json.Tree String)}
    (h : (known members).Perm (known others)) {names : List String}
    (hNames : ∃ field ∈ configFields, names = field.1) :
    (valuesOf names members).Perm (valuesOf names others) := by
  obtain ⟨field, hField, rfl⟩ := hNames
  have hKnown (members : List (String × Json.Tree String)) :
      valuesOf field.1 (known members) = valuesOf field.1 members := by
    rw [valuesOf, valuesOf, known, List.filter_filter]
    congr 1
    refine List.filter_congr fun member _ => ?_
    by_cases hMember : member.1 ∈ field.1
    · have hAny : (configFields.any fun field => member.1 ∈ field.1) = true :=
        List.any_eq_true.mpr ⟨field, hField, by simpa using hMember⟩
      simp [hMember, hAny]
    · simp [hMember]
  rw [← hKnown members, ← hKnown others]
  exact (h.filter _).map _

theorem IsConfigOf.perm {members others : List (String × Json.Tree String)}
    (h : (known members).Perm (known others)) {config : Config}
    (hConfig : IsConfigOf .texts members config) : IsConfigOf .texts others config where
  dim := hConfig.dim.perm (valuesOf_perm h (by simp [configFields]))
  slotStyle := hConfig.slotStyle.perm (valuesOf_perm h (by simp [configFields]))
  cellStyle := hConfig.cellStyle.perm (valuesOf_perm h (by simp [configFields]))
  rowStyle := hConfig.rowStyle.perm (valuesOf_perm h (by simp [configFields]))
  noFillers := hConfig.noFillers.perm (valuesOf_perm h (by simp [configFields]))
  spacing := hConfig.spacing.perm (valuesOf_perm h (by simp [configFields]))

/-- An object is refused exactly if its members break the rule. Otherwise every part is
the value of its only member, or its default; so neither the order of the members nor
those that name no field have any influence. -/
theorem Config.ofJson_object {members : List (String × Json.Tree String)} {text : String}
    (h : IsText .texts (.object members) text.toList)
    (hSpacing : ∀ items, .array items ∉ valuesOf ["spacing"] members) :
    ((∃ fault, Config.ofJson text = .error fault) ↔ Breaks configFields members) ∧
      (∀ config, Config.ofJson text = .ok config ↔ IsConfigOf .texts members config) ∧
      ∀ others other, IsText .texts (.object others) other.toList →
        (known members).Perm (known others) →
          (Config.ofJson other).toOption = (Config.ofJson text).toOption := by
  refine ⟨?_, fun config => ofJson_object_eq_ok_iff h, ?_⟩
  · rw [← not_iff_not, ← exists_isConfigOf_iff hSpacing]
    simp only [← ofJson_object_eq_ok_iff h]
    cases Config.ofJson text <;> simp
  · intro others other hOther hPerm
    refine Option.ext fun config => ?_
    rw [toOption_eq_some_iff, toOption_eq_some_iff, ofJson_object_eq_ok_iff h,
      ofJson_object_eq_ok_iff hOther]
    exact ⟨.perm hPerm.symm, .perm hPerm⟩

/-- A part that has two names, a member that names no field, and spacing of which one
field is missing. -/
theorem Config.ofJson_object_titled :
    Config.ofJson (String.ofList (Value.object
      [("title", .array [.boolean true]), ("slotStyle", .string "a"),
        ("spacing", .object [("row", .string "1px")])]).compact) =
      .ok ⟨"", "a", "", "", false, ⟨"1px", "10px"⟩⟩ := by
  have hText := isText_compact (.object
    [("title", .array [.boolean true]), ("slotStyle", .string "a"),
      ("spacing", .object [("row", .string "1px")])])
  rw [← String.toList_ofList (l := Value.compact _)] at hText
  refine ((Config.ofJson_object hText ?_).2.1 _).mpr ?_
  · simp [valuesOf, memberTrees, Value.tree]
  · have hSpacing : IsSpacing .texts (.object [("row", .string "1px")]) ⟨"1px", "10px"⟩ :=
      isSpacing_object_iff.mpr ⟨.given rfl, .missing⟩
    exact ⟨.missing, .given rfl, .missing, .missing, .missing, .given hSpacing⟩

end SlotGrid
