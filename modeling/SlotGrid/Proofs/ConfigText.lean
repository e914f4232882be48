import SlotGrid.Config.Json
import SlotGrid.Proofs.JsonTokens
import SlotGrid.Proofs.QuotedStrings

/-!
# A configuration is read back from its text

An object is read member by member: a key, a colon, and a value that goes into the
field that the key names. This module follows the reader through an object that
is written without spaces. What it needs of a field is only that the field takes
the value of its member, whatever text follows; so a field may hold a record of
its own, and spacing inside a configuration is no special case.

## Main definitions

* `Field.Takes` — what a field makes of a written value.
* `Shape.Fills` — members that fill a record one after the other.

## Main results

* `readMembers_member` — one member.
* `read_object`, `parse_object` — an object whose members fill a record is read as
  that record.
* `Config.ofJson_toJson` — every configuration is read back from its text.
-/

namespace SlotGrid

open Style (Spacing)

namespace Json

variable {σ τ : Type}

/-! ## Values -/

theorem readStringValue_quote (text : String) (rest : List Char) :
    readStringValue (quote text ++ rest) = .ok (text, rest) := by
  rw [quote_append]
  exact readString_quote text rest

theorem readBooleanValue_booleanText (value : Bool) (rest : List Char) :
    readBooleanValue (booleanText value ++ rest) = .ok (value, rest) := by
  cases value with
  | false =>
      show (readWord "alse".toList ("alse".toList ++ rest)).map _ = .ok (false, rest)
      rw [readWord_append]
      rfl
  | true =>
      show (readWord "rue".toList ("rue".toList ++ rest)).map _ = .ok (true, rest)
      rw [readWord_append]
      rfl

/-! ## Fields -/

/-- Whether a field reads this value into `record` and gets `result`, whatever
text follows the value. -/
def Field.Takes (field : Field σ) (record : σ) (value : Value) (result : σ) : Prop :=
  ∀ rest : List Char, field.read record (value.compact ++ rest) = .ok (result, rest)

theorem Field.takes_string (name : String) (others : List String) (store : σ → String → σ)
    (record : σ) (text : String) :
    (Field.string name others store).Takes record (.string text) (store record text) := by
  intro rest
  show (readStringValue (quote text ++ rest)).map _ = _
  rw [readStringValue_quote]
  rfl

theorem Field.takes_boolean (name : String) (others : List String) (store : σ → Bool → σ)
    (record : σ) (value : Bool) :
    (Field.boolean name others store).Takes record (.boolean value) (store record value) := by
  intro rest
  show (readBooleanValue (booleanText value ++ rest)).map _ = _
  rw [readBooleanValue_booleanText]
  rfl

/-! ## Members -/

/-- Members that fill a record one after the other: every key names a field that
is not filled before, and the field takes the value. -/
inductive Shape.Fills (shape : Shape σ) : List String → σ → List (String × Value) → σ → Prop
  | nil (seen : List String) (record : σ) : shape.Fills seen record [] record
  | cons {seen : List String} {record next result : σ} {field : Field σ} {key : String}
      {value : Value} {members : List (String × Value)} (hField : shape.field? key = some field)
      (hNew : field.name ∉ seen) (hValue : field.Takes record value next)
      (hRest : shape.Fills (field.name :: seen) next members result) :
      shape.Fills seen record ((key, value) :: members) result

/-- At its closing brace an object has no further member. -/
theorem nextMember_end (first : Bool) (rest : List Char) :
    nextMember first ('}' :: rest) = .ok (.finished rest) := rfl

/-- The first member begins with the quote of its key. -/
theorem nextMember_first (rest : List Char) : nextMember true ('"' :: rest) = .ok (.item rest) :=
  rfl

/-- Every other member begins behind a comma. -/
theorem nextMember_other (rest : List Char) :
    nextMember false (',' :: '"' :: rest) = .ok (.item rest) := rfl

theorem readColon_colon (rest : List Char) : readColon (':' :: rest) = .ok rest := rfl

/-- Reading a member whose value its field takes is one step of reading members. -/
theorem readMembers_member {shape : Shape σ} {seen : List String} {record next : σ}
    {field : Field σ} {key : String} {value : Value} (hField : shape.field? key = some field)
    (hNew : field.name ∉ seen) (hValue : field.Takes record value next) {first : Bool}
    {text rest : List Char}
    (hNext : nextMember first text =
      .ok (.item (key.toList.flatMap escape ++ '"' :: ':' :: (value.compact ++ rest)))) :
    shape.readMembers seen first record text =
      shape.readMembers (field.name :: seen) false next rest := by
  have hKey := readString_quote key (':' :: (value.compact ++ rest))
  have hFree : (some field).filter (fun field => seen.contains field.name) = none := by
    simp [hNew]
  have hMember : Shape.readMember (some field) record (':' :: (value.compact ++ rest)) =
      .ok (next, rest) := by
    rw [Shape.readMember, readColon_colon]
    exact hValue rest
  -- what is read of a member decides what is read next, so the facts come in one by one
  rw [Shape.readMembers, hNext]
  simp only
  rw [hKey]
  simp only
  rw [hField, hFree]
  simp only
  rw [hMember]
  rfl

/-- The members behind the first one are read up to the end of the object. -/
theorem readMembers_compactMembers {shape : Shape σ} {seen : List String} {record result : σ}
    {members : List (String × Value)} (h : shape.Fills seen record members result)
    (rest : List Char) :
    shape.readMembers seen false record (compactMembers members ++ rest) = .ok (result, rest) := by
  induction h with
  | nil seen record =>
      show shape.readMembers seen false record ('}' :: rest) = .ok (record, rest)
      rw [Shape.readMembers, nextMember_end]
  | @cons seen record next result field key value members hField hNew hValue hRest ih =>
      rw [← ih]
      refine readMembers_member hField hNew hValue ?_
      have hText : compactMembers ((key, value) :: members) ++ rest =
          ',' :: '"' :: (key.toList.flatMap escape ++
            '"' :: ':' :: (value.compact ++ (compactMembers members ++ rest))) := by
        simp [compactMembers, quote]
      rw [hText, nextMember_other]

/-! ## Objects -/

/-- An object whose members fill a record is read as that record, whatever text
follows it. -/
theorem read_object {shape : Shape σ} {result : σ} {members : List (String × Value)}
    (h : shape.Fills [] shape.blank members result) (rest : List Char) :
    shape.read ((Value.object members).compact ++ rest) = .ok (result, rest) := by
  cases h with
  | nil =>
      show shape.readMembers [] true shape.blank ('}' :: rest) = .ok (shape.blank, rest)
      rw [Shape.readMembers, nextMember_end]
  | @cons _ _ next _ field key value members hField hNew hValue hRest =>
      have hText : (Value.object ((key, value) :: members)).compact ++ rest =
          '{' :: '"' :: (key.toList.flatMap escape ++
            '"' :: ':' :: (value.compact ++ (compactMembers members ++ rest))) := by
        simp [Value.compact, quote]
      rw [hText, ← readMembers_compactMembers hRest rest]
      exact readMembers_member hField hNew hValue (nextMember_first _)

/-- A text that is such an object and nothing else is read as the record. -/
theorem parse_object {shape : Shape σ} {result : σ} {members : List (String × Value)}
    (h : shape.Fills [] shape.blank members result) :
    shape.parse (Value.object members).compact = .ok result := by
  have hRead := read_object h []
  rw [List.append_nil] at hRead
  rw [Shape.parse, hRead]
  rfl

/-- A field takes an object that fills a record of its own. -/
theorem Field.takes_record (name : String) (others : List String) {shape : Shape τ}
    (store : σ → τ → σ) (record : σ) {members : List (String × Value)} {value : τ}
    (h : shape.Fills [] shape.blank members value) :
    (Field.record name others shape store).Takes record (.object members) (store record value) := by
  intro rest
  show (shape.read ((Value.object members).compact ++ rest)).map _ = _
  rw [read_object h rest]
  rfl

end Json

/-! ## Configurations -/

open Json (Field Shape)

theorem fills_spacing (spacing : Spacing) :
    spacingShape.Fills [] spacingShape.blank
      [("row", .string spacing.row), ("col", .string spacing.column)] spacing :=
  .cons rfl (by decide) (Field.takes_string _ _ _ _ _)
    (.cons rfl (by decide) (Field.takes_string _ _ _ _ _) (.nil _ _))

/-- Every configuration is read back from its text. -/
theorem Config.ofJson_toJson (config : Config) :
    Config.ofJson (String.ofList config.toJson.compact) = .ok config := by
  rw [Config.ofJson, String.toList_ofList]
  refine Json.parse_object ?_
  refine .cons rfl (by decide) (Field.takes_string _ _ _ _ config.dim) ?_
  refine .cons rfl (by decide) (Field.takes_string _ _ _ _ config.slotStyle) ?_
  refine .cons rfl (by decide) (Field.takes_string _ _ _ _ config.cellStyle) ?_
  refine .cons rfl (by decide) (Field.takes_string _ _ _ _ config.rowStyle) ?_
  refine .cons rfl (by decide) (Field.takes_boolean _ _ _ _ config.noFillers) ?_
  refine .cons rfl (by decide) (Field.takes_record _ _ _ _ (fills_spacing config.spacing)) ?_
  exact .nil _ _

end SlotGrid
