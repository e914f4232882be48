import SlotGrid.Json.Value
import SlotGrid.Proofs.JsonTokens

/-!
# Written values are JSON

A value that is written without spaces is a text by the rules of JSON, and the text
says the value. So whatever is known about the reading of texts is known about what
this library writes.

## Main definitions

* `Value.tree` — a value as a text says it.

## Main results

* `spells_quote` — strings.
* `begins_compact` — values in front of other text.
* `isText_compact` — whole texts.
-/

namespace SlotGrid.Json

mutual

/-- A value as a text says it. -/
def Value.tree : Value → Tree String
  | .boolean value => .boolean value
  | .string content => .string content
  | .array items => .array (itemTrees items)
  | .object members => .object (memberTrees members)

/-- The items of an array as a text says them. -/
def itemTrees : List Value → List (Tree String)
  | [] => []
  | item :: items => item.tree :: itemTrees items

/-- The members of an object as a text says them. -/
def memberTrees : List (String × Value) → List (String × Tree String)
  | [] => []
  | (key, value) :: members => (key, value.tree) :: memberTrees members

end

/-! ## Strings -/

/-- The text between quotes stands for the string. The reader takes it back, and what
the reader takes is spelled by the rules. -/
theorem spells_quote (text : String) (rest : List Char) :
    Spelling.texts.Spells text (text.toList.flatMap escape ++ '"' :: rest) rest := by
  obtain ⟨pieces, hText, hPieces⟩ := readString_sound (readString_quote text rest)
  obtain ⟨chars, hDecode, rfl⟩ := Option.map_eq_some_iff.mp hText
  exact ⟨pieces, by rw [hDecode, String.toList_ofList], hPieces⟩

/-! ## Values -/

/-- A comma that stands between two items or members. -/
theorem lead_comma (rest : List Char) : Lead false (',' :: rest) rest :=
  ⟨rest, .refl _, .refl _⟩

mutual

theorem begins_compact (value : Value) (rest : List Char) :
    (Phrase.value value.tree).Begins .texts (value.compact ++ rest) rest := by
  cases value with
  | boolean value => exact .boolean value rest
  | string content =>
      rw [Value.compact, quote_append]
      exact .string (spells_quote content rest)
  | array items =>
      cases items with
      | nil => exact .array (.noItem (.refl _))
      | cons item items =>
          have hItem := begins_compact item (compactItems items ++ rest)
          rw [Value.compact, List.append_assoc]
          exact .array (.item (.refl _) hItem (begins_compactItems items rest))
  | object members =>
      cases members with
      | nil => exact .object (.noMember (.refl _))
      | cons member members =>
          obtain ⟨key, value⟩ := member
          have hValue := begins_compact value (compactMembers members ++ rest)
          have hText : (Value.object ((key, value) :: members)).compact ++ rest =
              '{' :: '"' :: (key.toList.flatMap escape ++
                '"' :: ':' :: (value.compact ++ (compactMembers members ++ rest))) := by
            simp [Value.compact, quote]
          rw [hText]
          exact .object (.member (.refl _) (spells_quote key _) (.refl _) (.refl _) hValue
            (begins_compactMembers members rest))

theorem begins_compactItems (items : List Value) (rest : List Char) :
    (Phrase.items false (itemTrees items)).Begins .texts (compactItems items ++ rest) rest := by
  cases items with
  | nil => exact .noItem (.refl _)
  | cons item items =>
      have hItem := begins_compact item (compactItems items ++ rest)
      rw [compactItems, List.append_assoc]
      exact .item (lead_comma _) hItem (begins_compactItems items rest)

theorem begins_compactMembers (members : List (String × Value)) (rest : List Char) :
    (Phrase.members false (memberTrees members)).Begins .texts
      (compactMembers members ++ rest) rest := by
  cases members with
  | nil => exact .noMember (.refl _)
  | cons member members =>
      obtain ⟨key, value⟩ := member
      have hValue := begins_compact value (compactMembers members ++ rest)
      have hText : compactMembers ((key, value) :: members) ++ rest =
          ',' :: '"' :: (key.toList.flatMap escape ++
            '"' :: ':' :: (value.compact ++ (compactMembers members ++ rest))) := by
        simp [compactMembers, quote]
      rw [hText]
      exact .member (lead_comma _) (spells_quote key _) (.refl _) (.refl _) hValue
        (begins_compactMembers members rest)

end

/-- What is written without spaces is a text that says the value. -/
theorem isText_compact (value : Value) : IsText .texts value.tree value.compact := by
  refine ⟨value.compact, [], .refl _, ?_, .refl _⟩
  have h := begins_compact value []
  rwa [List.append_nil] at h

end SlotGrid.Json
