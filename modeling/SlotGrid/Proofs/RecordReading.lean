import SlotGrid.Json.Record
import SlotGrid.Proofs.RecordTrees
import SlotGrid.Proofs.SkippedValues

/-!
# Records are read as trees say

The reader of records never holds a tree: it fills a record while it goes over the
text, and stops at the first fault. If a tree is written there, it comes to what the
tree says about the record, or to a fault when the tree says nothing of use. Which
fault that is, and in front of what, is left aside here.

The other direction is about the text alone. Whatever is read as a record is a value
by the rules, so there is a tree, and the first direction says what was read.

## Main definitions

* `Field.Follows` — fields that read what trees say about a part.
* `Field.IsSound` — fields that read nothing but values.

## Main results

* `Shape.readMembers_member`, `Shape.readMembers_of_begins` — one member of an object,
  and all of them.
* `Shape.readItems_of_begins` — the items of an array.
* `Shape.parse_of_isText`, `Shape.parse_sound` — whole texts.
* `Field.follows_string`, `Field.follows_boolean`, `Field.follows_record` — fields of
  every kind.
-/

namespace SlotGrid.Json

variable {σ τ : Type} {spelling : Spelling τ}

/-! ## Values of one kind -/

theorem readStringValue_of_begins {tree : Tree τ} {text start rest : List Char}
    (hText : White text start) (h : (Phrase.value tree).Begins spelling start rest) :
    (readStringValue text).toOption = (tree.text? spelling).map (·, rest) := by
  obtain ⟨c, more, rfl, hOpens⟩ := exists_opener h
  rw [readStringValue, hText.skipSpace_cons hOpens.token.1]
  cases tree with
  | string content =>
      obtain rfl := hOpens
      cases h with
      | string hContent => exact readString_of_spells hContent
  | number numeral =>
      have hQuote : c ≠ '"' := by
        rintro rfl
        exact absurd hOpens (by simp [Tree.Opens])
      simp [hQuote, Tree.text?, Except.toOption]
  | boolean value => cases value <;> (obtain rfl := hOpens; rfl)
  | null | array | object =>
      obtain rfl := hOpens
      rfl

theorem readBooleanValue_of_begins {tree : Tree τ} {text start rest : List Char}
    (hText : White text start) (h : (Phrase.value tree).Begins spelling start rest) :
    (readBooleanValue text).toOption = tree.truth?.map (·, rest) := by
  obtain ⟨c, more, hStart, hOpens⟩ := exists_opener h
  have hSkip := (hStart ▸ hText).skipSpace_cons hOpens.token.1
  cases tree with
  | boolean value =>
      cases h
      cases value with
      | true =>
          have hText : White text ('t' :: ("rue".toList ++ rest)) := hText
          rw [readBooleanValue, hText.skipSpace_cons (by decide)]
          simp only [readWord_append]
          rfl
      | false =>
          have hText : White text ('f' :: ("alse".toList ++ rest)) := hText
          rw [readBooleanValue, hText.skipSpace_cons (by decide)]
          simp only [readWord_append]
          rfl
  | number numeral =>
      have hTrue : c ≠ 't' := by
        rintro rfl
        exact absurd hOpens (by simp [Tree.Opens])
      have hFalse : c ≠ 'f' := by
        rintro rfl
        exact absurd hOpens (by simp [Tree.Opens])
      rw [readBooleanValue, hSkip]
      simp [hTrue, hFalse, Tree.truth?, Except.toOption]
  | null | string | array | object =>
      obtain rfl := hOpens
      rw [readBooleanValue, hSkip]
      rfl

theorem readStringValue_sound {text rest : List Char} {value : String}
    (h : readStringValue text = .ok (value, rest)) :
    ∃ start tree, White text start ∧ (Phrase.value tree).Begins .pieces start rest := by
  revert h
  fun_cases readStringValue text with
  | case1 quoted hQuote =>
      intro h
      obtain ⟨pieces, -, hPieces⟩ := readString_sound h
      exact ⟨_, .string pieces, white_of_skipSpace hQuote, .string hPieces⟩
  | case2 =>
      intro h
      cases h

theorem readBooleanValue_sound {text rest : List Char} {value : Bool}
    (h : readBooleanValue text = .ok (value, rest)) :
    ∃ start tree, White text start ∧ (Phrase.value tree).Begins .pieces start rest := by
  revert h
  fun_cases readBooleanValue text with
  | case1 letters hHead =>
      intro h
      have hText := white_of_skipSpace hHead
      rw [readWord_sound (eq_ok_of_map_pair h)] at hText
      exact ⟨_, .boolean true, hText, .boolean true rest⟩
  | case2 letters hHead =>
      intro h
      have hText := white_of_skipSpace hHead
      rw [readWord_sound (eq_ok_of_map_pair h)] at hText
      exact ⟨_, .boolean false, hText, .boolean false rest⟩
  | case3 =>
      intro h
      cases h

/-! ## Turns -/

theorem nextMember_of_end {first : Bool} {text rest : List Char} (h : White text ('}' :: rest)) :
    nextMember first text = .ok (.finished rest) := by
  rw [nextMember, h.skipSpace_cons (by decide)]
  rfl

theorem nextMember_of_lead {first : Bool} {text quoted : List Char}
    (h : Lead first text ('"' :: quoted)) : nextMember first text = .ok (.item quoted) := by
  cases first with
  | true =>
      rw [nextMember, White.skipSpace_cons h (by decide)]
      rfl
  | false =>
      obtain ⟨more, hComma, hQuote⟩ := h
      rw [nextMember, hComma.skipSpace_cons (by decide)]
      simp [hQuote.skipSpace_cons (by decide)]

/-- What a turn has found: the end of an object, or the quote in front of a key. -/
def Turn.IsMember (first : Bool) (text : List Char) : Turn → Prop
  | .finished rest => White text ('}' :: rest)
  | .item rest => Lead first text ('"' :: rest)

theorem nextMember_sound {first : Bool} {text : List Char} {turn : Turn}
    (h : nextMember first text = .ok turn) : turn.IsMember first text := by
  revert h
  fun_cases nextMember first text with
  | case2 behind hEnd =>
      intro h
      cases h
      exact white_of_skipSpace hEnd
  | case3 quoted hFirst _ hQuote =>
      intro h
      cases h
      subst hFirst
      exact white_of_skipSpace hQuote
  | case6 behind hLater quoted hQuote _ hComma =>
      intro h
      cases h
      obtain rfl := Bool.not_eq_true _ ▸ hLater
      exact ⟨behind, white_of_skipSpace hComma, white_of_skipSpace hQuote⟩
  | case1 | case4 | case5 | case7 | case8 | case9 =>
      intro h
      cases h

theorem nextItem_of_end (first : Bool) {text rest : List Char} (h : White text (']' :: rest)) :
    nextItem first text = .ok (.finished rest) := by
  rw [nextItem, h.skipSpace_cons (by decide)]
  rfl

theorem nextItem_of_lead {first : Bool} {text start rest : List Char} {tree : Tree τ}
    (hLead : Lead first text start) (h : (Phrase.value tree).Begins spelling start rest) :
    nextItem first text = .ok (.item start) := by
  obtain ⟨c, more, rfl, hOpens⟩ := exists_opener h
  obtain ⟨hSpace, hClose, -⟩ := hOpens.token
  cases first with
  | true =>
      rw [nextItem, White.skipSpace_cons hLead hSpace]
      simp
  | false =>
      obtain ⟨behind, hComma, hStart⟩ := hLead
      rw [nextItem, hComma.skipSpace_cons (by decide)]
      simp [hStart.skipSpace_cons hSpace, hClose]

/-- What a turn has found: the end of an array, or the text of an item. -/
def Turn.IsItem (first : Bool) (text : List Char) : Turn → Prop
  | .finished rest => White text (']' :: rest)
  | .item rest => Lead first text rest

theorem nextItem_sound {first : Bool} {text : List Char} {turn : Turn}
    (h : nextItem first text = .ok turn) : turn.IsItem first text := by
  revert h
  fun_cases nextItem first text with
  | case2 behind hEnd =>
      intro h
      cases h
      exact white_of_skipSpace hEnd
  | case3 c start _ hItem hFirst =>
      intro h
      cases h
      subst hFirst
      exact white_of_skipSpace hItem
  | case6 behind hLater _ hComma =>
      intro h
      cases h
      obtain rfl := Bool.not_eq_true _ ▸ hLater
      exact ⟨behind, white_of_skipSpace hComma, white_skipSpace behind⟩
  | case1 | case4 | case5 | case7 =>
      intro h
      cases h

theorem readArrayEnd_sound {text rest : List Char} (h : readArrayEnd text = .ok rest) :
    White text (']' :: rest) := by
  revert h
  fun_cases readArrayEnd text with
  | case2 behind hEnd =>
      intro h
      cases h
      exact white_of_skipSpace hEnd
  | case1 | case3 | case4 | case5 =>
      intro h
      cases h

/-- An array has room for no item when it may be read to its end at once. -/
theorem readArrayEnd_of_begins {first : Bool} {items : List (Tree τ)} {text rest : List Char}
    (h : (Phrase.items first items).Begins spelling text rest) :
    (readArrayEnd text).toOption = if items = [] then some rest else none := by
  cases h with
  | noItem hEnd =>
      rw [readArrayEnd, hEnd.skipSpace_cons (by decide)]
      rfl
  | item hLead hItem =>
      cases hRead : readArrayEnd text with
      | error fault => rfl
      | ok more =>
          have hEnd := nextItem_of_end first (readArrayEnd_sound hRead)
          rw [nextItem_of_lead hLead hItem] at hEnd
          cases hEnd

theorem readColon_of_white {text rest : List Char} (h : White text (':' :: rest)) :
    readColon text = .ok rest := by
  rw [readColon, h.skipSpace_cons (by decide)]
  rfl

theorem readColon_sound {text rest : List Char} (h : readColon text = .ok rest) :
    White text (':' :: rest) := by
  revert h
  fun_cases readColon text with
  | case2 behind hColon =>
      intro h
      cases h
      exact white_of_skipSpace hColon
  | case1 | case3 =>
      intro h
      cases h

/-! ## Fields -/

/-- Whether a field reads what trees say about a part. -/
structure Field.Follows (spelling : Spelling τ) (field : Field σ) (part : Part σ τ) : Prop where
  name : field.name = part.name
  others : field.others = part.others
  read_of_begins : ∀ {tree : Tree τ} {text start rest : List Char}, White text start →
    (Phrase.value tree).Begins spelling start rest → Ends rest → ∀ record,
      (field.read record text).toOption =
        (part.value? tree).map fun value => (part.set record value, rest)

/-- Whether a field reads nothing but values. -/
def Field.IsSound (field : Field σ) : Prop :=
  ∀ {record result : σ} {text rest : List Char}, field.read record text = .ok (result, rest) →
    ∃ start tree, White text start ∧ (Phrase.value tree).Begins .pieces start rest

theorem answersTo_iff {field : Field σ} {part : Part σ τ} (h : field.Follows spelling part)
    (key : String) : field.answersTo key = true ↔ key ∈ part.names := by
  simp [Field.answersTo, Part.names, h.name, h.others]

namespace Shape

theorem rel_field? {shape : Shape σ} {parts : List (Part σ τ)}
    (h : List.Forall₂ (Field.Follows spelling) shape.fields parts) (key : String) :
    Option.Rel (Field.Follows spelling) (shape.field? key)
      (parts.find? fun part => key ∈ part.names) := by
  unfold field?
  generalize shape.fields = fields at h
  induction h with
  | nil => exact .none
  | @cons field part fields parts hFirst _ ih =>
      by_cases hKey : key ∈ part.names
      · have hField := (answersTo_iff hFirst key).mpr hKey
        simpa [List.find?_cons, hField, hKey] using hFirst
      · have hField := Bool.eq_false_iff.mpr (mt (answersTo_iff hFirst key).mp hKey)
        simpa [List.find?_cons, hField, hKey] using ih

theorem field?_eq_none {shape : Shape σ} {parts : List (Part σ τ)}
    (h : List.Forall₂ (Field.Follows spelling) shape.fields parts) {key : String}
    (hPart : (parts.find? fun part => key ∈ part.names) = none) : shape.field? key = none := by
  have hRel := rel_field? h key
  rw [hPart] at hRel
  cases hField : shape.field? key with
  | none => rfl
  | some field =>
      rw [hField] at hRel
      cases hRel

theorem exists_field? {shape : Shape σ} {parts : List (Part σ τ)}
    (h : List.Forall₂ (Field.Follows spelling) shape.fields parts) {key : String} {part : Part σ τ}
    (hPart : (parts.find? fun part => key ∈ part.names) = some part) :
    ∃ field, shape.field? key = some field ∧ field.Follows spelling part := by
  have hRel := rel_field? h key
  rw [hPart] at hRel
  cases hField : shape.field? key with
  | none =>
      rw [hField] at hRel
      cases hRel
  | some field =>
      rw [hField] at hRel
      cases hRel with
      | some hFollows => exact ⟨field, rfl, hFollows⟩

/-- The reader of members, told without the reasons why it comes to an end. -/
theorem readMembers_eq (shape : Shape σ) (seen : List String) (first : Bool) (record : σ)
    (text : List Char) :
    shape.readMembers seen first record text =
      match nextMember first text with
      | .error fault => .error fault
      | .ok (.finished rest) => .ok (record, rest)
      | .ok (.item quoted) =>
        match readString quoted with
        | .error fault => .error fault
        | .ok (key, behind) =>
          match (shape.field? key).filter fun field => seen.contains field.name with
          | some field => .error (repeatedField field.name behind)
          | none =>
            match readMember (shape.field? key) record behind with
            | .error fault => .error fault
            | .ok (record, rest) =>
              shape.readMembers (((shape.field? key).map Field.name).toList ++ seen)
                false record rest := by
  rw [readMembers]
  cases nextMember first text with
  | error fault => rfl
  | ok turn =>
      cases turn with
      | finished rest => rfl
      | item quoted =>
          dsimp only
          cases readString quoted with
          | error fault => rfl
          | ok result =>
              dsimp only
              cases (shape.field? result.1).filter fun field => seen.contains field.name with
              | some field => rfl
              | none =>
                  dsimp only
                  cases readMember (shape.field? result.1) record result.2 <;> rfl

theorem readMember_known {field : Field σ} {record : σ} {behind colon : List Char}
    (h : White behind (':' :: colon)) :
    readMember (some field) record behind = field.read record colon := by
  rw [readMember, readColon_of_white h]

theorem readMember_unknown {tree : Tree τ} {record : σ} {behind colon start rest : List Char}
    (h : White behind (':' :: colon)) (hStart : White colon start)
    (hValue : (Phrase.value tree).Begins spelling start rest) (hRest : Ends rest) :
    readMember (none : Option (Field σ)) record behind = .ok (record, rest) := by
  simp only [readMember, readColon_of_white h, skipValue_of_begins hStart hValue hRest, Except.map]

/-- One member is read as what it does to the record. -/
theorem readMembers_member {shape : Shape σ} {parts : List (Part σ τ)}
    (hFields : List.Forall₂ (Field.Follows spelling) shape.fields parts) {seen : List String}
    {first : Bool} {record : σ} {tree : Tree τ} {key : String}
    {text quoted behind colon start rest : List Char}
    (hLead : Lead first text ('"' :: quoted)) (hKey : readString quoted = .ok (key, behind))
    (hColon : White behind (':' :: colon)) (hStart : White colon start)
    (hValue : (Phrase.value tree).Begins spelling start rest) (hRest : Ends rest) :
    (shape.readMembers seen first record text).toOption =
      match parts.find? fun part => key ∈ part.names with
      | none => (shape.readMembers seen false record rest).toOption
      | some part =>
        if part.name ∈ seen then none
        else (part.value? tree).bind fun value =>
          (shape.readMembers (part.name :: seen) false (part.set record value) rest).toOption := by
  rw [readMembers_eq, nextMember_of_lead hLead]
  simp only [hKey]
  cases hPart : parts.find? fun part => key ∈ part.names with
  | none =>
      simp only [field?_eq_none hFields hPart, Option.filter_none,
        readMember_unknown hColon hStart hValue hRest]
      rfl
  | some part =>
      obtain ⟨field, hField, hFollows⟩ := exists_field? hFields hPart
      by_cases hSeen : part.name ∈ seen
      · simp [hField, Option.filter_some, hFollows.name, hSeen, Except.toOption]
      · have hRead := hFollows.read_of_begins hStart hValue hRest record
        simp only [hField, Option.filter_some, hFollows.name, List.contains_iff_mem,
          if_neg hSeen, readMember_known hColon]
        cases hTree : part.value? tree with
        | none =>
            rw [hTree] at hRead
            obtain ⟨fault, hFault⟩ := toOption_eq_none_iff.mp hRead
            simp only [hFault]
            rfl
        | some value =>
            rw [hTree] at hRead
            simp only [toOption_eq_some_iff.mp hRead]
            simp [hFollows.name]

/-- The members of an object are read as what they make of a record, unless a key has
no text. -/
theorem readMembers_of_begins {shape : Shape σ} {parts : List (Part σ τ)}
    (hFields : List.Forall₂ (Field.Follows spelling) shape.fields parts)
    {members : List (τ × Tree τ)} {first : Bool} {text rest : List Char}
    (h : (Phrase.members first members).Begins spelling text rest)
    (seen : List String) (record : σ) :
    (shape.readMembers seen first record text).toOption =
      (members.mapM spelling.member?).bind fun members =>
        (fill parts seen record members).map (·, rest) := by
  induction members generalizing first text seen record with
  | nil =>
      cases h with
      | noMember hEnd =>
          rw [readMembers_eq, nextMember_of_end hEnd]
          rfl
  | cons member members ih =>
      obtain ⟨key, tree⟩ := member
      cases h with
      | @member _ _ _ _ _ quoted behind colon start more _
          hLead hKey hColon hStart hValue hMembers =>
          have hString := readString_of_spells hKey
          rw [List.mapM_cons]
          simp only [Spelling.member?]
          cases hText : spelling.text? key with
          | none =>
              rw [hText] at hString
              obtain ⟨fault, hFault⟩ := toOption_eq_none_iff.mp hString
              rw [readMembers_eq, nextMember_of_lead hLead]
              simp only [hFault]
              rfl
          | some name =>
              rw [hText] at hString
              rw [readMembers_member hFields hLead (toOption_eq_some_iff.mp hString) hColon
                hStart hValue (ends_of_members hMembers)]
              simp only [ih hMembers]
              cases members.mapM spelling.member? with
              | none => cases parts.find? fun part => name ∈ part.names <;> simp
              | some named =>
                  simp only [Option.map_some, Option.pure_def, Option.bind_eq_bind,
                    Option.bind_some, fill]
                  cases parts.find? fun part => name ∈ part.names with
                  | none => rfl
                  | some part =>
                      by_cases hSeen : part.name ∈ seen
                      · simp [hSeen]
                      · simp only [hSeen, if_false, Option.map_bind]
                        rfl

/-- The items of an array are read as what they make of a record. -/
theorem readItems_of_begins {fields : List (Field σ)} {parts : List (Part σ τ)}
    (hFields : List.Forall₂ (Field.Follows spelling) fields parts) {items : List (Tree τ)}
    {first : Bool} {text rest : List Char}
    (h : (Phrase.items first items).Begins spelling text rest) (record : σ) :
    (readItems fields first record text).toOption =
      (fillItems record parts items).map (·, rest) := by
  induction hFields generalizing items first text record with
  | nil =>
      rw [readItems, toOption_map, readArrayEnd_of_begins h]
      cases items <;> simp [fillItems]
  | @cons field part fields parts hFirst _ ih =>
      cases h with
      | noItem hEnd =>
          rw [readItems, nextItem_of_end _ hEnd]
          rfl
      | @item _ tree items _ start more _ hLead hItem hItems =>
          have hRead := hFirst.read_of_begins (White.refl start) hItem (ends_of_items hItems) record
          rw [readItems, nextItem_of_lead hLead hItem, fillItems]
          cases hTree : part.value? tree with
          | none =>
              rw [hTree] at hRead
              obtain ⟨fault, hFault⟩ := toOption_eq_none_iff.mp hRead
              simp only [hFault]
              rfl
          | some value =>
              rw [hTree] at hRead
              simp only [toOption_eq_some_iff.mp hRead, Option.bind_some]
              exact ih hItems (part.set record value)

/-- A record is read as what a tree makes of it. -/
theorem read_of_begins {shape : Shape σ} {parts : List (Part σ τ)}
    (hFields : List.Forall₂ (Field.Follows spelling) shape.fields parts)
    (hApart : parts.Pairwise Part.Apart) {tree : Tree τ} {text start rest : List Char}
    (hText : White text start) (h : (Phrase.value tree).Begins spelling start rest) :
    (shape.read text).toOption = (tree.record? spelling parts shape.blank).map (·, rest) := by
  obtain ⟨c, more, hStart, hOpens⟩ := exists_opener h
  have hSkip := (hStart ▸ hText).skipSpace_cons hOpens.token.1
  cases tree with
  | object members =>
      cases h with
      | object hMembers =>
          rw [read, hText.skipSpace_cons (by decide)]
          simp only [readMembers_of_begins hFields hMembers, Tree.record?, Tree.members?,
            Option.map_bind]
          rfl
  | array items =>
      cases h with
      | array hItems =>
          rw [read, hText.skipSpace_cons (by decide)]
          simp only [readItems_of_begins hFields hItems, fillItems_eq hApart, Tree.record?,
            Tree.members?, List.length_map]
          split <;> rfl
  | number numeral =>
      have hBrace : c ≠ '{' := by
        rintro rfl
        exact absurd hOpens (by simp [Tree.Opens])
      have hBracket : c ≠ '[' := by
        rintro rfl
        exact absurd hOpens (by simp [Tree.Opens])
      rw [read, hSkip]
      simp [hBrace, hBracket, Tree.record?, Tree.members?, Except.toOption]
  | boolean value =>
      cases value <;> (obtain rfl := hOpens; rw [read, hSkip]; rfl)
  | null | string =>
      obtain rfl := hOpens
      rw [read, hSkip]
      rfl

/-- A text that holds a record and nothing else. -/
theorem parse_of_isText {shape : Shape σ} {parts : List (Part σ τ)}
    (hFields : List.Forall₂ (Field.Follows spelling) shape.fields parts)
    (hApart : parts.Pairwise Part.Apart) {tree : Tree τ} {text : List Char}
    (h : IsText spelling tree text) :
    (shape.parse text).toOption = tree.record? spelling parts shape.blank := by
  obtain ⟨start, rest, hText, hTree, hEnd⟩ := h
  have hRead := read_of_begins hFields hApart hText hTree
  rw [parse]
  cases hRecord : tree.record? spelling parts shape.blank with
  | none =>
      rw [hRecord] at hRead
      obtain ⟨fault, hFault⟩ := toOption_eq_none_iff.mp hRead
      rw [hFault]
      rfl
  | some record =>
      rw [hRecord] at hRead
      rw [toOption_eq_some_iff.mp hRead]
      simp only [hEnd.skipSpace_nil]
      rfl

/-! ## What is read is a value -/

theorem readMember_sound {field : Option (Field σ)} (hField : ∀ known ∈ field, known.IsSound)
    {record result : σ} {text rest : List Char}
    (h : readMember field record text = .ok (result, rest)) :
    ∃ colon start tree, White text (':' :: colon) ∧ White colon start ∧
      (Phrase.value tree).Begins .pieces start rest := by
  revert h
  fun_cases readMember field record text with
  | case2 colon hColon known =>
      intro h
      obtain ⟨start, tree, hStart, hTree⟩ := hField known rfl h
      exact ⟨colon, start, tree, readColon_sound hColon, hStart, hTree⟩
  | case3 colon hColon =>
      intro h
      obtain ⟨start, tree, hStart, hTree⟩ := skipValue_sound (eq_ok_of_map_pair h)
      exact ⟨colon, start, tree, readColon_sound hColon, hStart, hTree⟩
  | case1 =>
      intro h
      cases h

theorem readMembers_sound {shape : Shape σ} (hFields : ∀ field ∈ shape.fields, field.IsSound)
    {seen : List String} {first : Bool} {record result : σ} {text rest : List Char}
    (h : shape.readMembers seen first record text = .ok (result, rest)) :
    ∃ members, (Phrase.members first members).Begins .pieces text rest := by
  revert h
  fun_induction readMembers shape seen first record text with
  | case2 seen first record text behind hEnd =>
      intro h
      cases h
      exact ⟨[], .noMember (nextMember_sound hEnd)⟩
  | case6 seen first record text quoted hNext key behind hKey field hNew filled more hMember ih =>
      intro h
      obtain ⟨members, hMembers⟩ := ih h
      obtain ⟨pieces, -, hPieces⟩ := readString_sound hKey
      have hSound (known : Field σ) (hKnown : shape.field? key = some known) : known.IsSound :=
        hFields known (List.mem_of_find?_eq_some hKnown)
      obtain ⟨colon, start, tree, hColon, hStart, hTree⟩ := readMember_sound hSound hMember
      exact ⟨(pieces, tree) :: members,
        .member (nextMember_sound hNext) hPieces hColon hStart hTree hMembers⟩
  | case1 | case3 | case4 | case5 =>
      intro h
      cases h

theorem readItems_sound {fields : List (Field σ)} (hFields : ∀ field ∈ fields, field.IsSound)
    {first : Bool} {record result : σ} {text rest : List Char}
    (h : readItems fields first record text = .ok (result, rest)) :
    ∃ items, (Phrase.items first items).Begins .pieces text rest := by
  revert h
  fun_induction readItems fields first record text with
  | case1 first record text =>
      intro h
      exact ⟨[], .noItem (readArrayEnd_sound (eq_ok_of_map_pair h))⟩
  | case3 first record text field fields behind hEnd =>
      intro h
      cases h
      exact ⟨[], .noItem (nextItem_sound hEnd)⟩
  | case5 first record text field fields start hNext filled behind hRead ih =>
      intro h
      obtain ⟨hFirst, hOthers⟩ := List.forall_mem_cons.mp hFields
      obtain ⟨begun, tree, hStart, hTree⟩ := hFirst hRead
      obtain ⟨items, hItems⟩ := ih hOthers h
      exact ⟨tree :: items, .item (Lead.trans (nextItem_sound hNext) hStart) hTree hItems⟩
  | case2 | case4 =>
      intro h
      cases h

theorem read_sound {shape : Shape σ} (hFields : ∀ field ∈ shape.fields, field.IsSound)
    {result : σ} {text rest : List Char} (h : shape.read text = .ok (result, rest)) :
    ∃ start tree, White text start ∧ (Phrase.value tree).Begins .pieces start rest := by
  revert h
  fun_cases read shape text with
  | case1 inside hBrace =>
      intro h
      obtain ⟨members, hMembers⟩ := readMembers_sound hFields h
      exact ⟨_, .object members, white_of_skipSpace hBrace, .object hMembers⟩
  | case2 inside hBracket =>
      intro h
      obtain ⟨items, hItems⟩ := readItems_sound hFields h
      exact ⟨_, .array items, white_of_skipSpace hBracket, .array hItems⟩
  | case3 =>
      intro h
      cases h

theorem parse_sound {shape : Shape σ} (hFields : ∀ field ∈ shape.fields, field.IsSound)
    {result : σ} {text : List Char} (h : shape.parse text = .ok result) :
    ∃ tree, IsText .pieces tree text := by
  revert h
  fun_cases parse shape text with
  | case2 record rest hRead hEnd =>
      intro h
      obtain ⟨start, tree, hText, hTree⟩ := read_sound hFields hRead
      exact ⟨tree, start, rest, hText, hTree, white_of_skipSpace hEnd⟩
  | case1 | case3 =>
      intro h
      cases h

end Shape

/-! ## Fields of every kind -/

namespace Field

variable (name : String) (others : List String)

theorem follows_string (get : σ → String) (set : σ → String → σ) :
    (Field.string name others set).Follows spelling (.string spelling name others get set) where
  name := rfl
  others := rfl
  read_of_begins hText hTree _ record := by
    simp only [Field.string, toOption_map, readStringValue_of_begins hText hTree, Option.map_map]
    rfl

theorem follows_boolean (get : σ → Bool) (set : σ → Bool → σ) :
    (Field.boolean name others set).Follows spelling (.boolean name others get set) where
  name := rfl
  others := rfl
  read_of_begins hText hTree _ record := by
    simp only [Field.boolean, toOption_map, readBooleanValue_of_begins hText hTree, Option.map_map]
    rfl

theorem follows_record {ρ : Type} {shape : Shape ρ} {parts : List (Part ρ τ)}
    (hFields : List.Forall₂ (Field.Follows spelling) shape.fields parts)
    (hApart : parts.Pairwise Part.Apart) (get : σ → ρ) (set : σ → ρ → σ) :
    (Field.record name others shape set).Follows spelling
      (.record spelling name others parts shape.blank get set) where
  name := rfl
  others := rfl
  read_of_begins hText hTree _ record := by
    simp only [Field.record, toOption_map, Shape.read_of_begins hFields hApart hText hTree,
      Option.map_map]
    rfl

/-- What a field reads is what its kind of value reads. -/
theorem isSound_of_map {α : Type} {read : List Char → Reading α} (set : σ → α → σ)
    (hRead : ∀ {value : α} {text rest : List Char}, read text = .ok (value, rest) →
      ∃ start tree, White text start ∧ (Phrase.value tree).Begins .pieces start rest)
    {record result : σ} {text rest : List Char}
    (h : (read text).map (fun (value, rest) => (set record value, rest)) = .ok (result, rest)) :
    ∃ start tree, White text start ∧ (Phrase.value tree).Begins .pieces start rest := by
  cases hText : read text with
  | error fault =>
      rw [hText] at h
      cases h
  | ok reading =>
      rw [hText] at h
      obtain ⟨-, rfl⟩ := Prod.mk.inj (Except.ok.inj h)
      exact hRead hText

theorem isSound_string (set : σ → String → σ) : (Field.string name others set).IsSound :=
  isSound_of_map set readStringValue_sound

theorem isSound_boolean (set : σ → Bool → σ) : (Field.boolean name others set).IsSound :=
  isSound_of_map set readBooleanValue_sound

theorem isSound_record {ρ : Type} {shape : Shape ρ}
    (hFields : ∀ field ∈ shape.fields, field.IsSound) (set : σ → ρ → σ) :
    (Field.record name others shape set).IsSound :=
  isSound_of_map set (Shape.read_sound hFields)

end Field

end SlotGrid.Json
