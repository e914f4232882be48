import SlotGrid.Proofs.Entities
import SlotGrid.Proofs.TextParts

/-!
# Unique reading of markup

Different trees can have the same HTML text: a text that is empty or cut in two
leaves no trace, and an attribute with an equals sign in its name can look like
two. This module names what a tree must keep to, its normal form, and shows that
trees in normal form are told apart by their HTML text.

A reader always knows where the part that it is in ends, because a character
comes that the part cannot hold: a name ends before a blank, an equals sign or a
bracket, a value before its quote, a text before a bracket, and children before
`</`. Two equal texts are therefore cut at the same places, part by part.

## Main definitions

* `IsPlainName` — names that can be read back.
* `Node.Normal`, `AllNormal` — trees in normal form.

## Main results

* `AllNormal.allPlain` — the brackets of trees in normal form are those of their tags.
* `attributeChars_inj`, `openingTag_inj` — attributes and opening tags are read
  back.
* `write_inj`, `writeAll_inj` — so are nodes, whatever follows them.
* `html_injective` — trees in normal form with the same HTML text are the same.
-/

namespace SlotGrid.Markup

open Text (StopsAt stopsAt_cons eq_of_append_of_stop eq_of_append_mark)

/-! ## Trees in normal form -/

/-- Whether a character can stand in a plain name. -/
def isPlainChar (c : Char) : Bool := !Text.isBlank c && !"<>\"=/".toList.contains c

/-- Whether a name of a tag or of an attribute can be read back: it is not empty
and holds no blank and none of the characters that end a name. -/
def IsPlainName (name : String) : Prop := name ≠ "" ∧ ∀ c ∈ name.toList, isPlainChar c = true

instance (name : String) : Decidable (IsPlainName name) :=
  @instDecidableAnd _ _ inferInstance (List.decidableBAll _ _)

/-- Whether a node is no text next to another text. -/
def Node.ApartFrom (node : Node) (rest : List Node) : Prop :=
  node.tag? = none → ∀ next ∈ rest.head?, next.tag? ≠ none

mutual

/-- Whether a node is in normal form: its names are plain, no text in it is raw,
empty or next to another text, and its void elements are empty. -/
def Node.Normal : Node → Prop
  | .text content => content ≠ ""
  | .element tag attributes children =>
    IsPlainName tag ∧ (∀ entry ∈ attributes.entries, IsPlainName entry.1) ∧
      rawTextTags.contains tag = false ∧ (isVoid tag = true → children = []) ∧ AllNormal children

/-- Whether the nodes of a list are in normal form side by side. -/
def AllNormal : List Node → Prop
  | [] => True
  | node :: rest => node.Normal ∧ node.ApartFrom rest ∧ AllNormal rest

end

theorem IsPlainName.bracketFree {name : String} (h : IsPlainName name) :
    BracketFree name.toList := by
  refine ⟨?_, ?_⟩
  · intro hOpen
    exact absurd (h.2 '<' hOpen) (by decide)
  · intro hClose
    exact absurd (h.2 '>' hClose) (by decide)

mutual

private theorem Node.Normal.plain (node : Node) (h : node.Normal) : node.Plain := by
  cases node with
  | text content => trivial
  | element tag attributes children =>
      obtain ⟨hTag, hNames, hRaw, hVoid, hChildren⟩ := h
      exact ⟨hTag.bracketFree, fun entry hEntry => (hNames entry hEntry).bracketFree, hRaw, hVoid,
        AllNormal.allPlain children hChildren⟩

/-- Trees in normal form are plain. -/
theorem AllNormal.allPlain (nodes : List Node) (h : AllNormal nodes) : AllPlain nodes := by
  cases nodes with
  | nil => trivial
  | cons node rest =>
      obtain ⟨hNode, -, hRest⟩ := h
      exact ⟨Node.Normal.plain node hNode, AllNormal.allPlain rest hRest⟩

end

/-! ## Names, values and attributes -/

/-- A plain name is read up to the first character that no plain name holds. -/
theorem eq_of_name_append {name other : String} {rest last : List Char} (hName : IsPlainName name)
    (hOther : IsPlainName other) (hRest : StopsAt isPlainChar rest)
    (hLast : StopsAt isPlainChar last) (h : name.toList ++ rest = other.toList ++ last) :
    name = other ∧ rest = last := by
  obtain ⟨hChars, hSame⟩ := eq_of_append_of_stop hName.2 hOther.2 hRest hLast h
  exact ⟨String.toList_inj.mp hChars, hSame⟩

private theorem quote_notMem_textEntity {c : Char} (h : c ≠ '"') : '"' ∉ textEntity c := by
  rcases textEntity_cases c with ⟨-, hText⟩ | ⟨-, hText⟩ | ⟨-, hText⟩ | ⟨-, hText⟩
  · rw [hText]
    decide
  · rw [hText]
    decide
  · rw [hText]
    decide
  · rw [hText, List.mem_singleton]
    exact fun hQuote => h hQuote.symm

theorem quote_notMem_escapeValue (value : List Char) : '"' ∉ escapeValue value := by
  intro hMem
  obtain ⟨c, -, hc⟩ := List.mem_flatMap.mp hMem
  unfold valueEntity at hc
  by_cases hQuote : c = '"'
  · rw [if_pos hQuote] at hc
    exact absurd hc (by decide)
  · rw [if_neg hQuote] at hc
    exact quote_notMem_textEntity hQuote hc

/-- A value is read up to its quote. -/
theorem eq_of_value_append {value other : String} {rest last : List Char}
    (h : escapeValue value.toList ++ '"' :: rest = escapeValue other.toList ++ '"' :: last) :
    value = other ∧ rest = last := by
  obtain ⟨hValue, hRest⟩ :=
    eq_of_append_mark (quote_notMem_escapeValue _) (quote_notMem_escapeValue _) h
  exact ⟨String.toList_inj.mp (escapeValue_injective hValue), hRest⟩

/-- An attribute is read back, whatever follows it. -/
theorem attributeChars_inj {entry other : String × String} {rest last : List Char}
    (hEntry : IsPlainName entry.1) (hOther : IsPlainName other.1)
    (h : attributeChars entry ++ rest = attributeChars other ++ last) :
    entry = other ∧ rest = last := by
  have hChars : entry.1.toList ++ '=' :: '"' :: (escapeValue entry.2.toList ++ '"' :: rest) =
      other.1.toList ++ '=' :: '"' :: (escapeValue other.2.toList ++ '"' :: last) := by
    simpa [attributeChars] using h
  obtain ⟨hName, hAfterName⟩ := eq_of_name_append hEntry hOther
    (stopsAt_cons (by decide) _) (stopsAt_cons (by decide) _) hChars
  obtain ⟨hValue, hRest⟩ := eq_of_value_append (List.cons.inj (List.cons.inj hAfterName).2).2
  exact ⟨Prod.ext hName hValue, hRest⟩

/-- Attributes are read up to the bracket of their tag. -/
theorem eq_of_attributes_append {entries others : List (String × String)} {rest last : List Char}
    (hEntries : ∀ entry ∈ entries, IsPlainName entry.1)
    (hOthers : ∀ entry ∈ others, IsPlainName entry.1)
    (h : entries.flatMap attributeChars ++ '>' :: rest =
      others.flatMap attributeChars ++ '>' :: last) : entries = others ∧ rest = last := by
  induction entries generalizing others with
  | nil =>
      cases others with
      | nil => exact ⟨rfl, (List.cons.inj h).2⟩
      | cons other more =>
          have hFirst : '>' = ' ' := (List.cons.inj h).1
          exact absurd hFirst (by decide)
  | cons entry more ih =>
      cases others with
      | nil =>
          have hFirst : ' ' = '>' := (List.cons.inj h).1
          exact absurd hFirst (by decide)
      | cons other moreOthers =>
          rw [List.flatMap_cons, List.flatMap_cons, List.append_assoc, List.append_assoc] at h
          obtain ⟨rfl, hMore⟩ := attributeChars_inj (hEntries entry List.mem_cons_self)
            (hOthers other List.mem_cons_self) h
          obtain ⟨rfl, hRest⟩ := ih (fun item hItem => hEntries item (List.mem_cons_of_mem _ hItem))
            (fun item hItem => hOthers item (List.mem_cons_of_mem _ hItem)) hMore
          exact ⟨rfl, hRest⟩

/-- What follows the name in an opening tag ends the name. -/
private theorem stopsAt_attributes (entries : List (String × String)) (rest : List Char) :
    StopsAt isPlainChar (entries.flatMap attributeChars ++ '>' :: rest) := by
  cases entries with
  | nil => exact stopsAt_cons (by decide) rest
  | cons entry more => exact stopsAt_cons (by decide) _

private theorem openingTag_append (tag : String) (attributes : Attributes) (rest : List Char) :
    openingTag tag attributes ++ rest =
      '<' :: (tag.toList ++ (attributes.entries.flatMap attributeChars ++ '>' :: rest)) := by
  simp [openingTag]

/-- An opening tag is read back with its attributes, whatever follows it. -/
theorem openingTag_inj {tag other : String} {attributes others : Attributes}
    {rest last : List Char} (hTag : IsPlainName tag) (hOther : IsPlainName other)
    (hNames : ∀ entry ∈ attributes.entries, IsPlainName entry.1)
    (hOthers : ∀ entry ∈ others.entries, IsPlainName entry.1)
    (h : openingTag tag attributes ++ rest = openingTag other others ++ last) :
    tag = other ∧ attributes = others ∧ rest = last := by
  rw [openingTag_append, openingTag_append] at h
  obtain ⟨rfl, hAttributes⟩ := eq_of_name_append hTag hOther (stopsAt_attributes _ _)
    (stopsAt_attributes _ _) (List.cons.inj h).2
  obtain ⟨hEntries, hRest⟩ := eq_of_attributes_append hNames hOthers hAttributes
  refine ⟨rfl, ?_, hRest⟩
  cases attributes
  cases others
  rwa [Attributes.mk.injEq]

/-! ## How nodes begin -/

/-- Whether a text is what can follow the last child of an element or the last
node of all: a closing tag or nothing. -/
def EndsChildren (rest : List Char) : Prop := rest = [] ∨ ∃ more, rest = '<' :: '/' :: more

theorem endsChildren_closingTag (tag : String) (rest : List Char) :
    EndsChildren (closingTag tag ++ rest) := Or.inr ⟨_, rfl⟩

/-- The characters that can stand in an escaped text. -/
def isTextChar (c : Char) : Bool := c != '<'

theorem isTextChar_of_mem_escapeText {text : List Char} :
    ∀ c ∈ escapeText text, isTextChar c = true := by
  intro c hc
  rw [isTextChar, bne_iff_ne]
  rintro rfl
  exact (bracketFree_escapeText text).1 hc

theorem EndsChildren.stopsAt {rest : List Char} (h : EndsChildren rest) :
    StopsAt isTextChar rest := by
  rcases h with rfl | ⟨more, rfl⟩
  · intro c hc
    cases hc
  · exact stopsAt_cons (by decide) _

private theorem write_element_append (tag : String) (attributes : Attributes)
    (children : List Node) (rest : List Char) :
    ∃ more, (Node.element tag attributes children).write .entities ++ rest =
      '<' :: (tag.toList ++ more) := by
  rw [Node.write, List.append_assoc, openingTag_append]
  exact ⟨_, rfl⟩

/-- An element ends the text in front of it. -/
theorem stopsAt_write {node : Node} (h : node.tag? ≠ none) (rest : List Char) :
    StopsAt isTextChar (node.write .entities ++ rest) := by
  cases node with
  | text content => exact absurd rfl h
  | element tag attributes children =>
      obtain ⟨more, hWrite⟩ := write_element_append tag attributes children rest
      rw [hWrite]
      exact stopsAt_cons (by decide) _

/-- A text that is not empty shows itself by its first character. -/
theorem not_stopsAt_write_text {content : String} (h : content ≠ "") (rest : List Char) :
    ¬ StopsAt isTextChar ((Node.text content).write .entities ++ rest) := by
  intro hStop
  show False
  cases hChars : escapeText content.toList with
  | nil =>
      have hEmpty : content.toList = [] := escapeText_injective hChars
      exact h (String.toList_eq_nil_iff.mp hEmpty)
  | cons c more =>
      have hHolds : isTextChar c = true :=
        isTextChar_of_mem_escapeText c (hChars ▸ List.mem_cons_self)
      have hHead : c ∈ ((Node.text content).write .entities ++ rest).head? := by
        show c ∈ (escapeText content.toList ++ rest).head?
        rw [hChars]
        rfl
      rw [hStop c hHead] at hHolds
      cases hHolds

/-- A node does not look like the end of the nodes. -/
theorem not_endsChildren_write {node : Node} (h : node.Normal) (rest : List Char) :
    ¬ EndsChildren (node.write .entities ++ rest) := by
  intro hEnds
  cases node with
  | text content => exact not_stopsAt_write_text h rest hEnds.stopsAt
  | element tag attributes children =>
      obtain ⟨hTag, -⟩ := h
      obtain ⟨more, hWrite⟩ := write_element_append tag attributes children rest
      rw [hWrite] at hEnds
      rcases hEnds with hEmpty | ⟨last, hClosing⟩
      · exact absurd hEmpty (List.cons_ne_nil _ _)
      · -- The name would begin with the slash of a closing tag.
        cases hName : tag.toList with
        | nil => exact hTag.1 (String.toList_eq_nil_iff.mp hName)
        | cons c name =>
            rw [hName, List.cons_append] at hClosing
            obtain rfl : c = '/' := (List.cons.inj (List.cons.inj hClosing).2).1
            have hPlain := hTag.2 '/' (hName ▸ List.mem_cons_self)
            exact absurd hPlain (by decide)

/-- After a text come an element or the end of the nodes. -/
theorem stopsAt_writeAll {node : Node} (hText : node.tag? = none) {others : List Node}
    (hApart : node.ApartFrom others) {rest : List Char} (hRest : EndsChildren rest) :
    StopsAt isTextChar (writeAll .entities others ++ rest) := by
  cases others with
  | nil => exact hRest.stopsAt
  | cons next more =>
      rw [writeAll, List.append_assoc]
      exact stopsAt_write (hApart hText next rfl) _

/-! ## Trees are read back -/

mutual

/-- A node is read back, whatever follows it; after a text no further text may
follow. -/
theorem write_inj (node other : Node) {rest last : List Char} (hNode : node.Normal)
    (hOther : other.Normal) (hRest : node.tag? = none → StopsAt isTextChar rest)
    (hLast : other.tag? = none → StopsAt isTextChar last)
    (h : node.write .entities ++ rest = other.write .entities ++ last) :
    node = other ∧ rest = last := by
  cases node with
  | text content =>
      cases other with
      | text otherContent =>
          obtain ⟨hText, hSame⟩ := eq_of_append_of_stop isTextChar_of_mem_escapeText
            isTextChar_of_mem_escapeText (hRest rfl) (hLast rfl) h
          have hContent := String.toList_inj.mp (escapeText_injective hText)
          exact ⟨by rw [hContent], hSame⟩
      | element tag attributes children =>
          have hElement : (Node.element tag attributes children).tag? ≠ none := nofun
          have hStop := stopsAt_write hElement last
          rw [← h] at hStop
          exact absurd hStop (not_stopsAt_write_text hNode rest)
  | element tag attributes children =>
      cases other with
      | text content =>
          have hElement : (Node.element tag attributes children).tag? ≠ none := nofun
          have hStop := stopsAt_write hElement rest
          rw [h] at hStop
          exact absurd hStop (not_stopsAt_write_text hOther last)
      | element otherTag otherAttributes others =>
          obtain ⟨hTag, hNames, hRaw, hVoid, hChildren⟩ := hNode
          obtain ⟨hOtherTag, hOtherNames, -, hOtherVoid, hOthers⟩ := hOther
          rw [Node.write, Node.write, List.append_assoc, List.append_assoc] at h
          obtain ⟨rfl, rfl, hInner⟩ := openingTag_inj hTag hOtherTag hNames hOtherNames h
          have hMode : TextMode.inside tag = .entities := by
            rw [TextMode.inside, hRaw]
            rfl
          rw [hMode] at hInner
          cases hIsVoid : isVoid tag with
          | true =>
              rw [if_pos hIsVoid, if_pos hIsVoid] at hInner
              rw [hVoid hIsVoid, hOtherVoid hIsVoid]
              exact ⟨rfl, hInner⟩
          | false =>
              have hNot : ¬ isVoid tag = true := by simp [hIsVoid]
              rw [if_neg hNot, if_neg hNot, List.append_assoc, List.append_assoc] at hInner
              obtain ⟨rfl, hClosing⟩ := writeAll_inj children others hChildren hOthers
                (endsChildren_closingTag tag rest) (endsChildren_closingTag tag last) hInner
              exact ⟨rfl, List.append_cancel_left hClosing⟩

/-- Nodes are read back up to the end of the element around them. -/
theorem writeAll_inj (nodes others : List Node) {rest last : List Char}
    (hNodes : AllNormal nodes) (hOthers : AllNormal others) (hRest : EndsChildren rest)
    (hLast : EndsChildren last)
    (h : writeAll .entities nodes ++ rest = writeAll .entities others ++ last) :
    nodes = others ∧ rest = last := by
  cases nodes with
  | nil =>
      cases others with
      | nil => exact ⟨rfl, h⟩
      | cons other moreOthers =>
          rw [writeAll, writeAll, List.nil_append, List.append_assoc] at h
          rw [h] at hRest
          exact absurd hRest (not_endsChildren_write hOthers.1 _)
  | cons node more =>
      cases others with
      | nil =>
          rw [writeAll, writeAll, List.nil_append, List.append_assoc] at h
          rw [← h] at hLast
          exact absurd hLast (not_endsChildren_write hNodes.1 _)
      | cons other moreOthers =>
          obtain ⟨hNode, hApart, hMore⟩ := hNodes
          obtain ⟨hOther, hOtherApart, hMoreOthers⟩ := hOthers
          rw [writeAll, writeAll, List.append_assoc, List.append_assoc] at h
          obtain ⟨rfl, hSame⟩ := write_inj node other hNode hOther
            (fun hText => stopsAt_writeAll hText hApart hRest)
            (fun hText => stopsAt_writeAll hText hOtherApart hLast) h
          obtain ⟨rfl, hEnd⟩ := writeAll_inj more moreOthers hMore hMoreOthers hRest hLast hSame
          exact ⟨rfl, hEnd⟩

end

/-- Trees in normal form with the same HTML text are the same. -/
theorem html_injective {nodes others : List Node} (hNodes : AllNormal nodes)
    (hOthers : AllNormal others) (h : html nodes = html others) : nodes = others := by
  have hChars : writeAll .entities nodes ++ [] = writeAll .entities others ++ [] := by
    rw [List.append_nil, List.append_nil]
    exact String.ofList_inj.mp h
  exact (writeAll_inj nodes others hNodes hOthers (Or.inl rfl) (Or.inl rfl) hChars).1

/-- A paragraph with these attributes, a text and a void element. -/
def sampleParagraph (attributes : List (String × String)) : List Node :=
  [.element "p" (.ofList attributes) [.text "1 < 2", .element "br" .empty [], .text "\"&lt;\""]]

/-- A class that was given twice and one that was given once are the same, and the
text shows it. -/
theorem html_injective_sampleParagraph :
    AllNormal (sampleParagraph [("class", "a"), ("title", ">"), ("class", "b c")]) ∧
      AllNormal (sampleParagraph [("class", "b c"), ("title", ">")]) ∧
      html (sampleParagraph [("class", "a"), ("title", ">"), ("class", "b c")]) =
        html (sampleParagraph [("class", "b c"), ("title", ">")]) ∧
      sampleParagraph [("class", "a"), ("title", ">"), ("class", "b c")] =
        sampleParagraph [("class", "b c"), ("title", ">")] := by
  have hTwice : AllNormal (sampleParagraph [("class", "a"), ("title", ">"), ("class", "b c")]) := by
    simp only [sampleParagraph, AllNormal, Node.Normal, Node.ApartFrom]
    decide
  have hOnce : AllNormal (sampleParagraph [("class", "b c"), ("title", ">")]) := by
    simp only [sampleParagraph, AllNormal, Node.Normal, Node.ApartFrom]
    decide
  have hSame : html (sampleParagraph [("class", "a"), ("title", ">"), ("class", "b c")]) =
      html (sampleParagraph [("class", "b c"), ("title", ">")]) := by decide
  exact ⟨hTwice, hOnce, hSame, html_injective hTwice hOnce hSame⟩

/-- Two texts side by side look like one. -/
example : html [.text "a", .text "b"] = html [.text "ab"] := by decide

/-- An attribute with an equals sign in its name can look like two. -/
example : html [.element "p" (.ofList [("a=\"\" b", "")]) []] =
    html [.element "p" (.ofList [("a", ""), ("b", "")]) []] := by decide

end SlotGrid.Markup
