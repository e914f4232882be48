import SlotGrid.Markup.Html

/-!
# Cutting tags out of a text

A reader of HTML text that knows nothing of trees finds tags by their brackets:
a tag is what stands from a `<` to the next `>`. This module defines that reader
and shows what it finds in the text of a tree. As long as the names in the tree
hold no brackets and no text is raw, it finds the tags of the tree, in document
order, and between them the texts, still escaped: no text and no value opens or
closes anything.

## Main definitions

* `TagCut`, `cutTags` — the spans from a `<` to the next `>`, and what stands
  outside of them.
* `Node.tags`, `tagsOf` — the tags of a tree as they are written.
* `Node.Plain`, `AllPlain` — trees whose names hold no brackets and whose texts
  are not raw.

## Main results

* `cutTags_text`, `cutTags_tag` — what the reader makes of a text without an
  opening bracket, and of one tag.
* `cutTags_writeAll` — what the reader makes of the text of a tree.
-/

namespace SlotGrid.Markup

/-! ## The reader -/

/-- A text, cut into the spans from a `<` to the next `>` and the characters
outside of them. -/
structure TagCut where
  spans : List (List Char)
  outside : List Char
  deriving DecidableEq, Repr

/-- Cuts a text. Inside of a span, its characters so far come along, the last one
first; a span that does not end is none. -/
def cutFrom : Option (List Char) → List Char → TagCut
  | none, [] => ⟨[], []⟩
  | some span, [] => ⟨[], span.reverse⟩
  | none, c :: rest =>
    if c = '<' then cutFrom (some ['<']) rest
    else ⟨(cutFrom none rest).spans, c :: (cutFrom none rest).outside⟩
  | some span, c :: rest =>
    if c = '>' then
      ⟨(c :: span).reverse :: (cutFrom none rest).spans, (cutFrom none rest).outside⟩
    else cutFrom (some (c :: span)) rest

/-- Cuts a text at its tags. -/
def cutTags (text : List Char) : TagCut := cutFrom none text

/-- An attribute value with brackets in it would end the tag too early. -/
example : cutTags "a<b c>d</b>".toList = ⟨["<b c>".toList, "</b>".toList], "ad".toList⟩ := by
  decide

theorem cutTags_text {text : List Char} (h : '<' ∉ text) (rest : List Char) :
    cutTags (text ++ rest) = ⟨(cutTags rest).spans, text ++ (cutTags rest).outside⟩ := by
  induction text with
  | nil => rfl
  | cons c text ih =>
      have hc : c ≠ '<' := fun hSame => h (hSame ▸ List.mem_cons_self)
      have hText : '<' ∉ text := fun hMem => h (List.mem_cons_of_mem c hMem)
      have hRest := ih hText
      rw [cutTags] at hRest
      rw [List.cons_append, cutTags, cutFrom, if_neg hc, hRest]
      rfl

private theorem cutFrom_some {inner : List Char} (h : '>' ∉ inner) (span rest : List Char) :
    cutFrom (some span) (inner ++ '>' :: rest) =
      ⟨(span.reverse ++ inner ++ ['>']) :: (cutTags rest).spans, (cutTags rest).outside⟩ := by
  induction inner generalizing span with
  | nil =>
      rw [List.nil_append, cutFrom, if_pos rfl]
      simp [cutTags]
  | cons c inner ih =>
      have hc : c ≠ '>' := fun hSame => h (hSame ▸ List.mem_cons_self)
      have hInner : '>' ∉ inner := fun hMem => h (List.mem_cons_of_mem c hMem)
      rw [List.cons_append, cutFrom, if_neg hc, ih hInner]
      simp

theorem cutTags_tag {inner : List Char} (h : '>' ∉ inner) (rest : List Char) :
    cutTags ('<' :: inner ++ ['>'] ++ rest) =
      ⟨('<' :: inner ++ ['>']) :: (cutTags rest).spans, (cutTags rest).outside⟩ := by
  rw [cutTags, List.cons_append, List.cons_append, List.append_assoc, cutFrom, if_pos rfl,
    List.singleton_append, cutFrom_some h]
  rfl

/-! ## Escaped characters are no brackets -/

/-- Whether a list of characters holds no bracket of a tag. -/
def BracketFree (text : List Char) : Prop := '<' ∉ text ∧ '>' ∉ text

instance (text : List Char) : Decidable (BracketFree text) := inferInstanceAs (Decidable (_ ∧ _))

theorem BracketFree.append {text other : List Char} (h : BracketFree text)
    (hOther : BracketFree other) : BracketFree (text ++ other) := by
  refine ⟨?_, ?_⟩
  · rw [List.mem_append]
    exact fun hMem => hMem.elim h.1 hOther.1
  · rw [List.mem_append]
    exact fun hMem => hMem.elim h.2 hOther.2

theorem BracketFree.flatMap {α : Type} {list : List α} {write : α → List Char}
    (h : ∀ item ∈ list, BracketFree (write item)) : BracketFree (list.flatMap write) := by
  induction list with
  | nil => exact ⟨List.not_mem_nil, List.not_mem_nil⟩
  | cons item rest ih =>
      rw [List.flatMap_cons]
      exact (h item List.mem_cons_self).append
        (ih fun other hOther => h other (List.mem_cons_of_mem item hOther))

theorem bracketFree_textEntity (c : Char) : BracketFree (textEntity c) := by
  unfold textEntity
  by_cases hOpen : c = '<'
  · rw [if_pos hOpen]
    decide
  · rw [if_neg hOpen]
    by_cases hClose : c = '>'
    · rw [if_pos hClose]
      decide
    · rw [if_neg hClose]
      by_cases hAmp : c = '&'
      · rw [if_pos hAmp]
        decide
      · rw [if_neg hAmp]
        simpa [BracketFree, eq_comm] using And.intro hOpen hClose

theorem bracketFree_valueEntity (c : Char) : BracketFree (valueEntity c) := by
  unfold valueEntity
  by_cases hQuote : c = '"'
  · rw [if_pos hQuote]
    decide
  · rw [if_neg hQuote]
    exact bracketFree_textEntity c

theorem escapeText_append (text other : List Char) :
    escapeText (text ++ other) = escapeText text ++ escapeText other :=
  List.flatMap_append

theorem bracketFree_escapeText (text : List Char) : BracketFree (escapeText text) :=
  BracketFree.flatMap fun c _ => bracketFree_textEntity c

theorem bracketFree_escapeValue (value : List Char) : BracketFree (escapeValue value) :=
  BracketFree.flatMap fun c _ => bracketFree_valueEntity c

/-- Whatever the value, an attribute whose name holds no bracket holds none. -/
theorem bracketFree_attributeChars {entry : String × String}
    (h : BracketFree entry.1.toList) : BracketFree (attributeChars entry) := by
  have hSpace : BracketFree [' '] := by decide
  have hEquals : BracketFree ['=', '"'] := by decide
  have hQuote : BracketFree ['"'] := by decide
  have hParts := ((hSpace.append h).append hEquals).append
    ((bracketFree_escapeValue entry.2.toList).append hQuote)
  simpa [attributeChars] using hParts

/-! ## The tags of a tree -/

mutual

/-- The tags of a node as they are written, in document order. -/
def Node.tags : Node → List (List Char)
  | .text _ => []
  | .element tag attributes children =>
    openingTag tag attributes ::
      if isVoid tag then [] else tagsOf children ++ [closingTag tag]

/-- The tags of a list of nodes as they are written, in document order. -/
def tagsOf : List Node → List (List Char)
  | [] => []
  | node :: rest => node.tags ++ tagsOf rest

end

mutual

/-- Whether the names in a node hold no brackets, none of its texts is raw, and
its void elements are empty. Texts and values may hold anything. -/
def Node.Plain : Node → Prop
  | .text _ => True
  | .element tag attributes children =>
    BracketFree tag.toList ∧ (∀ entry ∈ attributes.entries, BracketFree entry.1.toList) ∧
      rawTextTags.contains tag = false ∧ (isVoid tag = true → children = []) ∧ AllPlain children

/-- Whether every node of a list is plain. -/
def AllPlain : List Node → Prop
  | [] => True
  | node :: rest => node.Plain ∧ AllPlain rest

end

theorem cutTags_openingTag {tag : String} {attributes : Attributes}
    (hTag : BracketFree tag.toList)
    (hNames : ∀ entry ∈ attributes.entries, BracketFree entry.1.toList) (rest : List Char) :
    cutTags (openingTag tag attributes ++ rest) =
      ⟨openingTag tag attributes :: (cutTags rest).spans, (cutTags rest).outside⟩ := by
  have hInner : BracketFree (tag.toList ++ attributes.entries.flatMap attributeChars) :=
    hTag.append (BracketFree.flatMap fun entry hEntry =>
      bracketFree_attributeChars (hNames entry hEntry))
  exact cutTags_tag hInner.2 rest

theorem cutTags_closingTag {tag : String} (hTag : BracketFree tag.toList) (rest : List Char) :
    cutTags (closingTag tag ++ rest) =
      ⟨closingTag tag :: (cutTags rest).spans, (cutTags rest).outside⟩ := by
  have hSlash : BracketFree ['/'] := by decide
  exact cutTags_tag (hSlash.append hTag).2 rest

mutual

/-- The reader finds the tags of a node, and its texts between them. -/
theorem cutTags_write (node : Node) (h : node.Plain) (rest : List Char) :
    cutTags (node.write .entities ++ rest) =
      ⟨node.tags ++ (cutTags rest).spans,
        escapeText node.textContent.toList ++ (cutTags rest).outside⟩ := by
  cases node with
  | text content => exact cutTags_text (bracketFree_escapeText content.toList).1 rest
  | element tag attributes children =>
      obtain ⟨hTag, hNames, hRaw, hVoid, hChildren⟩ := h
      have hMode : TextMode.inside tag = .entities := by
        rw [TextMode.inside, hRaw]
        rfl
      rw [Node.write, Node.tags, Node.textContent, List.append_assoc,
        cutTags_openingTag hTag hNames, hMode]
      cases hIsVoid : isVoid tag with
      | true =>
          rw [hVoid hIsVoid]
          rfl
      | false =>
          have hInner := cutTags_writeAll children hChildren (closingTag tag ++ rest)
          simp only [Bool.false_eq_true, if_false, List.append_assoc, hInner,
            cutTags_closingTag hTag, List.cons_append, List.nil_append]

/-- The reader finds the tags of a list of nodes, and its texts between them. -/
theorem cutTags_writeAll (nodes : List Node) (h : AllPlain nodes) (rest : List Char) :
    cutTags (writeAll .entities nodes ++ rest) =
      ⟨tagsOf nodes ++ (cutTags rest).spans,
        escapeText (textContents nodes).toList ++ (cutTags rest).outside⟩ := by
  cases nodes with
  | nil => rfl
  | cons node others =>
      rw [writeAll, tagsOf, textContents, List.append_assoc, cutTags_write node h.1,
        cutTags_writeAll others h.2, String.toList_append, escapeText_append]
      simp only [List.append_assoc]

end

end SlotGrid.Markup
