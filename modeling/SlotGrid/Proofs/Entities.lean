import SlotGrid.Proofs.TagCut

/-!
# Reading entities back

A text holds entities where its characters could be taken for markup, and a
value holds them where a character could end it. This module reads them back.
Reading is one pass from left to right: what an entity stands for is not looked
at again, so that a text which shows an entity itself comes back as it was.

Together with the reader that cuts tags this takes the HTML text of a tree apart
without loss: the tags of the tree on one side, its text on the other.

## Main definitions

* `decodeText` — the characters that a text with entities stands for.

## Main results

* `decodeText_escapeText` — every text comes back.
* `escapeText_injective`, `escapeValue_injective` — different texts and different
  values are written differently.
* `cutTags_html` — the tags of a tree and its text can be told apart in its HTML
  text.
-/

namespace SlotGrid.Markup

/-! ## Texts -/

/-- Reads a text in which entities stand for brackets and ampersands. An
ampersand that begins no such entity stands for itself. -/
def decodeText : List Char → List Char
  | '&' :: 'l' :: 't' :: ';' :: rest => '<' :: decodeText rest
  | '&' :: 'g' :: 't' :: ';' :: rest => '>' :: decodeText rest
  | '&' :: 'a' :: 'm' :: 'p' :: ';' :: rest => '&' :: decodeText rest
  | c :: rest => c :: decodeText rest
  | [] => []

/-- The ampersand of `&amp;` does not make an entity of what follows it. -/
example : decodeText "&amp;lt; &lt;&quot;".toList = "&lt; <&quot;".toList := by decide

theorem decodeText_cons {c : Char} (h : c ≠ '&') (rest : List Char) :
    decodeText (c :: rest) = c :: decodeText rest := by
  rw [decodeText]
  · rintro _ rfl
    exact absurd rfl h
  · rintro _ rfl
    exact absurd rfl h
  · rintro _ rfl
    exact absurd rfl h

/-- A character is written as one of three entities, or as it is when it has
none. -/
theorem textEntity_cases (c : Char) :
    (c = '<' ∧ textEntity c = "&lt;".toList) ∨ (c = '>' ∧ textEntity c = "&gt;".toList) ∨
      (c = '&' ∧ textEntity c = "&amp;".toList) ∨ (c ≠ '&' ∧ textEntity c = [c]) := by
  unfold textEntity
  by_cases hOpen : c = '<'
  · exact Or.inl ⟨hOpen, if_pos hOpen⟩
  · rw [if_neg hOpen]
    by_cases hClose : c = '>'
    · exact Or.inr (Or.inl ⟨hClose, if_pos hClose⟩)
    · rw [if_neg hClose]
      by_cases hAmp : c = '&'
      · exact Or.inr (Or.inr (Or.inl ⟨hAmp, if_pos hAmp⟩))
      · exact Or.inr (Or.inr (Or.inr ⟨hAmp, if_neg hAmp⟩))

/-- One character is read back, whatever follows it. -/
theorem decodeText_textEntity_append (c : Char) (rest : List Char) :
    decodeText (textEntity c ++ rest) = c :: decodeText rest := by
  rcases textEntity_cases c with ⟨rfl, hText⟩ | ⟨rfl, hText⟩ | ⟨rfl, hText⟩ | ⟨hAmp, hText⟩
  · rfl
  · rfl
  · rfl
  · rw [hText, List.singleton_append, decodeText_cons hAmp]

theorem decodeText_escapeText (text : List Char) : decodeText (escapeText text) = text := by
  induction text with
  | nil => rfl
  | cons c rest ih =>
      show decodeText (textEntity c ++ escapeText rest) = c :: rest
      rw [decodeText_textEntity_append, ih]

theorem escapeText_injective : Function.Injective escapeText :=
  Function.LeftInverse.injective decodeText_escapeText

/-! ## Values -/

/-- A quote is written unlike every other character. -/
private theorem quote_ne_textEntity (c : Char) (rest last : List Char) :
    "&quot;".toList ++ rest ≠ textEntity c ++ last := by
  intro hSame
  have hRead : '&' :: decodeText ("quot;".toList ++ rest) = c :: decodeText last := by
    calc '&' :: decodeText ("quot;".toList ++ rest)
        = decodeText ("&quot;".toList ++ rest) := rfl
      _ = c :: decodeText last := by rw [hSame, decodeText_textEntity_append]
  obtain ⟨rfl, -⟩ := List.cons.inj hRead
  -- Both begin with an ampersand, but the second characters differ.
  have hChars : '&' :: 'q' :: ("uot;".toList ++ rest) = '&' :: 'a' :: ("mp;".toList ++ last) :=
    hSame
  have hSecond : 'q' = 'a' := (List.cons.inj (List.cons.inj hChars).2).1
  exact absurd hSecond (by decide)

/-- What a value begins with can be told from the beginning of its written form. -/
theorem eq_of_valueEntity_append {c d : Char} {rest last : List Char}
    (h : valueEntity c ++ rest = valueEntity d ++ last) : c = d := by
  unfold valueEntity at h
  by_cases hQuote : c = '"'
  · by_cases hOther : d = '"'
    · rw [hQuote, hOther]
    · rw [if_pos hQuote, if_neg hOther] at h
      exact absurd h (quote_ne_textEntity d rest last)
  · rw [if_neg hQuote] at h
    by_cases hOther : d = '"'
    · rw [if_pos hOther] at h
      exact absurd h.symm (quote_ne_textEntity c last rest)
    · rw [if_neg hOther] at h
      have hRead := congrArg decodeText h
      rw [decodeText_textEntity_append, decodeText_textEntity_append] at hRead
      exact (List.cons.inj hRead).1

private theorem valueEntity_ne_nil (c : Char) : valueEntity c ≠ [] := by
  intro hEmpty
  unfold valueEntity at hEmpty
  by_cases hQuote : c = '"'
  · rw [if_pos hQuote] at hEmpty
    exact absurd hEmpty (by decide)
  · rw [if_neg hQuote] at hEmpty
    have hRead := decodeText_textEntity_append c []
    rw [hEmpty] at hRead
    exact List.cons_ne_nil _ _ hRead.symm

theorem eq_nil_of_escapeValue {value : List Char} (h : escapeValue value = []) : value = [] := by
  cases value with
  | nil => rfl
  | cons c rest =>
      have hEmpty : valueEntity c ++ escapeValue rest = [] := h
      exact absurd (List.append_eq_nil_iff.mp hEmpty).1 (valueEntity_ne_nil c)

theorem escapeValue_injective : Function.Injective escapeValue := by
  intro value other h
  induction value generalizing other with
  | nil => exact (eq_nil_of_escapeValue h.symm).symm
  | cons c rest ih =>
      cases other with
      | nil => exact eq_nil_of_escapeValue h
      | cons d others =>
          have hSame : valueEntity c ++ escapeValue rest = valueEntity d ++ escapeValue others := h
          obtain rfl := eq_of_valueEntity_append hSame
          rw [ih (List.append_cancel_left hSame)]

/-! ## Tags and text of a tree -/

/-- No text and no value opens or closes an element: in the HTML text of a plain
tree, what stands between brackets are the tags of the tree, and what stands
outside of them reads as the text of the tree. -/
theorem cutTags_html {nodes : List Node} (h : AllPlain nodes) :
    (cutTags (html nodes).toList).spans = tagsOf nodes ∧
      decodeText (cutTags (html nodes).toList).outside = (textContents nodes).toList := by
  have hCut := cutTags_writeAll nodes h []
  rw [List.append_nil] at hCut
  rw [html, String.toList_ofList, hCut]
  refine ⟨?_, ?_⟩
  · show tagsOf nodes ++ (cutTags []).spans = tagsOf nodes
    exact List.append_nil _
  · show decodeText (escapeText (textContents nodes).toList ++ []) = (textContents nodes).toList
    rw [List.append_nil, decodeText_escapeText]

/-- A title and texts that look like tags and entities, around a void element. -/
def lookalikes : List Node :=
  [.element "p" (.ofList [("title", "</p>\"&gt;")]) [.text "1 <", .element "br" .empty [],
    .text "b>&lt;</p>"], .text "&"]

theorem cutTags_html_lookalikes :
    AllPlain lookalikes ∧
      (cutTags (html lookalikes).toList).spans =
        ["<p title=\"&lt;/p&gt;&quot;&amp;gt;\">".toList, "<br>".toList, "</p>".toList] ∧
      decodeText (cutTags (html lookalikes).toList).outside = "1 <b>&lt;</p>&".toList := by
  have hPlain : AllPlain lookalikes := by
    simp only [lookalikes, AllPlain, Node.Plain]
    decide
  refine ⟨hPlain, (cutTags_html hPlain).1.trans ?_, (cutTags_html hPlain).2.trans ?_⟩
  · decide
  · decide

end SlotGrid.Markup
