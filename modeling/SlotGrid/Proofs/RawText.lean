import SlotGrid.Proofs.PageTags

/-!
# Raw text that is written in parts

A style sheet or a script holds raw text, in which an opener of a closing tag is
broken up. That is done in each text on its own, so it does not reach an opener
whose two characters stand in different texts: one text ends with `<`, and what
follows it starts with `/`. There the element is closed by its own text. This
module shows that nothing else closes it; an element with one text, such as the
style element of a component, is safe.

## Main definitions

* `rawTexts` — the raw text of texts one behind the other.
* `IsInner` — what stands between the two tags of an element.
* `MeetInCloser` — texts that meet in an opener of a closing tag.

## Main results

* `closer_infix_append` — where an opener can stand in two texts.
* `closer_infix_rawTexts_iff` — raw texts hold an opener exactly if they meet in one.
* `closer_infix_inner_iff` — so does what stands between the tags of an element.
* `exists_closer_infix_inner` — a style sheet that is closed by its own texts.
-/

namespace SlotGrid.Markup

/-! ## Openers across a seam -/

/-- An opener that is in neither of two texts has one character in each. -/
theorem closer_infix_append (text other : List Char) :
    closer <:+: text ++ other ↔ closer <:+: text ∨ closer <:+: other ∨
      (text.getLast? = some '<' ∧ other.head? = some '/') := by
  induction text with
  | nil => simp [closer]
  | cons c rest ih =>
      rw [List.cons_append, closer_infix_cons, ih, closer_infix_cons]
      cases rest with
      | nil =>
          have hNone : ¬ closer <:+: ([] : List Char) := by simp [closer]
          simp only [List.nil_append, List.head?_nil, List.getLast?_nil, List.getLast?_singleton,
            Option.some.injEq, reduceCtorEq, hNone, and_false, false_and, false_or, or_false]
          exact or_comm
      | cons d more =>
          rw [List.cons_append, List.head?_cons, List.head?_cons, List.getLast?_cons_cons, or_assoc]

/-- The backslash is put between two characters, so the last one stays. -/
theorem getLast?_escapeRaw (text : List Char) : (escapeRaw text).getLast? = text.getLast? := by
  induction text using escapeRaw.induct with
  | case1 rest ih => simp [escapeRaw, List.getLast?_cons, ih]
  | case2 c rest hNoCloser ih =>
      rw [escapeRaw, List.getLast?_cons, List.getLast?_cons, ih]
      exact hNoCloser
  | case3 => rfl

/-! ## Several texts -/

/-- The raw text of texts one behind the other. -/
def rawTexts (texts : List String) : List Char :=
  texts.flatMap fun text => escapeRaw text.toList

theorem rawTexts_cons (text : String) (rest : List String) :
    rawTexts (text :: rest) = escapeRaw text.toList ++ rawTexts rest :=
  List.flatMap_cons

theorem rawTexts_append (texts others : List String) :
    rawTexts (texts ++ others) = rawTexts texts ++ rawTexts others :=
  List.flatMap_append

theorem head?_rawTexts (texts : List String) :
    (rawTexts texts).head? = (texts.flatMap String.toList).head? := by
  induction texts with
  | nil => rfl
  | cons text rest ih =>
      rw [rawTexts_cons, List.flatMap_cons, List.head?_append, List.head?_append,
        head?_escapeRaw, ih]

theorem getLast?_rawTexts (texts : List String) :
    (rawTexts texts).getLast? = (texts.flatMap String.toList).getLast? := by
  induction texts with
  | nil => rfl
  | cons text rest ih =>
      rw [rawTexts_cons, List.flatMap_cons, List.getLast?_append, List.getLast?_append,
        getLast?_escapeRaw, ih]

/-- Whether texts can be divided in two so that what stands before ends with `<`
and what stands behind starts with `/`. -/
def MeetInCloser (texts : List String) : Prop :=
  ∃ before after : List String, texts = before ++ after ∧
    (before.flatMap String.toList).getLast? = some '<' ∧
    (after.flatMap String.toList).head? = some '/'

theorem MeetInCloser.cons {texts : List String} (h : MeetInCloser texts) (text : String) :
    MeetInCloser (text :: texts) := by
  obtain ⟨before, after, hTexts, hLast, hHead⟩ := h
  refine ⟨text :: before, after, ?_, ?_, hHead⟩
  · rw [hTexts, List.cons_append]
  · rw [List.flatMap_cons, List.getLast?_append, hLast, Option.some_or]

theorem closer_infix_rawTexts_iff (texts : List String) :
    closer <:+: rawTexts texts ↔ MeetInCloser texts := by
  constructor
  · intro hCloser
    induction texts with
    | nil => simp [rawTexts, closer] at hCloser
    | cons text rest ih =>
        rw [rawTexts_cons, closer_infix_append] at hCloser
        rcases hCloser with hText | hRest | ⟨hLast, hHead⟩
        · exact absurd hText (no_closer_escapeRaw text.toList)
        · exact (ih hRest).cons text
        · refine ⟨[text], rest, rfl, ?_, ?_⟩
          · rw [List.flatMap_singleton, ← getLast?_escapeRaw]
            exact hLast
          · rw [← head?_rawTexts]
            exact hHead
  · intro hMeet
    obtain ⟨before, after, hTexts, hLast, hHead⟩ := hMeet
    rw [hTexts, rawTexts_append, closer_infix_append, getLast?_rawTexts, head?_rawTexts]
    exact Or.inr (Or.inr ⟨hLast, hHead⟩)

/-- A text does not meet itself. -/
theorem not_meetInCloser_of_length_le_one {texts : List String} (h : texts.length ≤ 1) :
    ¬ MeetInCloser texts := by
  rw [← closer_infix_rawTexts_iff]
  match texts with
  | [] => simp [rawTexts, closer]
  | [text] =>
      rw [rawTexts, List.flatMap_singleton]
      exact no_closer_escapeRaw text.toList
  | _ :: _ :: rest => simp at h

/-! ## Elements -/

/-- Whether some characters stand between the two tags of an element in its HTML
text. -/
def IsInner (tag : String) (attributes : Attributes) (children : List Node)
    (inner : List Char) : Prop :=
  (Node.element tag attributes children).html =
    String.ofList (openingTag tag attributes ++ inner ++ closingTag tag)

theorem IsInner.unique {tag : String} {attributes : Attributes} {children : List Node}
    {inner other : List Char} (h : IsInner tag attributes children inner)
    (hOther : IsInner tag attributes children other) : inner = other := by
  have hChars := String.ofList_inj.mp (h.symm.trans hOther)
  exact List.append_cancel_left (List.append_cancel_right hChars)

theorem writeAll_raw_texts (texts : List String) :
    writeAll .raw (texts.map Node.text) = rawTexts texts := by
  induction texts with
  | nil => rfl
  | cons text rest ih =>
      rw [List.map_cons, writeAll, ih, rawTexts_cons]
      rfl

theorem not_isVoid_of_rawText : ∀ tag ∈ rawTextTags, isVoid tag = false := by decide

theorem isInner_rawTexts {tag : String} (hTag : tag ∈ rawTextTags) (attributes : Attributes)
    (texts : List String) : IsInner tag attributes (texts.map Node.text) (rawTexts texts) := by
  have hVoid : isVoid tag = false := not_isVoid_of_rawText tag hTag
  have hMode : TextMode.inside tag = .raw := if_pos (List.contains_iff_mem.mpr hTag)
  rw [IsInner, Node.html, Node.write, hVoid, hMode, writeAll_raw_texts, List.append_assoc]
  rfl

/-- What stands between the tags of a style sheet or a script holds an opener of a
closing tag exactly if two of its texts meet in one. A single text is safe. -/
theorem closer_infix_inner_iff {tag : String} (hTag : tag ∈ rawTextTags)
    (attributes : Attributes) (texts : List String) :
    (∃ inner, IsInner tag attributes (texts.map Node.text) inner) ∧
      ∀ inner, IsInner tag attributes (texts.map Node.text) inner →
        (closer <:+: inner ↔ MeetInCloser texts) ∧
          (texts.length ≤ 1 → ¬ closer <:+: inner) := by
  have hRaw := isInner_rawTexts hTag attributes texts
  refine ⟨⟨rawTexts texts, hRaw⟩, ?_⟩
  intro inner hInner
  rw [hInner.unique hRaw, closer_infix_rawTexts_iff]
  exact ⟨Iff.rfl, not_meetInCloser_of_length_le_one⟩

/-- Two texts that close the element around them. -/
def splitCloser : List String := ["<", "/style>"]

theorem closer_infix_inner_iff_splitCloser :
    "script" ∈ rawTextTags ∧
      ∀ inner, IsInner "script" .empty ((splitCloser ++ [""]).map Node.text) inner →
        closer <:+: inner := by
  have hTag : "script" ∈ rawTextTags := by decide
  refine ⟨hTag, ?_⟩
  intro inner hInner
  obtain ⟨-, hCloser⟩ := closer_infix_inner_iff hTag .empty (splitCloser ++ [""])
  apply (hCloser inner hInner).1.mpr
  exact ⟨["<"], ["/style>", ""], rfl, rfl, rfl⟩

/-- Raw text is not safe in every element: these two texts close a style sheet. -/
theorem exists_closer_infix_inner :
    ¬ ∀ (tag : String) (attributes : Attributes) (texts : List String) (inner : List Char),
      tag ∈ rawTextTags → IsInner tag attributes (texts.map Node.text) inner →
        ¬ closer <:+: inner := by
  intro hSafe
  have hTag : "style" ∈ rawTextTags := by decide
  have hInner := isInner_rawTexts hTag .empty splitCloser
  apply hSafe "style" .empty splitCloser (rawTexts splitCloser) hTag hInner
  exact ⟨[], "style>".toList, rfl⟩

end SlotGrid.Markup
