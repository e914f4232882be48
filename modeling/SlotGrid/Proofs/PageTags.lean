import SlotGrid.Component
import SlotGrid.Proofs.MarkupText

/-!
# Tags of a page

Texts of a configuration come to the page of a component by four routes: width
tokens and spacing inside the style sheet, two styles as attribute values. None
of them opens or closes an element. The style sheet ends at its own closing tag,
since it holds no opener of one, and a reader that cuts the rest at its brackets
finds tags that depend on the lengths of the rows and on the placeholders alone.

## Main definitions

* `Tag`, `tagSequence` — what a reader of HTML text takes for tags.
* `PageParts` — the style sheet of a page and what follows it.
* `warningTags`, `gridTags` — the tags of the warning and of a grid.
* `Config.Contained` — what it means that the texts of a configuration stay where
  they belong.

## Main results

* `no_closer_escapeRaw` — raw text holds no opener of a closing tag.
* `PageParts.unique` — a page has its two parts in one way only.
* `tagNames_layOutFrom` — the tags of the rows of a grid.
* `Config.contained` — the texts of every configuration stay where they belong.
-/

namespace SlotGrid

open Layout
open Markup

/-! ## Tags as a reader finds them -/

namespace Markup

/-- Whether a character can stand in the name of a tag. Blank characters and
slashes end a name, brackets end the tag. -/
def isNameChar (c : Char) : Bool :=
  !Text.isBlank c && c ≠ '/' && c ≠ '<' && c ≠ '>'

/-- What a reader knows of a tag: its name, and whether it opens or closes an
element. -/
inductive Tag where
  | opening (name : String)
  | closing (name : String)
  deriving DecidableEq, Repr

/-- The name at the beginning of some characters. -/
def leadingName (chars : List Char) : String := String.ofList (chars.takeWhile isNameChar)

/-- Reads a tag, brackets included. -/
def Tag.ofSpan : List Char → Tag
  | _ :: '/' :: rest => .closing (leadingName rest)
  | span => .opening (leadingName (span.drop 1))

/-- The tags that a reader of an HTML text finds, in order. -/
def tagSequence (text : String) : List Tag := (cutTags text.toList).spans.map Tag.ofSpan

example : tagSequence "a <b c=\"/\">&lt;i></b> d" = [.opening "b", .closing "b"] := by decide

/-- Whether a reader takes a text for the name of a tag as a whole. -/
def IsTagName (name : String) : Prop := name ≠ "" ∧ ∀ c ∈ name.toList, isNameChar c = true

instance (name : String) : Decidable (IsTagName name) :=
  @instDecidableAnd _ _ inferInstance (List.decidableBAll _ _)

/-- A name is read up to the first character that cannot stand in it. -/
theorem leadingName_append {name : String} (h : IsTagName name) {c : Char}
    (hEnd : isNameChar c = false) (rest : List Char) :
    leadingName (name.toList ++ c :: rest) = name := by
  rw [leadingName, List.takeWhile_append_of_pos h.2, List.takeWhile_cons_of_neg (by simp [hEnd]),
    List.append_nil, String.ofList_toList]

theorem ofSpan_openingTag {tag : String} (h : IsTagName tag) (attributes : Attributes) :
    Tag.ofSpan (openingTag tag attributes) = .opening tag := by
  -- The name is followed by the space of the first attribute or by the bracket.
  obtain ⟨c, rest, hEnd, hRest⟩ : ∃ c rest, isNameChar c = false ∧
      attributes.entries.flatMap attributeChars ++ ['>'] = c :: rest := by
    cases attributes.entries with
    | nil => exact ⟨'>', [], by decide, rfl⟩
    | cons entry others => exact ⟨' ', _, by decide, rfl⟩
  have hText : openingTag tag attributes = '<' :: (tag.toList ++ c :: rest) := by
    rw [← hRest, openingTag, List.cons_append, List.cons_append, List.append_assoc]
  have hSlash : ∀ others, tag.toList ++ c :: rest ≠ '/' :: others := by
    intro others hSame
    cases hName : tag.toList with
    | nil => exact h.1 (String.toList_eq_nil_iff.mp hName)
    | cons first more =>
        have hFirst : isNameChar first = true := h.2 first (hName ▸ List.mem_cons_self)
        rw [hName, List.cons_append, List.cons.injEq] at hSame
        rw [hSame.1] at hFirst
        exact absurd hFirst (by decide)
  rw [hText, Tag.ofSpan, List.drop_one, List.tail_cons, leadingName_append h hEnd]
  intro _ others hSame
  exact hSlash others (List.cons.inj hSame).2

theorem ofSpan_closingTag {tag : String} (h : IsTagName tag) :
    Tag.ofSpan (closingTag tag) = .closing tag := by
  have hName := leadingName_append h (show isNameChar '>' = false by decide) []
  rw [closingTag, List.cons_append, List.cons_append, Tag.ofSpan, hName]

/-! ## Tags of a tree -/

/-- The tags of a list of nodes as a reader finds them. -/
def tagNames (nodes : List Node) : List Tag := (tagsOf nodes).map Tag.ofSpan

theorem tagNames_cons (node : Node) (rest : List Node) :
    tagNames (node :: rest) = tagNames [node] ++ tagNames rest := by
  simp [tagNames, tagsOf]

theorem tagNames_eq_flatMap (nodes : List Node) :
    tagNames nodes = nodes.flatMap fun node => tagNames [node] := by
  induction nodes with
  | nil => rfl
  | cons node rest ih => rw [tagNames_cons, List.flatMap_cons, ← ih]

/-- Whether a tag is that of an element around nodes, which is neither void nor
raw. -/
def IsContainer (tag : String) : Prop :=
  IsTagName tag ∧ rawTextTags.contains tag = false ∧ isVoid tag = false

instance (tag : String) : Decidable (IsContainer tag) :=
  inferInstanceAs (Decidable (_ ∧ _ ∧ _))

theorem isContainer_div : IsContainer "div" := by decide

theorem isContainer_slot : IsContainer "slot" := by decide

theorem tagNames_element {tag : String} (h : IsContainer tag) (attributes : Attributes)
    (children : List Node) :
    tagNames [.element tag attributes children] =
      .opening tag :: tagNames children ++ [.closing tag] := by
  obtain ⟨hName, -, hVoid⟩ := h
  simp [tagNames, tagsOf, Node.tags, hVoid, ofSpan_openingTag hName, ofSpan_closingTag hName]

/-- A reader of the HTML text of a plain tree finds the tags of the tree. -/
theorem tagSequence_html {nodes : List Node} (h : AllPlain nodes) :
    tagSequence (html nodes) = tagNames nodes := by
  have hCut := cutTags_writeAll nodes h []
  rw [List.append_nil] at hCut
  rw [tagSequence, html, String.toList_ofList, hCut, tagNames]
  simp [cutTags, cutFrom]

end Markup

/-! ## Tags of a grid -/

namespace Layout

/-- The tags of a placeholder. -/
def placeholderTags : List Tag :=
  [.opening "i", .opening "br", .opening "code", .closing "code", .closing "i"]

/-- The tags of a cell; a bare one has no placeholder. -/
def cellTags (bare : Bool) : List Tag :=
  [.opening "div", .opening "slot"] ++ (if bare then [] else placeholderTags) ++
    [.closing "slot", .closing "div"]

/-- The tags of a row of so many cells. -/
def rowTags (bare : Bool) (length : Nat) : List Tag :=
  .opening "div" :: (List.replicate length (cellTags bare)).flatten ++ [.closing "div"]

/-- The tags of a grid with rows of these lengths. -/
def gridTags (bare : Bool) (lengths : List Nat) : List Tag := lengths.flatMap (rowTags bare)

theorem tagNames_placeholder (id : Nat) : tagNames [placeholder id] = placeholderTags := rfl

theorem tagNames_slot (style : CellStyle) (id : Nat) :
    tagNames [slot style id] =
      .opening "slot" :: (if style.bare then [] else placeholderTags) ++ [.closing "slot"] := by
  have hInner : tagNames (slotElement style id).children =
      if style.bare then [] else placeholderTags := by
    rw [children_slotElement]
    cases style.bare with
    | true => rfl
    | false => exact tagNames_placeholder id
  rw [← hInner]
  exact tagNames_element isContainer_slot _ _

theorem tagNames_cell (style : CellStyle) (id : Nat) :
    tagNames [cell style id] = cellTags style.bare := by
  calc tagNames [cell style id]
      = Tag.opening "div" :: tagNames [slot style id] ++ [Tag.closing "div"] :=
        tagNames_element isContainer_div _ _
    _ = cellTags style.bare := by simp [tagNames_slot, cellTags]

theorem tagNames_rowContainer (style : CellStyle) (index : Nat) (cells : List Node) :
    tagNames [rowContainer style index cells] =
      .opening "div" :: tagNames cells ++ [.closing "div"] :=
  tagNames_element isContainer_div _ _

/-- The tags of the rows depend on the lengths of the rows and on nothing else
that they hold. -/
theorem tagNames_layOutFrom (style : CellStyle) (index first : Nat) (rows : List Row) :
    tagNames (layOutFrom style index first rows).rows =
      gridTags style.bare (rows.map Row.length) := by
  rw [rows_layOutFrom]
  induction rows generalizing index first with
  | nil => rfl
  | cons row rest ih =>
      have hCells : tagNames ((List.range' first row.length).map (cell style)) =
          (List.replicate row.length (cellTags style.bare)).flatten := by
        rw [tagNames_eq_flatMap, List.flatMap_map]
        simp only [tagNames_cell]
        rw [List.flatMap_def, List.map_const', List.length_range']
      rw [containersFrom_cons, tagNames_cons, ih, tagNames_rowContainer, hCells]
      rfl

theorem tagNames_layOut (style : CellStyle) (specification : Specification) :
    tagNames (layOut style specification).rows =
      gridTags style.bare (specification.rows.map Row.length) :=
  tagNames_layOutFrom style 0 1 specification.rows

end Layout

/-! ## The style sheet and what follows it -/

namespace Markup

/-- The opener of a closing tag. -/
def closer : List Char := "</".toList

theorem closer_infix_cons (c : Char) (text : List Char) :
    closer <:+: c :: text ↔ (c = '<' ∧ text.head? = some '/') ∨ closer <:+: text := by
  have hPrefix : closer <+: c :: text ↔ c = '<' ∧ text.head? = some '/' := by
    rw [show closer = ['<', '/'] from rfl, List.cons_prefix_cons, eq_comm]
    cases text with
    | nil => simp
    | cons next rest => simp [eq_comm]
  rw [List.infix_cons_iff, hPrefix]

theorem head?_escapeRaw (text : List Char) : (escapeRaw text).head? = text.head? := by
  fun_cases escapeRaw text <;> rfl

/-- Raw text holds no opener of a closing tag, also where one was broken up. -/
theorem no_closer_escapeRaw (text : List Char) : ¬ closer <:+: escapeRaw text := by
  induction text using escapeRaw.induct with
  | case1 rest ih =>
      rw [escapeRaw, closer_infix_cons, closer_infix_cons, closer_infix_cons]
      simp [ih]
  | case2 c rest hNoCloser ih =>
      rw [escapeRaw, closer_infix_cons, head?_escapeRaw]
      · rintro (⟨rfl, hHead⟩ | hInfix)
        · obtain ⟨others, rfl⟩ := List.head?_eq_some_iff.mp hHead
          exact hNoCloser others rfl rfl
        · exact ih hInfix
      · exact hNoCloser
  | case3 => simp [escapeRaw, closer]

private theorem eq_nil_of_closer_append {text rest last : List Char}
    (hText : ¬ closer <:+: text) (h : closer ++ rest = text ++ (closer ++ last)) : text = [] := by
  match text with
  | [] => rfl
  | [c] => simp [closer] at h
  | first :: second :: more =>
      have hSame : closer = [first, second] := by
        rw [show closer = ['<', '/'] from rfl] at h ⊢
        simp only [List.cons_append, List.cons.injEq] at h
        rw [h.1, h.2.1]
      exact absurd ⟨[], more, by rw [hSame]; rfl⟩ hText

/-- A text can be cut before its first opener of a closing tag in one way only. -/
theorem eq_of_append_closer {text other rest last : List Char} (hText : ¬ closer <:+: text)
    (hOther : ¬ closer <:+: other)
    (h : text ++ (closer ++ rest) = other ++ (closer ++ last)) : text = other := by
  rcases List.append_eq_append_iff.mp h with ⟨more, rfl, hMore⟩ | ⟨more, rfl, hMore⟩
  · have hFree : ¬ closer <:+: more := fun hInfix =>
      hOther (hInfix.trans (List.suffix_append text more).isInfix)
    rw [eq_nil_of_closer_append hFree hMore, List.append_nil]
  · have hFree : ¬ closer <:+: more := fun hInfix =>
      hText (hInfix.trans (List.suffix_append other more).isInfix)
    rw [eq_nil_of_closer_append hFree hMore, List.append_nil]

end Markup

/-- The style sheet of a page, which holds no opener of a closing tag, and what
follows it. -/
structure PageParts (page sheet body : String) : Prop where
  page_eq : page = "<style>" ++ sheet ++ "</style>" ++ body
  no_closer : ¬ closer <:+: sheet.toList

/-- A page has its parts in one way only. -/
theorem PageParts.unique {page sheet body other last : String} (h : PageParts page sheet body)
    (hOther : PageParts page other last) : sheet = other ∧ body = last := by
  have hPage := h.page_eq.symm.trans hOther.page_eq
  have hChars : sheet.toList ++ (closer ++ ("style>".toList ++ body.toList)) =
      other.toList ++ (closer ++ ("style>".toList ++ last.toList)) := by
    have hLists := congrArg String.toList hPage
    simpa [closer] using hLists
  have hSheet : sheet = other :=
    String.toList_inj.mp (eq_of_append_closer h.no_closer hOther.no_closer hChars)
  subst hSheet
  refine ⟨rfl, ?_⟩
  simpa using hPage

/-- The style element of a page ends at its own closing tag. -/
theorem exists_pageParts (spacing : Style.Spacing) (rendered : Rendered) (nodes : List Node) :
    ∃ sheet, PageParts (html (styleElement spacing rendered :: nodes)) sheet (html nodes) := by
  obtain ⟨css, hElement⟩ : ∃ css : String,
      styleElement spacing rendered = .element "style" .empty [.text css] := ⟨_, rfl⟩
  refine ⟨String.ofList (escapeRaw css.toList), ?_, ?_⟩
  · have hChars : writeAll .entities (styleElement spacing rendered :: nodes) =
        "<style>".toList ++ escapeRaw css.toList ++ "</style>".toList ++
          writeAll .entities nodes := by
      rw [hElement, writeAll, Node.write, writeAll, writeAll, Node.write, List.append_nil]
      simp [openingTag, closingTag, isVoid, voidTags, Attributes.empty, TextMode.inside,
        rawTextTags, TextMode.write]
    rw [html, hChars, String.ofList_append, String.ofList_append, String.ofList_append]
    simp [html]
  · rw [String.toList_ofList]
    exact no_closer_escapeRaw css.toList

/-! ## Texts of a configuration -/

/-- The tags of the warning. -/
def warningTags : List Tag :=
  [.opening "i", .opening "p", .opening "b", .closing "b", .opening "code", .closing "code",
    .closing "p", .closing "i"]

theorem allPlain_warning : AllPlain [warning] := by
  simp [warning, Node.Plain, AllPlain, Attributes.empty]
  decide

theorem tagNames_warning : tagNames [warning] = warningTags := rfl

namespace Config

/-- The lengths of the rows that a configuration asks for. -/
def rowLengths (config : Config) : List Nat :=
  (Specification.parse config.dim).rows.map Row.length

/-- The style sheet of a page ends where it should, and in the rest of the page a
reader finds the tags of the warning, or those that rows of these lengths have:
no text of the configuration opens or closes an element. A grid without rows has
no tags, unlike the warning, so two configurations are compared only if both or
none of them show the warning. -/
structure Contained (config : Config) : Prop where
  parts : ∃ sheet body, PageParts (Component.new config).shadowHtml sheet body
  tags_warning : ∀ sheet body, PageParts (Component.new config).shadowHtml sheet body →
    config.dim = "" → tagSequence body = warningTags
  tags_grid : ∀ sheet body, PageParts (Component.new config).shadowHtml sheet body →
    config.dim ≠ "" → tagSequence body = gridTags config.noFillers config.rowLengths
  tags_eq : ∀ (other : Config) (sheet body otherSheet otherBody : String),
    PageParts (Component.new config).shadowHtml sheet body →
    PageParts (Component.new other).shadowHtml otherSheet otherBody →
    (config.dim = "" ↔ other.dim = "") → config.rowLengths = other.rowLengths →
    config.noFillers = other.noFillers → tagSequence body = tagSequence otherBody

/-- The tags that a configuration asks for. -/
def pageTags (config : Config) : List Tag :=
  if config.dim = "" then warningTags else gridTags config.noFillers config.rowLengths

theorem exists_pageParts_new (config : Config) :
    ∃ sheet body, PageParts (Component.new config).shadowHtml sheet body ∧
      tagSequence body = config.pageTags := by
  by_cases hDim : config.hasDim = true
  · have hTree := Component.shadowTree_new_of_hasDim hDim
    obtain ⟨sheet, hParts⟩ := exists_pageParts config.spacing (render config)
      (layOut config.look (Specification.parse config.dim)).rows
    rw [← hTree] at hParts
    refine ⟨sheet, _, hParts, ?_⟩
    rw [tagSequence_html (allNormal_layOut _ _).allPlain, tagNames_layOut, pageTags,
      if_neg (hasDim_iff.mp hDim)]
    rfl
  · have hTree := Component.shadowTree_new_of_not_hasDim hDim
    obtain ⟨sheet, hParts⟩ := exists_pageParts config.spacing (render config) [warning]
    rw [← hTree] at hParts
    refine ⟨sheet, _, hParts, ?_⟩
    rw [tagSequence_html allPlain_warning, pageTags, if_pos (not_hasDim_iff.mp hDim)]
    exact tagNames_warning

/-- However a page is taken apart, the part behind the style sheet has the tags
that the configuration asks for. -/
theorem tagSequence_body {config : Config} {sheet body : String}
    (h : PageParts (Component.new config).shadowHtml sheet body) :
    tagSequence body = config.pageTags := by
  obtain ⟨other, last, hParts, hTags⟩ := exists_pageParts_new config
  obtain ⟨-, rfl⟩ := h.unique hParts
  exact hTags

/-- The texts of every configuration stay where they belong. -/
theorem contained (config : Config) : config.Contained := by
  refine
    { parts := ?_
      tags_warning := ?_
      tags_grid := ?_
      tags_eq := ?_ }
  · obtain ⟨sheet, body, hParts, -⟩ := exists_pageParts_new config
    exact ⟨sheet, body, hParts⟩
  · intro sheet body hParts hEmpty
    rw [tagSequence_body hParts, pageTags, if_pos hEmpty]
  · intro sheet body hParts hGiven
    rw [tagSequence_body hParts, pageTags, if_neg hGiven]
  · intro other sheet body otherSheet otherBody hParts hOther hDim hLengths hFillers
    rw [tagSequence_body hParts, tagSequence_body hOther, pageTags, pageTags]
    simp only [hDim, hLengths, hFillers]

/-- The lengths of the rows and the placeholders do not tell a grid without rows from
the warning: a single width asks for no row, like no specification at all, but only
without a specification there are the tags of the warning. -/
theorem not_tagSequence_eq_of_rowLengths :
    ¬ ∀ (config other : Config) (sheet body otherSheet otherBody : String),
      PageParts (Component.new config).shadowHtml sheet body →
      PageParts (Component.new other).shadowHtml otherSheet otherBody →
      config.rowLengths = other.rowLengths → config.noFillers = other.noFillers →
      tagSequence body = tagSequence otherBody := by
  intro hAll
  let bare : Config := { Config.default with dim := "100" }
  obtain ⟨sheet, body, hParts, hTags⟩ := exists_pageParts_new .default
  obtain ⟨bareSheet, bareBody, hBare, hBareTags⟩ := exists_pageParts_new bare
  have hLengths : Config.default.rowLengths = bare.rowLengths := by decide
  have hSame := hAll .default bare sheet body bareSheet bareBody hParts hBare hLengths rfl
  rw [hTags, hBareTags] at hSame
  exact absurd hSame (by decide)

end Config

end SlotGrid
