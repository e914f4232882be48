import Mathlib.Data.List.Basic
import Mathlib.Data.List.TakeDrop
import Mathlib.Data.List.TakeWhile
import SlotGrid.Text.Cut

/-!
# Parts of a text

A text is taken apart in two ways. A part may end at the first character that it
cannot hold; then it is clear where it ends, so a text is cut there in one way
only, as it is behind a given beginning and at its first mark. Or a mark ends the
parts: every text is a list of texts with a mark behind each, followed by a last
text that no mark ends.

## Main definitions

* `StopsAt` — texts that go on with a character that a part cannot hold.
* `endAll` — texts with a mark behind each.
* `IsCut` — what it means to take a text apart at its marks.

## Main results

* `eq_of_append_of_stop` — parts that end where they must are the same.
* `after?_eq_some_iff`, `cut?_eq_some_iff` — a beginning is taken off, and a text is
  cut at the first mark in it.
* `exists_isCut` — every text can be taken apart at its marks.
* `IsCut.pieces_eq` — the pieces of a text that is taken apart at its marks.
* `pieces_endAll`, `pieces_endAll_append` — texts with marks behind them are read
  back as pieces.
* `pieces_append_mark` — two texts with a mark between them have the pieces of both.
* `IsCut.count_eq`, `IsCut.last_eq_empty_iff` — how many texts there are, and when
  the last one is empty.
-/

namespace SlotGrid.Text

/-! ## Where parts end -/

/-- Whether a text is empty or goes on with a character that a part cannot hold. -/
def StopsAt (holds : Char → Bool) (rest : List Char) : Prop := ∀ c ∈ rest.head?, holds c = false

theorem stopsAt_cons {holds : Char → Bool} {c : Char} (h : holds c = false) (rest : List Char) :
    StopsAt holds (c :: rest) := by
  intro d hd
  rw [List.head?_cons, Option.mem_some] at hd
  rw [← hd]
  exact h

/-- A part that ends at the first character that it cannot hold, ends there. -/
theorem takeWhile_of_stop {holds : Char → Bool} {part rest : List Char}
    (hPart : ∀ c ∈ part, holds c = true) (hRest : StopsAt holds rest) :
    (part ++ rest).takeWhile holds = part := by
  rw [List.takeWhile_append_of_pos hPart]
  cases rest with
  | nil => simp
  | cons c more =>
      have hc : ¬ holds c = true := by simp [hRest c rfl]
      rw [List.takeWhile_cons_of_neg hc, List.append_nil]

/-- What stands behind such a part is left. -/
theorem dropWhile_of_stop {holds : Char → Bool} {part rest : List Char}
    (hPart : ∀ c ∈ part, holds c = true) (hRest : StopsAt holds rest) :
    (part ++ rest).dropWhile holds = rest := by
  have hWhole := @List.takeWhile_append_dropWhile _ holds (part ++ rest)
  rw [takeWhile_of_stop hPart hRest] at hWhole
  exact List.append_cancel_left hWhole

theorem eq_of_append_of_stop {holds : Char → Bool} {part other rest last : List Char}
    (hPart : ∀ c ∈ part, holds c = true) (hOther : ∀ c ∈ other, holds c = true)
    (hRest : StopsAt holds rest) (hLast : StopsAt holds last)
    (h : part ++ rest = other ++ last) : part = other ∧ rest = last := by
  have hSame : part = other := by
    calc part = (part ++ rest).takeWhile holds := (takeWhile_of_stop hPart hRest).symm
      _ = (other ++ last).takeWhile holds := by rw [h]
      _ = other := takeWhile_of_stop hOther hLast
  subst hSame
  exact ⟨rfl, List.append_cancel_left h⟩

theorem bne_of_notMem {mark : Char} {chars : List Char} (h : mark ∉ chars) :
    ∀ c ∈ chars, (c != mark) = true := by
  intro c hc
  rw [bne_iff_ne]
  rintro rfl
  exact h hc

/-- So it is with a part that ends at a mark, if it holds none. -/
theorem eq_of_append_mark {mark : Char} {part other rest last : List Char} (hPart : mark ∉ part)
    (hOther : mark ∉ other) (h : part ++ mark :: rest = other ++ mark :: last) :
    part = other ∧ rest = last := by
  have hStop (chars : List Char) : StopsAt (· != mark) (mark :: chars) :=
    stopsAt_cons (by simp) chars
  obtain ⟨hSame, hRest⟩ := eq_of_append_of_stop (bne_of_notMem hPart) (bne_of_notMem hOther)
    (hStop rest) (hStop last) h
  exact ⟨hSame, (List.cons.inj hRest).2⟩

/-! ## Beginnings and first marks -/

theorem after?_eq_some_iff {start text rest : String} :
    after? start text = some rest ↔ text = start ++ rest := by
  rw [after?, Option.map_eq_some_iff]
  constructor
  · rintro ⟨chars, hRest, rfl⟩
    rw [List.isPrefixOf?_eq_some_iff_append_eq] at hRest
    rw [← String.toList_inj, String.toList_append, String.toList_ofList, hRest]
  · rintro rfl
    refine ⟨rest.toList, ?_, String.ofList_toList⟩
    rw [List.isPrefixOf?_eq_some_iff_append_eq, String.toList_append]

theorem isSome_after? (start text : String) :
    (after? start text).isSome = start.toList.isPrefixOf text.toList := by
  rw [after?, Option.isSome_map, List.isSome_isPrefixOf?_eq_isPrefixOf]

theorem cut?_of_notMem {mark : Char} {text : String} (h : mark ∉ text.toList) :
    cut? mark text = none := by
  rw [cut?, List.span_eq_takeWhile_dropWhile, List.dropWhile_eq_nil_iff.mpr (bne_of_notMem h)]

theorem cut?_append {mark : Char} {before : List Char} (h : mark ∉ before) (rest : List Char) :
    cut? mark (String.ofList (before ++ mark :: rest)) =
      some (String.ofList before, String.ofList rest) := by
  have hStop : StopsAt (· != mark) (mark :: rest) := stopsAt_cons (by simp) rest
  rw [cut?, String.toList_ofList, List.span_eq_takeWhile_dropWhile,
    takeWhile_of_stop (bne_of_notMem h) hStop, List.dropWhile_append_of_pos (bne_of_notMem h)]
  simp

/-- A text is cut at the first mark in it. -/
theorem cut?_eq_some_iff {mark : Char} {text before rest : String} :
    cut? mark text = some (before, rest) ↔
      mark ∉ before.toList ∧ text.toList = before.toList ++ mark :: rest.toList := by
  constructor
  · intro h
    by_cases hMark : mark ∈ text.toList
    · obtain ⟨chars, more, hText, hFree⟩ := List.eq_append_cons_of_mem hMark
      have hCut := cut?_append hFree more
      rw [← hText, String.ofList_toList, h] at hCut
      obtain ⟨rfl, rfl⟩ := Prod.mk.inj (Option.some.inj hCut)
      rw [String.toList_ofList, String.toList_ofList]
      exact ⟨hFree, hText⟩
    · rw [cut?_of_notMem hMark] at h
      cases h
  · rintro ⟨hFree, hText⟩
    have hCut := cut?_append hFree rest.toList
    rwa [← hText, String.ofList_toList, String.ofList_toList, String.ofList_toList] at hCut

theorem cut?_eq_none_iff {mark : Char} {text : String} :
    cut? mark text = none ↔ mark ∉ text.toList := by
  constructor
  · intro h hMark
    obtain ⟨chars, more, hText, hFree⟩ := List.eq_append_cons_of_mem hMark
    have hCut := cut?_append hFree more
    rw [← hText, String.ofList_toList, h] at hCut
    cases hCut
  · exact cut?_of_notMem

/-! ## Taking a text apart at its marks -/

/-- Texts one behind the other, with a mark behind each. -/
def endAll (mark : Char) : List String → String
  | [] => ""
  | text :: rest => text ++ String.singleton mark ++ endAll mark rest

/-- What it means to take a text apart at its marks: a mark ends each of the
texts, none ends the last, and there are no other marks. -/
structure IsCut (mark : Char) (source : String) (texts : List String) (last : String) : Prop where
  source_eq : source = endAll mark texts ++ last
  free_texts : ∀ text ∈ texts, mark ∉ text.toList
  free_last : mark ∉ last.toList

theorem toList_endAll_cons (mark : Char) (text : String) (rest : List String) (last : String) :
    (endAll mark (text :: rest) ++ last).toList =
      text.toList ++ mark :: (endAll mark rest ++ last).toList := by
  simp [endAll]

theorem endAll_append (mark : Char) (texts others : List String) :
    endAll mark (texts ++ others) = endAll mark texts ++ endAll mark others := by
  induction texts with
  | nil => rw [List.nil_append, endAll, String.empty_append]
  | cons text rest ih =>
      rw [List.cons_append, endAll, ih, endAll]
      simp only [String.append_assoc]

private theorem IsCut.cons_mark {mark : Char} {chars : List Char} {last : String}
    {texts : List String} (h : IsCut mark (String.ofList chars) texts last) :
    IsCut mark (String.ofList (mark :: chars)) ("" :: texts) last := by
  refine ⟨?_, ?_, h.free_last⟩
  · rw [← String.toList_inj, toList_endAll_cons, ← h.source_eq]
    simp
  · intro text hText
    rcases List.mem_cons.mp hText with rfl | hText
    · simp
    · exact h.free_texts text hText

private theorem free_cons {mark c : Char} (hc : c ≠ mark) {text : String}
    (h : mark ∉ text.toList) : mark ∉ (String.ofList (c :: text.toList)).toList := by
  rw [String.toList_ofList, List.mem_cons, not_or]
  exact ⟨fun hSame => hc hSame.symm, h⟩

/-- A character in front of a text goes to its first part, unless it is a mark,
which ends an empty part. -/
theorem exists_isCut (mark : Char) (source : String) :
    ∃ texts last, IsCut mark source texts last := by
  rw [← String.ofList_toList (s := source)]
  induction source.toList with
  | nil => exact ⟨[], "", by simp [endAll], by simp, by simp⟩
  | cons c chars ih =>
      obtain ⟨texts, last, h⟩ := ih
      by_cases hc : c = mark
      · subst hc
        exact ⟨"" :: texts, last, h.cons_mark⟩
      · cases texts with
        | nil =>
            refine ⟨[], String.ofList (c :: last.toList), ?_, by simp, free_cons hc h.free_last⟩
            have hChars : chars = last.toList := by
              simpa [endAll] using congrArg String.toList h.source_eq
            simp [endAll, hChars]
        | cons text rest =>
            obtain ⟨hText, hRest⟩ := List.forall_mem_cons.mp h.free_texts
            refine ⟨String.ofList (c :: text.toList) :: rest, last, ?_,
              List.forall_mem_cons.mpr ⟨free_cons hc hText, hRest⟩, h.free_last⟩
            have hChars : chars = text.toList ++ mark :: (endAll mark rest ++ last).toList := by
              rw [← toList_endAll_cons, ← h.source_eq, String.toList_ofList]
            rw [← String.toList_inj, toList_endAll_cons, String.toList_ofList, String.toList_ofList,
              hChars]
            rfl

/-- The split at a mark finds the texts and the last text. -/
theorem IsCut.splitOn_eq {mark : Char} {source last : String} {texts : List String}
    (h : IsCut mark source texts last) :
    source.toList.splitOn mark = texts.map String.toList ++ [last.toList] := by
  obtain ⟨rfl, hTexts, hLast⟩ := h
  induction texts with
  | nil =>
      rw [endAll, String.empty_append, List.splitOn_eq_singleton hLast]
      rfl
  | cons text rest ih =>
      have hRest := ih fun other hOther => hTexts other (List.mem_cons_of_mem text hOther)
      rw [toList_endAll_cons, List.splitOn_append_cons_self_of_not_mem
        (hTexts text List.mem_cons_self), hRest]
      rfl

theorem IsCut.pieces_eq {mark : Char} {source last : String} {texts : List String}
    (h : IsCut mark source texts last) :
    pieces mark source = if last = "" then texts else texts ++ [last] := by
  have hParts : (source.toList.splitOn mark).map String.ofList = texts ++ [last] := by
    rw [h.splitOn_eq]
    simp [Function.comp_def]
  show (let parts := (source.toList.splitOn mark).map String.ofList
    if parts.getLast? = some "" then parts.dropLast else parts) = _
  rw [hParts]
  by_cases hEmpty : last = ""
  · simp [hEmpty]
  · simp [hEmpty]

/-- Texts with a mark behind each are the pieces of what they make up. -/
theorem pieces_endAll {mark : Char} {texts : List String}
    (hTexts : ∀ text ∈ texts, mark ∉ text.toList) : pieces mark (endAll mark texts) = texts := by
  have hCut : IsCut mark (endAll mark texts) texts "" :=
    ⟨String.append_empty.symm, hTexts, by simp⟩
  rw [hCut.pieces_eq, if_pos rfl]

/-- A last text needs no mark behind it, unless it is empty. -/
theorem pieces_endAll_append {mark : Char} {texts : List String} {last : String}
    (hTexts : ∀ text ∈ texts, mark ∉ text.toList) (hLast : mark ∉ last.toList)
    (hNonempty : last ≠ "") : pieces mark (endAll mark texts ++ last) = texts ++ [last] := by
  have hCut : IsCut mark (endAll mark texts ++ last) texts last := ⟨rfl, hTexts, hLast⟩
  rw [hCut.pieces_eq, if_neg hNonempty]

theorem notMem_of_mem_pieces {mark : Char} {source piece : String}
    (h : piece ∈ pieces mark source) : mark ∉ piece.toList := by
  obtain ⟨texts, last, hCut⟩ := exists_isCut mark source
  rw [hCut.pieces_eq] at h
  by_cases hEmpty : last = ""
  · rw [if_pos hEmpty] at h
    exact hCut.free_texts piece h
  · rw [if_neg hEmpty, List.mem_append, List.mem_singleton] at h
    rcases h with hText | rfl
    · exact hCut.free_texts piece hText
    · exact hCut.free_last

/-- There are as many marks as texts that they end. -/
theorem IsCut.count_eq {mark : Char} {source last : String} {texts : List String}
    (h : IsCut mark source texts last) : source.toList.count mark = texts.length := by
  obtain ⟨rfl, hTexts, hLast⟩ := h
  induction texts with
  | nil =>
      rw [endAll, String.empty_append]
      exact List.count_eq_zero.mpr hLast
  | cons text rest ih =>
      obtain ⟨hText, hRest⟩ := List.forall_mem_cons.mp hTexts
      rw [toList_endAll_cons, List.count_append, List.count_cons_self, ih hRest,
        List.count_eq_zero.mpr hText, List.length_cons, Nat.zero_add]

private theorem getLast?_endAll (mark : Char) (text : String) (rest : List String) :
    (endAll mark (text :: rest)).toList.getLast? = some mark := by
  induction rest generalizing text with
  | nil => simp [endAll]
  | cons next rest ih =>
      have hNext := ih next
      rw [endAll, String.toList_append, List.getLast?_append, hNext]
      rfl

/-- Nothing follows the last mark exactly if the text ends with it, or is empty. -/
theorem IsCut.last_eq_empty_iff {mark : Char} {source last : String} {texts : List String}
    (h : IsCut mark source texts last) :
    last = "" ↔ source = "" ∨ source.toList.getLast? = some mark := by
  obtain ⟨rfl, -, hLast⟩ := h
  constructor
  · rintro rfl
    rw [String.append_empty]
    cases texts with
    | nil => exact Or.inl rfl
    | cons text rest => exact Or.inr (getLast?_endAll mark text rest)
  · rintro (hEmpty | hMark)
    · exact (String.append_eq_empty_iff.mp hEmpty).2
    · rw [String.toList_append, List.getLast?_append] at hMark
      cases hEnd : last.toList.getLast? with
      | none => exact String.toList_eq_nil_iff.mp (List.getLast?_eq_none_iff.mp hEnd)
      | some c =>
          rw [hEnd] at hMark
          obtain rfl : c = mark := by simpa using hMark
          exact absurd (List.mem_of_getLast? hEnd) hLast

/-- Two texts with a mark between them have the pieces of both, if the first one is not
empty and does not end with a mark. -/
theorem pieces_append_mark {mark : Char} {source : String} (hNonempty : source ≠ "")
    (hOpen : source.toList.getLast? ≠ some mark) (other : String) :
    pieces mark (source ++ String.singleton mark ++ other) =
      pieces mark source ++ pieces mark other := by
  obtain ⟨texts, last, h⟩ := exists_isCut mark source
  obtain ⟨others, lastOther, hOther⟩ := exists_isCut mark other
  have hLast : last ≠ "" := fun hEmpty =>
    (h.last_eq_empty_iff.mp hEmpty).elim hNonempty hOpen
  have hCut : IsCut mark (source ++ String.singleton mark ++ other)
      ((texts ++ [last]) ++ others) lastOther := by
    refine ⟨?_, ?_, hOther.free_last⟩
    · rw [endAll_append, endAll_append, endAll, endAll, String.append_empty, h.source_eq,
        hOther.source_eq]
      simp only [String.append_assoc]
    · intro text hText
      rw [List.mem_append, List.mem_append, List.mem_singleton] at hText
      rcases hText with (hText | hText) | hText
      · exact h.free_texts text hText
      · rw [hText]
        exact h.free_last
      · exact hOther.free_texts text hText
  rw [hCut.pieces_eq, h.pieces_eq, hOther.pieces_eq, if_neg hLast]
  by_cases hEmpty : lastOther = ""
  · rw [if_pos hEmpty, if_pos hEmpty]
  · rw [if_neg hEmpty, if_neg hEmpty, List.append_assoc]

theorem pieces_eq_nil_iff (mark : Char) (source : String) :
    pieces mark source = [] ↔ source = "" := by
  constructor
  · intro hNil
    obtain ⟨texts, last, h⟩ := exists_isCut mark source
    rw [h.pieces_eq] at hNil
    by_cases hEmpty : last = ""
    · rw [if_pos hEmpty] at hNil
      rw [h.source_eq, hNil, hEmpty]
      rfl
    · rw [if_neg hEmpty] at hNil
      exact absurd hNil (by simp)
  · rintro rfl
    have hNone : ∀ text ∈ ([] : List String), mark ∉ text.toList := nofun
    exact pieces_endAll hNone

/-- Only a lone mark ends an empty piece and no other one. -/
theorem pieces_eq_lone_iff (mark : Char) (source : String) :
    pieces mark source = [""] ↔ source = String.singleton mark := by
  have hLone : String.singleton mark = endAll mark [""] := by simp [endAll]
  constructor
  · intro hPieces
    obtain ⟨texts, last, h⟩ := exists_isCut mark source
    rw [h.pieces_eq] at hPieces
    by_cases hEmpty : last = ""
    · rw [if_pos hEmpty] at hPieces
      rw [h.source_eq, hPieces, hEmpty, hLone, String.append_empty]
    · rw [if_neg hEmpty] at hPieces
      obtain ⟨-, hLast⟩ := List.append_eq_singleton_iff.mp hPieces |>.resolve_right (by simp)
      exact absurd (List.cons.inj hLast).1 hEmpty
  · rintro rfl
    rw [hLone]
    exact pieces_endAll (by simp)

end SlotGrid.Text
