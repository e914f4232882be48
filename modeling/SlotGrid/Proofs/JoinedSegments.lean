import SlotGrid.Proofs.Segments

/-!
# Segments that are joined

A specification is split at its semicolons, and texts can be joined by semicolons. The
two undo each other, up to one semicolon: that at the end of a specification opens no
row, so it is lost, and joined texts need one to be read back. It is the list of one
empty text that cannot be told: joined, it is as empty as no texts are, and the lone
semicolon stands for no texts.

## Main results

* `Text.intercalate_append_mark`, `Text.intercalate_concat` — joined texts in terms of
  texts with a mark behind each.
* `toList_intercalate_segments` — the segments of a text, joined, are the text without
  the semicolon at its end.
* `segments_intercalate_iff` — which texts are read back.
* `segments_append_semicolon_iff` — when one more semicolon changes nothing.
* `segments_inverse` — all of it.
-/

namespace SlotGrid

namespace Text

/-! ## Joined texts -/

/-- In joined texts, a mark stands behind each but the last. -/
theorem intercalate_concat (mark : Char) (texts : List String) (last : String) :
    (String.singleton mark).intercalate (texts ++ [last]) = endAll mark texts ++ last := by
  induction texts with
  | nil => rw [List.nil_append, String.intercalate_singleton, endAll, String.empty_append]
  | cons text rest ih =>
      have hMore : rest ++ [last] ≠ [] := by simp
      rw [List.cons_append, String.intercalate_cons_of_ne_nil hMore, ih, endAll]
      simp only [String.append_assoc]

/-- With one more mark, there is a mark behind each. -/
theorem intercalate_append_mark {mark : Char} {texts : List String} (h : texts ≠ []) :
    (String.singleton mark).intercalate texts ++ String.singleton mark = endAll mark texts := by
  have hSplit : texts.dropLast ++ [texts.getLast h] = texts := List.dropLast_append_getLast h
  rw [← hSplit, intercalate_concat, endAll_append, endAll, endAll, String.append_empty,
    String.append_assoc]

/-- The pieces of a text make it up again, but for a mark at its end. -/
theorem toList_intercalate_pieces (mark : Char) (source : String) :
    ((String.singleton mark).intercalate (pieces mark source)).toList =
      if source.toList.getLast? = some mark then source.toList.dropLast else source.toList := by
  obtain ⟨texts, last, h⟩ := exists_isCut mark source
  rw [h.pieces_eq]
  by_cases hLast : last = ""
  · have hSource : source = endAll mark texts := by
      rw [h.source_eq, hLast, String.append_empty]
    rw [if_pos hLast]
    by_cases hTexts : texts = []
    · simp [hSource, hTexts, endAll]
    · have hJoined : source.toList =
          ((String.singleton mark).intercalate texts).toList ++ [mark] := by
        rw [hSource, ← intercalate_append_mark hTexts, String.toList_append,
          String.toList_singleton]
      have hMark : source.toList.getLast? = some mark := by
        rw [hJoined, List.getLast?_concat]
      rw [if_pos hMark, hJoined, List.dropLast_concat]
  · have hOpen : ¬ source.toList.getLast? = some mark := fun hMark =>
      hLast (h.last_eq_empty_iff.mpr (Or.inr hMark))
    rw [if_neg hLast, if_neg hOpen, intercalate_concat, ← h.source_eq]

end Text

/-! ## Segments -/

/-- The segments are the pieces, unless an empty piece stands alone. -/
theorem segments_cases (source : String) :
    (Text.pieces ';' source = [""] ∧ segments source = []) ∨
      (Text.pieces ';' source ≠ [""] ∧ segments source = Text.pieces ';' source) := by
  by_cases hLone : Text.pieces ';' source = [""]
  · exact Or.inl ⟨hLone, if_pos hLone⟩
  · exact Or.inr ⟨hLone, if_neg hLone⟩

theorem semicolon_notMem_of_mem_segments {source segment : String}
    (h : segment ∈ segments source) : ';' ∉ segment.toList := by
  rcases segments_cases source with ⟨-, hNone⟩ | ⟨-, hPieces⟩
  · rw [hNone] at h
    cases h
  · rw [hPieces] at h
    exact Text.notMem_of_mem_pieces h

/-- An empty segment never stands alone. -/
theorem segments_ne_lone (source : String) : segments source ≠ [""] := by
  rcases segments_cases source with ⟨-, hNone⟩ | ⟨hLone, hPieces⟩
  · rw [hNone]
    simp
  · rw [hPieces]
    exact hLone

/-- Nothing is lost with the segments but a semicolon at the end. -/
theorem toList_intercalate_segments (source : String) :
    (";".intercalate (segments source)).toList =
      if source.toList.getLast? = some ';' then source.toList.dropLast else source.toList := by
  have hSame : ";".intercalate (segments source) = ";".intercalate (Text.pieces ';' source) := by
    rcases segments_cases source with ⟨hLone, hNone⟩ | ⟨-, hPieces⟩
    · -- one empty text is joined to what no texts are joined to
      rw [hNone, hLone, String.intercalate_singleton, String.intercalate_nil]
    · rw [hPieces]
  rw [hSame]
  exact Text.toList_intercalate_pieces ';' source

/-- Texts without semicolons are read back from what they are joined to. -/
theorem segments_intercalate {texts : List String} (hFree : ∀ text ∈ texts, ';' ∉ text.toList)
    (hLone : texts ≠ [""]) : segments (";".intercalate texts ++ ";") = texts := by
  by_cases hTexts : texts = []
  · rw [hTexts]
    rfl
  · have hEnded : ";".intercalate texts ++ ";" = Text.endAll ';' texts :=
      @Text.intercalate_append_mark ';' texts hTexts
    have hPieces : Text.pieces ';' (Text.endAll ';' texts) = texts := Text.pieces_endAll hFree
    rw [hEnded]
    rcases segments_cases (Text.endAll ';' texts) with ⟨hOne, -⟩ | ⟨-, hSegments⟩
    · exact absurd (hPieces.symm.trans hOne) hLone
    · rw [hSegments, hPieces]

/-- No other texts are. -/
theorem segments_intercalate_iff (texts : List String) :
    segments (";".intercalate texts ++ ";") = texts ↔
      (∀ text ∈ texts, ';' ∉ text.toList) ∧ texts ≠ [""] := by
  constructor
  · intro h
    rw [← h]
    exact ⟨fun _ hText => semicolon_notMem_of_mem_segments hText, segments_ne_lone _⟩
  · rintro ⟨hFree, hLone⟩
    exact segments_intercalate hFree hLone

/-- A semicolon behind a text opens a row exactly if one stands there already. -/
theorem segments_append_semicolon_iff (source : String) :
    segments (source ++ ";") = segments source ↔ source.toList.getLast? ≠ some ';' := by
  constructor
  · intro hSame hClosed
    -- joined, the two lists of segments differ in the first of the two semicolons
    have hMore : (source ++ ";").toList = source.toList ++ [';'] := String.toList_append
    have hJoined := toList_intercalate_segments (source ++ ";")
    rw [hSame, toList_intercalate_segments, if_pos hClosed, hMore, List.getLast?_concat,
      if_pos rfl, List.dropLast_concat] at hJoined
    have hLength := congrArg List.length hJoined
    have hPositive := List.length_pos_of_mem (List.mem_of_getLast? hClosed)
    rw [List.length_dropLast] at hLength
    omega
  · intro hOpen
    have hJoined : ";".intercalate (segments source) = source := by
      rw [← String.toList_inj, toList_intercalate_segments, if_neg hOpen]
    have hBack := segments_intercalate
      (fun _ hText => semicolon_notMem_of_mem_segments hText) (segments_ne_lone source)
    rwa [hJoined] at hBack

/-- Splitting at semicolons and joining by them undo each other. The segments of a text
hold no semicolons, are never one empty text, and are joined to the text without the
semicolon at its end. Texts are read back from what they are joined to exactly if they can
be segments. So one more semicolon changes nothing exactly if none ends the text. -/
theorem segments_inverse :
    (∀ source : String, (∀ segment ∈ segments source, ';' ∉ segment.toList) ∧
      segments source ≠ [""] ∧
      (";".intercalate (segments source)).toList =
        if source.toList.getLast? = some ';' then source.toList.dropLast else source.toList) ∧
    (∀ texts : List String, segments (";".intercalate texts ++ ";") = texts ↔
      (∀ text ∈ texts, ';' ∉ text.toList) ∧ texts ≠ [""]) ∧
    ∀ source : String, segments (source ++ ";") = segments source ↔
      source.toList.getLast? ≠ some ';' := by
  refine ⟨?_, segments_intercalate_iff, segments_append_semicolon_iff⟩
  intro source
  exact ⟨fun _ hSegment => semicolon_notMem_of_mem_segments hSegment, segments_ne_lone source,
    toList_intercalate_segments source⟩

/-- Empty segments at the start, in the middle and at the end. -/
theorem segments_inverse_gaps :
    "70 30" ∈ segments ";70 30;;;" ∧ ';' ∉ "70 30".toList ∧
      ";".intercalate (segments ";70 30;;;") = ";70 30;;" ∧
      segments (";".intercalate ["", "70 30", "", ""] ++ ";") = ["", "70 30", "", ""] ∧
      segments (";70 30" ++ ";") = segments ";70 30" ∧
      segments (";70 30;" ++ ";") ≠ segments ";70 30;" := by
  obtain ⟨hSplit, hJoined, hMore⟩ := segments_inverse
  obtain ⟨hFree, -, hBack⟩ := hSplit ";70 30;;;"
  have hMem : "70 30" ∈ segments ";70 30;;;" := by decide
  refine ⟨hMem, hFree "70 30" hMem, ?_, ?_, ?_, ?_⟩
  · rw [← String.toList_inj, hBack]
    decide
  · exact (hJoined ["", "70 30", "", ""]).mpr (by decide)
  · exact (hMore ";70 30").mpr (by decide)
  · intro hSame
    exact (hMore ";70 30;").mp hSame (by decide)

/-- The exception: one empty text is joined to what no texts are joined to. -/
example : segments (";".intercalate [""] ++ ";") = [] := by decide

end SlotGrid
