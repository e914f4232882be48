import SlotGrid.Proofs.Segments

/-!
# One scan of a specification

A specification is read in two levels: its text is split at semicolons, and each
piece at blank characters. This module reads it in one pass instead, character by
character, with a count of the semicolons and of the characters so far. A token is
a maximal run of characters that are neither blank nor a semicolon, and its row is
the number of semicolons in front of it.

## Main definitions

* `ScannedToken`, `scan` — the tokens of a text with their rows and places.
* `IsMaximalRun` — what a token is, without regard to how it is found.
* `scannedRows` — the tokens of each row.
* `Specification.IsScanOf` — what it means that a specification is what the scan
  finds.

## Main results

* `mem_scanFrom`, `pairwise_scanFrom` — the scan finds the maximal runs, each once
  and from left to right.
* `placed_scan` — the scan finds the words of the pieces, in the rows of the pieces.
* `scannedRows_eq` — the rows of the scan are the words of the pieces.
* `Specification.parse_isScanOf` — a specification is what the scan finds.
-/

namespace SlotGrid

open Text (StopsAt eq_of_append_of_stop)

/-! ## The scan -/

/-- Whether a character can stand in a token. -/
def isTokenChar (c : Char) : Bool := !Text.isBlank c && c != ';'

/-- A token of a specification, with the number of semicolons and the number of
characters in front of it. -/
structure ScannedToken where
  row : Nat
  start : Nat
  text : String
  deriving DecidableEq, Repr

/-- The token that ends here, if one has begun. -/
def endToken (row start : Nat) (run : List Char) : List ScannedToken :=
  if run = [] then [] else [⟨row, start, String.ofList run⟩]

/-- Reads tokens from left to right. So many semicolons and characters stand in
front of the token that is being read, of which `run` is known. -/
def scanFrom (row start : Nat) (run : List Char) : List Char → List ScannedToken
  | [] => endToken row start run
  | c :: rest =>
    if isTokenChar c then scanFrom row start (run ++ [c]) rest
    else endToken row start run ++
      scanFrom (if c = ';' then row + 1 else row) (start + run.length + 1) [] rest

/-- The tokens of a text, from left to right. -/
def scan (source : String) : List ScannedToken := scanFrom 0 0 [] source.toList

/-- The number of rows of a text: one for every number of semicolons that can
stand in front of a token. There is no row for what follows the last semicolon if
nothing follows it, not even a blank character, and none for the empty text. -/
def rowCount (source : String) : Nat :=
  if source = "" ∨ source.toList.getLast? = some ';' then source.toList.count ';'
  else source.toList.count ';' + 1

/-- The tokens of each row, from left to right. -/
def scannedRows (source : String) : List (List String) :=
  (List.range (rowCount source)).map fun row =>
    ((scan source).filter fun token => token.row == row).map ScannedToken.text

example : scan "7 ;\n;8 1fr" = [⟨0, 0, "7"⟩, ⟨2, 5, "8"⟩, ⟨2, 7, "1fr"⟩] := by decide

example : scannedRows "7 ;\n;8 1fr;" = [["7"], [], ["8", "1fr"]] := by decide

/-! ## The scan finds the maximal runs -/

/-- What it means to be a maximal run of the characters of tokens, between these
texts. -/
structure IsMaximalRun (before run after : List Char) : Prop where
  ne_nil : run ≠ []
  inside : ∀ c ∈ run, isTokenChar c = true
  starts : ∀ c ∈ before.getLast?, isTokenChar c = false
  stops : StopsAt isTokenChar after

/-- What it means that a token is a maximal run in a text, where so many semicolons
and characters stand in front of the text. -/
def ScannedToken.IsRunOf (token : ScannedToken) (row start : Nat) (chars : List Char) : Prop :=
  ∃ before after, chars = before ++ (token.text.toList ++ after) ∧
    IsMaximalRun before token.text.toList after ∧
    token.row = row + before.count ';' ∧ token.start = start + before.length

/-- A maximal run either is the run at the beginning or begins behind it. -/
private theorem IsMaximalRun.cases {before text after run rest : List Char}
    (h : IsMaximalRun before text after) (hRun : ∀ c ∈ run, isTokenChar c = true)
    (hRest : StopsAt isTokenChar rest) (hSame : run ++ rest = before ++ (text ++ after)) :
    (before = [] ∧ text = run ∧ after = rest) ∨
      ∃ c more, before = run ++ c :: more ∧ rest = c :: (more ++ (text ++ after)) := by
  rcases List.append_eq_append_iff.mp hSame with ⟨more, hBefore, hMore⟩ | ⟨more, hInner, hMore⟩
  · cases more with
    | nil =>
        -- The run would begin with a character that ends one.
        cases text with
        | nil => exact absurd rfl h.ne_nil
        | cons c text =>
            have hHead : c ∈ rest.head? := by rw [hMore]; rfl
            have hInside := h.inside c List.mem_cons_self
            rw [hRest c hHead] at hInside
            cases hInside
    | cons c more => exact Or.inr ⟨c, more, hBefore, hMore⟩
  · cases hLast : before.getLast? with
    | some c =>
        -- The character in front would belong to the run as well.
        have hMem : c ∈ run := hInner ▸ List.mem_append_left more (List.mem_of_getLast? hLast)
        have hInside := hRun c hMem
        rw [h.starts c hLast] at hInside
        cases hInside
    | none =>
        obtain rfl := List.getLast?_eq_none_iff.mp hLast
        rw [List.nil_append] at hInner
        subst hInner
        obtain ⟨hText, hAfter⟩ := eq_of_append_of_stop h.inside hRun h.stops hRest hMore
        exact Or.inl ⟨rfl, hText, hAfter⟩

private theorem starts_separator {c : Char} (hc : isTokenChar c = false) (run more : List Char) :
    (∀ d ∈ (run ++ c :: more).getLast?, isTokenChar d = false) ↔
      ∀ d ∈ more.getLast?, isTokenChar d = false := by
  cases more with
  | nil => simp [hc]
  | cons next more => simp

theorem mem_endToken {row start : Nat} {run : List Char} {token : ScannedToken} :
    token ∈ endToken row start run ↔
      run ≠ [] ∧ token.text.toList = run ∧ token.row = row ∧ token.start = start := by
  unfold endToken
  by_cases hRun : run = []
  · simp [hRun]
  · obtain ⟨tokenRow, tokenStart, text⟩ := token
    rw [if_neg hRun, List.mem_singleton, ScannedToken.mk.injEq, ← String.toList_inj,
      String.toList_ofList]
    constructor
    · rintro ⟨hRow, hStart, hText⟩
      exact ⟨hRun, hText, hRow, hStart⟩
    · rintro ⟨-, hText, hRow, hStart⟩
      exact ⟨hRow, hStart, hText⟩

private theorem start_of_mem_endToken {row start : Nat} {run : List Char} {token : ScannedToken}
    (h : token ∈ endToken row start run) : token.start = start := (mem_endToken.mp h).2.2.2

private theorem semicolon_notMem {run : List Char} (hRun : ∀ c ∈ run, isTokenChar c = true) :
    ';' ∉ run := fun hMem => absurd (hRun ';' hMem) (by decide)

/-- The run at the beginning is a token. -/
private theorem isRunOf_of_mem_endToken {row start : Nat} {run rest : List Char}
    {token : ScannedToken} (hRun : ∀ c ∈ run, isTokenChar c = true)
    (hRest : StopsAt isTokenChar rest) (h : token ∈ endToken row start run) :
    token.IsRunOf row start (run ++ rest) := by
  obtain ⟨hNonempty, hText, hRow, hStart⟩ := mem_endToken.mp h
  rw [← hText] at hNonempty hRun ⊢
  exact ⟨[], rest, rfl, ⟨hNonempty, hRun, nofun, hRest⟩, hRow, hStart⟩

/-- At the end of a text, the run that is being read is the only one. -/
theorem isRunOf_run {row start : Nat} {run : List Char} {token : ScannedToken}
    (hRun : ∀ c ∈ run, isTokenChar c = true) :
    token.IsRunOf row start run ↔ token ∈ endToken row start run := by
  have hNone : StopsAt isTokenChar [] := nofun
  constructor
  · rintro ⟨before, after, hSame, hMaximal, hRow, hStart⟩
    rw [← List.append_nil run] at hSame
    rcases hMaximal.cases hRun hNone hSame with ⟨rfl, rfl, -⟩ | ⟨c, more, -, hEnd⟩
    · exact mem_endToken.mpr ⟨hMaximal.ne_nil, rfl, hRow, hStart⟩
    · cases hEnd
  · intro hMem
    have hRunOf := isRunOf_of_mem_endToken hRun hNone hMem
    rwa [List.append_nil] at hRunOf

/-- A character that ends the run is counted, and the others follow it. -/
theorem isRunOf_separator {row start : Nat} {run : List Char} {token : ScannedToken} {c : Char}
    (hRun : ∀ d ∈ run, isTokenChar d = true) (hc : isTokenChar c = false) (rest : List Char) :
    token.IsRunOf row start (run ++ c :: rest) ↔ token ∈ endToken row start run ∨
      token.IsRunOf (if c = ';' then row + 1 else row) (start + run.length + 1) rest := by
  have hRest : StopsAt isTokenChar (c :: rest) := Text.stopsAt_cons hc rest
  have hCount (more : List Char) : row + (run ++ c :: more).count ';' =
      (if c = ';' then row + 1 else row) + more.count ';' := by
    rw [List.count_append, List.count_eq_zero.mpr (semicolon_notMem hRun), List.count_cons]
    by_cases hSemicolon : c = ';'
    · simp [hSemicolon]
      omega
    · simp [hSemicolon]
  have hLength (more : List Char) : start + (run ++ c :: more).length =
      start + run.length + 1 + more.length := by
    rw [List.length_append, List.length_cons]
    omega
  constructor
  · rintro ⟨before, after, hSame, hMaximal, hRow, hStart⟩
    rcases hMaximal.cases hRun hRest hSame with ⟨rfl, rfl, -⟩ | ⟨d, more, rfl, hMore⟩
    · exact Or.inl (mem_endToken.mpr ⟨hMaximal.ne_nil, rfl, hRow, hStart⟩)
    · obtain ⟨rfl, rfl⟩ := List.cons.inj hMore
      refine Or.inr ⟨more, after, rfl,
        ⟨hMaximal.ne_nil, hMaximal.inside, ?_, hMaximal.stops⟩, ?_, ?_⟩
      · exact (starts_separator hc run more).mp hMaximal.starts
      · rw [hRow, hCount]
      · rw [hStart, hLength]
  · rintro (hMem | ⟨before, after, rfl, hMaximal, hRow, hStart⟩)
    · exact isRunOf_of_mem_endToken hRun hRest hMem
    · refine ⟨run ++ c :: before, after, by simp,
        ⟨hMaximal.ne_nil, hMaximal.inside, ?_, hMaximal.stops⟩, ?_, ?_⟩
      · exact (starts_separator hc run before).mpr hMaximal.starts
      · rw [hRow, hCount]
      · rw [hStart, hLength]

/-- The scan finds the maximal runs, whatever run it is reading. -/
theorem mem_scanFrom {row start : Nat} {run : List Char}
    (hRun : ∀ c ∈ run, isTokenChar c = true) (chars : List Char) (token : ScannedToken) :
    token ∈ scanFrom row start run chars ↔ token.IsRunOf row start (run ++ chars) := by
  induction chars generalizing row start run with
  | nil => rw [List.append_nil, isRunOf_run hRun, scanFrom]
  | cons c rest ih =>
      rw [scanFrom]
      by_cases hc : isTokenChar c = true
      · have hLonger : ∀ d ∈ run ++ [c], isTokenChar d = true :=
          List.forall_mem_append.mpr ⟨hRun, List.forall_mem_singleton.mpr hc⟩
        rw [if_pos hc, ih hLonger, List.append_assoc, List.singleton_append]
      · rw [if_neg hc, List.mem_append, ih (by simp), List.nil_append,
          isRunOf_separator hRun (by simpa using hc)]

private theorem pairwise_endToken (row start : Nat) (run : List Char) :
    (endToken row start run).Pairwise fun token other => token.start < other.start := by
  unfold endToken
  by_cases hRun : run = []
  · simp [hRun]
  · simp [hRun]

/-- The scan goes from left to right, so that it finds no token twice. -/
theorem pairwise_scanFrom (row start : Nat) (run chars : List Char) :
    (∀ token ∈ scanFrom row start run chars, start ≤ token.start) ∧
      (scanFrom row start run chars).Pairwise fun token other => token.start < other.start := by
  induction chars generalizing row start run with
  | nil =>
      rw [scanFrom]
      refine ⟨?_, pairwise_endToken row start run⟩
      intro token hToken
      exact Nat.le_of_eq (start_of_mem_endToken hToken).symm
  | cons c rest ih =>
      by_cases hc : isTokenChar c = true
      · rw [scanFrom, if_pos hc]
        exact ih row start (run ++ [c])
      · rw [scanFrom, if_neg hc]
        obtain ⟨hAfter, hSorted⟩ :=
          ih (if c = ';' then row + 1 else row) (start + run.length + 1) []
        refine ⟨?_, List.pairwise_append.mpr ⟨pairwise_endToken row start run, hSorted, ?_⟩⟩
        · intro token hToken
          rcases List.mem_append.mp hToken with hToken | hToken
          · exact Nat.le_of_eq (start_of_mem_endToken hToken).symm
          · have hStart := hAfter token hToken
            omega
        · intro token hToken other hOther
          have hEnd := start_of_mem_endToken hToken
          have hStart := hAfter other hOther
          omega

/-! ## Rows of the scan -/

/-- A token without its place in the text. -/
def ScannedToken.placed (token : ScannedToken) : Nat × String := (token.row, token.text)

/-- The words of pieces with their rows, which are numbered from `first` on. -/
def placedWords (first : Nat) : List String → List (Nat × String)
  | [] => []
  | piece :: rest =>
    (Text.words piece).map (fun word => (first, word)) ++ placedWords (first + 1) rest

private theorem placed_endToken (row start : Nat) {run : List Char}
    (hRun : ∀ c ∈ run, isTokenChar c = true) :
    (endToken row start run).map ScannedToken.placed =
      (Text.wordsOf run).map fun word => (row, String.ofList word) := by
  unfold endToken
  by_cases hEmpty : run = []
  · rw [if_pos hEmpty, hEmpty]
    rfl
  · have hBlank : ∀ c ∈ run, Text.isBlank c = false := by
      intro c hc
      have hToken := hRun c hc
      simp only [isTokenChar, Bool.and_eq_true, Bool.not_eq_true'] at hToken
      exact hToken.1
    have hWord : Text.IsWord (String.ofList run) := by
      refine ⟨by simpa using hEmpty, ?_⟩
      rw [String.toList_ofList]
      exact hBlank
    have hWords := Text.wordsOf_toList_of_isWord hWord
    rw [String.toList_ofList] at hWords
    rw [if_neg hEmpty, hWords]
    rfl

/-- The tokens up to a semicolon or the end of the text are the words there. -/
theorem placed_scanFrom_piece (row start : Nat) {run piece rest : List Char}
    (hRun : ∀ c ∈ run, isTokenChar c = true) (hPiece : ';' ∉ piece)
    (hRest : StopsAt (· != ';') rest) :
    (scanFrom row start run (piece ++ rest)).map ScannedToken.placed =
      ((Text.wordsOf (run ++ piece)).map fun word => (row, String.ofList word)) ++
        (scanFrom row (start + run.length + piece.length) [] rest).map ScannedToken.placed := by
  induction piece generalizing start run with
  | nil =>
      rw [List.nil_append, List.append_nil, ← placed_endToken row start hRun, ← List.map_append]
      cases rest with
      | nil => simp [scanFrom, endToken]
      | cons c rest =>
          have hSemicolon : c = ';' := by simpa using hRest c rfl
          subst hSemicolon
          have hEnds : ¬ isTokenChar ';' = true := by decide
          rw [scanFrom, scanFrom, if_neg hEnds, if_neg hEnds]
          simp [endToken]
  | cons c piece ih =>
      obtain ⟨hFirst, hMore⟩ : ';' ≠ c ∧ ';' ∉ piece := by simpa using hPiece
      rw [List.cons_append, scanFrom]
      by_cases hc : isTokenChar c = true
      · have hLonger : ∀ d ∈ run ++ [c], isTokenChar d = true :=
          List.forall_mem_append.mpr ⟨hRun, List.forall_mem_singleton.mpr hc⟩
        have hStart : start + (run ++ [c]).length + piece.length =
            start + run.length + (c :: piece).length := by
          simp only [List.length_append, List.length_cons, List.length_nil]
          omega
        rw [if_pos hc, ih start hLonger hMore, hStart, List.append_assoc, List.singleton_append]
      · have hBlank : Text.isBlank c = true := by
          simpa [isTokenChar, hFirst.symm] using hc
        have hStart : start + run.length + 1 + ([] : List Char).length + piece.length =
            start + run.length + (c :: piece).length := by
          simp only [List.length_cons, List.length_nil]
          omega
        rw [if_neg hc, if_neg hFirst.symm, List.map_append, ih _ (by simp) hMore, hStart,
          Text.wordsOf_append_blank hBlank, List.map_append, placed_endToken row start hRun,
          List.nil_append, List.append_assoc]

private theorem placed_scanFrom_text (row start : Nat) {text : String} {rest : List Char}
    (hText : ';' ∉ text.toList) (hRest : StopsAt (· != ';') rest) :
    (scanFrom row start [] (text.toList ++ rest)).map ScannedToken.placed =
      (Text.words text).map (fun word => (row, word)) ++
        (scanFrom row (start + text.toList.length) [] rest).map ScannedToken.placed := by
  have hNone : ∀ c ∈ ([] : List Char), isTokenChar c = true := nofun
  rw [placed_scanFrom_piece row start hNone hText hRest, Text.words, List.map_map]
  rfl

/-- The scan of pieces that semicolons end, and of what follows the last one. -/
theorem placed_scanFrom (row start : Nat) {texts : List String} {last : String}
    (hTexts : ∀ text ∈ texts, ';' ∉ text.toList) (hLast : ';' ∉ last.toList) :
    (scanFrom row start [] (Text.endAll ';' texts ++ last).toList).map ScannedToken.placed =
      placedWords row (texts ++ [last]) := by
  induction texts generalizing row start with
  | nil =>
      have hNone : StopsAt (· != ';') [] := nofun
      have hText := placed_scanFrom_text row start hLast hNone
      rw [List.append_nil] at hText
      rw [Text.endAll, String.empty_append, hText]
      rfl
  | cons text rest ih =>
      obtain ⟨hText, hRest⟩ := List.forall_mem_cons.mp hTexts
      have hSemicolon : ¬ isTokenChar ';' = true := by decide
      rw [Text.toList_endAll_cons, placed_scanFrom_text row start hText
        (Text.stopsAt_cons (by decide) _), scanFrom, if_neg hSemicolon, if_pos rfl,
        List.map_append, ih _ _ hRest]
      rfl

theorem placedWords_append (first : Nat) (pieces more : List String) :
    placedWords first (pieces ++ more) =
      placedWords first pieces ++ placedWords (first + pieces.length) more := by
  induction pieces generalizing first with
  | nil => rfl
  | cons piece rest ih =>
      rw [List.cons_append, placedWords, placedWords, ih, List.append_assoc, List.length_cons]
      congr 3
      omega

/-- The scan of a text finds the words of its pieces. -/
theorem placed_scan (source : String) :
    (scan source).map ScannedToken.placed = placedWords 0 (Text.pieces ';' source) := by
  obtain ⟨texts, last, h⟩ := Text.exists_isCut ';' source
  have hScan := placed_scanFrom 0 0 h.free_texts h.free_last
  rw [← h.source_eq] at hScan
  rw [scan, hScan, h.pieces_eq]
  by_cases hEmpty : last = ""
  · -- No words stand in what follows the last semicolon.
    rw [if_pos hEmpty, placedWords_append, hEmpty]
    exact List.append_nil _
  · rw [if_neg hEmpty]

/-- Before the first row there are no words. -/
private theorem filter_placedWords_of_lt {row first : Nat} (h : row < first)
    (pieces : List String) :
    (placedWords first pieces).filter (fun placed => placed.1 == row) = [] := by
  induction pieces generalizing first with
  | nil => rfl
  | cons piece rest ih =>
      have hOther : (first == row) = false := by
        rw [beq_eq_false_iff_ne]
        omega
      rw [placedWords, List.filter_append, ih (by omega), List.append_nil]
      simp [List.filter_map, Function.comp_def, hOther]

/-- The words with the number of a row are those of its piece. -/
theorem rows_placedWords (first : Nat) (pieces : List String) :
    ((List.range' first pieces.length).map fun row =>
        ((placedWords first pieces).filter fun placed => placed.1 == row).map Prod.snd) =
      pieces.map Text.words := by
  induction pieces generalizing first with
  | nil => rfl
  | cons piece rest ih =>
      rw [List.length_cons, List.range'_succ, List.map_cons, List.map_cons, ← ih (first + 1)]
      rw [List.cons.injEq]
      constructor
      · rw [placedWords, List.filter_append, filter_placedWords_of_lt (Nat.lt_succ_self first)]
        simp [List.filter_map, Function.comp_def]
      · refine List.map_congr_left ?_
        intro row hRow
        have hOther : (first == row) = false := by
          rw [beq_eq_false_iff_ne]
          have hLater := (List.mem_range'_1.mp hRow).1
          omega
        rw [placedWords, List.filter_append]
        simp [List.filter_map, Function.comp_def, hOther]

theorem flatten_placedWords (first : Nat) (pieces : List String) :
    (placedWords first pieces).map Prod.snd = (pieces.map Text.words).flatten := by
  induction pieces generalizing first with
  | nil => rfl
  | cons piece rest ih =>
      rw [placedWords, List.map_append, ih, List.map_cons, List.flatten_cons]
      simp [Function.comp_def]

/-- There is a row for every piece. -/
theorem rowCount_eq (source : String) : rowCount source = (Text.pieces ';' source).length := by
  obtain ⟨texts, last, h⟩ := Text.exists_isCut ';' source
  rw [rowCount, h.count_eq, h.pieces_eq]
  by_cases hEmpty : last = ""
  · rw [if_pos (h.last_eq_empty_iff.mp hEmpty), if_pos hEmpty]
  · rw [if_neg fun hEnd => hEmpty (h.last_eq_empty_iff.mpr hEnd), if_neg hEmpty, List.length_append]
    rfl

/-- The rows of the scan are the words of the pieces. -/
theorem scannedRows_eq (source : String) :
    scannedRows source = (Text.pieces ';' source).map Text.words := by
  rw [scannedRows, rowCount_eq, ← rows_placedWords 0, ← placed_scan, List.range_eq_range']
  refine List.map_congr_left ?_
  intro row _
  rw [List.filter_map, List.map_map]
  rfl

/-! ## A specification is what the scan finds -/

/-- What it means that a specification is what one scan of a text finds. The
tokens are the maximal runs, from left to right, each in the row with the number
of semicolons in front of it; the rows hold all tokens, and no others. There are
no rows for an empty text, a lone semicolon and a single token. -/
structure Specification.IsScanOf (specification : Specification) (source : String) : Prop where
  mem_scan : ∀ token : ScannedToken, token ∈ scan source ↔ token.IsRunOf 0 0 source.toList
  pairwise_scan : (scan source).Pairwise fun token other => token.start < other.start
  flatten_rows : (scannedRows source).flatten = (scan source).map ScannedToken.text
  rows_eq_nil : specification.rows = [] ↔
    source = "" ∨ source = ";" ∨ ∃ token, scannedRows source = [[token]]
  rows_eq : specification.rows ≠ [] → specification.rows.map Row.texts = scannedRows source

/-- A specification is what one scan of its text finds. -/
theorem Specification.parse_isScanOf (source : String) : (parse source).IsScanOf source := by
  have hPlaced : (scan source).map ScannedToken.text =
      (placedWords 0 (Text.pieces ';' source)).map Prod.snd := by
    rw [← placed_scan, List.map_map]
    rfl
  have hNone : ∀ c ∈ ([] : List Char), isTokenChar c = true := nofun
  refine
    { mem_scan := fun token => mem_scanFrom hNone source.toList token
      pairwise_scan := (pairwise_scanFrom 0 0 [] source.toList).2
      flatten_rows := ?_
      rows_eq_nil := ?_
      rows_eq := ?_ }
  · rw [hPlaced, flatten_placedWords, scannedRows_eq]
  · rw [rows_parse_eq_nil_iff, Text.pieces_eq_nil_iff, Collapses, Text.pieces_eq_lone_iff,
      scannedRows_eq]
    rfl
  · intro hRows
    rw [rows_parse_of_ne_nil hRows, scannedRows_eq, Row.map_texts_ofText]

end SlotGrid
