import SlotGrid.Json.Skip
import SlotGrid.Proofs.JsonTokens

/-!
# Values that are skipped

The check of a value that nobody asked for keeps a list of open frames and no tree.
It accepts what the grammar calls a value, and only that. One way, a value in front
of a text takes the check from looking for a value to the text behind it, inside
whatever frames are open; that is shown along the rules of the grammar. The other
way, what each step leaves to be done is written down, and a step that succeeds
turns a completion of what it leaves into one of what it was to do.

## Main definitions

* `Tree.Opens` — the first characters of values.
* `Progress.resume` — going on behind a step.
* `Closes`, `Stage.Completes` — what open frames lack, and what a stage lacks.

## Main results

* `skipValue_of_begins` — values are skipped.
* `skipStep_sound`, `skipFrom_sound`, `skipValue_sound` — what is skipped is a value.
-/

namespace SlotGrid.Json

variable {τ : Type} {spelling : Spelling τ}

/-! ## First characters -/

/-- Whether a value may start with this character. -/
def Tree.Opens : Tree τ → Char → Prop
  | .null, c => c = 'n'
  | .boolean value, c => c = if value then 't' else 'f'
  | .number _, c => c = '-' ∨ c.isDigit = true
  | .string _, c => c = '"'
  | .array _, c => c = '['
  | .object _, c => c = '{'

theorem isDigit_ne {c d : Char} (h : c.isDigit = true) (hd : d.isDigit = false) : c ≠ d := by
  rintro rfl
  exact Bool.false_ne_true (hd.symm.trans h)

/-- A value starts neither with white space nor with an end. -/
theorem Tree.Opens.token {tree : Tree τ} {c : Char} (h : tree.Opens c) :
    isSpace c = false ∧ c ≠ ']' ∧ c ≠ '}' := by
  cases tree with
  | number numeral =>
      rcases h with rfl | hDigit
      · decide
      · refine ⟨?_, isDigit_ne hDigit (by decide), isDigit_ne hDigit (by decide)⟩
        rw [← Bool.not_eq_true, isSpace_iff]
        rintro (rfl | rfl | rfl | rfl) <;> exact absurd hDigit (by decide)
  | boolean value => cases value <;> (obtain rfl := h; decide)
  | null | string | array | object =>
      obtain rfl := h
      decide

theorem Numeral.IsProper.exists_digit {numeral : Numeral} (h : numeral.IsProper) :
    ∃ c more, numeral.digitChars = c :: more ∧ c.isDigit = true := by
  obtain ⟨c, more, hWhole⟩ := List.exists_cons_of_ne_nil h.whole.1
  refine ⟨c, _, by rw [Numeral.digitChars, hWhole, List.cons_append], ?_⟩
  exact h.whole.2 c (by rw [hWhole]; exact List.mem_cons_self)

theorem exists_opener {tree : Tree τ} {text rest : List Char}
    (h : (Phrase.value tree).Begins spelling text rest) :
    ∃ c more, text = c :: more ∧ tree.Opens c := by
  cases h with
  | null => exact ⟨'n', _, rfl, rfl⟩
  | boolean value => cases value <;> exact ⟨_, _, rfl, rfl⟩
  | @number numeral hProper =>
      obtain ⟨c, more, hDigits, hDigit⟩ := hProper.exists_digit
      cases hSign : numeral.negative with
      | true => exact ⟨'-', numeral.digitChars ++ rest, by simp [Numeral.chars_eq, hSign], .inl rfl⟩
      | false => exact ⟨c, more ++ rest, by simp [Numeral.chars_eq, hSign, hDigits], .inr hDigit⟩
  | string => exact ⟨'"', _, rfl, rfl⟩
  | array => exact ⟨'[', _, rfl, rfl⟩
  | object => exact ⟨'{', _, rfl, rfl⟩

/-- No number goes on in front of what an array lacks. -/
theorem ends_of_items {items : List (Tree τ)} {text rest : List Char}
    (h : (Phrase.items false items).Begins spelling text rest) : Ends text := by
  cases h with
  | noItem hEnd =>
      exact ends_of_white hEnd (ends_cons (by decide) (by decide) (by decide) (by decide) _)
  | item hLead =>
      obtain ⟨more, hComma, -⟩ := hLead
      exact ends_of_white hComma (ends_cons (by decide) (by decide) (by decide) (by decide) _)

theorem ends_of_members {members : List (τ × Tree τ)} {text rest : List Char}
    (h : (Phrase.members false members).Begins spelling text rest) : Ends text := by
  cases h with
  | noMember hEnd =>
      exact ends_of_white hEnd (ends_cons (by decide) (by decide) (by decide) (by decide) _)
  | member hLead =>
      obtain ⟨more, hComma, -⟩ := hLead
      exact ends_of_white hComma (ends_cons (by decide) (by decide) (by decide) (by decide) _)

/-! ## Numbers -/

theorem skipNumber_digitChars {numeral : Numeral} (h : numeral.IsProper) {rest : List Char}
    (hRest : Ends rest) : skipNumber (numeral.digitChars ++ rest) = .ok rest := by
  rw [skipNumber, scanNumeral_digitChars h false .invalidNumber hRest]

/-- What is skipped as a number is one, with either sign. -/
theorem skipNumber_sound {text rest : List Char} (h : skipNumber text = .ok rest)
    (negative : Bool) : ∃ numeral : Numeral, numeral.IsProper ∧
      (if negative then ['-'] else []) ++ text = numeral.chars ++ rest := by
  revert h
  fun_cases skipNumber text with
  | case2 numeral behind hScan =>
      intro h
      cases h
      obtain ⟨hProper, -, hText⟩ := scanNumeral_sound hScan
      refine ⟨{ numeral with negative := negative }, ?_, ?_⟩
      · exact
          { whole := hProper.whole
            noLeadingZero := hProper.noLeadingZero
            fraction := hProper.fraction
            mark := hProper.mark
            sign := hProper.sign
            digits := hProper.digits }
      · rw [Numeral.chars_eq, hText, List.append_assoc]
        rfl
  | case1 =>
      intro h
      cases h

/-! ## Values are skipped -/

/-- Goes on from where a step ended. -/
def Progress.resume : Progress → Except Fault (List Char)
  | .done rest => .ok rest
  | .next stage rest => skipFrom stage rest

theorem skipFrom_eq_resume {stage : Stage} {text : List Char} {progress : Progress}
    (h : skipStep stage text = .ok progress) : skipFrom stage text = progress.resume := by
  fun_cases skipFrom stage text with
  | case1 fault hFault =>
      rw [h] at hFault
      cases hFault
  | case2 behind hDone =>
      rw [h] at hDone
      cases hDone
      rfl
  | case3 next behind hNext =>
      rw [h] at hNext
      cases hNext
      rfl

theorem skipFrom_eq_error {stage : Stage} {text : List Char} {fault : Fault}
    (h : skipStep stage text = .error fault) : skipFrom stage text = .error fault := by
  fun_cases skipFrom stage text with
  | case1 fault hFault =>
      rw [h] at hFault
      cases hFault
      rfl
  | case2 behind hDone =>
      rw [h] at hDone
      cases hDone
  | case3 next behind hNext =>
      rw [h] at hNext
      cases hNext

theorem skipFrom_congr {stage others : Stage} {text start : List Char}
    (h : skipStep stage text = skipStep others start) :
    skipFrom stage text = skipFrom others start := by
  cases hStep : skipStep others start with
  | ok progress => rw [skipFrom_eq_resume (h.trans hStep), skipFrom_eq_resume hStep]
  | error fault => rw [skipFrom_eq_error (h.trans hStep), skipFrom_eq_error hStep]

theorem skipStart_white {outer : List Frame} {text start : List Char} (h : White text start) :
    skipStart outer text = skipStart outer start := by
  rw [skipStart, skipStart, h.skipSpace_eq]

theorem skipFrom_value_white {outer : List Frame} {text start : List Char} (h : White text start) :
    skipFrom (.value outer) text = skipFrom (.value outer) start :=
  skipFrom_congr (skipStart_white h)

/-- What is looked for in a frame: the first item or one behind another. -/
def Frame.stage (frame : Frame) (outer : List Frame) : Bool → Stage
  | true => .opened frame outer
  | false => .filled frame outer

theorem skipFrom_closer {frame : Frame} {outer : List Frame} {first : Bool} {text rest : List Char}
    (h : White text (frame.closer :: rest)) :
    skipFrom (frame.stage outer first) text = (leaveValue outer rest).resume := by
  have hText : skipSpace text = frame.closer :: rest :=
    h.skipSpace_cons (by cases frame <;> decide)
  refine skipFrom_eq_resume ?_
  cases first <;> simp [Frame.stage, skipStep, hText]

theorem skipFrom_item {outer : List Frame} {first : Bool} {text start : List Char}
    (hLead : Lead first text start) {c : Char} {more : List Char} (hStart : start = c :: more)
    (hToken : isSpace c = false ∧ c ≠ ']' ∧ c ≠ '}') :
    skipFrom (Frame.array.stage outer first) text = skipFrom (.value (.array :: outer)) start := by
  subst hStart
  cases first with
  | true =>
      refine skipFrom_congr ?_
      have hText := White.skipSpace_cons hLead hToken.1
      simp [Frame.stage, skipStep, hText, Frame.closer, hToken.2.1, skipFirst]
  | false =>
      obtain ⟨behind, hComma, hWhite⟩ := hLead
      have hText := hComma.skipSpace_cons (by decide)
      have hStep : skipStep (Frame.array.stage outer false) text =
          .ok (.next (.value (.array :: outer)) behind) := by
        simp [Frame.stage, skipStep, hText, Frame.closer, skipSeparated]
      rw [skipFrom_eq_resume hStep, ← skipFrom_value_white hWhite, Progress.resume]

theorem skipKey_of_spells {key : τ} {text quoted behind colon : List Char}
    (hText : White text ('"' :: quoted)) (hKey : spelling.Spells key quoted behind)
    (hColon : White behind (':' :: colon)) : skipKey text = .ok colon := by
  rw [skipKey, hText.skipSpace_cons (by decide)]
  simp only [skipString_of_spells hKey, hColon.skipSpace_cons (by decide)]

theorem skipFrom_key {outer : List Frame} {first : Bool} {text quoted colon : List Char}
    (hLead : Lead first text ('"' :: quoted)) (hKey : skipKey ('"' :: quoted) = .ok colon) :
    skipFrom (Frame.object.stage outer first) text =
      skipFrom (.value (.object :: outer)) colon := by
  have hStep : skipStep (Frame.object.stage outer first) text =
      .ok (.next (.value (.object :: outer)) colon) := by
    cases first with
    | true =>
        have hText := White.skipSpace_cons hLead (by decide)
        simp [Frame.stage, skipStep, hText, Frame.closer, skipFirst, hKey, Except.map]
    | false =>
        obtain ⟨behind, hComma, hWhite⟩ := hLead
        have hText := hComma.skipSpace_cons (by decide)
        have hBehind : skipKey behind = .ok colon := by
          rw [← hKey, skipKey, skipKey, hWhite.skipSpace_eq]
        simp [Frame.stage, skipStep, hText, Frame.closer, skipSeparated, hBehind, Except.map]
  exact skipFrom_eq_resume hStep

/-- What the check does in front of a phrase: it goes on behind it, as behind a whole
value. A number needs to see its end. -/
def Phrase.IsSkipped : Phrase τ → List Char → List Char → Prop
  | .value _, text, rest =>
    Ends rest → ∀ outer, skipFrom (.value outer) text = (leaveValue outer rest).resume
  | .items first _, text, rest =>
    ∀ outer, skipFrom (Frame.array.stage outer first) text = (leaveValue outer rest).resume
  | .members first _, text, rest =>
    ∀ outer, skipFrom (Frame.object.stage outer first) text = (leaveValue outer rest).resume

/-- A digit is the beginning of a number. -/
theorem skipStart_digit {c : Char} (hDigit : c.isDigit = true) (outer : List Frame)
    (rest : List Char) :
    skipStart outer (c :: rest) = (skipNumber (c :: rest)).map (leaveValue outer) := by
  have hOpens : (Tree.number (τ := Unit) ⟨false, [], none, none⟩).Opens c := .inr hDigit
  rw [skipStart, (White.refl _).skipSpace_cons hOpens.token.1]
  split
  case h_1 h => cases h
  case h_9 h =>
    obtain ⟨rfl, rfl⟩ := List.cons.inj h
    rw [if_pos hDigit]
  case h_2 h | h_3 h | h_4 h | h_5 h | h_6 h | h_7 h | h_8 h =>
    rw [(List.cons.inj h).1] at hDigit
    exact absurd hDigit (by decide)

theorem skipStart_number {numeral : Numeral} (h : numeral.IsProper) {rest : List Char}
    (hRest : Ends rest) (outer : List Frame) :
    skipStart outer (numeral.chars ++ rest) = .ok (leaveValue outer rest) := by
  have hNumber := skipNumber_digitChars h hRest
  rw [Numeral.chars_eq]
  cases numeral.negative with
  | true => simp [skipStart, skipSpace, isSpace, hNumber, Except.map]
  | false =>
      obtain ⟨c, more, hDigits, hDigit⟩ := h.exists_digit
      have hStart := skipStart_digit hDigit outer (more ++ rest)
      rw [← List.cons_append, ← hDigits, hNumber] at hStart
      exact hStart

/-- Values are skipped: along the rules, every phrase is. -/
theorem isSkipped_of_begins {phrase : Phrase τ} {text rest : List Char}
    (h : phrase.Begins spelling text rest) : phrase.IsSkipped text rest := by
  induction h with
  | null rest =>
      intro _ outer
      refine skipFrom_eq_resume ?_
      simp [skipStep, skipStart, skipSpace, isSpace, readWord, Except.map]
  | boolean value rest =>
      intro _ outer
      refine skipFrom_eq_resume ?_
      cases value <;>
        simp [booleanText, skipStep, skipStart, skipSpace, isSpace, readWord, Except.map]
  | number hProper rest =>
      intro hRest outer
      exact skipFrom_eq_resume (skipStart_number hProper hRest outer)
  | string hContent =>
      intro _ outer
      refine skipFrom_eq_resume ?_
      simp [skipStep, skipStart, skipSpace, isSpace, skipString_of_spells hContent, Except.map]
  | @array _ text _ _ ih =>
      intro _ outer
      have hOpen :
          skipStep (.value outer) ('[' :: text) = .ok (.next (.opened .array outer) text) := by
        simp [skipStep, skipStart, skipSpace, isSpace]
      rw [skipFrom_eq_resume hOpen]
      exact ih outer
  | @object _ text _ _ ih =>
      intro _ outer
      have hOpen :
          skipStep (.value outer) ('{' :: text) = .ok (.next (.opened .object outer) text) := by
        simp [skipStep, skipStart, skipSpace, isSpace]
      rw [skipFrom_eq_resume hOpen]
      exact ih outer
  | noItem hEnd => exact fun outer => skipFrom_closer hEnd
  | item hLead hItem hItems ihItem ihItems =>
      intro outer
      obtain ⟨c, more, hStart, hOpens⟩ := exists_opener hItem
      rw [skipFrom_item hLead hStart hOpens.token, ihItem (ends_of_items hItems)]
      exact ihItems outer
  | noMember hEnd => exact fun outer => skipFrom_closer hEnd
  | member hLead hKey hColon hStart hValue hMembers ihValue ihMembers =>
      intro outer
      have hSkip := skipKey_of_spells (White.refl _) hKey hColon
      rw [skipFrom_key hLead hSkip, skipFrom_value_white hStart, ihValue (ends_of_members hMembers)]
      exact ihMembers outer

theorem skipValue_of_begins {tree : Tree τ} {text start rest : List Char} (hText : White text start)
    (h : (Phrase.value tree).Begins spelling start rest) (hRest : Ends rest) :
    skipValue text = .ok rest := by
  rw [skipValue, skipFrom_value_white hText]
  exact isSkipped_of_begins h hRest []

/-! ## What is skipped is a value -/

/-- Whether the first part of a text fills a frame, up to the end of it. -/
def Frame.Fills (first : Bool) : Frame → List Char → List Char → Prop
  | .array, text, rest => ∃ items, (Phrase.items first items).Begins .pieces text rest
  | .object, text, rest => ∃ members, (Phrase.members first members).Begins .pieces text rest

/-- Whether the first part of a text is what the open frames lack. -/
def Closes : List Frame → List Char → List Char → Prop
  | [], text, rest => text = rest
  | frame :: outer, text, rest => ∃ more, frame.Fills false text more ∧ Closes outer more rest

/-- Whether the first part of a text is what a stage lacks. -/
def Stage.Completes : Stage → List Char → List Char → Prop
  | .value outer, text, rest =>
    ∃ start tree more, White text start ∧ (Phrase.value tree).Begins .pieces start more ∧
      Closes outer more rest
  | .opened frame outer, text, rest =>
    ∃ more, frame.Fills true text more ∧ Closes outer more rest
  | .filled frame outer, text, rest => Closes (frame :: outer) text rest

/-- Whether the text that a step left begins with what is lacking then. -/
def Progress.Completes : Progress → List Char → Prop
  | .done text, rest => text = rest
  | .next stage text, rest => stage.Completes text rest

theorem leaveValue_completes {outer : List Frame} {text rest : List Char} :
    (leaveValue outer text).Completes rest ↔ Closes outer text rest := by
  cases outer <;> rfl

/-- A value that holds no other is left at once. -/
theorem completes_leaf {outer : List Frame} {reading : Except Fault (List Char)}
    {progress : Progress} {text start rest : List Char}
    (h : reading.map (leaveValue outer) = .ok progress) (hProgress : progress.Completes rest)
    (hText : White text start)
    (hLeaf : ∀ more, reading = .ok more →
      ∃ tree, (Phrase.value tree).Begins .pieces start more) :
    (Stage.value outer).Completes text rest := by
  cases reading with
  | error fault => cases h
  | ok more =>
      obtain rfl := Except.ok.inj h
      obtain ⟨tree, hTree⟩ := hLeaf more rfl
      exact ⟨start, tree, more, hText, hTree, leaveValue_completes.mp hProgress⟩

theorem skipStart_sound {outer : List Frame} {text rest : List Char} {progress : Progress}
    (h : skipStart outer text = .ok progress) (hProgress : progress.Completes rest) :
    (Stage.value outer).Completes text rest := by
  revert h
  fun_cases skipStart outer text with
  | case2 letters hHead =>
      intro h
      refine completes_leaf h hProgress (white_of_skipSpace hHead) ?_
      intro more hWord
      rw [readWord_sound hWord]
      exact ⟨.null, .null more⟩
  | case3 letters hHead =>
      intro h
      refine completes_leaf h hProgress (white_of_skipSpace hHead) ?_
      intro more hWord
      rw [readWord_sound hWord]
      exact ⟨.boolean true, .boolean true more⟩
  | case4 letters hHead =>
      intro h
      refine completes_leaf h hProgress (white_of_skipSpace hHead) ?_
      intro more hWord
      rw [readWord_sound hWord]
      exact ⟨.boolean false, .boolean false more⟩
  | case5 quoted hHead =>
      intro h
      refine completes_leaf h hProgress (white_of_skipSpace hHead) ?_
      intro more hString
      obtain ⟨pieces, hInside⟩ := skipString_sound hString
      exact ⟨.string pieces, .string hInside⟩
  | case6 digits hHead =>
      intro h
      refine completes_leaf h hProgress (white_of_skipSpace hHead) ?_
      intro more hNumber
      obtain ⟨numeral, hProper, hChars⟩ := skipNumber_sound hNumber true
      rw [if_pos rfl, List.singleton_append] at hChars
      rw [hChars]
      exact ⟨.number numeral, .number hProper more⟩
  | case7 inside hHead =>
      intro h
      cases h
      obtain ⟨more, ⟨items, hItems⟩, hOuter⟩ := hProgress
      exact ⟨_, .array items, more, white_of_skipSpace hHead, .array hItems, hOuter⟩
  | case8 inside hHead =>
      intro h
      cases h
      obtain ⟨more, ⟨members, hMembers⟩, hOuter⟩ := hProgress
      exact ⟨_, .object members, more, white_of_skipSpace hHead, .object hMembers, hOuter⟩
  | case9 c digits _ _ _ _ _ _ _ hHead hDigit =>
      intro h
      refine completes_leaf h hProgress (white_of_skipSpace hHead) ?_
      intro more hNumber
      obtain ⟨numeral, hProper, hChars⟩ := skipNumber_sound hNumber false
      rw [if_neg Bool.false_ne_true, List.nil_append] at hChars
      rw [hChars]
      exact ⟨.number numeral, .number hProper more⟩
  | case1 | case10 =>
      intro h
      cases h

theorem skipKey_sound {text rest : List Char} (h : skipKey text = .ok rest) :
    ∃ quoted key behind, White text ('"' :: quoted) ∧ Inside key quoted behind ∧
      White behind (':' :: rest) := by
  revert h
  fun_cases skipKey text with
  | case2 quoted hQuote behind hString more hColon =>
      intro h
      cases h
      obtain ⟨key, hInside⟩ := skipString_sound hString
      exact ⟨quoted, key, behind, white_of_skipSpace hQuote, hInside, white_of_skipSpace hColon⟩
  | case1 | case3 | case4 | case5 | case6 =>
      intro h
      cases h

/-- A key leaves its value to be looked for, and the rest of its object. -/
theorem completes_member {outer : List Frame} {first : Bool} {lead text rest : List Char}
    {progress : Progress}
    (h : (skipKey text).map (.next (.value (.object :: outer))) = .ok progress)
    (hProgress : progress.Completes rest)
    (hLead : ∀ start, White text start → Lead first lead start) :
    ∃ more, Frame.object.Fills first lead more ∧ Closes outer more rest := by
  cases hKey : skipKey text with
  | error fault =>
      rw [hKey] at h
      cases h
  | ok colon =>
      rw [hKey] at h
      obtain rfl := Except.ok.inj h
      obtain ⟨quoted, key, behind, hText, hInside, hColon⟩ := skipKey_sound hKey
      obtain ⟨start, value, more, hStart, hValue, last, ⟨members, hMembers⟩, hOuter⟩ := hProgress
      exact ⟨last, ⟨(key, value) :: members,
        .member (hLead _ hText) hInside hColon hStart hValue hMembers⟩, hOuter⟩

/-- An item leaves the rest of its array to be looked for. -/
theorem completes_item {outer : List Frame} {first : Bool} {lead text rest : List Char}
    (h : (Stage.value (.array :: outer)).Completes text rest)
    (hLead : ∀ start, White text start → Lead first lead start) :
    ∃ more, Frame.array.Fills first lead more ∧ Closes outer more rest := by
  obtain ⟨start, item, more, hStart, hItem, last, ⟨items, hItems⟩, hOuter⟩ := h
  exact ⟨last, ⟨item :: items, .item (hLead _ hStart) hItem hItems⟩, hOuter⟩

theorem fills_nil {frame : Frame} {first : Bool} {text rest : List Char}
    (h : White text (frame.closer :: rest)) : frame.Fills first text rest := by
  cases frame with
  | array => exact ⟨[], .noItem h⟩
  | object => exact ⟨[], .noMember h⟩

/-- What a step was to do is done when what it leaves is done. -/
theorem skipStep_sound {stage : Stage} {text rest : List Char} {progress : Progress}
    (h : skipStep stage text = .ok progress) (hProgress : progress.Completes rest) :
    stage.Completes text rest := by
  revert h
  fun_cases skipStep stage text with
  | case1 outer => exact fun h => skipStart_sound h hProgress
  | case3 frame outer behind hHead | case6 frame outer behind hHead =>
      intro h
      cases h
      exact ⟨behind, fills_nil (white_of_skipSpace hHead), leaveValue_completes.mp hProgress⟩
  | case4 frame outer c behind hHead hOpen =>
      intro h
      have hText := white_of_skipSpace hHead
      cases frame with
      | array => exact completes_item (skipStart_sound h hProgress) fun _ => hText.trans
      | object => exact completes_member h hProgress fun _ => hText.trans
  | case7 frame outer behind hHead hOpen =>
      intro h
      have hComma := white_of_skipSpace hHead
      cases frame with
      | array =>
          cases h
          exact completes_item hProgress fun _ hStart => ⟨behind, hComma, hStart⟩
      | object => exact completes_member h hProgress fun _ hStart => ⟨behind, hComma, hStart⟩
  | case2 | case5 | case8 =>
      intro h
      cases h

theorem skipFrom_sound {stage : Stage} {text rest : List Char}
    (h : skipFrom stage text = .ok rest) : stage.Completes text rest := by
  revert h
  fun_induction skipFrom stage text with
  | case2 stage text behind hStep =>
      intro h
      exact skipStep_sound hStep (Except.ok.inj h)
  | case3 stage text next behind hStep ih =>
      intro h
      exact skipStep_sound hStep (ih h)
  | case1 =>
      intro h
      cases h

theorem skipValue_sound {text rest : List Char} (h : skipValue text = .ok rest) :
    ∃ start tree, White text start ∧ (Phrase.value tree).Begins .pieces start rest := by
  obtain ⟨start, tree, more, hText, hTree, rfl⟩ := skipFrom_sound h
  exact ⟨start, tree, hText, hTree⟩

end SlotGrid.Json
