import Mathlib.Data.List.Basic
import Mathlib.Data.List.Forall2
import Mathlib.Data.Option.Basic
import SlotGrid.CommandLine
import SlotGrid.Proofs.TextParts

/-!
# What a list of arguments asks for

Arguments are read one by one, but what they ask for is a matter of their kinds:
the last configuration counts, contents and attributes add up in their order, and
attributes are set last of all. That is `Options.Extends`, which holds of one
argument and is passed on from two lists to the longer one, so that nothing but
the arguments of each kind is left to compare when the kinds are mixed in another
way. Whether an argument is unusable does not depend on those before it, only
which of them is blamed.

## Main definitions

* `IsFault`, `Unusable` — what is wrong with an argument on its own;
  `IsFirstFault` — the fault of the first unusable argument.
* `Reads` — what an argument can be, by its text.
* `Options.Extends` — what arguments make of options.
* `Options.Collects`, with `IsLastConfig`, `Fills` and `Assigns` — what options hold
  that were read from arguments.
* `SameRequests` — arguments that agree kind by kind.
* `Answers` — what comes of a list of arguments.

## Main results

* `ofText_eq_iff` — what an argument is read as.
* `take_eq_error_iff`, `foldlM_take_eq_error_iff` — the fault of an argument and of
  a list of them.
* `extends_take`, `extends_foldlM` — what an argument adds, and what a list adds.
* `SameRequests.run_eq` — arguments that agree kind by kind end the program alike.
* `run_answers` — what the program does with its arguments.
-/

namespace SlotGrid.CommandLine

open Slotting (SlottedContent)

/-! ## Reading an argument -/

/-- Whether an argument is an attribute: it does not start like an option, or it
starts like a custom property. -/
def isAttribute (argument : String) : Bool :=
  !"--".toList.isPrefixOf argument.toList || "--dd-".toList.isPrefixOf argument.toList

/-- The name and the value of an attribute; without an equals sign the value is
empty. -/
def nameAndValue (argument : String) : String × String :=
  (Text.cut? '=' argument).getD (argument, "")

/-- Whether an argument looks like an option, but is none. -/
def IsUnknownOption (argument : String) : Prop :=
  isAttribute argument = false ∧ argument ≠ "--json" ∧
    (∀ text, argument ≠ "--config=" ++ text) ∧ ∀ payload, argument ≠ "--slot=" ++ payload

/-- What is wrong with an argument on its own. -/
inductive IsFault : String → Fault → Prop
  | config {text : String} {fault : Json.Fault} (h : Config.ofJson text = .error fault) :
      IsFault ("--config=" ++ text) (.config text fault)
  | slot {payload : String} (h : ':' ∉ payload.toList) :
      IsFault ("--slot=" ++ payload) (.slotWithoutName ("--slot=" ++ payload))
  | unknown {argument : String} (h : IsUnknownOption argument) :
      IsFault argument (.unknownOption argument)

/-- Whether something is wrong with an argument. -/
def Unusable (argument : String) : Prop := ∃ fault, IsFault argument fault

/-- What an argument can be, by its text. -/
inductive Reads : String → Argument → Prop
  | json : Reads "--json" .json
  | config (text : String) : Reads ("--config=" ++ text) (.config text)
  | slot (payload : String) : Reads ("--slot=" ++ payload) (.slot payload)
  | unknown {argument : String} (h : IsUnknownOption argument) : Reads argument .unknown
  | assignment {argument : String} (h : isAttribute argument = true) :
      Reads argument (.assignment (nameAndValue argument).1 (nameAndValue argument).2)

/-- What makes an argument an attribute, in the order in which it is tested. -/
theorem isAttribute_eq (argument : String) :
    isAttribute argument =
      !((Text.after? "--" argument).isSome && (Text.after? "--dd-" argument).isNone) := by
  rw [isAttribute, ← Text.isSome_after?, ← Text.isSome_after?, Bool.not_and, Option.not_isNone]

/-- What does not look like an option is read as the name and the value in it. -/
private theorem reads_assignment {argument name value : String}
    (hOption : ¬ ((Text.after? "--" argument).isSome &&
      (Text.after? "--dd-" argument).isNone) = true)
    (hPair : nameAndValue argument = (name, value)) : Reads argument (.assignment name value) := by
  have hLooks : isAttribute argument = true := by
    rw [Bool.not_eq_true] at hOption
    rw [isAttribute_eq, hOption, Bool.not_false]
  have hRead := Reads.assignment hLooks
  rwa [hPair] at hRead

theorem reads_ofText (argument : String) : Reads argument (Argument.ofText argument) := by
  fun_cases Argument.ofText argument with
  | case1 hJson =>
      rw [hJson]
      exact .json
  | case2 hJson text hConfig =>
      rw [Text.after?_eq_some_iff.mp hConfig]
      exact .config text
  | case3 hJson payload hSlot hConfig =>
      rw [Text.after?_eq_some_iff.mp hSlot]
      exact .slot payload
  | case4 hJson hOption hConfig hSlot =>
      have hLooks : isAttribute argument = false := by
        rw [isAttribute_eq, hOption, Bool.not_true]
      refine .unknown ⟨hLooks, hJson, ?_, ?_⟩
      · intro text hText
        exact hConfig text (Text.after?_eq_some_iff.mpr hText)
      · intro payload hPayload
        exact hSlot payload (Text.after?_eq_some_iff.mpr hPayload)
  | case5 hJson hOption name value hCut hConfig hSlot =>
      exact reads_assignment hOption (by rw [nameAndValue, hCut, Option.getD_some])
  | case6 hJson hOption hConfig hSlot hCut =>
      have hNone : Text.cut? '=' argument = none := by
        rw [Option.eq_none_iff_forall_ne_some]
        intro pair hSome
        exact hCut pair.1 pair.2 hSome
      exact reads_assignment hOption (by rw [nameAndValue, hNone, Option.getD_none])

/-! ## Arguments of one kind -/

theorem isAttribute_config (text : String) : isAttribute ("--config=" ++ text) = false := by
  rw [isAttribute, String.toList_append]
  rfl

theorem isAttribute_slot (payload : String) : isAttribute ("--slot=" ++ payload) = false := by
  rw [isAttribute, String.toList_append]
  rfl

/-- The text of an argument that gives a configuration. -/
def Argument.configText? : Argument → Option String
  | .config text => some text
  | _ => none

/-- What an argument that fills a slot says. -/
def Argument.slotPayload? : Argument → Option String
  | .slot payload => some payload
  | _ => none

/-- The name and the value of an attribute. -/
def Argument.assignment? : Argument → Option (String × String)
  | .assignment name value => some (name, value)
  | _ => none

/-- A text that the argument does not start with cannot be taken off it. -/
private theorem after?_eq_none {start argument : String} (h : ∀ text, argument ≠ start ++ text) :
    Text.after? start argument = none := by
  rw [Option.eq_none_iff_forall_ne_some]
  intro text hText
  exact h text (Text.after?_eq_some_iff.mp hText)

theorem configText?_of_reads {argument : String} {read : Argument} (h : Reads argument read) :
    read.configText? = Text.after? "--config=" argument := by
  cases h with
  | json => rfl
  | config text => exact (Text.after?_eq_some_iff.mpr rfl).symm
  | slot payload =>
      rw [Text.after?, String.toList_append]
      rfl
  | unknown h => exact (after?_eq_none h.2.2.1).symm
  | assignment h =>
      refine (after?_eq_none ?_).symm
      rintro text rfl
      rw [isAttribute_config] at h
      cases h

theorem slotPayload?_of_reads {argument : String} {read : Argument} (h : Reads argument read) :
    read.slotPayload? = Text.after? "--slot=" argument := by
  cases h with
  | json => rfl
  | config text =>
      rw [Text.after?, String.toList_append]
      rfl
  | slot payload => exact (Text.after?_eq_some_iff.mpr rfl).symm
  | unknown h => exact (after?_eq_none h.2.2.2).symm
  | assignment h =>
      refine (after?_eq_none ?_).symm
      rintro payload rfl
      rw [isAttribute_slot] at h
      cases h

theorem assignment?_of_reads {argument : String} {read : Argument} (h : Reads argument read) :
    read.assignment? = if isAttribute argument then some (nameAndValue argument) else none := by
  cases h with
  | json => rfl
  | config text =>
      rw [isAttribute_config]
      rfl
  | slot payload =>
      rw [isAttribute_slot]
      rfl
  | unknown h =>
      rw [h.1]
      rfl
  | assignment h =>
      rw [h]
      rfl

theorem eq_json_iff_of_reads {argument : String} {read : Argument} (h : Reads argument read) :
    read = .json ↔ argument = "--json" := by
  have hJson (start : String) (hStart : Text.after? start "--json" = none) (text : String) :
      start ++ text ≠ "--json" := by
    intro hText
    rw [Text.after?_eq_some_iff.mpr hText.symm] at hStart
    cases hStart
  cases h with
  | json => simp
  | config text => simp [hJson "--config=" rfl text]
  | slot payload => simp [hJson "--slot=" rfl payload]
  | unknown h => simp [h.2.1]
  | assignment h =>
      simp only [reduceCtorEq, false_iff]
      rintro rfl
      exact absurd h (by decide)

/-- An argument is what its text says, and nothing else. -/
theorem ofText_eq_iff {argument : String} {read : Argument} :
    Argument.ofText argument = read ↔ Reads argument read := by
  constructor
  · rintro rfl
    exact reads_ofText argument
  · intro h
    -- an argument is told by its parts, and the parts by the text
    have hOther := reads_ofText argument
    generalize Argument.ofText argument = other at hOther
    have hJson : other = .json ↔ read = .json := by
      rw [eq_json_iff_of_reads hOther, eq_json_iff_of_reads h]
    have hConfig : other.configText? = read.configText? := by
      rw [configText?_of_reads hOther, configText?_of_reads h]
    have hSlot : other.slotPayload? = read.slotPayload? := by
      rw [slotPayload?_of_reads hOther, slotPayload?_of_reads h]
    have hAssignment : other.assignment? = read.assignment? := by
      rw [assignment?_of_reads hOther, assignment?_of_reads h]
    cases other <;> cases read <;>
      simp_all [Argument.configText?, Argument.slotPayload?, Argument.assignment?]

/-! ## Faults -/

/-- An argument is refused for what is wrong with it on its own. -/
theorem take_eq_error_iff (options : Options) {argument : String} {fault : Fault} :
    options.take argument = .error fault ↔ IsFault argument fault := by
  constructor
  · intro h
    have hRead := reads_ofText argument
    rw [Options.take] at h
    generalize Argument.ofText argument = read at hRead h
    cases hRead with
    | json => cases h
    | config text =>
        cases hConfig : Config.ofJson text with
        | ok config => simp [hConfig] at h
        | error reason =>
            simp [hConfig] at h
            rw [← h]
            exact .config hConfig
    | slot payload =>
        cases hCut : Text.cut? ':' payload with
        | some parts => simp [hCut] at h
        | none =>
            simp [hCut] at h
            rw [← h]
            exact .slot (Text.cut?_eq_none_iff.mp hCut)
    | unknown hUnknown =>
        obtain rfl := Except.error.inj h
        exact .unknown hUnknown
    | assignment _ => cases h
  · intro h
    cases h with
    | config hConfig =>
        rw [Options.take, ofText_eq_iff.mpr (.config _)]
        simp only [hConfig]
    | slot hMark =>
        rw [Options.take, ofText_eq_iff.mpr (.slot _)]
        simp only [Text.cut?_of_notMem hMark]
    | unknown hUnknown =>
        rw [Options.take, ofText_eq_iff.mpr (.unknown hUnknown)]

theorem unusable_iff (options : Options) {argument : String} :
    Unusable argument ↔ ∃ fault, options.take argument = .error fault :=
  exists_congr fun _ => (take_eq_error_iff options).symm

/-- Whether a fault is that of the first unusable argument. -/
def IsFirstFault (arguments : List String) (fault : Fault) : Prop :=
  ∃ before argument after, arguments = before ++ argument :: after ∧
    (∀ other ∈ before, ¬ Unusable other) ∧ IsFault argument fault

theorem isFirstFault_cons_iff {argument : String} {rest : List String} {fault : Fault} :
    IsFirstFault (argument :: rest) fault ↔
      IsFault argument fault ∨ ¬ Unusable argument ∧ IsFirstFault rest fault := by
  constructor
  · rintro ⟨before, other, after, hArguments, hBefore, hFault⟩
    cases before with
    | nil =>
        obtain ⟨rfl, -⟩ := List.cons.inj hArguments
        exact Or.inl hFault
    | cons first before =>
        obtain ⟨rfl, hRest⟩ := List.cons.inj hArguments
        obtain ⟨hFirst, hMore⟩ := List.forall_mem_cons.mp hBefore
        exact Or.inr ⟨hFirst, before, other, after, hRest, hMore, hFault⟩
  · rintro (hFault | ⟨hUsable, before, other, after, rfl, hBefore, hFault⟩)
    · exact ⟨[], argument, rest, rfl, by simp, hFault⟩
    · exact ⟨argument :: before, other, after, rfl,
        List.forall_mem_cons.mpr ⟨hUsable, hBefore⟩, hFault⟩

/-- Reading arguments ends with the fault of the first one that is unusable. -/
theorem foldlM_take_eq_error_iff {options : Options} {arguments : List String} {fault : Fault} :
    arguments.foldlM Options.take options = .error fault ↔ IsFirstFault arguments fault := by
  induction arguments generalizing options with
  | nil =>
      constructor
      · intro h
        cases h
      · rintro ⟨before, argument, after, hNil, -⟩
        exact absurd hNil (by simp)
  | cons argument rest ih =>
      rw [List.foldlM_cons, isFirstFault_cons_iff]
      cases hTake : options.take argument with
      | error other =>
          have hUnusable : Unusable argument := ⟨other, (take_eq_error_iff options).mp hTake⟩
          show Except.error other = .error fault ↔ _
          rw [← take_eq_error_iff options, hTake]
          simp [hUnusable]
      | ok next =>
          have hUsable : ¬ Unusable argument := by
            rw [unusable_iff options, hTake]
            simp
          have hNoFault : ¬ IsFault argument fault := fun h => hUsable ⟨fault, h⟩
          show rest.foldlM Options.take next = .error fault ↔ _
          rw [ih]
          simp [hUsable, hNoFault]

/-- There is a first fault wherever there is an unusable argument. -/
theorem exists_isFirstFault_iff {arguments : List String} :
    (∃ fault, IsFirstFault arguments fault) ↔ ∃ argument ∈ arguments, Unusable argument := by
  constructor
  · rintro ⟨fault, before, argument, after, rfl, -, hFault⟩
    exact ⟨argument, by simp, fault, hFault⟩
  · rintro ⟨argument, hMem, hUnusable⟩
    induction arguments with
    | nil => cases hMem
    | cons first rest ih =>
        by_cases hFirst : Unusable first
        · obtain ⟨fault, hFault⟩ := hFirst
          exact ⟨fault, isFirstFault_cons_iff.mpr (Or.inl hFault)⟩
        · have hRest : argument ∈ rest := by
            rcases List.mem_cons.mp hMem with rfl | hRest
            · exact absurd hUnusable hFirst
            · exact hRest
          obtain ⟨fault, hFault⟩ := ih hRest
          exact ⟨fault, isFirstFault_cons_iff.mpr (Or.inr ⟨hFirst, hFault⟩)⟩

/-! ## What arguments add up to -/

/-- The content that an argument asks for, by what it says behind its mark. -/
def contentOf? (payload : String) : Option SlottedContent :=
  (Text.cut? ':' payload).map fun parts => ⟨some parts.1, .text parts.2⟩

/-- Whether a configuration is the one that the last of these texts holds; without
a text it is `start`. -/
def IsLastConfig (start : Config) (texts : List String) (config : Config) : Prop :=
  match texts.getLast? with
  | none => config = start
  | some text => Config.ofJson text = .ok config

theorem IsLastConfig.append {start next last : Config} {texts others : List String}
    (hTexts : IsLastConfig start texts next) (hOthers : IsLastConfig next others last) :
    IsLastConfig start (texts ++ others) last := by
  unfold IsLastConfig at *
  rw [List.getLast?_append]
  cases hLast : others.getLast? with
  | none =>
      rw [hLast] at hOthers
      simp only at hOthers
      rw [hOthers]
      exact hTexts
  | some text =>
      rw [hLast] at hOthers
      exact hOthers

theorem IsLastConfig.unique {start config other : Config} {texts : List String}
    (h : IsLastConfig start texts config) (hOther : IsLastConfig start texts other) :
    config = other := by
  unfold IsLastConfig at *
  cases hLast : texts.getLast? with
  | none =>
      rw [hLast] at h hOther
      exact h.trans hOther.symm
  | some text =>
      rw [hLast] at h hOther
      exact Except.ok.inj (h.symm.trans hOther)

/-- What arguments make of options: each kind of them adds up on its own. -/
structure Options.Extends (start : Options) (arguments : List String) (result : Options) :
    Prop where
  json_iff : result.json = true ↔ start.json = true ∨ "--json" ∈ arguments
  config : IsLastConfig start.config (arguments.filterMap (Text.after? "--config="))
    result.config
  slots_eq : result.slots.map some =
    start.slots.map some ++ (arguments.filterMap (Text.after? "--slot=")).map contentOf?
  assignments_eq : result.assignments =
    start.assignments ++ (arguments.filter isAttribute).map nameAndValue

theorem Options.Extends.append {start next last : Options} {arguments others : List String}
    (h : start.Extends arguments next) (hOthers : next.Extends others last) :
    start.Extends (arguments ++ others) last where
  json_iff := by
    rw [hOthers.json_iff, h.json_iff, List.mem_append, or_assoc]
  config := by
    rw [List.filterMap_append]
    exact h.config.append hOthers.config
  slots_eq := by
    rw [hOthers.slots_eq, h.slots_eq, List.filterMap_append, List.map_append, List.append_assoc]
  assignments_eq := by
    rw [hOthers.assignments_eq, h.assignments_eq, List.filter_append, List.map_append,
      List.append_assoc]

private theorem filterMap_lone {α β : Type} (f : α → Option β) (item : α) :
    [item].filterMap f = (f item).toList := by
  cases hItem : f item with
  | none => rw [List.filterMap_cons_none hItem]; rfl
  | some value => rw [List.filterMap_cons_some hItem]; rfl

/-- One argument adds what it is read as. -/
theorem extends_singleton {start result : Options} {argument : String} {read : Argument}
    (hRead : Reads argument read)
    (hJson : result.json = true ↔ start.json = true ∨ read = .json)
    (hConfig : IsLastConfig start.config read.configText?.toList result.config)
    (hSlots : result.slots.map some =
      start.slots.map some ++ read.slotPayload?.toList.map contentOf?)
    (hAssignments : result.assignments = start.assignments ++ read.assignment?.toList) :
    start.Extends [argument] result where
  json_iff := by
    rw [hJson, eq_json_iff_of_reads hRead, List.mem_singleton, Eq.comm (a := argument)]
  config := by
    rwa [filterMap_lone, ← configText?_of_reads hRead]
  slots_eq := by
    rwa [filterMap_lone, ← slotPayload?_of_reads hRead]
  assignments_eq := by
    rw [hAssignments, assignment?_of_reads hRead]
    by_cases hAttribute : isAttribute argument = true
    · simp [hAttribute]
    · simp [hAttribute]

/-- A usable argument adds what its kind adds. -/
theorem extends_take {options next : Options} {argument : String}
    (h : options.take argument = .ok next) : options.Extends [argument] next := by
  have hRead := reads_ofText argument
  rw [Options.take] at h
  generalize Argument.ofText argument = read at h hRead
  cases read with
  | json =>
      obtain rfl := Except.ok.inj h
      exact extends_singleton hRead (by simp) rfl (List.append_nil _).symm (List.append_nil _).symm
  | config text =>
      cases hConfig : Config.ofJson text with
      | error fault => simp [hConfig] at h
      | ok config =>
          simp only [hConfig] at h
          obtain rfl := Except.ok.inj h
          exact extends_singleton hRead (by simp) hConfig (List.append_nil _).symm
            (List.append_nil _).symm
  | slot payload =>
      cases hCut : Text.cut? ':' payload with
      | none => simp [hCut] at h
      | some parts =>
          simp only [hCut] at h
          obtain rfl := Except.ok.inj h
          refine extends_singleton hRead (by simp) rfl ?_ (List.append_nil _).symm
          simp [Argument.slotPayload?, contentOf?, hCut]
  | unknown => cases h
  | assignment name value =>
      obtain rfl := Except.ok.inj h
      exact extends_singleton hRead (by simp) rfl (List.append_nil _).symm rfl

/-- All arguments together add what their kinds add. -/
theorem extends_foldlM {options result : Options} {arguments : List String}
    (h : arguments.foldlM Options.take options = .ok result) :
    options.Extends arguments result := by
  induction arguments generalizing options with
  | nil =>
      obtain rfl := Except.ok.inj h
      exact ⟨by simp, rfl, (List.append_nil _).symm, (List.append_nil _).symm⟩
  | cons argument rest ih =>
      rw [List.foldlM_cons] at h
      cases hTake : options.take argument with
      | error fault =>
          rw [hTake] at h
          cases h
      | ok next =>
          rw [hTake] at h
          exact (extends_take hTake).append (ih h)

/-! ## Runs -/

/-- What an argument that fills a slot asks for: the name of the slot ends at the
first colon. -/
def Fills (payload : String) (child : SlottedContent) : Prop :=
  ∃ name text, ':' ∉ name.toList ∧ payload = name ++ ":" ++ text ∧ child = ⟨some name, .text text⟩

/-- What an attribute assigns: its name ends at the first equals sign, and without
one the value is empty. -/
def Assigns (argument : String) (pair : String × String) : Prop :=
  ('=' ∉ argument.toList ∧ pair = (argument, "")) ∨
    ('=' ∉ pair.1.toList ∧ argument = pair.1 ++ "=" ++ pair.2)

/-- What options hold that were read from arguments. -/
structure Options.Collects (options : Options) (arguments : List String) : Prop where
  json_iff : options.json = true ↔ "--json" ∈ arguments
  slots : List.Forall₂ Fills (arguments.filterMap (Text.after? "--slot=")) options.slots
  assignments : List.Forall₂ Assigns (arguments.filter isAttribute) options.assignments
  /-- Attributes are set one by one after the last configuration, wherever they
  stand; a name that means none changes nothing. -/
  finalConfig : ∃ base : Config,
    IsLastConfig .default (arguments.filterMap (Text.after? "--config=")) base ∧
      options.finalConfig = options.assignments.foldl
        (fun config pair => (config.setNamed? pair.1 pair.2).getD config) base

/-- Arguments that ask for the same, kind by kind, in whatever way the kinds are
mixed. -/
structure SameRequests (arguments others : List String) : Prop where
  json_iff : "--json" ∈ arguments ↔ "--json" ∈ others
  configs_eq : arguments.filterMap (Text.after? "--config=") =
    others.filterMap (Text.after? "--config=")
  slots_eq : arguments.filterMap (Text.after? "--slot=") =
    others.filterMap (Text.after? "--slot=")
  attributes_eq : arguments.filter isAttribute = others.filter isAttribute
  unknown_iff : (∃ argument ∈ arguments, IsUnknownOption argument) ↔
    ∃ other ∈ others, IsUnknownOption other

theorem fills_of_contentOf? {payload : String} {child : SlottedContent}
    (h : contentOf? payload = some child) : Fills payload child := by
  obtain ⟨⟨name, text⟩, hCut, rfl⟩ := Option.map_eq_some_iff.mp h
  obtain ⟨hFree, hText⟩ := Text.cut?_eq_some_iff.mp hCut
  refine ⟨name, text, hFree, ?_, rfl⟩
  rw [← String.toList_inj, hText]
  simp

theorem assigns_nameAndValue (argument : String) : Assigns argument (nameAndValue argument) := by
  rw [nameAndValue]
  cases hCut : Text.cut? '=' argument with
  | none => exact Or.inl ⟨Text.cut?_eq_none_iff.mp hCut, rfl⟩
  | some pair =>
      obtain ⟨hFree, hText⟩ := Text.cut?_eq_some_iff.mp hCut
      refine Or.inr ⟨hFree, ?_⟩
      rw [← String.toList_inj, hText]
      simp

theorem collects_of_extends {options : Options} {arguments : List String}
    (h : Options.default.Extends arguments options) : options.Collects arguments where
  json_iff := by
    rw [h.json_iff]
    simp [Options.default]
  slots := by
    have hSlots := h.slots_eq
    rw [Options.default, List.map_nil, List.nil_append, eq_comm, ← List.forall₂_eq_eq_eq,
      List.forall₂_map_left_iff, List.forall₂_map_right_iff] at hSlots
    exact hSlots.imp fun _ _ hContent => fills_of_contentOf? hContent
  assignments := by
    rw [h.assignments_eq, Options.default, List.nil_append, List.forall₂_map_right_iff,
      List.forall₂_same]
    intro argument _
    exact assigns_nameAndValue argument
  finalConfig := ⟨options.config, h.config, rfl⟩

/-- The kinds tell whether there is an unusable argument. -/
theorem exists_unusable_iff (arguments : List String) :
    (∃ argument ∈ arguments, Unusable argument) ↔
      (∃ text ∈ arguments.filterMap (Text.after? "--config="),
        ∃ fault, Config.ofJson text = .error fault) ∨
      (∃ payload ∈ arguments.filterMap (Text.after? "--slot="), ':' ∉ payload.toList) ∨
      ∃ argument ∈ arguments, IsUnknownOption argument := by
  simp only [List.mem_filterMap, Text.after?_eq_some_iff]
  constructor
  · rintro ⟨argument, hMem, fault, hFault⟩
    cases hFault with
    | @config text reason h => exact Or.inl ⟨text, ⟨_, hMem, rfl⟩, reason, h⟩
    | @slot payload h => exact Or.inr (Or.inl ⟨payload, ⟨_, hMem, rfl⟩, h⟩)
    | unknown h => exact Or.inr (Or.inr ⟨argument, hMem, h⟩)
  · rintro (⟨text, ⟨_, hMem, rfl⟩, reason, h⟩ | ⟨payload, ⟨_, hMem, rfl⟩, h⟩ | ⟨argument, hMem, h⟩)
    · exact ⟨_, hMem, _, .config h⟩
    · exact ⟨_, hMem, _, .slot h⟩
    · exact ⟨_, hMem, _, .unknown h⟩

theorem SameRequests.exists_unusable_iff {arguments others : List String}
    (h : SameRequests arguments others) :
    (∃ argument ∈ arguments, Unusable argument) ↔ ∃ other ∈ others, Unusable other := by
  rw [CommandLine.exists_unusable_iff, CommandLine.exists_unusable_iff, h.configs_eq, h.slots_eq,
    h.unknown_iff]

theorem SameRequests.options_eq {arguments others : List String} (h : SameRequests arguments others)
    {start result last : Options} (hResult : start.Extends arguments result)
    (hLast : start.Extends others last) : last = result := by
  have hJson : last.json = result.json := by
    rw [Bool.eq_iff_iff, hLast.json_iff, hResult.json_iff, h.json_iff]
  have hConfig : last.config = result.config := by
    have hOther := hResult.config
    rw [h.configs_eq] at hOther
    exact hLast.config.unique hOther
  have hSlots : last.slots.map some = result.slots.map some := by
    rw [hLast.slots_eq, hResult.slots_eq, h.slots_eq]
  have hAssignments : last.assignments = result.assignments := by
    rw [hLast.assignments_eq, hResult.assignments_eq, h.attributes_eq]
  have hInjective : Function.Injective (List.map some) :=
    List.map_injective_iff.mpr (Option.some_injective SlottedContent)
  cases last
  cases result
  simp only at hJson hConfig hSlots hAssignments
  rw [hJson, hConfig, hInjective hSlots, hAssignments]

/-- What comes of a list of arguments, whatever they are. -/
structure Answers (arguments : List String) : Prop where
  /-- Arguments are refused if one of them is unusable on its own, and only then. -/
  refused_iff : (∃ fault, Options.ofArguments arguments = .error fault) ↔
    ∃ argument ∈ arguments, Unusable argument
  /-- The fault is that of the first such argument. -/
  fault_iff : ∀ fault, Options.ofArguments arguments = .error fault ↔ IsFirstFault arguments fault
  /-- A refused list of arguments prints nothing. -/
  run_refused : ∀ fault, IsFirstFault arguments fault → run arguments =
    ⟨1, "", [⟨.error, source "", "error: " ++ fault.message⟩]⟩
  /-- Usable arguments add up, kind by kind, and the grid that they ask for is printed. -/
  run_accepted : (∀ argument ∈ arguments, ¬ Unusable argument) →
    ∃ options, Options.ofArguments arguments = .ok options ∧ options.Collects arguments ∧
      (run arguments).exitCode = 0 ∧
      (run arguments).output =
        (if "--json" ∈ arguments then
          String.ofList ((Markup.snapshot
            ((Component.new options.finalConfig).compose options.slots)).pretty 0)
        else Markup.html ((Component.new options.finalConfig).compose options.slots)) ++ "\n"
  /-- It does not matter how the kinds of arguments are mixed. -/
  mixed : ∀ others, SameRequests arguments others →
    (run others).exitCode = (run arguments).exitCode ∧
      (run others).output = (run arguments).output ∧
      ((run arguments).exitCode = 0 → run others = run arguments)

theorem run_of_ok {arguments : List String} {options : Options}
    (h : Options.ofArguments arguments = .ok options) :
    run arguments = ⟨0, options.output ++ "\n", options.records⟩ := by
  rw [run, h]

theorem run_of_error {arguments : List String} {fault : Fault}
    (h : Options.ofArguments arguments = .error fault) :
    run arguments = ⟨1, "", [⟨.error, source "", "error: " ++ fault.message⟩]⟩ := by
  rw [run, h]

theorem ofArguments_eq_error_iff {arguments : List String} {fault : Fault} :
    Options.ofArguments arguments = .error fault ↔ IsFirstFault arguments fault :=
  foldlM_take_eq_error_iff

/-- Arguments are refused or not by whether one of them is unusable. -/
theorem ofArguments_refused_iff (arguments : List String) :
    (∃ fault, Options.ofArguments arguments = .error fault) ↔
      ∃ argument ∈ arguments, Unusable argument := by
  rw [← exists_isFirstFault_iff]
  exact exists_congr fun _ => ofArguments_eq_error_iff

theorem exists_ofArguments_eq_ok {arguments : List String}
    (h : ∀ argument ∈ arguments, ¬ Unusable argument) :
    ∃ options, Options.ofArguments arguments = .ok options ∧
      Options.default.Extends arguments options := by
  cases hRead : Options.ofArguments arguments with
  | ok options => exact ⟨options, rfl, extends_foldlM hRead⟩
  | error fault =>
      obtain ⟨argument, hMem, hUnusable⟩ := (ofArguments_refused_iff arguments).mp ⟨fault, hRead⟩
      exact absurd hUnusable (h argument hMem)

theorem Options.Collects.output_eq {options : Options} {arguments : List String}
    (h : options.Collects arguments) :
    options.output =
      if "--json" ∈ arguments then
        String.ofList ((Markup.snapshot
          ((Component.new options.finalConfig).compose options.slots)).pretty 0)
      else Markup.html ((Component.new options.finalConfig).compose options.slots) := by
  show (if options.json = true then _ else _) = _
  simp only [h.json_iff]
  rfl

/-- Arguments that ask for the same, kind by kind, end the program alike. -/
theorem SameRequests.run_eq {arguments others : List String} (h : SameRequests arguments others) :
    (run others).exitCode = (run arguments).exitCode ∧
      (run others).output = (run arguments).output ∧
      ((run arguments).exitCode = 0 → run others = run arguments) := by
  by_cases hUsable : ∃ argument ∈ arguments, Unusable argument
  · obtain ⟨fault, hFault⟩ := (ofArguments_refused_iff arguments).mpr hUsable
    obtain ⟨other, hOther⟩ :=
      (ofArguments_refused_iff others).mpr (h.exists_unusable_iff.mp hUsable)
    rw [run_of_error hFault, run_of_error hOther]
    exact ⟨rfl, rfl, fun hZero => absurd hZero Nat.one_ne_zero⟩
  · have hOthers : ¬ ∃ other ∈ others, Unusable other := by
      rwa [← h.exists_unusable_iff]
    push Not at hUsable hOthers
    obtain ⟨options, hRead, hExtends⟩ := exists_ofArguments_eq_ok hUsable
    obtain ⟨last, hLast, hLastExtends⟩ := exists_ofArguments_eq_ok hOthers
    rw [run_of_ok hRead, run_of_ok hLast, h.options_eq hExtends hLastExtends]
    exact ⟨rfl, rfl, fun _ => rfl⟩

/-- The program answers every list of arguments. -/
theorem run_answers (arguments : List String) : Answers arguments := by
  refine
    { refused_iff := ofArguments_refused_iff arguments
      fault_iff := fun fault => ofArguments_eq_error_iff
      run_refused := fun fault hFault => run_of_error (ofArguments_eq_error_iff.mpr hFault)
      run_accepted := ?_
      mixed := fun others hSame => hSame.run_eq }
  intro hUsable
  obtain ⟨options, hRead, hExtends⟩ := exists_ofArguments_eq_ok hUsable
  have hCollects := collects_of_extends hExtends
  refine ⟨options, hRead, hCollects, ?_, ?_⟩
  · rw [run_of_ok hRead]
  · rw [run_of_ok hRead]
    show options.output ++ "\n" = _
    rw [hCollects.output_eq]

end SlotGrid.CommandLine
