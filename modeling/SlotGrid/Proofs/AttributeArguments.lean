import SlotGrid.Proofs.Arguments

/-!
# Attributes among the arguments

The names of attributes are matched without regard to the case of ASCII letters, but
whether an argument is an attribute is decided before its name is looked at, by the
characters that it starts with. The two agree on every name that does not start with
two hyphens. The names of the custom properties do, and they are let through only when
their first five characters are in lower case; with a capital letter there the argument
is taken for an option, and it is refused.

## Main definitions

* `IsProperty` — the attributes that are given by custom properties.
* `settings` — the names and values of the attributes among arguments.

## Main results

* `isAttribute_eq_false_iff` — the names that are refused.
* `exists_ofArguments_assignment` — an attribute that is set at its place.
* `ofArguments_attribute` — an attribute among other arguments.
* `ofArguments_capital` — a name that means an attribute and is refused.
-/

namespace SlotGrid.CommandLine

open Config (Attribute)

/-! ## Names of attributes -/

/-- What comes before the small letters is not made by lowering. -/
theorem eq_of_toLower_eq {c d : Char} (h : c.toLower = d) (hd : d.toNat < 97) : c = d := by
  unfold Char.toLower at h
  by_cases hUpper : 'A'.val ≤ c.val ∧ c.val ≤ 'Z'.val
  · rw [dif_pos hUpper] at h
    have hFirst : 65 ≤ c.val.toNat := UInt32.le_iff_toNat_le.mp hUpper.1
    have hLast : c.val.toNat ≤ 90 := UInt32.le_iff_toNat_le.mp hUpper.2
    have hCode : (c.val + ('a'.val - 'A'.val)).toNat = c.val.toNat + 32 := by
      rw [UInt32.toNat_add, show ('a'.val - 'A'.val).toNat = 32 from rfl]
      omega
    have hLower : d.toNat = c.val.toNat + 32 := by rw [← h, Char.toNat, hCode]
    omega
  · rwa [dif_neg hUpper] at h

theorem toList_of_ofName? {name : String} {part : Attribute}
    (h : Attribute.ofName? name = some part) :
    name.toList.map Char.toLower = part.name.toList := by
  have hName : part.name = Attribute.fold name := by simpa using List.find?_some h
  rw [hName, Attribute.fold, String.toList_ofList]

/-- No name holds an equals sign. -/
theorem notMem_of_ofName? {name : String} {part : Attribute}
    (h : Attribute.ofName? name = some part) : '=' ∉ name.toList := by
  intro hMem
  have hFolded : '=' ∈ name.toList.map Char.toLower := List.mem_map.mpr ⟨'=', hMem, rfl⟩
  rw [toList_of_ofName? h] at hFolded
  revert hFolded
  cases part <;> decide

/-- Whether an attribute is given by a custom property. -/
def IsProperty (part : Attribute) : Prop := part = .rowSpacing ∨ part = .columnSpacing

/-- Other names do not start with a hyphen. -/
theorem exists_first_of_not_isProperty {name : String} {part : Attribute}
    (h : Attribute.ofName? name = some part) (hPart : ¬ IsProperty part) :
    ∃ c more, name.toList = c :: more ∧ c ≠ '-' := by
  have hFolded := toList_of_ofName? h
  have hStart : ∃ e rest, part.name.toList = e :: rest ∧ e ≠ '-' := by
    cases part with
    | rowSpacing => exact absurd (Or.inl rfl) hPart
    | columnSpacing => exact absurd (Or.inr rfl) hPart
    | dim | slotStyle | cellStyle | rowStyle | noFillers => exact ⟨_, _, rfl, by decide⟩
  obtain ⟨e, rest, hRest, hFirst⟩ := hStart
  rw [hRest] at hFolded
  obtain ⟨c, more, hName, rfl, -⟩ := List.map_eq_cons_iff.mp hFolded
  refine ⟨c, more, hName, ?_⟩
  rintro rfl
  exact hFirst rfl

/-- The name of a custom property, up to the case of its letters. -/
theorem exists_start_of_isProperty {name : String} {part : Attribute}
    (h : Attribute.ofName? name = some part) (hPart : IsProperty part) :
    ∃ c d more, name.toList = '-' :: '-' :: c :: d :: '-' :: more := by
  have hFolded := toList_of_ofName? h
  have hStart : ∃ rest, part.name.toList = '-' :: '-' :: 'd' :: 'd' :: '-' :: rest := by
    rcases hPart with rfl | rfl <;> exact ⟨_, rfl⟩
  obtain ⟨rest, hRest⟩ := hStart
  rw [hRest] at hFolded
  obtain ⟨c1, more1, h1, e1, hFolded⟩ := List.map_eq_cons_iff.mp hFolded
  obtain ⟨c2, more2, rfl, e2, hFolded⟩ := List.map_eq_cons_iff.mp hFolded
  obtain ⟨c3, more3, rfl, -, hFolded⟩ := List.map_eq_cons_iff.mp hFolded
  obtain ⟨c4, more4, rfl, -, hFolded⟩ := List.map_eq_cons_iff.mp hFolded
  obtain ⟨c5, more5, rfl, e5, -⟩ := List.map_eq_cons_iff.mp hFolded
  rw [h1, eq_of_toLower_eq e1 (by decide), eq_of_toLower_eq e2 (by decide),
    eq_of_toLower_eq e5 (by decide)]
  exact ⟨c3, c4, more5, rfl⟩

/-- What is written behind a name does not matter. -/
theorem isAttribute_assignment {name : String} {part : Attribute}
    (h : Attribute.ofName? name = some part) (value : String) :
    isAttribute (name ++ "=" ++ value) = isAttribute name := by
  by_cases hPart : IsProperty part
  · obtain ⟨c, d, more, hName⟩ := exists_start_of_isProperty h hPart
    simp [isAttribute, hName, List.isPrefixOf]
  · obtain ⟨c, more, hName, hFirst⟩ := exists_first_of_not_isProperty h hPart
    have hHyphen : ('-' == c) = false := by simpa using hFirst.symm
    simp [isAttribute, hName, List.isPrefixOf, hHyphen]

/-- The names that are taken for options: those of custom properties with a capital
letter among the first characters. -/
theorem isAttribute_eq_false_iff {name : String} {part : Attribute}
    (h : Attribute.ofName? name = some part) :
    isAttribute name = false ↔ IsProperty part ∧ ¬ "--dd-".toList <+: name.toList := by
  by_cases hPart : IsProperty part
  · obtain ⟨c, d, more, hName⟩ := exists_start_of_isProperty h hPart
    simp [isAttribute, hName, hPart, List.isPrefixOf]
  · obtain ⟨c, more, hName, hFirst⟩ := exists_first_of_not_isProperty h hPart
    simp [isAttribute, hName, hPart, List.isPrefixOf, hFirst.symm]

theorem isUnknownOption_of_isAttribute_eq_false {name : String} {part : Attribute}
    (h : Attribute.ofName? name = some part) (hOption : isAttribute name = false) (value : String) :
    IsUnknownOption (name ++ "=" ++ value) := by
  obtain ⟨c, d, more, hName⟩ :=
    exists_start_of_isProperty h ((isAttribute_eq_false_iff h).mp hOption).1
  have hText : (name ++ "=" ++ value).toList =
      '-' :: '-' :: c :: d :: '-' :: (more ++ '=' :: value.toList) := by
    simp [hName]
  -- the fifth character is a hyphen, so no option starts like this
  have hOther {option : String} (hEq : name ++ "=" ++ value = option) :
      option.toList[4]? = some '-' := by
    rw [← hEq, hText]
    rfl
  refine ⟨(isAttribute_assignment h value).trans hOption, ?_, ?_, ?_⟩
  · intro hEq
    exact absurd (hOther hEq) (by decide)
  · intro text hEq
    have hFifth := hOther hEq
    simp at hFifth
  · intro payload hEq
    have hFifth := hOther hEq
    simp at hFifth

theorem nameAndValue_assignment {name : String} {part : Attribute}
    (h : Attribute.ofName? name = some part) (value : String) :
    nameAndValue (name ++ "=" ++ value) = (name, value) := by
  have hCut : Text.cut? '=' (name ++ "=" ++ value) = some (name, value) :=
    Text.cut?_eq_some_iff.mpr ⟨notMem_of_ofName? h, by simp⟩
  rw [nameAndValue, hCut, Option.getD_some]

theorem ofText_assignment {name : String} {part : Attribute}
    (h : Attribute.ofName? name = some part) (hAttribute : isAttribute name = true)
    (value : String) : Argument.ofText (name ++ "=" ++ value) = .assignment name value := by
  have hRead := Reads.assignment ((isAttribute_assignment h value).trans hAttribute)
  rw [nameAndValue_assignment h] at hRead
  exact ofText_eq_iff.mpr hRead

/-! ## Attributes among other arguments -/

/-- The names and values of the attributes among arguments, in order. -/
def settings (arguments : List String) : List (String × String) :=
  (arguments.filter isAttribute).map nameAndValue

/-- An attribute that is not taken for an option is set at its place among the
attributes. -/
theorem exists_ofArguments_assignment {name : String} {part : Attribute}
    (h : Attribute.ofName? name = some part) (hAttribute : isAttribute name = true)
    (value : String) {before after : List String}
    (hUsable : ∀ argument ∈ before ++ after, ¬ Unusable argument) :
    ∃ options base,
      Options.ofArguments (before ++ (name ++ "=" ++ value) :: after) = .ok options ∧
        IsLastConfig .default ((before ++ after).filterMap (Text.after? "--config=")) base ∧
        options.finalConfig =
          ((base.setAll (settings before)).set part value).setAll (settings after) := by
  have hRead := ofText_assignment h hAttribute value
  have hAll : ∀ argument ∈ before ++ (name ++ "=" ++ value) :: after, ¬ Unusable argument := by
    have hUsed : ¬ Unusable (name ++ "=" ++ value) := by
      rw [unusable_iff .default, Options.take, hRead]
      simp
    rw [List.forall_mem_append] at hUsable ⊢
    exact ⟨hUsable.1, List.forall_mem_cons.mpr ⟨hUsed, hUsable.2⟩⟩
  obtain ⟨options, hOptions, hExtends⟩ := exists_ofArguments_eq_ok hAll
  refine ⟨options, options.config, hOptions, ?_, ?_⟩
  · have hNone : Text.after? "--config=" (name ++ "=" ++ value) = none :=
      (configText?_of_reads (ofText_eq_iff.mp hRead)).symm
    have hConfig := hExtends.config
    rwa [List.filterMap_append, List.filterMap_cons_none hNone, ← List.filterMap_append] at hConfig
  · have hArgument : isAttribute (name ++ "=" ++ value) = true :=
      (isAttribute_assignment h value).trans hAttribute
    have hAssignments :
        options.assignments = settings before ++ (name, value) :: settings after := by
      rw [hExtends.assignments_eq, List.filter_append, List.filter_cons_of_pos hArgument,
        List.map_append, List.map_cons, nameAndValue_assignment h]
      rfl
    rw [Options.finalConfig, hAssignments, Config.setAll, List.foldl_append, List.foldl_cons,
      Config.setNamed?, h]
    rfl

/-- An argument that gives an attribute a value is refused exactly if it is taken for an
option, and it is the first one that is refused if the others are usable. Otherwise the
attribute is set at its place among the attributes. -/
theorem ofArguments_attribute {name : String} {part : Attribute}
    (hName : Attribute.ofName? name = some part) (value : String) {before after : List String}
    (hUsable : ∀ argument ∈ before ++ after, ¬ Unusable argument) :
    (isAttribute name = false ↔ IsProperty part ∧ ¬ "--dd-".toList <+: name.toList) ∧
      (isAttribute name = false →
        Options.ofArguments (before ++ (name ++ "=" ++ value) :: after) =
          .error (.unknownOption (name ++ "=" ++ value))) ∧
      (isAttribute name = true → ∃ options base,
        Options.ofArguments (before ++ (name ++ "=" ++ value) :: after) = .ok options ∧
          IsLastConfig .default ((before ++ after).filterMap (Text.after? "--config=")) base ∧
          options.finalConfig =
            ((base.setAll (settings before)).set part value).setAll (settings after)) := by
  refine ⟨isAttribute_eq_false_iff hName, ?_, ?_⟩
  · intro hOption
    refine ofArguments_eq_error_iff.mpr ⟨before, _, after, rfl, ?_, ?_⟩
    · intro other hOther
      exact hUsable other (List.mem_append_left _ hOther)
    · exact .unknown (isUnknownOption_of_isAttribute_eq_false hName hOption value)
  · intro hAttribute
    exact exists_ofArguments_assignment hName hAttribute value hUsable

/-- A name in capital letters, and a value that holds an equals sign. -/
theorem ofArguments_attribute_dim : ∃ options,
    Options.ofArguments ["--json", "DIM=a=b", "slot-style=x"] = .ok options ∧
      options.finalConfig = { Config.default with dim := "a=b", slotStyle := "x" } := by
  have hName : Attribute.ofName? "DIM" = some .dim := by decide
  have hUsable : ∀ argument ∈ ["--json"] ++ ["slot-style=x"], ¬ Unusable argument := by
    have hTaken (argument : String) (options : Options)
        (h : Options.default.take argument = .ok options) : ¬ Unusable argument := by
      rw [unusable_iff .default, h]
      simp
    exact List.forall_mem_cons.mpr ⟨hTaken _ _ rfl, List.forall_mem_singleton.mpr (hTaken _ _ rfl)⟩
  obtain ⟨options, base, hOptions, hBase, hConfig⟩ :=
    (ofArguments_attribute hName "a=b" hUsable).2.2 (by decide)
  obtain rfl : base = .default := hBase
  exact ⟨options, hOptions, hConfig⟩

/-- A name that means an attribute is taken for an option, because of its case. -/
theorem ofArguments_capital :
    Attribute.ofName? "--DD-gridspace-row" = some .rowSpacing ∧
      Options.ofArguments ["--DD-gridspace-row=1px"] =
        .error (.unknownOption "--DD-gridspace-row=1px") := by
  exact ⟨by decide, rfl⟩

end SlotGrid.CommandLine
