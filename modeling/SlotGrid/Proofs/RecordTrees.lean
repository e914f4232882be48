import Mathlib.Data.List.Pairwise
import SlotGrid.Proofs.JsonGrammar

/-!
# What a tree says about a record

The members of an object fill a record one after the other, and which parts were
filled before decides what a member may do. Nothing of that order is left in what
comes out: a record is filled when every part of it has at most one member, whose
value is of use, and then it has that value in the part, or the one it had before.
This holds of every record whose parts have names of their own and do not touch each
other.

An array says what an object says that gives the items the names of the parts, in
order.

## Main definitions

* `Part`, `IsLawful` — the parts of a record, and what they have to be like.
* `fill` — the record that members make, one after the other.
* `valuesOf`, `Gives` — the members of a part, and what they give it.
* `Tree.members?`, `Tree.record?` — the members that a tree lists, and its record.

## Main results

* `fill_eq_some_iff` — filling without the order.
* `fillItems_eq` — items are members.
-/

namespace SlotGrid.Json

variable {σ τ : Type}

/-- A part of a record: its names in an object, the proper one first, the values that
are of use for it, and its place in the record. -/
structure Part (σ τ : Type) where
  name : String
  others : List String
  {α : Type}
  value? : Tree τ → Option α
  get : σ → α
  set : σ → α → σ

/-- Every name of a part. -/
def Part.names (part : Part σ τ) : List String := part.name :: part.others

/-- Whether two parts share neither a name nor a place. -/
structure Part.Apart (part other : Part σ τ) : Prop where
  names : ∀ key ∈ part.names, key ∉ other.names
  get_set : ∀ record value, part.get (other.set record value) = part.get record
  get_set' : ∀ record value, other.get (part.set record value) = other.get record

/-- Whether these parts make up a record. -/
structure IsLawful (parts : List (Part σ τ)) : Prop where
  get_set : ∀ part ∈ parts, ∀ record value, part.get (part.set record value) = value
  apart : parts.Pairwise Part.Apart
  ext : ∀ record other, (∀ part ∈ parts, part.get record = part.get other) → record = other

/-- Fills the parts of a record; `seen` are the names of those that are filled. -/
def fill (parts : List (Part σ τ)) (seen : List String) (record : σ) :
    List (String × Tree τ) → Option σ
  | [] => some record
  | (key, tree) :: members =>
    match parts.find? fun part => key ∈ part.names with
    | none => fill parts seen record members
    | some part =>
      if part.name ∈ seen then none
      else (part.value? tree).bind fun value =>
        fill parts (part.name :: seen) (part.set record value) members

/-- The values of the members that have one of these names. -/
def valuesOf (names : List String) (members : List (String × Tree τ)) : List (Tree τ) :=
  (members.filter fun member => member.1 ∈ names).map Prod.snd

/-- What values give a part: none leaves the default, one that reads as something
gives that, and more of them give nothing. -/
inductive Gives {α : Type} (reads : Tree τ → α → Prop) (default : α) : List (Tree τ) → α → Prop
  | missing : Gives reads default [] default
  | given {tree : Tree τ} {value : α} (hReads : reads tree value) :
      Gives reads default [tree] value

section Gives

variable {α : Type} {reads : Tree τ → α → Prop} {default value : α}

theorem gives_nil_iff : Gives reads default [] value ↔ value = default := by
  constructor
  · intro h
    cases h
    rfl
  · rintro rfl
    exact .missing

theorem gives_cons_iff {tree : Tree τ} {trees : List (Tree τ)} :
    Gives reads default (tree :: trees) value ↔ trees = [] ∧ reads tree value := by
  constructor
  · intro h
    cases h with
    | given hReads => exact ⟨rfl, hReads⟩
  · rintro ⟨rfl, hReads⟩
    exact .given hReads

/-- Something is given unless there are two values or the only one is of no use. -/
theorem exists_gives_iff {trees : List (Tree τ)} :
    (∃ value, Gives reads default trees value) ↔
      trees.length ≤ 1 ∧ ∀ tree ∈ trees, ∃ value, reads tree value := by
  match trees with
  | [] => exact ⟨fun _ => by simp, fun _ => ⟨default, .missing⟩⟩
  | tree :: trees =>
      simp only [gives_cons_iff, exists_and_left, List.length_cons, List.forall_mem_cons,
        Nat.succ_le_succ_iff, Nat.le_zero, List.length_eq_zero_iff]
      constructor
      · rintro ⟨rfl, hReads⟩
        exact ⟨rfl, hReads, by simp⟩
      · rintro ⟨rfl, hReads, -⟩
        exact ⟨rfl, hReads⟩

theorem Gives.congr {others : Tree τ → α → Prop} {trees : List (Tree τ)}
    (h : ∀ tree value, reads tree value ↔ others tree value) :
    Gives reads default trees value ↔ Gives others default trees value := by
  cases trees with
  | nil => rw [gives_nil_iff, gives_nil_iff]
  | cons tree trees => rw [gives_cons_iff, gives_cons_iff, h]

/-- The order of values does not matter. -/
theorem Gives.perm {trees others : List (Tree τ)} (h : Gives reads default trees value)
    (hPerm : trees.Perm others) : Gives reads default others value := by
  cases h with
  | missing =>
      rw [List.nil_perm.mp hPerm]
      exact .missing
  | given hReads =>
      rw [← List.singleton_perm.mp hPerm]
      exact .given hReads

end Gives

/-! ## Filling without the order -/

section Filling

variable {parts : List (Part σ τ)}

theorem Part.Apart.symm {part other : Part σ τ} (h : part.Apart other) : other.Apart part where
  names key hKey hPart := h.names key hPart hKey
  get_set := h.get_set'
  get_set' := h.get_set

instance : Std.Symm (@Part.Apart σ τ) := ⟨fun _ _ => Part.Apart.symm⟩

theorem IsLawful.apart_of_ne (h : IsLawful parts) {part other : Part σ τ} (hPart : part ∈ parts)
    (hOther : other ∈ parts) (hNe : part ≠ other) : part.Apart other :=
  h.apart.forall hPart hOther hNe

theorem valuesOf_cons_of_mem {names : List String} {key : String} (h : key ∈ names) (tree : Tree τ)
    (members : List (String × Tree τ)) :
    valuesOf names ((key, tree) :: members) = tree :: valuesOf names members := by
  simp [valuesOf, h]

theorem valuesOf_cons_of_not_mem {names : List String} {key : String} (h : key ∉ names)
    (tree : Tree τ) (members : List (String × Tree τ)) :
    valuesOf names ((key, tree) :: members) = valuesOf names members := by
  simp [valuesOf, h]

/-- What members do to a part: a part that is filled has none and stays; another one
is given what they give. -/
def Part.Takes (part : Part σ τ) (seen : List String) (record : σ)
    (members : List (String × Tree τ)) (result : σ) : Prop :=
  if part.name ∈ seen then valuesOf part.names members = [] ∧ part.get result = part.get record
  else Gives (fun tree value => part.value? tree = some value) (part.get record)
    (valuesOf part.names members) (part.get result)

theorem takes_nil_iff {part : Part σ τ} {seen : List String} {record result : σ} :
    part.Takes seen record [] result ↔ part.get result = part.get record := by
  unfold Part.Takes
  split
  · simp [valuesOf]
  · exact gives_nil_iff

theorem takes_cons_of_not_mem {part : Part σ τ} {seen : List String} {record result : σ}
    {key : String} (h : key ∉ part.names) (tree : Tree τ) (members : List (String × Tree τ)) :
    part.Takes seen record ((key, tree) :: members) result ↔
      part.Takes seen record members result := by
  rw [Part.Takes, Part.Takes, valuesOf_cons_of_not_mem h]

/-- A member changes nothing for the parts that stand apart from its own. -/
theorem takes_cons_of_apart {part other : Part σ τ} (h : part.Apart other) {seen : List String}
    {record result : σ} {key : String} (hKey : key ∈ part.names) (tree : Tree τ)
    (members : List (String × Tree τ)) (value : part.α) :
    other.Takes seen record ((key, tree) :: members) result ↔
      other.Takes (part.name :: seen) (part.set record value) members result := by
  have hName : other.name ≠ part.name := by
    intro hEq
    exact h.names part.name List.mem_cons_self (hEq ▸ List.mem_cons_self)
  rw [takes_cons_of_not_mem (h.names key hKey), Part.Takes, Part.Takes, h.get_set']
  simp [hName]

/-- A member fills its own part, unless it is filled or the value is of no use. -/
theorem takes_cons_of_mem {part : Part σ τ}
    (hSet : ∀ record value, part.get (part.set record value) = value) {seen : List String}
    {record result : σ} {key : String} (hKey : key ∈ part.names)
    (tree : Tree τ) (members : List (String × Tree τ)) :
    part.Takes seen record ((key, tree) :: members) result ↔
      part.name ∉ seen ∧ ∃ value, part.value? tree = some value ∧
        part.Takes (part.name :: seen) (part.set record value) members result := by
  unfold Part.Takes
  rw [valuesOf_cons_of_mem hKey]
  by_cases hSeen : part.name ∈ seen
  · simp [hSeen]
  · simp only [gives_cons_iff, List.mem_cons_self, if_true, hSet, hSeen,
      not_false_eq_true, true_and]
    constructor
    · rintro ⟨hNil, hValue⟩
      exact ⟨_, hValue, hNil, rfl⟩
    · rintro ⟨value, hValue, hNil, hGet⟩
      exact ⟨hNil, hGet ▸ hValue⟩

/-- A member fills its own part and leaves the others as they are. -/
theorem forall_takes_cons_iff (h : IsLawful parts) {part : Part σ τ} (hPart : part ∈ parts)
    {seen : List String} {record result : σ} {key : String} (hKey : key ∈ part.names)
    (tree : Tree τ) (members : List (String × Tree τ)) :
    (∀ other ∈ parts, other.Takes seen record ((key, tree) :: members) result) ↔
      part.name ∉ seen ∧ ∃ value, part.value? tree = some value ∧
        ∀ other ∈ parts,
          other.Takes (part.name :: seen) (part.set record value) members result := by
  have hOwn : part.Takes seen record ((key, tree) :: members) result ↔
      part.name ∉ seen ∧ ∃ value, part.value? tree = some value ∧
        part.Takes (part.name :: seen) (part.set record value) members result :=
    takes_cons_of_mem (h.get_set part hPart) hKey tree members
  have hOther : ∀ other ∈ parts, part ≠ other → ∀ value,
      (other.Takes seen record ((key, tree) :: members) result ↔
        other.Takes (part.name :: seen) (part.set record value) members result) :=
    fun other hMem hNe => takes_cons_of_apart (h.apart_of_ne hPart hMem hNe) hKey tree members
  constructor
  · intro hTakes
    obtain ⟨hSeen, value, hValue, hRest⟩ := hOwn.mp (hTakes part hPart)
    refine ⟨hSeen, value, hValue, fun other hMem => ?_⟩
    by_cases hEq : part = other
    · exact hEq ▸ hRest
    · exact (hOther other hMem hEq value).mp (hTakes other hMem)
  · rintro ⟨hSeen, value, hValue, hTakes⟩ other hMem
    by_cases hEq : part = other
    · exact hEq ▸ hOwn.mpr ⟨hSeen, value, hValue, hTakes part hPart⟩
    · exact (hOther other hMem hEq value).mpr (hTakes other hMem)

/-- Filling a record is filling each part by itself. -/
theorem fill_eq_some_iff_takes (h : IsLawful parts) {seen : List String} {record result : σ}
    {members : List (String × Tree τ)} :
    fill parts seen record members = some result ↔
      ∀ part ∈ parts, part.Takes seen record members result := by
  induction members generalizing seen record with
  | nil =>
      simp only [fill, takes_nil_iff, Option.some.injEq]
      constructor
      · rintro rfl
        exact fun _ _ => rfl
      · intro hGet
        exact (h.ext result record hGet).symm
  | cons member members ih =>
      obtain ⟨key, tree⟩ := member
      rw [fill]
      cases hFind : parts.find? fun part => key ∈ part.names with
      | none =>
          rw [ih]
          refine forall₂_congr fun part hPart => ?_
          have hKey : key ∉ part.names := by simpa using List.find?_eq_none.mp hFind part hPart
          exact (takes_cons_of_not_mem hKey tree members).symm
      | some part =>
          have hPart := List.mem_of_find?_eq_some hFind
          have hKey : key ∈ part.names := by simpa using List.find?_some hFind
          rw [forall_takes_cons_iff h hPart hKey]
          by_cases hSeen : part.name ∈ seen
          · simp [hSeen]
          · simp [hSeen, Option.bind_eq_some_iff, ih]

/-- A record is filled when every part is given something by its own members. -/
theorem fill_eq_some_iff (h : IsLawful parts) {record result : σ}
    {members : List (String × Tree τ)} :
    fill parts [] record members = some result ↔
      ∀ part ∈ parts, Gives (fun tree value => part.value? tree = some value) (part.get record)
        (valuesOf part.names members) (part.get result) := by
  rw [fill_eq_some_iff_takes h]
  simp [Part.Takes]

end Filling

/-! ## Arrays -/

/-- Fills the parts of a record in order, as many as there are items. -/
def fillItems (record : σ) : List (Part σ τ) → List (Tree τ) → Option σ
  | _, [] => some record
  | [], _ :: _ => none
  | part :: parts, item :: items =>
    (part.value? item).bind fun value => fillItems (part.set record value) parts items

theorem find?_name {parts before after : List (Part σ τ)} {part : Part σ τ}
    (h : parts.Pairwise Part.Apart) (hParts : parts = before ++ part :: after) :
    (parts.find? fun other => part.name ∈ other.names) = some part := by
  subst hParts
  have hBefore := (List.pairwise_append.mp h).2.2
  rw [List.find?_append, List.find?_eq_none.mpr, Option.none_or]
  · simp [Part.names]
  · intro other hOther
    have hApart := (hBefore other hOther part List.mem_cons_self).symm
    simpa using hApart.names part.name List.mem_cons_self

theorem fillItems_eq_fill {parts before after : List (Part σ τ)} (h : parts.Pairwise Part.Apart)
    (hParts : parts = before ++ after) {seen : List String}
    (hSeen : ∀ part ∈ after, part.name ∉ seen) (record : σ) (items : List (Tree τ)) :
    fillItems record after items =
      if items.length ≤ after.length then fill parts seen record ((after.map Part.name).zip items)
      else none := by
  induction after generalizing before seen record items with
  | nil =>
      cases items with
      | nil => simp [fillItems, fill]
      | cons item items => simp [fillItems]
  | cons part after ih =>
      cases items with
      | nil => simp [fillItems, fill]
      | cons item items =>
          have hNext : ∀ other ∈ after, other.name ∉ part.name :: seen := by
            intro other hOther hMem
            rcases List.mem_cons.mp hMem with hName | hMem
            · have hAfter := (List.pairwise_append.mp (hParts ▸ h)).2.1
              have hApart := (List.pairwise_cons.mp hAfter).1 other hOther
              exact hApart.names part.name List.mem_cons_self (hName ▸ List.mem_cons_self)
            · exact hSeen other (List.mem_cons_of_mem _ hOther) hMem
          have hFirst := hSeen part List.mem_cons_self
          simp only [fillItems, List.map_cons, List.zip_cons_cons, fill, find?_name h hParts,
            if_neg hFirst, List.length_cons, Nat.succ_le_succ_iff]
          have hBehind : parts = (before ++ [part]) ++ after := by simp [hParts]
          have hRest := fun value => ih hBehind hNext (part.set record value) items
          simp only [hRest]
          split
          · rfl
          · exact Option.bind_fun_none _

/-- Items are members that have the names of the parts, in order. -/
theorem fillItems_eq {parts : List (Part σ τ)} (h : parts.Pairwise Part.Apart) (record : σ)
    (items : List (Tree τ)) :
    fillItems record parts items =
      if items.length ≤ parts.length then fill parts [] record ((parts.map Part.name).zip items)
      else none :=
  fillItems_eq_fill h (List.nil_append parts).symm (by simp) record items

/-! ## Trees -/

/-- A member whose key is the text that it stands for. -/
def Spelling.member? (spelling : Spelling τ) (member : τ × Tree τ) : Option (String × Tree τ) :=
  (spelling.text? member.1).map (·, member.2)

/-- The members that a tree lists: those of an object, if their keys have texts, or
the items of an array that is not too long, which have these names. -/
def Tree.members? (spelling : Spelling τ) (names : List String) :
    Tree τ → Option (List (String × Tree τ))
  | .object members => members.mapM spelling.member?
  | .array items => if items.length ≤ names.length then some (names.zip items) else none
  | _ => none

/-- The record that a tree makes of a blank one. -/
def Tree.record? (spelling : Spelling τ) (parts : List (Part σ τ)) (blank : σ) (tree : Tree τ) :
    Option σ :=
  (tree.members? spelling (parts.map Part.name)).bind (fill parts [] blank)

/-- The text of a string. -/
def Tree.text? (spelling : Spelling τ) : Tree τ → Option String
  | .string content => spelling.text? content
  | _ => none

/-- A truth value. -/
def Tree.truth? : Tree τ → Option Bool
  | .boolean value => some value
  | _ => none

/-- A part that is a string. -/
def Part.string (spelling : Spelling τ) (name : String) (others : List String)
    (get : σ → String) (set : σ → String → σ) : Part σ τ where
  name := name
  others := others
  value? := Tree.text? spelling
  get := get
  set := set

/-- A part that is a truth value. -/
def Part.boolean (name : String) (others : List String) (get : σ → Bool) (set : σ → Bool → σ) :
    Part σ τ where
  name := name
  others := others
  value? := Tree.truth?
  get := get
  set := set

/-- A part that is a record. -/
def Part.record {ρ : Type} (spelling : Spelling τ) (name : String) (others : List String)
    (parts : List (Part ρ τ)) (blank : ρ) (get : σ → ρ) (set : σ → ρ → σ) : Part σ τ where
  name := name
  others := others
  value? := Tree.record? spelling parts blank
  get := get
  set := set

end SlotGrid.Json
