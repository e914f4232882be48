/-!
# Attributes of an element

The attributes of an element are pairs of a name and a value in the order in
which the names were first given, and no name occurs twice.

## Main definitions

* `Attributes` — the pairs, with the proof that their names differ.
* `Attributes.get?`, `Attributes.set` — lookup and assignment by name.

## Main results

* `Attributes.names_set` — assignment keeps the names in place and puts a new
  one at the end.
* `Attributes.get?_set` — lookup finds the value assigned last.
-/

namespace SlotGrid.Markup

/-- Gives `name` a value: in its place when the name is there, at the end when
it is not. -/
def assign (name value : String) : List (String × String) → List (String × String)
  | [] => [(name, value)]
  | (other, old) :: rest =>
    if other = name then (other, value) :: rest
    else (other, old) :: assign name value rest

theorem names_assign (name value : String) (entries : List (String × String)) :
    (assign name value entries).map Prod.fst =
      if name ∈ entries.map Prod.fst then entries.map Prod.fst
      else entries.map Prod.fst ++ [name] := by
  induction entries with
  | nil => rfl
  | cons entry rest ih =>
      obtain ⟨other, old⟩ := entry
      by_cases hName : other = name
      · simp [assign, hName]
      · have hDiffer : name ≠ other := Ne.symm hName
        rw [assign, if_neg hName, List.map_cons, ih]
        by_cases hRest : name ∈ rest.map Prod.fst
        · have hMem : name ∈ ((other, old) :: rest).map Prod.fst :=
            List.mem_cons_of_mem other hRest
          rw [if_pos hRest, if_pos hMem]
          rfl
        · have hFree : name ∉ ((other, old) :: rest).map Prod.fst :=
            List.not_mem_cons_of_ne_of_not_mem hDiffer hRest
          rw [if_neg hRest, if_neg hFree]
          rfl

theorem nodup_assign {entries : List (String × String)} (name value : String)
    (h : (entries.map Prod.fst).Nodup) : ((assign name value entries).map Prod.fst).Nodup := by
  rw [names_assign]
  by_cases hName : name ∈ entries.map Prod.fst
  · rw [if_pos hName]
    exact h
  · rw [if_neg hName]
    refine List.nodup_append.mpr ⟨h, by simp, ?_⟩
    intro other hOther last hLast hSame
    have hLastName : last = name := List.mem_singleton.mp hLast
    exact hName (hLastName ▸ hSame ▸ hOther)

/-- Pairs of a name and a value; no name occurs twice. -/
structure Attributes where
  entries : List (String × String)
  names_nodup : (entries.map Prod.fst).Nodup
  deriving DecidableEq, Repr

namespace Attributes

/-- No attributes. -/
def empty : Attributes := ⟨[], List.nodup_nil⟩

/-- The names, in the order in which they were first given. -/
def names (attributes : Attributes) : List String := attributes.entries.map Prod.fst

/-- The value of a name, if it has one. -/
def get? (attributes : Attributes) (name : String) : Option String :=
  (attributes.entries.find? fun entry => entry.1 == name).map Prod.snd

/-- Gives a name a value, in place of the one it had. -/
def set (attributes : Attributes) (name value : String) : Attributes :=
  ⟨assign name value attributes.entries, nodup_assign name value attributes.names_nodup⟩

/-- The attributes that result from assigning pairs in order. -/
def ofList (pairs : List (String × String)) : Attributes :=
  pairs.foldl (fun attributes pair => attributes.set pair.1 pair.2) empty

theorem names_set (attributes : Attributes) (name value : String) :
    (attributes.set name value).names =
      if name ∈ attributes.names then attributes.names else attributes.names ++ [name] :=
  names_assign name value attributes.entries

theorem forall_names_empty {holds : String → Prop} : ∀ name ∈ empty.names, holds name := by
  simp [names, empty]

/-- What holds of the names of attributes still holds when one is assigned. -/
theorem forall_names_set {holds : String → Prop} {attributes : Attributes} {name : String}
    (value : String) (h : ∀ other ∈ attributes.names, holds other) (hName : holds name) :
    ∀ other ∈ (attributes.set name value).names, holds other := by
  rw [names_set]
  by_cases hOld : name ∈ attributes.names
  · rw [if_pos hOld]
    exact h
  · rw [if_neg hOld]
    intro other hOther
    rcases List.mem_append.mp hOther with hOther | hOther
    · exact h other hOther
    · rw [List.mem_singleton.mp hOther]
      exact hName

private theorem find?_entry_cons (first old other : String) (rest : List (String × String)) :
    (((first, old) :: rest).find? fun entry => entry.1 == other).map Prod.snd =
      if other = first then some old
      else (rest.find? fun entry => entry.1 == other).map Prod.snd := by
  by_cases hOther : other = first
  · simp [hOther]
  · simp [hOther, Ne.symm hOther]

private theorem find?_assign (name value other : String) (entries : List (String × String)) :
    ((assign name value entries).find? fun entry => entry.1 == other).map Prod.snd =
      if other = name then some value
      else (entries.find? fun entry => entry.1 == other).map Prod.snd := by
  induction entries with
  | nil => rw [assign, find?_entry_cons]
  | cons entry rest ih =>
      obtain ⟨first, old⟩ := entry
      by_cases hFirst : first = name
      · subst hFirst
        rw [assign, if_pos rfl, find?_entry_cons, find?_entry_cons]
        by_cases hOther : other = first
        · rw [if_pos hOther, if_pos hOther]
        · rw [if_neg hOther, if_neg hOther, if_neg hOther]
      · rw [assign, if_neg hFirst, find?_entry_cons, find?_entry_cons, ih]
        by_cases hOther : other = first
        · have hDiffer : other ≠ name := hOther ▸ hFirst
          rw [if_pos hOther, if_neg hDiffer, if_pos hOther]
        · rw [if_neg hOther, if_neg hOther]

theorem get?_set (attributes : Attributes) (name value other : String) :
    (attributes.set name value).get? other =
      if other = name then some value else attributes.get? other :=
  find?_assign name value other attributes.entries

end Attributes

end SlotGrid.Markup
