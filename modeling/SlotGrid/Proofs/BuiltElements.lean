import Mathlib.Data.List.Basic
import Mathlib.Data.List.Induction
import SlotGrid.Markup.Node

/-!
# Elements built step by step

An element is built by giving it attributes and children. What its attributes are in the
end depends only on the pairs that were given: the names are in the order in which each
of them was given first, no name is there twice, and the value of a name is the one that
it was given last.

## Main definitions

* `GivenBefore` — the order in which names are first given.
* `BuildStep` — what is done to an element that is built, with `BuildStep.pair?`, the
  attribute that it gives.
* `Element.apply`, `Element.build` — one step, and a run of steps from a new element.
* `givenPairs` — the attributes that a run gives.

## Main results

* `Attributes.mem_names_ofList`, `Attributes.names_ofList_pairwise` — the names, and
  their order.
* `Attributes.get?_ofList` — the values.
* `Element.attributes_build` — what a run leaves.
* `Element.build_ordered` — the attributes of an element that was built.
-/

namespace SlotGrid.Markup

/-! ## Order of names -/

/-- Whether one name of a list occurs in it earlier than another one does. -/
def GivenBefore (given : List String) (name other : String) : Prop :=
  name ∈ given ∧ other ∈ given ∧ given.idxOf name < given.idxOf other

theorem GivenBefore.ne {given : List String} {name other : String}
    (h : GivenBefore given name other) : name ≠ other := by
  rintro rfl
  exact absurd h.2.2 (Nat.lt_irrefl _)

theorem GivenBefore.append {given : List String} {name other : String}
    (h : GivenBefore given name other) (more : List String) :
    GivenBefore (given ++ more) name other := by
  obtain ⟨hName, hOther, hLt⟩ := h
  refine ⟨List.mem_append_left _ hName, List.mem_append_left _ hOther, ?_⟩
  rwa [List.idxOf_append_of_mem hName, List.idxOf_append_of_mem hOther]

theorem givenBefore_concat {given : List String} {name other : String} (hName : name ∈ given)
    (hOther : other ∉ given) : GivenBefore (given ++ [other]) name other := by
  refine ⟨List.mem_append_left _ hName, List.mem_append_right _ List.mem_cons_self, ?_⟩
  rw [List.idxOf_append_of_mem hName, List.idxOf_append_of_notMem hOther]
  have hLt := List.idxOf_lt_length_of_mem hName
  omega

/-! ## Attributes from pairs -/

namespace Attributes

theorem ofList_concat (pairs : List (String × String)) (pair : String × String) :
    ofList (pairs ++ [pair]) = (ofList pairs).set pair.1 pair.2 := by
  rw [ofList, List.foldl_append]
  rfl

/-- The names are those that were given. -/
theorem mem_names_ofList {pairs : List (String × String)} {name : String} :
    name ∈ (ofList pairs).names ↔ name ∈ pairs.map Prod.fst := by
  induction pairs using List.reverseRecOn with
  | nil => exact Iff.rfl
  | append_singleton pairs pair ih =>
      rw [ofList_concat, names_set, List.map_append, List.mem_append, ← ih]
      by_cases hOld : pair.1 ∈ (ofList pairs).names
      · rw [if_pos hOld]
        simp only [List.map_cons, List.map_nil, List.mem_singleton]
        exact ⟨.inl, fun h => h.elim id fun hName => hName ▸ hOld⟩
      · rw [if_neg hOld, List.mem_append]
        rfl

/-- The names are in the order in which each of them was given first. -/
theorem names_ofList_pairwise (pairs : List (String × String)) :
    (ofList pairs).names.Pairwise (GivenBefore (pairs.map Prod.fst)) := by
  -- A pair at the end leaves the order of the names before it, and a name that is not
  -- there yet comes behind all of them.
  induction pairs using List.reverseRecOn with
  | nil => exact .nil
  | append_singleton pairs pair ih =>
      have hKept : (ofList pairs).names.Pairwise
          (GivenBefore ((pairs ++ [pair]).map Prod.fst)) := by
        rw [List.map_append]
        exact ih.imp fun hBefore => hBefore.append _
      rw [ofList_concat, names_set]
      by_cases hOld : pair.1 ∈ (ofList pairs).names
      · rw [if_pos hOld]
        exact hKept
      · rw [if_neg hOld]
        refine List.pairwise_append.mpr ⟨hKept, List.pairwise_singleton _ _, ?_⟩
        intro name hName other hOther
        rw [List.mem_singleton.mp hOther, List.map_append]
        exact givenBefore_concat (mem_names_ofList.mp hName)
          fun hGiven => hOld (mem_names_ofList.mpr hGiven)

/-- The value of a name is the one in the last pair with that name. -/
theorem get?_ofList (pairs : List (String × String)) (name : String) :
    (ofList pairs).get? name = pairs.reverse.lookup name := by
  induction pairs using List.reverseRecOn with
  | nil => rfl
  | append_singleton pairs pair ih =>
      rw [ofList_concat, get?_set, ih, List.reverse_append, List.reverse_singleton,
        List.singleton_append, List.lookup_cons]
      by_cases hName : name = pair.1
      · simp [hName]
      · rw [if_neg hName, beq_false_of_ne hName]

end Attributes

/-! ## Building an element -/

/-- What is done to an element that is built. -/
inductive BuildStep where
  | attribute (name value : String)
  | child (node : Node)
  | children (nodes : List Node)
  | otherChildren (nodes : List Node)

/-- The attribute that a step gives, if it gives one. -/
def BuildStep.pair? : BuildStep → Option (String × String)
  | .attribute name value => some (name, value)
  | .child _ | .children _ | .otherChildren _ => none

/-- The attributes that a run gives, in order. -/
def givenPairs (steps : List BuildStep) : List (String × String) :=
  steps.filterMap BuildStep.pair?

namespace Element

/-- Takes one step. -/
def apply (element : Element) : BuildStep → Element
  | .attribute name value => element.setAttribute name value
  | .child node => element.append [node]
  | .children nodes => element.append nodes
  | .otherChildren nodes => element.withChildren nodes

/-- The element that a run makes of a new one. -/
def build (tag : String) (steps : List BuildStep) : Element := steps.foldl apply (new tag)

theorem attributes_apply (element : Element) (step : BuildStep) :
    (element.apply step).attributes =
      step.pair?.elim element.attributes fun pair => element.attributes.set pair.1 pair.2 := by
  cases step <;> rfl

/-- A run leaves the attributes that it gave, whatever it did to the children. -/
theorem attributes_build (tag : String) (steps : List BuildStep) :
    (build tag steps).attributes = .ofList (givenPairs steps) := by
  induction steps using List.reverseRecOn with
  | nil => rfl
  | append_singleton steps step ih =>
      rw [build, List.foldl_append, givenPairs, List.filterMap_append]
      show (apply (build tag steps) step).attributes = _
      rw [attributes_apply, ih]
      cases hStep : step.pair? with
      | none => simp [hStep, givenPairs]
      | some pair => simp [hStep, givenPairs, Attributes.ofList_concat]

/-- However an element was built, its attributes are an ordered map of what it was given:
they have the names that were given, each of them once and in the order in which they were
given first; the value of a name is the one that it was given last, and there is none
without. Steps for the children leave the attributes alone. -/
theorem build_ordered (tag : String) (steps : List BuildStep) :
    (build tag steps).attributes.names.Nodup ∧
    (∀ name, name ∈ (build tag steps).attributes.names ↔
      name ∈ (givenPairs steps).map Prod.fst) ∧
    (build tag steps).attributes.names.Pairwise
      (GivenBefore ((givenPairs steps).map Prod.fst)) ∧
    (∀ name, (build tag steps).attribute? name = (givenPairs steps).reverse.lookup name) ∧
    (∀ nodes, ((build tag steps).append nodes).attributes = (build tag steps).attributes ∧
      ((build tag steps).withChildren nodes).attributes = (build tag steps).attributes) := by
  have hOrder := Attributes.names_ofList_pairwise (givenPairs steps)
  simp only [attribute?, attributes_build]
  refine ⟨hOrder.imp GivenBefore.ne, fun _ => Attributes.mem_names_ofList, hOrder,
    Attributes.get?_ofList _, fun nodes => ?_⟩
  exact ⟨attributes_build tag steps, attributes_build tag steps⟩

example : (build "td" [.attribute "style" "r", .attribute "id" "1", .child (.text "a"),
    .attribute "style" "s", .otherChildren []]).attributes.entries =
      [("style", "s"), ("id", "1")] := by decide

end Element

end SlotGrid.Markup
