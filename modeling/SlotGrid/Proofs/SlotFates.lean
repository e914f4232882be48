import Mathlib.Data.List.Basic
import SlotGrid.Proofs.Placement

/-!
# What becomes of the slots of a tree

When content is placed into a tree, a slot is filled, or it is shown with its
fallback, or it is hidden in the fallback of a filled slot. `Renders` says what
nodes come of a tree when the fates of its slots are given, in document order, and
nothing about how they are decided. Composing a tree decides them in that order
and passes over the hidden slots: a slot is filled if there is content for its name
that no slot before it has taken. So the slot that takes the content of a name
need not be the first slot of that name. It is not if the first one is hidden, and
in no other case.

## Main definitions

* `Fate`, `Renders` — what becomes of a slot, and of a tree.
* `InTurn` — the slots that are not hidden take content in their turn.
* `OnlyFirst`, `FirstSlotsOnly` — content stands in the first slots of their names only.

## Main results

* `compose_eq_iff` — the composed tree is the one whose slots take content in turn.
* `not_firstSlotsOnly_hidingShadow` — a tree in which another slot than the first is
  filled.
* `exists_fates_compose` — content stands in first slots only, exactly if no slot is
  hidden whose name is that of a filled slot behind it.
* `firstSlotsOnly_of_unnested`, `firstSlotsOnly_of_nodup` — so it is without slots in
  slots, and without repeated names; `firstSlotsOnly_component`.
-/

namespace SlotGrid.Slotting

open Markup (Attributes Node)

/-! ## Fates -/

/-- What becomes of a slot: content stands in its place, or its fallback does, or
it is part of the fallback of a slot that is filled. -/
inductive Fate where
  | filled
  | shown
  | hidden
  deriving DecidableEq, Repr

/-- The nodes that come of a tree, given the names and the fates of its slots in
document order. -/
inductive Renders (children : List SlottedContent) :
    List Node → List Node → List (SlotName × Fate) → Prop
  | nil : Renders children [] [] []
  | text {content : String} {rest others : List Node} {later : List (SlotName × Fate)}
      (hRest : Renders children rest others later) :
      Renders children (.text content :: rest) (.text content :: others) later
  | element {tag : String} {attributes : Attributes} {inner nodes rest others : List Node}
      {fates later : List (SlotName × Fate)} (hTag : tag ≠ "slot")
      (hInner : Renders children inner nodes fates) (hRest : Renders children rest others later) :
      Renders children (.element tag attributes inner :: rest)
        (.element tag attributes nodes :: others) (fates ++ later)
  | filled {attributes : Attributes} {inner rest others : List Node}
      {later : List (SlotName × Fate)}
      (hContent : assigned (slotNameOf attributes) children ≠ [])
      (hRest : Renders children rest others later) :
      Renders children (.element "slot" attributes inner :: rest)
        (assigned (slotNameOf attributes) children ++ others)
        ((slotNameOf attributes, .filled) :: (slotNames inner).map (·, .hidden) ++ later)
  | shown {attributes : Attributes} {inner nodes rest others : List Node}
      {fates later : List (SlotName × Fate)}
      (hInner : Renders children inner nodes fates) (hRest : Renders children rest others later) :
      Renders children (.element "slot" attributes inner :: rest) (nodes ++ others)
        ((slotNameOf attributes, .shown) :: fates ++ later)

/-- Whether content stands only in slots that have no slot of the same name before
them. -/
def OnlyFirst (fates : List (SlotName × Fate)) : Prop :=
  ∀ before name after, fates = before ++ (name, .filled) :: after →
    name ∉ before.map Prod.fst

/-- Whether the slots take content in their turn: of the slots that are not hidden,
those are filled for whose name there is content that is not yet taken. Some
names are taken before. -/
def InTurn (children : List SlottedContent) (taken : List SlotName)
    (fates : List (SlotName × Fate)) : Prop :=
  ∀ before name fate after, fates = before ++ (name, fate) :: after → fate ≠ .hidden →
    (fate = .filled ↔
      assigned name children ≠ [] ∧ name ∉ taken ∧ (name, .filled) ∉ before)

variable {children : List SlottedContent} {taken next : List SlotName}
  {fates later : List (SlotName × Fate)}

/-- The fates of a tree are those of all its slots, in document order. -/
theorem Renders.map_fst {shadow nodes : List Node} (h : Renders children shadow nodes fates) :
    fates.map Prod.fst = slotNames shadow := by
  induction h with
  | nil => rfl
  | text _ ih => rw [ih, slotNames, nodeSlotNames, List.nil_append]
  | element hTag _ _ hInner hRest =>
      rw [List.map_append, hInner, hRest, slotNames, nodeSlotNames, if_neg hTag]
  | filled _ _ hRest => simp [hRest, slotNames, nodeSlotNames, Function.comp_def]
  | shown _ _ hInner hRest => simp [hInner, hRest, slotNames, nodeSlotNames]

theorem Renders.append {shadow other nodes others : List Node}
    (h : Renders children shadow nodes fates) (hOther : Renders children other others later) :
    Renders children (shadow ++ other) (nodes ++ others) (fates ++ later) := by
  induction h with
  | nil => exact hOther
  | text _ ih => exact .text ih
  | element hTag hInner _ _ ih =>
      rw [List.append_assoc]
      exact .element hTag hInner ih
  | filled hContent _ ih =>
      rw [List.append_assoc, List.append_assoc]
      exact .filled hContent ih
  | shown hInner _ _ ih =>
      rw [List.append_assoc, List.append_assoc]
      exact .shown hInner ih

/-! ## Taking content in turn -/

theorem inTurn_of_hidden (h : ∀ pair ∈ fates, pair.2 = .hidden) : InTurn children taken fates := by
  rintro before name fate after rfl hFate
  exact absurd (h (name, fate) (by simp)) hFate

theorem inTurn_lone {name : SlotName} {fate : Fate}
    (h : fate = .filled ↔ assigned name children ≠ [] ∧ name ∉ taken) :
    InTurn children taken [(name, fate)] := by
  intro before other otherFate after hSplit _
  cases before with
  | nil =>
      obtain ⟨⟨rfl, rfl⟩, -⟩ := by simpa using hSplit
      simpa using h
  | cons first before =>
      have hLength := congrArg List.length hSplit
      simp at hLength

/-- Names are taken by the slots before, and by those that are filled among them. -/
theorem InTurn.append (h : InTurn children taken fates) (hLater : InTurn children next later)
    (hNext : ∀ name, name ∈ next ↔ name ∈ taken ∨ (name, .filled) ∈ fates) :
    InTurn children taken (fates ++ later) := by
  intro before name fate after hSplit hFate
  rcases List.append_eq_append_iff.mp hSplit with ⟨between, rfl, hBehind⟩ | ⟨between, rfl, hBehind⟩
  · rw [hLater between name fate after hBehind hFate, hNext, not_or, List.mem_append, not_or,
      and_assoc]
  · cases between with
    | nil =>
        rw [List.append_nil] at hNext
        rw [hLater [] name fate after (by simpa using hBehind.symm) hFate, hNext, not_or]
        simp
    | cons pair between =>
        obtain ⟨rfl, -⟩ := List.cons.inj hBehind
        exact h before name fate between rfl hFate

theorem InTurn.left (h : InTurn children taken (fates ++ later)) : InTurn children taken fates := by
  rintro before name fate after rfl hFate
  exact h before name fate (after ++ later) (by simp) hFate

theorem InTurn.right (h : InTurn children taken (fates ++ later))
    (hNext : ∀ name, name ∈ next ↔ name ∈ taken ∨ (name, .filled) ∈ fates) :
    InTurn children next later := by
  rintro before name fate after rfl hFate
  rw [h (fates ++ before) name fate after (by simp) hFate, hNext, not_or, List.mem_append, not_or,
    and_assoc]

/-! ## Composing -/

theorem composeNode_filled {attributes : Attributes}
    (hContent : assigned (slotNameOf attributes) children ≠ [])
    (hFree : slotNameOf attributes ∉ taken) (inner : List Node) :
    composeNode children taken (.element "slot" attributes inner) =
      ⟨assigned (slotNameOf attributes) children, slotNameOf attributes :: taken⟩ := by
  simp [composeNode, hFree, hContent]

theorem composeNode_shown {attributes : Attributes}
    (h : ¬ (assigned (slotNameOf attributes) children ≠ [] ∧ slotNameOf attributes ∉ taken))
    (inner : List Node) :
    composeNode children taken (.element "slot" attributes inner) =
      composeAll children taken inner := by
  by_cases hTaken : slotNameOf attributes ∈ taken
  · simp [composeNode, hTaken]
  · have hNone : assigned (slotNameOf attributes) children = [] := by
      by_contra hContent
      exact h ⟨hContent, hTaken⟩
    simp [composeNode, hTaken, hNone]

/-- What it means that the walk over a tree comes to its nodes and to its filled
names by these fates. -/
structure Explains (children : List SlottedContent) (taken : List SlotName) (shadow : List Node)
    (composed : Composition) (fates : List (SlotName × Fate)) : Prop where
  renders : Renders children shadow composed.nodes fates
  inTurn : InTurn children taken fates
  filled_iff : ∀ name, name ∈ composed.filled ↔ name ∈ taken ∨ (name, .filled) ∈ fates

theorem Explains.append {shadow other : List Node} {composed last : Composition}
    (h : Explains children taken shadow composed fates)
    (hOther : Explains children composed.filled other last later) :
    Explains children taken (shadow ++ other) ⟨composed.nodes ++ last.nodes, last.filled⟩
      (fates ++ later) where
  renders := h.renders.append hOther.renders
  inTurn := h.inTurn.append hOther.inTurn h.filled_iff
  filled_iff name := by
    rw [hOther.filled_iff, h.filled_iff, List.mem_append, or_assoc]

theorem explains_filled {attributes : Attributes}
    (hContent : assigned (slotNameOf attributes) children ≠ [])
    (hFree : slotNameOf attributes ∉ taken) (inner : List Node) :
    Explains children taken [.element "slot" attributes inner]
      ⟨assigned (slotNameOf attributes) children, slotNameOf attributes :: taken⟩
      ((slotNameOf attributes, .filled) :: (slotNames inner).map (·, .hidden)) where
  renders := by
    have hNode : Renders children [.element "slot" attributes inner] _ _ := .filled hContent .nil
    simpa using hNode
  inTurn := by
    have hLone : InTurn children taken [(slotNameOf attributes, .filled)] :=
      inTurn_lone (iff_of_true rfl ⟨hContent, hFree⟩)
    have hInner : InTurn children (slotNameOf attributes :: taken)
        ((slotNames inner).map (·, .hidden)) := inTurn_of_hidden (by simp)
    exact hLone.append hInner (by simp [or_comm])
  filled_iff name := by simp [or_comm]

theorem explains_shown {attributes : Attributes} {inner : List Node} {composed : Composition}
    (h : ¬ (assigned (slotNameOf attributes) children ≠ [] ∧ slotNameOf attributes ∉ taken))
    (hInner : Explains children taken inner composed fates) :
    Explains children taken [.element "slot" attributes inner] composed
      ((slotNameOf attributes, .shown) :: fates) where
  renders := by
    have hNode : Renders children [.element "slot" attributes inner] _ _ :=
      .shown hInner.renders .nil
    simpa using hNode
  inTurn := by
    have hLone : InTurn children taken [(slotNameOf attributes, .shown)] :=
      inTurn_lone (iff_of_false Fate.noConfusion h)
    exact hLone.append hInner.inTurn (by simp)
  filled_iff name := by simp [hInner.filled_iff]

mutual

private theorem exists_explains_node (children : List SlottedContent) (taken : List SlotName)
    (node : Node) :
    ∃ fates, Explains children taken [node] (composeNode children taken node) fates := by
  cases node with
  | text content =>
      exact ⟨[], .text .nil, inTurn_of_hidden (by simp), by simp [composeNode]⟩
  | element tag attributes inner =>
      by_cases hTag : tag = "slot"
      · subst hTag
        by_cases hFill : assigned (slotNameOf attributes) children ≠ [] ∧
            slotNameOf attributes ∉ taken
        · rw [composeNode_filled hFill.1 hFill.2]
          exact ⟨_, explains_filled hFill.1 hFill.2 inner⟩
        · obtain ⟨fates, hInner⟩ := exists_explains children taken inner
          rw [composeNode_shown hFill]
          exact ⟨_, explains_shown hFill hInner⟩
      · obtain ⟨fates, hInner⟩ := exists_explains children taken inner
        rw [composeNode_element hTag]
        have hNode : Renders children [.element tag attributes inner] _ _ :=
          .element hTag hInner.renders .nil
        refine ⟨fates, ?_, hInner.inTurn, hInner.filled_iff⟩
        simpa using hNode

/-- There are fates by which the walk comes to its nodes. -/
theorem exists_explains (children : List SlottedContent) (taken : List SlotName)
    (shadow : List Node) :
    ∃ fates, Explains children taken shadow (composeAll children taken shadow) fates := by
  cases shadow with
  | nil => exact ⟨[], .nil, inTurn_of_hidden (by simp), by simp [composeAll]⟩
  | cons node rest =>
      obtain ⟨fates, hNode⟩ := exists_explains_node children taken node
      obtain ⟨later, hRest⟩ :=
        exists_explains children (composeNode children taken node).filled rest
      exact ⟨fates ++ later, hNode.append hRest⟩

end

/-- Fates that follow in turn are those by which the walk comes to its nodes. -/
theorem composeAll_of_renders {shadow nodes : List Node} (h : Renders children shadow nodes fates)
    (hTurn : InTurn children taken fates) :
    (composeAll children taken shadow).nodes = nodes ∧
      ∀ name, name ∈ (composeAll children taken shadow).filled ↔
        name ∈ taken ∨ (name, .filled) ∈ fates := by
  induction h generalizing taken with
  | nil => simp [composeAll]
  | text _ hRest =>
      obtain ⟨hNodes, hFilled⟩ := hRest hTurn
      simp only [composeAll, composeNode, hNodes]
      exact ⟨rfl, hFilled⟩
  | element hTag _ _ hInner hRest =>
      obtain ⟨hNodes, hFilled⟩ := hInner hTurn.left
      obtain ⟨hOthers, hLast⟩ := hRest (hTurn.right hFilled)
      simp only [composeAll, composeNode_element hTag, hNodes, hOthers]
      refine ⟨rfl, ?_⟩
      intro name
      rw [hLast, hFilled, List.mem_append, or_assoc]
  | @filled attributes inner rest others later hContent _ hRest =>
      have hFill := hTurn [] _ _ _ rfl (by decide)
      obtain ⟨-, hFree, -⟩ := hFill.mp rfl
      have hNext (name : SlotName) : name ∈ slotNameOf attributes :: taken ↔
          name ∈ taken ∨ (name, Fate.filled) ∈
            (slotNameOf attributes, Fate.filled) :: (slotNames inner).map (·, Fate.hidden) := by
        simp [or_comm]
      obtain ⟨hOthers, hLast⟩ := hRest (hTurn.right hNext)
      simp only [composeAll, composeNode_filled hContent hFree, hOthers, true_and]
      intro name
      rw [hLast, hNext, List.mem_append, or_assoc]
  | @shown attributes inner nodes rest others fates later _ _ hInner hRest =>
      have hFill := hTurn [] _ _ _ rfl (by decide)
      have hShow : ¬ (assigned (slotNameOf attributes) children ≠ [] ∧
          slotNameOf attributes ∉ taken) := by
        rintro ⟨hContent, hFree⟩
        exact Fate.noConfusion (hFill.mpr ⟨hContent, hFree, List.not_mem_nil⟩)
      have hSlot : InTurn children taken
          ([(slotNameOf attributes, .shown)] ++ (fates ++ later)) := hTurn
      have hTail : InTurn children taken (fates ++ later) := hSlot.right (by simp)
      obtain ⟨hNodes, hFilled⟩ := hInner hTail.left
      obtain ⟨hOthers, hLast⟩ := hRest (hTail.right hFilled)
      simp only [composeAll, composeNode_shown hShow, hNodes, hOthers, true_and]
      intro name
      rw [hLast, hFilled]
      simp [or_assoc]

/-- The composed tree is the one whose slots take content in their turn. -/
theorem compose_eq_iff {shadow nodes : List Node} :
    compose shadow children = nodes ↔
      ∃ fates, Renders children shadow nodes fates ∧ InTurn children [] fates := by
  constructor
  · rintro rfl
    obtain ⟨fates, hFates⟩ := exists_explains children [] shadow
    exact ⟨fates, hFates.renders, hFates.inTurn⟩
  · rintro ⟨fates, hRenders, hTurn⟩
    exact (composeAll_of_renders hRenders hTurn).1

theorem exists_renders_compose (shadow : List Node) (children : List SlottedContent) :
    ∃ fates, Renders children shadow (compose shadow children) fates ∧ InTurn children [] fates :=
  compose_eq_iff.mp rfl

/-! ## The first slot of a name -/

/-- Whether content is rendered in the first slots of their names only. -/
def FirstSlotsOnly (shadow : List Node) (children : List SlottedContent) : Prop :=
  ∃ fates, Renders children shadow (compose shadow children) fates ∧ OnlyFirst fates

/-- A slot with a name and a fallback. -/
def namedSlot (name : String) (inner : List Node) : Node :=
  .element "slot" (Attributes.empty.set "name" name) inner

theorem slotNameOf_set (name : String) :
    slotNameOf (Attributes.empty.set "name" name) = some name := by
  rw [slotNameOf, Attributes.get?_set, if_pos rfl]

theorem Renders.slot_cases {attributes : Attributes} {inner rest nodes : List Node}
    (h : Renders children (.element "slot" attributes inner :: rest) nodes fates) :
    (∃ others later, Renders children rest others later ∧
      nodes = assigned (slotNameOf attributes) children ++ others ∧
      fates = (slotNameOf attributes, .filled) :: (slotNames inner).map (·, .hidden) ++ later) ∨
    ∃ own others ownFates later, Renders children inner own ownFates ∧
      Renders children rest others later ∧ nodes = own ++ others ∧
      fates = (slotNameOf attributes, .shown) :: ownFates ++ later := by
  cases h with
  | element hTag _ _ => exact absurd rfl hTag
  | filled _ hRest => exact Or.inl ⟨_, _, hRest, rfl, rfl⟩
  | shown hInner hRest => exact Or.inr ⟨_, _, _, _, hInner, hRest, rfl, rfl⟩

theorem Renders.eq_nil {nodes : List Node} (h : Renders children [] nodes fates) :
    nodes = [] ∧ fates = [] := by
  cases h
  exact ⟨rfl, rfl⟩

theorem Renders.lone_cases {name : String} {nodes : List Node}
    (h : Renders children [namedSlot name []] nodes fates) :
    (nodes = assigned (some name) children ∧ fates = [(some name, .filled)]) ∨
      (nodes = [] ∧ fates = [(some name, .shown)]) := by
  rcases h.slot_cases with ⟨others, later, hRest, rfl, rfl⟩ |
    ⟨own, others, ownFates, later, hInner, hRest, rfl, rfl⟩
  · obtain ⟨rfl, rfl⟩ := hRest.eq_nil
    exact Or.inl (by simp [slotNameOf_set, slotNames])
  · obtain ⟨rfl, rfl⟩ := hInner.eq_nil
    obtain ⟨rfl, rfl⟩ := hRest.eq_nil
    exact Or.inr (by simp [slotNameOf_set])

/-- A slot `a` with a slot `b` as its fallback, and another slot `b` behind it. -/
def hidingShadow : List Node := [namedSlot "a" [namedSlot "b" []], namedSlot "b" []]

/-- A text for each of the two names. -/
def twoTexts : List SlottedContent := [⟨some "a", .text "x"⟩, ⟨some "b", .text "y"⟩]

/-- The second slot `b` shows content, since the first one is not met. -/
theorem compose_hidingShadow : compose hidingShadow twoTexts = [.text "x", .text "y"] := by
  rfl

theorem not_firstSlotsOnly_hidingShadow : ¬ FirstSlotsOnly hidingShadow twoTexts := by
  rintro ⟨fates, hRenders, hFirst⟩
  rw [compose_hidingShadow] at hRenders
  have hFirstText : assigned (some "a") twoTexts = [.text "x"] := rfl
  have hSecondText : assigned (some "b") twoTexts = [.text "y"] := rfl
  rcases hRenders.slot_cases with ⟨others, later, hRest, hNodes, rfl⟩ |
    ⟨own, others, ownFates, later, hInner, hRest, hNodes, rfl⟩
  · rcases hRest.lone_cases with ⟨rfl, rfl⟩ | ⟨rfl, rfl⟩
    · exact hFirst [(some "a", .filled), (some "b", .hidden)] (some "b") [] rfl (by simp)
    · rw [slotNameOf_set, hFirstText] at hNodes
      exact absurd hNodes (by simp)
  · rcases hInner.lone_cases with ⟨rfl, rfl⟩ | ⟨rfl, rfl⟩ <;>
      rcases hRest.lone_cases with ⟨rfl, rfl⟩ | ⟨rfl, rfl⟩ <;>
      exact absurd hNodes (by simp [hSecondText])

/-- Slots that take content in their turn are the first of their names, unless a slot
of the name is hidden before them. -/
theorem onlyFirst_iff_of_inTurn (hTurn : InTurn children [] fates) :
    OnlyFirst fates ↔ ∀ before name after, fates = before ++ (name, .filled) :: after →
      (name, .hidden) ∉ before := by
  constructor
  · intro h before name after hSplit hHidden
    exact h before name after hSplit (List.mem_map_of_mem hHidden)
  · intro h before name after hSplit hMem
    obtain ⟨⟨other, fate⟩, hBefore, rfl⟩ := List.mem_map.mp hMem
    obtain ⟨hContent, -, hFree⟩ := (hTurn before _ _ after hSplit (by decide)).mp rfl
    cases fate with
    | filled => exact hFree hBefore
    | hidden => exact h before _ after hSplit hBefore
    | shown =>
        -- the slot before would have taken the content itself
        obtain ⟨front, between, rfl⟩ := List.append_of_mem hBefore
        rw [List.append_assoc] at hSplit
        have hShown := hTurn front _ _ _ hSplit (by decide)
        have hFront : (other, Fate.filled) ∉ front := by
          intro hMem
          exact hFree (List.mem_append_left _ hMem)
        exact Fate.noConfusion (hShown.mpr ⟨hContent, List.not_mem_nil, hFront⟩)

/-- No slot is hidden in a tree without slots in slots. -/
theorem Renders.notMem_hidden {shadow nodes : List Node} (h : Renders children shadow nodes fates)
    (hUnnested : ∀ slot ∈ slotElements shadow, slotElements slot.children = [])
    (name : SlotName) : (name, .hidden) ∉ fates := by
  induction h with
  | nil => exact List.not_mem_nil
  | text _ ih => exact ih hUnnested
  | element hTag _ _ hInner hRest =>
      rw [slotElements_cons, slotElements_element hTag, List.forall_mem_append] at hUnnested
      rw [List.mem_append, not_or]
      exact ⟨hInner hUnnested.1, hRest hUnnested.2⟩
  | @filled attributes inner rest others later _ _ hRest =>
      rw [slotElements_cons, slotElements_slot, List.forall_mem_append, List.forall_mem_cons]
        at hUnnested
      have hInner : slotNames inner = [] := by
        rw [slotNames_eq_map, hUnnested.1.1, List.map_nil]
      have hLater := hRest hUnnested.2
      simpa [hInner] using hLater
  | shown _ _ hInner hRest =>
      rw [slotElements_cons, slotElements_slot, List.forall_mem_append, List.forall_mem_cons]
        at hUnnested
      have hOwn := hInner hUnnested.1.2
      have hLater := hRest hUnnested.2
      simp [hOwn, hLater]

/-- Where no slot is inside of another one, names may be repeated. -/
theorem firstSlotsOnly_of_unnested {shadow : List Node} (children : List SlottedContent)
    (hUnnested : ∀ slot ∈ slotElements shadow, slotElements slot.children = []) :
    FirstSlotsOnly shadow children := by
  obtain ⟨fates, hRenders, hTurn⟩ := exists_renders_compose shadow children
  refine ⟨fates, hRenders, (onlyFirst_iff_of_inTurn hTurn).mpr ?_⟩
  rintro before name after rfl hHidden
  exact hRenders.notMem_hidden hUnnested name (List.mem_append_left _ hHidden)

/-- Where no name is repeated, slots may be inside of one another. -/
theorem firstSlotsOnly_of_nodup {shadow : List Node} (children : List SlottedContent)
    (hNames : (slotNames shadow).Nodup) : FirstSlotsOnly shadow children := by
  obtain ⟨fates, hRenders, -⟩ := exists_renders_compose shadow children
  refine ⟨fates, hRenders, ?_⟩
  rintro before name after rfl hMem
  rw [← hRenders.map_fst, List.map_append, List.map_cons] at hNames
  exact (List.nodup_append.mp hNames).2.2 name hMem name List.mem_cons_self rfl

/-- The slots of a component are numbered, so it shows content in first slots only. -/
theorem firstSlotsOnly_component (config : Config) (children : List SlottedContent) :
    FirstSlotsOnly (Component.new config).shadowTree children := by
  refine firstSlotsOnly_of_nodup children ?_
  rw [slotNames_shadowTree]
  exact nodup_cellNames _

/-- The slots of a composed tree take content in their turn. That puts content in the
first slots of their names exactly if no slot is hidden whose name is that of a
filled slot behind it. -/
theorem exists_fates_compose (shadow : List Node) (children : List SlottedContent) :
    ∃ fates, Renders children shadow (compose shadow children) fates ∧
      InTurn children [] fates ∧
      (OnlyFirst fates ↔ ∀ before name after, fates = before ++ (name, .filled) :: after →
        (name, .hidden) ∉ before) := by
  obtain ⟨fates, hRenders, hTurn⟩ := compose_eq_iff.mp (Eq.refl (compose shadow children))
  exact ⟨fates, hRenders, hTurn, onlyFirst_iff_of_inTurn hTurn⟩

end SlotGrid.Slotting
