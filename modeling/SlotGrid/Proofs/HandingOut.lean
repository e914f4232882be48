import Mathlib.Data.List.Induction
import SlotGrid.Proofs.SlotFates

/-!
# Handing content out to slots

Composing a tree looks at all content in every slot and keeps a list of the names
that are filled. It can also be seen as handing content out: the walk carries the
content that is left, and a slot takes from it whatever is meant for its name. The
two walks meet the same slots and place the same nodes, since the content that is
left is always the content of the names that are not filled. So no piece of content
is placed twice, and the content of one name stays together and in order.

## Main definitions

* `handNode`, `handAll` — the walk that carries the content that is left.
* `notFilled` — the content of the names that are not filled.
* `filledNames` — the names of the slots that are filled.
* `HandedOut` — what it means that content is handed out piece by piece.

## Main results

* `handAll_notFilled` — the two walks go together.
* `InTurn.nodup_filledNames` — no name is filled twice.
* `exists_handedOut_compose` — composing a tree hands content out.
-/

namespace SlotGrid.Slotting

open Markup (Attributes Node)

/-! ## The walk -/

/-- The nodes that take the place of a tree, and the content that is left after
it. -/
structure Handout where
  nodes : List Node
  left : List SlottedContent

mutual

/-- Hands content out to the slots of a node. A slot takes all content of its name
and shows it in order; if there is none, its fallback is shown. -/
def handNode (left : List SlottedContent) : Node → Handout
  | .text content => ⟨[.text content], left⟩
  | .element tag attributes inner =>
    if tag = "slot" then
      let name := attributes.get? "name"
      let taken := left.filter fun child => child.slot == name
      if taken.isEmpty then handAll left inner
      else ⟨taken.map SlottedContent.content, left.filter fun child => child.slot != name⟩
    else
      let handed := handAll left inner
      ⟨[.element tag attributes handed.nodes], handed.left⟩

/-- Hands content out to nodes one after the other. -/
def handAll (left : List SlottedContent) : List Node → Handout
  | [] => ⟨[], left⟩
  | node :: rest =>
    let first := handNode left node
    let others := handAll first.left rest
    ⟨first.nodes ++ others.nodes, others.left⟩

end

/-! ## Filled names and content that is left -/

/-- The content of the names that are not filled. -/
def notFilled (children : List SlottedContent) (filled : List SlotName) : List SlottedContent :=
  children.filter fun child => !filled.contains child.slot

variable {children : List SlottedContent} {filled : List SlotName} {name : SlotName}

@[simp] theorem notFilled_nil (children : List SlottedContent) : notFilled children [] = children :=
  List.filter_eq_self.mpr (by simp)

/-- A name that is not filled has all of its content left. -/
theorem filter_notFilled_of_notMem (h : name ∉ filled) :
    ((notFilled children filled).filter fun child => child.slot == name) =
      children.filter fun child => child.slot == name := by
  rw [notFilled, List.filter_filter]
  apply List.filter_congr
  intro child _
  by_cases hName : child.slot = name
  · simp [hName, h]
  · simp [hName]

theorem filter_notFilled_of_mem (h : name ∈ filled) :
    ((notFilled children filled).filter fun child => child.slot == name) = [] := by
  rw [List.filter_eq_nil_iff]
  intro child hChild hName
  have hFree : child.slot ∉ filled := by simpa using (List.mem_filter.mp hChild).2
  exact hFree (beq_iff_eq.mp hName ▸ h)

/-- When a name is filled, its content is taken away from what is left. -/
theorem filter_ne_notFilled (children : List SlottedContent) (filled : List SlotName)
    (name : SlotName) :
    ((notFilled children filled).filter fun child => child.slot != name) =
      notFilled children (name :: filled) := by
  rw [notFilled, List.filter_filter, notFilled]
  apply List.filter_congr
  intro child _
  rw [List.contains_cons, Bool.not_or]
  rfl

/-- What a slot is handed, in terms of the name that the slot is composed by. -/
theorem handNode_slot (left : List SlottedContent) (attributes : Attributes)
    (inner : List Node) :
    handNode left (.element "slot" attributes inner) =
      if (left.filter fun child => child.slot == slotNameOf attributes).isEmpty then
        handAll left inner
      else
        ⟨(left.filter fun child => child.slot == slotNameOf attributes).map
            SlottedContent.content,
          left.filter fun child => child.slot != slotNameOf attributes⟩ := by
  rw [handNode, if_pos rfl]
  rfl

theorem handNode_slot_filled {attributes : Attributes} (inner : List Node)
    (hContent : assigned (slotNameOf attributes) children ≠ [])
    (hFree : slotNameOf attributes ∉ filled) :
    handNode (notFilled children filled) (.element "slot" attributes inner) =
      ⟨assigned (slotNameOf attributes) children,
        notFilled children (slotNameOf attributes :: filled)⟩ := by
  have hSome : (children.filter fun child =>
      child.slot == slotNameOf attributes).isEmpty = false := by
    rw [List.isEmpty_eq_false_iff]
    intro hNone
    apply hContent
    rw [assigned, hNone, List.map_nil]
  rw [handNode_slot, filter_notFilled_of_notMem hFree, filter_ne_notFilled, hSome,
    if_neg Bool.false_ne_true]
  rfl

theorem handNode_slot_shown {attributes : Attributes} (inner : List Node)
    (h : ¬ (assigned (slotNameOf attributes) children ≠ [] ∧ slotNameOf attributes ∉ filled)) :
    handNode (notFilled children filled) (.element "slot" attributes inner) =
      handAll (notFilled children filled) inner := by
  have hNone : ((notFilled children filled).filter fun child =>
      child.slot == slotNameOf attributes) = [] := by
    by_cases hFilled : slotNameOf attributes ∈ filled
    · exact filter_notFilled_of_mem hFilled
    · rw [filter_notFilled_of_notMem hFilled]
      by_contra hSome
      exact h ⟨fun hNil => hSome (List.map_eq_nil_iff.mp hNil), hFilled⟩
  rw [handNode_slot, hNone, List.isEmpty_nil, if_pos rfl]

/-! ## The two walks go together -/

mutual

private theorem handNode_notFilled (children : List SlottedContent) (filled : List SlotName)
    (node : Node) :
    handNode (notFilled children filled) node =
      ⟨(composeNode children filled node).nodes,
        notFilled children (composeNode children filled node).filled⟩ := by
  cases node with
  | text content => rfl
  | element tag attributes inner =>
      have hInner := handAll_notFilled children filled inner
      by_cases hTag : tag = "slot"
      · subst hTag
        by_cases hFill : assigned (slotNameOf attributes) children ≠ [] ∧
            slotNameOf attributes ∉ filled
        · rw [handNode_slot_filled inner hFill.1 hFill.2, composeNode_filled hFill.1 hFill.2]
        · rw [handNode_slot_shown inner hFill, composeNode_shown hFill, hInner]
      · rw [handNode, if_neg hTag, composeNode_element hTag]
        simp only [hInner]

/-- As long as the content that is left is that of the names that are not filled, the
two walks place the same nodes, and it stays so. -/
theorem handAll_notFilled (children : List SlottedContent) (filled : List SlotName)
    (nodes : List Node) :
    handAll (notFilled children filled) nodes =
      ⟨(composeAll children filled nodes).nodes,
        notFilled children (composeAll children filled nodes).filled⟩ := by
  cases nodes with
  | nil => rfl
  | cons node rest =>
      have hNode := handNode_notFilled children filled node
      have hRest := handAll_notFilled children (composeNode children filled node).filled rest
      simp only [handAll, composeAll, hNode, hRest]

end

theorem handAll_eq (children : List SlottedContent) (shadow : List Node) :
    handAll children shadow =
      ⟨compose shadow children, notFilled children (composeAll children [] shadow).filled⟩ := by
  have hWalk := handAll_notFilled children [] shadow
  rw [notFilled_nil] at hWalk
  exact hWalk

/-! ## No name is filled twice -/

/-- The names of the slots that are filled, in document order. -/
def filledNames (fates : List (SlotName × Fate)) : List SlotName :=
  (fates.filter fun pair => pair.2 = .filled).map Prod.fst

theorem mem_filledNames {fates : List (SlotName × Fate)} :
    name ∈ filledNames fates ↔ (name, .filled) ∈ fates := by
  simp [filledNames]

theorem filledNames_append (fates later : List (SlotName × Fate)) :
    filledNames (fates ++ later) = filledNames fates ++ filledNames later := by
  rw [filledNames, List.filter_append, List.map_append]
  rfl

theorem InTurn.nodup_filledNames {taken : List SlotName} {fates : List (SlotName × Fate)}
    (h : InTurn children taken fates) : (filledNames fates).Nodup := by
  -- from the right: what is filled last was not filled before
  induction fates using List.reverseRecOn with
  | nil => exact List.nodup_nil
  | append_singleton before pair ih =>
      obtain ⟨name, fate⟩ := pair
      have hBefore := ih h.left
      rw [filledNames_append]
      cases fate with
      | filled =>
          obtain ⟨-, -, hFree⟩ := (h before name .filled [] rfl (by decide)).mp rfl
          rw [← mem_filledNames] at hFree
          refine List.nodup_append.mpr ⟨hBefore, List.pairwise_singleton _ name, ?_⟩
          intro other hOther last hLast hSame
          have hLastName : last = name := List.mem_singleton.mp hLast
          apply hFree
          rw [← hLastName, ← hSame]
          exact hOther
      | shown =>
          show (filledNames before ++ []).Nodup
          rw [List.append_nil]
          exact hBefore
      | hidden =>
          show (filledNames before ++ []).Nodup
          rw [List.append_nil]
          exact hBefore

/-! ## Handing out -/

/-- What it means that a composed tree comes of handing content out. Content stands
in the filled slots only, all of a name in one slot and in order (`renders`); no
name is filled twice; and the content of the filled slots and the content that is
left are all content, so that nothing is placed twice. -/
structure HandedOut (shadow : List Node) (children : List SlottedContent)
    (fates : List (SlotName × Fate)) : Prop where
  nodes_eq : compose shadow children = (handAll children shadow).nodes
  renders : Renders children shadow (handAll children shadow).nodes fates
  nodup : (filledNames fates).Nodup
  perm : (((filledNames fates).flatMap fun name =>
      children.filter fun child => child.slot == name) ++
    (handAll children shadow).left).Perm children

/-- Composing a tree hands content out. -/
theorem exists_handedOut_compose (shadow : List Node) (children : List SlottedContent) :
    ∃ fates, HandedOut shadow children fates := by
  obtain ⟨fates, hRenders, hTurn, hFilled⟩ := exists_explains children [] shadow
  have hNodup := hTurn.nodup_filledNames
  have hWalk := handAll_eq children shadow
  have hLeft : (handAll children shadow).left =
      children.filter fun child => !(filledNames fates).contains child.slot := by
    rw [hWalk]
    apply List.filter_congr
    intro child _
    have hSame : child.slot ∈ (composeAll children [] shadow).filled ↔
        child.slot ∈ filledNames fates := by
      rw [hFilled, mem_filledNames]
      simp
    simp [hSame]
  refine ⟨fates,
    { nodes_eq := ?_
      renders := ?_
      nodup := hNodup
      perm := ?_ }⟩
  · rw [hWalk]
  · rw [hWalk]
    exact hRenders
  · rw [hLeft]
    exact perm_of_names (filledNames fates) hNodup children

end SlotGrid.Slotting
