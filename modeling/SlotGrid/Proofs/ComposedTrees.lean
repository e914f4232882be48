import SlotGrid.Proofs.HandingOut

/-!
# What a composed tree depends on and what it keeps

Composing a tree looks at content name by name, and only for the names that its slots
have. Content of other names, and how the content of different names is mixed, makes no
difference. The composed tree has no slots left but those that came with content; a
tree without slots is composed to itself, so composing is done after the first time.
Where nothing is placed, every slot gives way to its fallback: the texts of the tree
stay as they are, and so do its elements, the slots apart.

## Main definitions

* `SameByName` — the same content for every name, in the same order.
* `heads` — the tags and attributes of the elements of a tree, in document order.

## Main results

* `composeAll_congr` — content is looked at for the names of the slots only.
* `sameByName_iff_and_compose_filter` — content of the same names composes the same, and
  content without a slot can be left out.
* `Renders.slotElements_eq` — the slots of a composed tree come with its content.
* `compose_settles` — with content that has no slots, composing once is enough.
* `compose_of_unplaced` — where nothing is placed, nothing is lost.
-/

namespace SlotGrid

open Markup (Attributes Node)

/-! ## Nodes side by side -/

namespace Markup

theorem textContents_append (nodes others : List Node) :
    textContents (nodes ++ others) = textContents nodes ++ textContents others := by
  induction nodes with
  | nil => rw [List.nil_append, textContents, String.empty_append]
  | cons node rest ih => rw [List.cons_append, textContents, ih, textContents, String.append_assoc]

theorem elements_append (nodes others : List Node) :
    elements (nodes ++ others) = elements nodes ++ elements others := by
  induction nodes with
  | nil => rfl
  | cons node rest ih => rw [List.cons_append, elements, ih, elements, List.append_assoc]

/-- The tags and attributes of the elements of a list of nodes, in document order. -/
def heads (nodes : List Node) : List (String × Attributes) :=
  (elements nodes).map fun element => (element.tag, element.attributes)

theorem heads_append (nodes others : List Node) :
    heads (nodes ++ others) = heads nodes ++ heads others := by
  rw [heads, elements_append, List.map_append, heads, heads]

theorem heads_element_cons (tag : String) (attributes : Attributes) (children rest : List Node) :
    heads (.element tag attributes children :: rest) =
      (tag, attributes) :: heads children ++ heads rest := by
  rw [heads, elements, Node.elements, List.map_append, List.map_cons, heads, heads]

end Markup

namespace Slotting

open Markup (elements heads textContents)

theorem slotElements_append (nodes others : List Node) :
    slotElements (nodes ++ others) = slotElements nodes ++ slotElements others := by
  rw [slotElements, Markup.elements_append, List.filter_append, slotElements, slotElements]

variable {children others : List SlottedContent}

/-! ## Content by name -/

mutual

private theorem composeNode_congr (filled : List SlotName) (node : Node)
    (h : ∀ name ∈ nodeSlotNames node, assigned name children = assigned name others) :
    composeNode children filled node = composeNode others filled node := by
  cases node with
  | text content => rfl
  | element tag attributes inner =>
      by_cases hTag : tag = "slot"
      · subst hTag
        -- both ways of the slot: its own content, or the slots in its fallback
        rw [nodeSlotNames, if_pos rfl, List.forall_mem_cons] at h
        obtain ⟨hOwn, hNames⟩ := h
        have hInner := composeAll_congr filled inner hNames
        simp only [composeNode, if_true, hOwn, hInner]
      · rw [nodeSlotNames, if_neg hTag] at h
        rw [composeNode_element hTag, composeNode_element hTag, composeAll_congr filled inner h]

/-- Composing looks at content for the names of the slots only: with the same content for
them, the same slots are filled and the same nodes come of it. -/
theorem composeAll_congr (filled : List SlotName) (nodes : List Node)
    (h : ∀ name ∈ slotNames nodes, assigned name children = assigned name others) :
    composeAll children filled nodes = composeAll others filled nodes := by
  cases nodes with
  | nil => rfl
  | cons node rest =>
      rw [slotNames, List.forall_mem_append] at h
      obtain ⟨hNode, hRest⟩ := h
      rw [composeAll, composeAll, composeNode_congr filled node hNode]
      simp only [composeAll_congr _ rest hRest]

end

theorem compose_congr {shadow : List Node}
    (h : ∀ name ∈ slotNames shadow, assigned name children = assigned name others) :
    compose shadow children = compose shadow others := by
  rw [compose, composeAll_congr [] shadow h, compose]

/-- Whether there is the same content for every name, in the same order. -/
def SameByName (children others : List SlottedContent) : Prop :=
  ∀ name : SlotName, (children.filter fun child => child.slot == name) =
    others.filter fun child => child.slot == name

/-- The content for a name is known from its nodes. -/
theorem filter_eq_map_assigned (name : SlotName) (children : List SlottedContent) :
    (children.filter fun child => child.slot == name) =
      (assigned name children).map (SlottedContent.mk name) := by
  have hSelf : ∀ child ∈ children.filter fun child => child.slot == name,
      SlottedContent.mk name child.content = child := by
    intro child hChild
    have hName : child.slot = name := by simpa using (List.mem_filter.mp hChild).2
    rw [← hName]
  rw [assigned, List.map_map]
  exact ((List.map_congr_left hSelf).trans (List.map_id' _)).symm

theorem sameByName_iff_assigned :
    SameByName children others ↔ ∀ name, assigned name children = assigned name others := by
  constructor
  · intro h name
    rw [assigned, h name, assigned]
  · intro h name
    rw [filter_eq_map_assigned, h name, ← filter_eq_map_assigned]

theorem exists_slotNameOf (name : SlotName) : ∃ attributes, slotNameOf attributes = name := by
  cases name with
  | none => exact ⟨.empty, rfl⟩
  | some name => exact ⟨_, slotNameOf_set name⟩

/-- A slot without a fallback shows the content for its name. -/
theorem compose_lone_slot (attributes : Attributes) (children : List SlottedContent) :
    compose [.element "slot" attributes []] children =
      assigned (slotNameOf attributes) children := by
  by_cases hContent : assigned (slotNameOf attributes) children = []
  · simp [compose, composeAll, composeNode, hContent]
  · simp [compose, composeAll, composeNode, hContent]

/-- Content that no slot has the name of may be left out. -/
theorem compose_filter {shadow : List Node} (keep : SlottedContent → Bool)
    (h : ∀ child ∈ children, keep child = false → child ∈ unplaced shadow children) :
    compose shadow (children.filter keep) = compose shadow children := by
  apply compose_congr
  intro name hName
  rw [assigned, List.filter_filter, assigned]
  congr 1
  apply List.filter_congr
  intro child hChild
  cases hKeep : keep child with
  | true => rw [Bool.and_true]
  | false =>
      have hNone : child.slot ∉ slotNames shadow := by
        simpa [unplaced, hasPlace] using (List.mem_filter.mp (h child hChild hKeep)).2
      have hOther : child.slot ≠ name := by
        rintro rfl
        exact hNone hName
      rw [Bool.and_false, beq_eq_false_iff_ne.mpr hOther]

/-- Content composes the same in every tree exactly if it is the same for every name, in
the same order; how names are mixed makes no difference. In each tree, any content that
is unplaced may be left out, or all of it. -/
theorem sameByName_iff_and_compose_filter :
    (∀ children others : List SlottedContent, SameByName children others ↔
      ∀ shadow : List Node, compose shadow children = compose shadow others) ∧
    ∀ (shadow : List Node) (children : List SlottedContent) (keep : SlottedContent → Bool),
      (∀ child ∈ children, keep child = false → child ∈ unplaced shadow children) →
        compose shadow (children.filter keep) = compose shadow children := by
  refine ⟨?_, fun shadow children keep h => compose_filter keep h⟩
  intro children others
  rw [sameByName_iff_assigned]
  constructor
  · intro h shadow
    exact compose_congr fun name _ => h name
  · -- a tree of one slot shows the content for its name
    intro h name
    obtain ⟨attributes, rfl⟩ := exists_slotNameOf name
    rw [← compose_lone_slot, h, compose_lone_slot]

/-- A tree with slots in a slot and in other elements, a name that is repeated and a slot
without a name. -/
def nestedShadow : List Node :=
  [.element "p" (Attributes.empty.set "class" "a")
    [namedSlot "a" [.text "no a", namedSlot "b" [.element "br" .empty []]],
      .element "i" .empty [.element "slot" .empty [.text "nothing"]]],
    namedSlot "b" [.text "no b"]]

theorem slotNames_nestedShadow :
    slotNames nestedShadow = [some "a", some "b", none, some "b"] := by decide

/-- Content for a name that no slot of the tree has. -/
def strayContent : SlottedContent := ⟨some "c", .text "lost"⟩

/-- Content of several names, mixed. -/
def mixedContent : List SlottedContent :=
  [⟨some "a", .text "x"⟩, strayContent, ⟨some "b", .element "b" .empty [.text "y"]⟩,
    ⟨some "a", .text "z"⟩]

/-- The same content, name by name. -/
def sortedContent : List SlottedContent :=
  [⟨some "a", .text "x"⟩, ⟨some "a", .text "z"⟩, ⟨some "b", .element "b" .empty [.text "y"]⟩,
    strayContent]

theorem sameByName_mixedContent : SameByName mixedContent sortedContent := by
  intro name
  by_cases hFirst : some "a" = name
  · subst hFirst
    rfl
  · by_cases hSecond : some "b" = name
    · subst hSecond
      rfl
    · simp [mixedContent, sortedContent, strayContent, List.filter_cons, hFirst, hSecond]

theorem sameByName_iff_and_compose_filter_nestedShadow :
    SameByName mixedContent sortedContent ∧
      compose nestedShadow mixedContent = compose nestedShadow sortedContent ∧
      (∀ child ∈ mixedContent, (child.slot != some "c") = false →
        child ∈ unplaced nestedShadow mixedContent) ∧
      compose nestedShadow (mixedContent.filter fun child => child.slot != some "c") =
        compose nestedShadow mixedContent := by
  have hLeft : ∀ child ∈ mixedContent, (child.slot != some "c") = false →
      child ∈ unplaced nestedShadow mixedContent := by
    simp [mixedContent, strayContent, unplaced, hasPlace, slotNames_nestedShadow]
  obtain ⟨hSame, hFilter⟩ := sameByName_iff_and_compose_filter
  exact ⟨sameByName_mixedContent, (hSame _ _).mp sameByName_mixedContent nestedShadow, hLeft,
    hFilter nestedShadow _ _ hLeft⟩

/-! ## Slots of a composed tree -/

/-- The slots of a composed tree are those that its content comes with, filled slot by
filled slot. -/
theorem Renders.slotElements_eq {shadow nodes : List Node} {fates : List (SlotName × Fate)}
    (h : Renders children shadow nodes fates) :
    slotElements nodes =
      (filledNames fates).flatMap fun name => slotElements (assigned name children) := by
  induction h with
  | nil => rfl
  | text _ ih => exact ih
  | element hTag _ _ hInner hRest =>
      rw [slotElements_cons, slotElements_element hTag, hInner, hRest, filledNames_append,
        List.flatMap_append]
  | @filled attributes inner rest others later _ _ hRest =>
      have hHidden : filledNames ((slotNames inner).map (·, Fate.hidden)) = [] := by
        simp [filledNames]
      have hNames : filledNames ((slotNameOf attributes, .filled) ::
          (slotNames inner).map (·, .hidden) ++ later) =
          slotNameOf attributes :: filledNames later := by
        rw [filledNames_append, ← List.singleton_append, filledNames_append, hHidden]
        rfl
      rw [slotElements_append, hRest, hNames, List.flatMap_cons]
  | @shown attributes inner nodes rest others fates later _ _ hInner hRest =>
      have hNames : filledNames ((slotNameOf attributes, .shown) :: fates ++ later) =
          filledNames fates ++ filledNames later := filledNames_append fates later
      rw [slotElements_append, hInner, hRest, hNames, List.flatMap_append]

theorem compose_of_slotElements_eq_nil {nodes : List Node} (h : slotElements nodes = [])
    (children : List SlottedContent) : compose nodes children = nodes := by
  have hNames : slotNames nodes = [] := by
    rw [slotNames_eq_map, h, List.map_nil]
  rw [compose, composeAll_of_slotNames_eq_nil children [] nodes hNames]

/-- With content that has no slots in it, composing leaves no slot, and composing again
changes nothing, whatever the content is then. -/
theorem compose_settles (shadow : List Node) {children : List SlottedContent}
    (h : ∀ child ∈ children, slotElements [child.content] = []) :
    slotElements (compose shadow children) = [] ∧
      ∀ others : List SlottedContent,
        compose (compose shadow children) others = compose shadow children := by
  obtain ⟨fates, hRenders, -⟩ := exists_renders_compose shadow children
  have hNone : slotElements (compose shadow children) = [] := by
    rw [hRenders.slotElements_eq, List.flatMap_eq_nil_iff]
    intro name _
    rw [slotElements_eq_flatMap, List.flatMap_eq_nil_iff]
    intro node hNode
    obtain ⟨child, hChild, rfl⟩ := List.mem_map.mp hNode
    exact h child (List.mem_filter.mp hChild).1
  exact ⟨hNone, compose_of_slotElements_eq_nil hNone⟩

theorem compose_settles_nestedShadow :
    (∀ child ∈ mixedContent, slotElements [child.content] = []) ∧
      slotElements (compose nestedShadow mixedContent) = [] ∧
      ∀ others : List SlottedContent,
        compose (compose nestedShadow mixedContent) others = compose nestedShadow mixedContent := by
  have hContent : ∀ child ∈ mixedContent, slotElements [child.content] = [] := by
    simp [mixedContent, strayContent, slotElements, elements, Markup.Node.elements]
  exact ⟨hContent, compose_settles nestedShadow hContent⟩

/-! ## Trees in which nothing is placed -/

/-- Without content no slot is filled, and a fallback has the texts of its slot. -/
theorem Renders.textContents_eq {shadow nodes : List Node} {fates : List (SlotName × Fate)}
    (h : Renders [] shadow nodes fates) : textContents nodes = textContents shadow := by
  induction h with
  | nil => rfl
  | text _ ih => rw [textContents, ih, textContents]
  | element _ _ _ hInner hRest =>
      rw [textContents, Node.textContent, hInner, hRest, textContents, Node.textContent]
  | filled hContent => exact absurd rfl hContent
  | shown _ _ hInner hRest =>
      rw [Markup.textContents_append, hInner, hRest, textContents, Node.textContent]

theorem Renders.heads_eq {shadow nodes : List Node} {fates : List (SlotName × Fate)}
    (h : Renders [] shadow nodes fates) :
    heads nodes = (heads shadow).filter fun head => head.1 ≠ "slot" := by
  induction h with
  | nil => rfl
  | text _ ih => exact ih
  | element hTag _ _ hInner hRest =>
      simp [Markup.heads_element_cons, hInner, hRest, hTag]
  | filled hContent => exact absurd rfl hContent
  | shown _ _ hInner hRest =>
      simp [Markup.heads_element_cons, Markup.heads_append, hInner, hRest]

/-- Where no content has a place, the composed tree has the texts of the tree, and its
elements with their attributes in the same order, except the slots. -/
theorem compose_of_unplaced {shadow : List Node} {children : List SlottedContent}
    (h : ∀ child ∈ children, child ∈ unplaced shadow children) :
    textContents (compose shadow children) = textContents shadow ∧
      heads (compose shadow children) =
        (heads shadow).filter fun head => head.1 ≠ "slot" := by
  -- all content may be left out, and then there is none that could fill a slot
  have hNone : compose shadow children = compose shadow [] := by
    rw [← compose_filter (fun _ => false) fun child hChild _ => h child hChild, List.filter_false]
  obtain ⟨fates, hRenders, -⟩ := compose_eq_iff.mp hNone.symm
  exact ⟨hRenders.textContents_eq, hRenders.heads_eq⟩

theorem compose_of_unplaced_nestedShadow :
    (∀ child ∈ [strayContent], child ∈ unplaced nestedShadow [strayContent]) ∧
      textContents (compose nestedShadow [strayContent]) = "no anothingno b" ∧
      heads (compose nestedShadow [strayContent]) =
        [("p", Attributes.empty.set "class" "a"), ("br", .empty), ("i", .empty)] := by
  have hLeft : ∀ child ∈ [strayContent], child ∈ unplaced nestedShadow [strayContent] := by
    simp [strayContent, unplaced, hasPlace, slotNames_nestedShadow]
  obtain ⟨hText, hHeads⟩ := compose_of_unplaced hLeft
  refine ⟨hLeft, ?_, ?_⟩
  · rw [hText]
    decide
  · rw [hHeads]
    decide

end Slotting

end SlotGrid
