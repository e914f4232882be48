import SlotGrid.Component

/-!
# Runs of changes

A component is changed by giving it attributes, by taking them away and by
replacing its configuration. It keeps what it rendered last beside its
configuration, and shows parts of both. This module follows a component through
any run of changes: after every one of them the render is that of the present
configuration, so that nothing of an earlier one is shown, and the counter has
moved once for every change that means something.

## Main definitions

* `Origin`, `Change` — how a component is made, and how it is changed.
* `Change.means` — whether a change means something: a new configuration, or an
  attribute with a known name.
* `Component.apply`, `Component.applyAll` — one change, and a run of changes.
* `Component.FollowsFrom` — what holds of a component after a run.

## Main results

* `isSome_ofName?` — the known names are the seven names of `knownNames`.
* `apply_of_not_means`, `rendered_apply`, `counter_apply` — what one change does.
* `followsFrom_applyAll` — what a whole run does.
-/

namespace SlotGrid

open Slotting (SlottedContent)

/-! ## Making and changing components -/

/-- How a component is made. -/
inductive Origin where
  | bare
  | config (given : Config)
  | attributes (pairs : List (String × String))
  deriving DecidableEq, Repr

/-- The component that is made in this way. -/
def Origin.component : Origin → Component
  | .bare => .default
  | .config given => .new given
  | .attributes pairs => .ofAttributes pairs

/-- A change of a component. -/
inductive Change where
  | setAttribute (name value : String)
  | removeAttribute (name : String)
  | setConfig (config : Config)
  deriving DecidableEq, Repr

/-- The names of the attributes that configure a grid. -/
def knownNames : List String :=
  ["dim", "slot-style", "cell-style", "row-style", "no-fillers", "--dd-gridspace-row",
    "--dd-gridspace-col"]

namespace Change

/-- Whether a change means something. Names are matched without regard to the
case of ASCII letters. -/
def means : Change → Bool
  | .setAttribute name _ => knownNames.contains (Config.Attribute.fold name)
  | .removeAttribute name => knownNames.contains (Config.Attribute.fold name)
  | .setConfig _ => true

/-- What a change makes of a configuration on its own. -/
def configure (config : Config) : Change → Config
  | .setAttribute name value => (config.setNamed? name value).getD config
  | .removeAttribute name => (config.resetNamed? name).getD config
  | .setConfig other => other

end Change

namespace Component

/-- Changes a component. -/
def apply (component : Component) : Change → Component
  | .setAttribute name value => component.setAttribute name value
  | .removeAttribute name => component.removeAttribute name
  | .setConfig config => component.setConfig config

/-- Changes a component several times, in order. -/
def applyAll (component : Component) (changes : List Change) : Component :=
  changes.foldl apply component

/-- What holds of a component that was made in some way and then went through
these changes. -/
structure FollowsFrom (origin : Origin) (changes : List Change) (component : Component) :
    Prop where
  /-- The configuration went through the same changes. -/
  config_eq : component.config = changes.foldl Change.configure origin.component.config
  /-- The render is that of the present configuration. -/
  rendered_eq : component.rendered = render component.config
  /-- The warning stands where no specification is given, and nowhere else. -/
  warning_iff : component.rendered = .warning ↔ component.config.dim = ""
  /-- The first render and every change that means something is counted. -/
  generation_eq : component.generation = 1 + changes.countP Change.means
  /-- A change that means nothing would leave everything as it is. -/
  unknown : ∀ change : Change, change.means = false → component.apply change = component
  /-- Everything that is shown is what a new component would show. -/
  shadowTree_eq : component.shadowTree = (new component.config).shadowTree
  shadowHtml_eq : component.shadowHtml = (new component.config).shadowHtml
  points_eq : component.rendered.points = (new component.config).rendered.points
  compose_eq : ∀ children : List SlottedContent,
    component.compose children = (new component.config).compose children

end Component

/-! ## One change -/

/-- The known names are those that mean an attribute. -/
theorem isSome_ofName? (name : String) :
    (Config.Attribute.ofName? name).isSome = knownNames.contains (Config.Attribute.fold name) := by
  have hNames : Config.Attribute.all.map Config.Attribute.name = knownNames := by decide
  rw [Bool.eq_iff_iff, Config.Attribute.ofName?, List.find?_isSome, List.contains_iff_mem,
    ← hNames, List.mem_map]
  simp only [beq_iff_eq]

namespace Component

theorem apply_of_not_means (component : Component) {change : Change}
    (h : change.means = false) : component.apply change = component := by
  cases change with
  | setAttribute name value =>
      rw [Change.means, ← isSome_ofName?, Option.isSome_eq_false_iff,
        Option.isNone_iff_eq_none] at h
      simp [apply, setAttribute, Config.setNamed?, h]
  | removeAttribute name =>
      rw [Change.means, ← isSome_ofName?, Option.isSome_eq_false_iff,
        Option.isNone_iff_eq_none] at h
      simp [apply, removeAttribute, Config.resetNamed?, h]
  | setConfig config => cases h

/-- A change that means something is the replacement of the configuration by
the changed one. -/
theorem apply_of_means (component : Component) {change : Change} (h : change.means = true) :
    component.apply change = component.setConfig (Change.configure component.config change) := by
  cases change with
  | setAttribute name value =>
      rw [Change.means, ← isSome_ofName?, Option.isSome_iff_exists] at h
      obtain ⟨part, hName⟩ := h
      simp [apply, setAttribute, Change.configure, Config.setNamed?, hName]
  | removeAttribute name =>
      rw [Change.means, ← isSome_ofName?, Option.isSome_iff_exists] at h
      obtain ⟨part, hName⟩ := h
      simp [apply, removeAttribute, Change.configure, Config.resetNamed?, hName]
  | setConfig config => rfl

theorem config_apply (component : Component) (change : Change) :
    (component.apply change).config = Change.configure component.config change := by
  cases change with
  | setAttribute name value =>
      rw [apply, setAttribute, Change.configure]
      cases component.config.setNamed? name value with
      | none => rfl
      | some config => rfl
  | removeAttribute name =>
      rw [apply, removeAttribute, Change.configure]
      cases component.config.resetNamed? name with
      | none => rfl
      | some config => rfl
  | setConfig config => rfl

/-- No change leaves a render of another configuration behind. -/
theorem rendered_apply {component : Component} (change : Change)
    (h : component.rendered = render component.config) :
    (component.apply change).rendered = render (component.apply change).config := by
  cases hMeans : change.means with
  | false =>
      rw [apply_of_not_means component hMeans]
      exact h
  | true =>
      rw [apply_of_means component hMeans]
      rfl

theorem counter_apply (component : Component) (change : Change) :
    (component.apply change).counter =
      component.counter + UInt64.ofNat (if change.means then 1 else 0) := by
  cases hMeans : change.means with
  | false =>
      rw [apply_of_not_means component hMeans]
      simp
  | true =>
      rw [apply_of_means component hMeans]
      rfl

/-! ## Runs -/

theorem config_applyAll (component : Component) (changes : List Change) :
    (component.applyAll changes).config = changes.foldl Change.configure component.config := by
  induction changes generalizing component with
  | nil => rfl
  | cons change rest ih =>
      rw [applyAll, List.foldl_cons, ← applyAll, ih, config_apply]
      rfl

theorem rendered_applyAll {component : Component} (changes : List Change)
    (h : component.rendered = render component.config) :
    (component.applyAll changes).rendered = render (component.applyAll changes).config := by
  induction changes generalizing component with
  | nil => exact h
  | cons change rest ih => exact ih (rendered_apply change h)

/-- The counter of a run, which may have gone back to zero. -/
theorem counter_applyAll (component : Component) (changes : List Change) :
    (component.applyAll changes).counter =
      component.counter + UInt64.ofNat (changes.countP Change.means) := by
  induction changes generalizing component with
  | nil => simp [applyAll]
  | cons change rest ih =>
      rw [applyAll, List.foldl_cons, ← applyAll, ih, counter_apply, List.countP_cons,
        UInt64.add_assoc, ← UInt64.ofNat_add, Nat.add_comm]

/-- The counter of a run that is shorter than the numbers of 64 bits. -/
theorem generation_applyAll {component : Component} (changes : List Change)
    (hFirst : component.counter = 1) (hCount : changes.length < UInt64.size - 1) :
    (component.applyAll changes).generation = 1 + changes.countP Change.means := by
  have hLe : changes.countP Change.means ≤ changes.length := List.countP_le_length
  have hOne : UInt64.toNat 1 = 1 := rfl
  have hSize : UInt64.size = 2 ^ 64 := rfl
  rw [generation, counter_applyAll, hFirst, UInt64.toNat_add, UInt64.toNat_ofNat', hOne]
  omega

/-- A component with a render of its configuration shows what a new one shows;
only the counter may differ. -/
theorem shadowTree_of_rendered {component : Component}
    (h : component.rendered = render component.config) :
    component.shadowTree = (new component.config).shadowTree := by
  rw [shadowTree, shadowTree, h]
  rfl

theorem rendered_component (origin : Origin) :
    origin.component.rendered = render origin.component.config := by
  cases origin <;> rfl

theorem counter_component (origin : Origin) : origin.component.counter = 1 := by
  cases origin <;> rfl

/-- A run of changes after any beginning; the states in between are those of
shorter runs. -/
theorem followsFrom_applyAll (origin : Origin) (changes : List Change)
    (hCount : changes.length < UInt64.size - 1) :
    (origin.component.applyAll changes).FollowsFrom origin changes := by
  have hRendered := rendered_applyAll changes (rendered_component origin)
  have hTree := shadowTree_of_rendered hRendered
  refine
    { config_eq := config_applyAll origin.component changes
      rendered_eq := hRendered
      warning_iff := ?_
      generation_eq := generation_applyAll changes (counter_component origin) hCount
      unknown := fun _ hMeans => apply_of_not_means _ hMeans
      shadowTree_eq := hTree
      shadowHtml_eq := ?_
      points_eq := ?_
      compose_eq := ?_ }
  · rw [hRendered]
    exact render_eq_warning_iff _
  · rw [shadowHtml, shadowHtml, hTree]
  · rw [hRendered]
    rfl
  · intro children
    rw [compose, compose, hTree]

/-- Names are matched in any case, and a name that means nothing is not
counted. -/
theorem generation_of_mixed_changes :
    [Change.setAttribute "No-Fillers" "", .setAttribute "title" "grid", .removeAttribute "DIM",
        .setConfig .default].length < UInt64.size - 1 ∧
      ((Origin.attributes [("dim", "50 50")]).component.applyAll
        [.setAttribute "No-Fillers" "", .setAttribute "title" "grid", .removeAttribute "DIM",
          .setConfig .default]).generation = 4 := by
  refine ⟨by decide, ?_⟩
  rw [(followsFrom_applyAll _ _ (by decide)).generation_eq]
  decide

end Component

end SlotGrid
