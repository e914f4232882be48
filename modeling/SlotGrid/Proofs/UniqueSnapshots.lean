import Mathlib.Data.List.Nodup
import SlotGrid.Markup.Snapshot
import SlotGrid.Proofs.QuotedStrings

/-!
# Snapshots tell trees apart

The text of a snapshot shows everything there is in a tree, except for the order of
the attributes within an element: they are put in the order of their names. That
nothing else is lost has two reasons. A text without spaces is the text of one
value only, because the first character of a value tells its kind and what
follows tells where it ends. And a value is the snapshot of one tree only, but for
the order of attributes; that the sorted attributes tell which attributes there
are, and the other way around, needs that no name occurs twice in an element.

## Main definitions

* `Node.Alike`, `AllAlike` — trees that are the same but for the order of attributes
  within an element.

## Main results

* `compact_inj` — a value is told by its text, whatever follows it.
* `sorted_eq_iff` — attributes are sorted alike if they are the same in some order.
* `snapshots_eq_iff` — trees with the same snapshots.
* `compact_snapshot_eq_iff` — trees with the same text of their snapshots.
-/

namespace SlotGrid

namespace Json

/-! ## Values are told by their texts -/

/-- The character that a value begins with. -/
def Value.opener : Value → Char
  | .boolean value => if value then 't' else 'f'
  | .string _ => '"'
  | .array _ => '['
  | .object _ => '{'

/-- Whether two values are of the same kind; truth values have to be the same. -/
def Value.SameKind : Value → Value → Prop
  | .boolean value, .boolean other => value = other
  | .string _, .string _ => True
  | .array _, .array _ => True
  | .object _, .object _ => True
  | _, _ => False

theorem compact_opener (value : Value) : ∃ more, value.compact = value.opener :: more := by
  cases value with
  | boolean value => cases value <;> exact ⟨_, rfl⟩
  | string content => exact ⟨_, rfl⟩
  | array items => cases items <;> exact ⟨_, rfl⟩
  | object members =>
      cases members with
      | nil => exact ⟨_, rfl⟩
      | cons member rest => exact ⟨_, rfl⟩

/-- The first character of a value tells its kind. -/
theorem sameKind_of_opener {value other : Value} (h : value.opener = other.opener) :
    value.SameKind other := by
  cases value <;> cases other <;> grind [Value.opener, Value.SameKind]

/-- The end of an array is no beginning of a value. -/
theorem opener_ne_bracket (value : Value) : value.opener ≠ ']' := by
  cases value <;> grind [Value.opener]

private theorem bracket_append_ne {value : Value} {rest more last : List Char} :
    ']' :: last ≠ value.compact ++ more ++ rest := by
  obtain ⟨tail, hValue⟩ := compact_opener value
  rw [hValue]
  intro h
  exact opener_ne_bracket value (List.cons.inj h).1.symm

/-- Values with the same text are of the same kind. -/
theorem sameKind_of_compact_append {value other : Value} {rest last : List Char}
    (h : value.compact ++ rest = other.compact ++ last) : value.SameKind other := by
  obtain ⟨more, hValue⟩ := compact_opener value
  obtain ⟨others, hOther⟩ := compact_opener other
  rw [hValue, hOther] at h
  exact sameKind_of_opener (List.cons.inj h).1

mutual

/-- A value is told by its text, whatever follows it. -/
theorem compact_inj (value other : Value) {rest last : List Char}
    (h : value.compact ++ rest = other.compact ++ last) : value = other ∧ rest = last := by
  -- the induction is on the first value; the other one is of the same kind
  have hKind := sameKind_of_compact_append h
  cases value with
  | boolean value =>
      cases other with
      | boolean other =>
          obtain rfl : value = other := hKind
          exact ⟨rfl, List.append_cancel_left h⟩
      | _ => exact hKind.elim
  | string content =>
      cases other with
      | string otherContent =>
          obtain ⟨rfl, hRest⟩ := quote_inj h
          exact ⟨rfl, hRest⟩
      | _ => exact hKind.elim
  | array items =>
      cases other with
      | array others =>
          cases items with
          | nil =>
              cases others with
              | nil => exact ⟨rfl, List.append_cancel_left h⟩
              | cons other others =>
                  exact absurd (List.cons.inj h).2 bracket_append_ne
          | cons item items =>
              cases others with
              | nil => exact absurd (List.cons.inj h).2.symm bracket_append_ne
              | cons other others =>
                  have hItem : item.compact ++ (compactItems items ++ rest) =
                      other.compact ++ (compactItems others ++ last) := by
                    simpa [Value.compact] using h
                  obtain ⟨rfl, hItems⟩ := compact_inj item other hItem
                  obtain ⟨rfl, hRest⟩ := compactItems_inj items others hItems
                  exact ⟨rfl, hRest⟩
      | _ => exact hKind.elim
  | object members =>
      cases other with
      | object others =>
          cases members with
          | nil =>
              cases others with
              | nil => exact ⟨rfl, List.append_cancel_left h⟩
              | cons other others =>
                  have hFirst : '}' = '"' := (List.cons.inj (List.cons.inj h).2).1
                  exact absurd hFirst (by decide)
          | cons member members =>
              cases others with
              | nil =>
                  have hFirst : '"' = '}' := (List.cons.inj (List.cons.inj h).2).1
                  exact absurd hFirst (by decide)
              | cons other others =>
                  obtain ⟨key, value⟩ := member
                  obtain ⟨otherKey, other⟩ := other
                  have hKey :
                      quote key ++ ':' :: (value.compact ++ (compactMembers members ++ rest)) =
                      quote otherKey ++
                        ':' :: (other.compact ++ (compactMembers others ++ last)) := by
                    simpa [Value.compact] using h
                  obtain ⟨rfl, hValue⟩ := quote_inj hKey
                  obtain ⟨rfl, hMembers⟩ := compact_inj value other (List.cons.inj hValue).2
                  obtain ⟨rfl, hRest⟩ := compactMembers_inj members others hMembers
                  exact ⟨rfl, hRest⟩
      | _ => exact hKind.elim

/-- The items behind the first one are told by their text. -/
theorem compactItems_inj (items others : List Value) {rest last : List Char}
    (h : compactItems items ++ rest = compactItems others ++ last) :
    items = others ∧ rest = last := by
  cases items with
  | nil =>
      cases others with
      | nil => exact ⟨rfl, (List.cons.inj h).2⟩
      | cons other others => exact absurd (List.cons.inj h).1 (by decide)
  | cons item items =>
      cases others with
      | nil => exact absurd (List.cons.inj h).1 (by decide)
      | cons other others =>
          rw [compactItems, compactItems] at h
          simp only [List.cons_append, List.append_assoc, List.cons.injEq, true_and] at h
          obtain ⟨rfl, hItems⟩ := compact_inj item other h
          obtain ⟨rfl, hRest⟩ := compactItems_inj items others hItems
          exact ⟨rfl, hRest⟩

/-- The members behind the first one are told by their text. -/
theorem compactMembers_inj (members others : List (String × Value)) {rest last : List Char}
    (h : compactMembers members ++ rest = compactMembers others ++ last) :
    members = others ∧ rest = last := by
  cases members with
  | nil =>
      cases others with
      | nil => exact ⟨rfl, (List.cons.inj h).2⟩
      | cons other others => exact absurd (List.cons.inj h).1 (by decide)
  | cons member members =>
      cases others with
      | nil => exact absurd (List.cons.inj h).1 (by decide)
      | cons other others =>
          obtain ⟨key, value⟩ := member
          obtain ⟨otherKey, other⟩ := other
          rw [compactMembers, compactMembers] at h
          simp only [List.cons_append, List.append_assoc, List.cons.injEq, true_and] at h
          obtain ⟨rfl, hValue⟩ := quote_inj h
          obtain ⟨rfl, hMembers⟩ := compact_inj value other (List.cons.inj hValue).2
          obtain ⟨rfl, hRest⟩ := compactMembers_inj members others hMembers
          exact ⟨rfl, hRest⟩

end

end Json

namespace Markup

/-! ## Attributes -/

theorem sorted_perm (attributes : Attributes) : attributes.sorted.Perm attributes.entries :=
  List.mergeSort_perm _ _

/-- The names of sorted attributes are in order. -/
theorem pairwise_sorted (attributes : Attributes) :
    attributes.sorted.Pairwise fun entry other => entry.1 ≤ other.1 := by
  have hTrans (a b c : String × String) (hLeft : decide (a.1 ≤ b.1) = true)
      (hRight : decide (b.1 ≤ c.1) = true) : decide (a.1 ≤ c.1) = true :=
    decide_eq_true (String.le_trans (of_decide_eq_true hLeft) (of_decide_eq_true hRight))
  have hTotal (a b : String × String) : (decide (a.1 ≤ b.1) || decide (b.1 ≤ a.1)) = true := by
    rw [Bool.or_eq_true, decide_eq_true_eq, decide_eq_true_eq]
    exact String.le_total a.1 b.1
  have hSorted := List.pairwise_mergeSort hTrans hTotal attributes.entries
  exact hSorted.imp of_decide_eq_true

/-- An element has at most one attribute of each name. -/
theorem eq_of_mem_of_name_eq {attributes : Attributes} {entry other : String × String}
    (hEntry : entry ∈ attributes.entries) (hOther : other ∈ attributes.entries)
    (hName : entry.1 = other.1) : entry = other :=
  List.inj_on_of_nodup_map attributes.names_nodup hEntry hOther hName

/-- Attributes are sorted alike if they are the same in some order. -/
theorem sorted_eq_iff {attributes others : Attributes} :
    attributes.sorted = others.sorted ↔ attributes.entries.Perm others.entries := by
  constructor
  · intro h
    exact (sorted_perm attributes).symm.trans (h ▸ sorted_perm others)
  · intro h
    refine List.Perm.eq_of_pairwise ?_ (pairwise_sorted attributes) (pairwise_sorted others)
      ((sorted_perm attributes).trans (h.trans (sorted_perm others).symm))
    intro entry other hEntry hOther hLe hGe
    have hOwn : other ∈ attributes.entries :=
      h.mem_iff.mpr ((sorted_perm others).mem_iff.mp hOther)
    exact eq_of_mem_of_name_eq ((sorted_perm attributes).mem_iff.mp hEntry) hOwn
      (String.le_antisymm hLe hGe)

theorem snapshot_attributes_eq_iff {attributes others : Attributes} :
    attributes.snapshot = others.snapshot ↔ attributes.entries.Perm others.entries := by
  have hMember : Function.Injective fun entry : String × String =>
      (entry.1, Json.Value.string entry.2) := by
    rintro ⟨name, value⟩ ⟨otherName, other⟩ h
    simpa using h
  rw [Attributes.snapshot, Attributes.snapshot, Json.Value.object.injEq,
    (List.map_injective_iff.mpr hMember).eq_iff, sorted_eq_iff]

/-! ## Trees -/

mutual

/-- Whether two nodes are the same but for the order of attributes within an
element. -/
def Node.Alike : Node → Node → Prop
  | .text content, .text other => content = other
  | .element tag attributes children, .element otherTag others otherChildren =>
    tag = otherTag ∧ attributes.entries.Perm others.entries ∧ AllAlike children otherChildren
  | _, _ => False

/-- Whether two lists hold the same nodes but for the order of attributes. -/
def AllAlike : List Node → List Node → Prop
  | [], [] => True
  | node :: rest, other :: others => node.Alike other ∧ AllAlike rest others
  | _, _ => False

end

mutual

/-- Nodes with the same snapshot are alike, and the other way around. -/
theorem snapshot_node_eq_iff (node other : Node) :
    node.snapshot = other.snapshot ↔ node.Alike other := by
  cases node with
  | text content =>
      cases other with
      | text otherContent => simp [Node.snapshot, Node.Alike]
      | element otherTag others otherChildren => simp [Node.snapshot, Node.Alike]
  | element tag attributes children =>
      cases other with
      | text otherContent => simp [Node.snapshot, Node.Alike]
      | element otherTag others otherChildren =>
          rw [Node.Alike, ← snapshots_eq_iff children otherChildren,
            ← snapshot_attributes_eq_iff]
          constructor
          · intro h
            simp only [Node.snapshot, Json.Value.object.injEq, List.cons.injEq, Prod.mk.injEq,
              Json.Value.array.injEq, Json.Value.string.injEq, true_and, and_true] at h
            obtain ⟨hAttributes, hChildren, hTag⟩ := h
            exact ⟨hTag, hAttributes, hChildren⟩
          · rintro ⟨rfl, hAttributes, hChildren⟩
            rw [Node.snapshot, Node.snapshot, hAttributes, hChildren]

/-- So are lists of nodes. -/
theorem snapshots_eq_iff (nodes others : List Node) :
    snapshots nodes = snapshots others ↔ AllAlike nodes others := by
  cases nodes with
  | nil =>
      cases others with
      | nil => simp [snapshots, AllAlike]
      | cons other others => simp [snapshots, AllAlike]
  | cons node rest =>
      cases others with
      | nil => simp [snapshots, AllAlike]
      | cons other others =>
          rw [snapshots, snapshots, AllAlike, List.cons.injEq, snapshot_node_eq_iff node other,
            snapshots_eq_iff rest others]

end

/-- The text of a snapshot is that of one tree only, but for the order of the
attributes within an element. -/
theorem compact_snapshot_eq_iff (nodes others : List Node) :
    (snapshot nodes).compact = (snapshot others).compact ↔ AllAlike nodes others := by
  rw [← snapshots_eq_iff]
  constructor
  · intro h
    have hText : (snapshot nodes).compact ++ [] = (snapshot others).compact ++ [] := by rw [h]
    exact Json.Value.array.inj (Json.compact_inj _ _ hText).1
  · intro h
    rw [snapshot, snapshot, h]

end Markup

end SlotGrid
