import TagQuery.Proofs.OrderedMap.Union
import TagQuery.Tag

namespace TagQuery

/-- Changes made one after the other, as one: where both have an entry for a label, that of the second stays. -/
def Assignments.followedBy (first second : Assignments) : Assignments :=
  first.unionWith (fun _ later => later) second

@[simp] theorem Assignments.get?_followedBy (first second : Assignments) (label : String) :
    (first.followedBy second).get? label = (second.get? label).or (first.get? label) := by
  rw [followedBy, OrderedMap.get?_unionWith]
  cases first.get? label <;> cases second.get? label <;> rfl

namespace Tag

theorem ext_entry {first second : Tag} (same : ∀ label, first.entry? label = second.entry? label) :
    first = second := by
  cases first
  cases second
  exact congrArg Tag.mk (OrderedMap.ext_get? same)

@[simp] theorem entry_empty (label : String) : entry? ∅ label = none := rfl

@[simp] theorem entry_insert (tag : Tag) (label other : String) (value : Option String) :
    entry? (tag.insert label value) other = if other = label then some value else tag.entry? other :=
  tag.fields.get?_insert label other value

@[simp] theorem entry_erase (tag : Tag) (label other : String) :
    entry? (tag.erase label) other = if other = label then none else tag.entry? other :=
  tag.fields.get?_erase label other

theorem contains_eq_isSome_entry (tag : Tag) (label : String) :
    tag.contains label = ( entry? tag label).isSome :=
  tag.fields.contains_eq_isSome_get? label

@[simp] theorem entry_assign (tag : Tag) (label other : String) (value : Option String) :
    entry? (tag.assign label value) other = if other = label then value.map some else tag.entry? other := by
  cases value with
  | none => exact tag.entry_erase label other
  | some value => exact tag.entry_insert label other (some value)

theorem entry_foldl_assign (tag : Tag) (pairs : List (String × Option String)) (label : String) :
    entry? (pairs.foldl (fun tag pair => tag.assign pair.1 pair.2) tag) label =
      match pairs.reverse.find? (·.1 = label) with
      | some pair => pair.2.map some
      | none => tag.entry? label := by
  induction pairs generalizing tag with
  | nil => rfl
  | cons pair rest ih =>
    rw [List.foldl_cons, ih, entry_assign, List.reverse_cons, List.find?_append]
    cases rest.reverse.find? (·.1 = label) with
    | some later => rfl
    | none => by_cases assigned : label = pair.1 <;> simp [assigned, Ne.symm]

theorem entry_apply (tag : Tag) (changes : Assignments) (label : String) :
    entry? (tag.apply changes) label =
      match changes.get? label with
      | some value => value.map some
      | none => tag.entry? label := by
  have last : changes.get? label = (changes.entries.reverse.find? (·.1 = label)).map (·.2) := by
    have again := OrderedMap.get?_ofList changes.entries label
    rwa [OrderedMap.ofList_entries] at again
  rw [apply, entry_foldl_assign, last]
  cases changes.entries.reverse.find? (·.1 = label) <;> rfl

section Apply

variable (tag : Tag) {changes : Assignments} {label : String}

theorem entry_apply_assigned {value : Option String} (assigned : changes.get? label = some value) :
    entry? (tag.apply changes) label = value.map some := by
  rw [entry_apply, assigned]

theorem get?_apply_assigned {value : Option String} (assigned : changes.get? label = some value) :
    (tag.apply changes).get? label = value := by
  rw [get?, entry_apply_assigned tag assigned]
  cases value <;> rfl

theorem contains_apply_cleared (cleared : changes.get? label = some none) :
    (tag.apply changes).contains label = false := by
  rw [contains_eq_isSome_entry, entry_apply_assigned tag cleared]
  rfl

theorem entry_apply_unassigned (unassigned : label ∉ changes.keys) :
    entry? (tag.apply changes) label = tag.entry? label := by
  rw [entry_apply, (changes.get?_eq_none_iff label).mpr unassigned]

theorem get?_apply_unassigned (unassigned : label ∉ changes.keys) :
    (tag.apply changes).get? label = tag.get? label := by
  rw [get?, get?, entry_apply_unassigned tag unassigned]

theorem apply_of_isEmpty (none : changes.isEmpty) : tag.apply changes = tag := by
  rw [apply, List.isEmpty_iff.mp none]
  rfl

end Apply

@[simp] theorem apply_apply (tag : Tag) (changes : Assignments) :
    (tag.apply changes).apply changes = tag.apply changes := by
  apply ext_entry
  intro label
  rw [entry_apply, entry_apply]
  cases changes.get? label <;> rfl

theorem apply_comm (tag : Tag) {first second : Assignments}
    (disjoint : ∀ label ∈ first.keys, label ∉ second.keys) :
    (tag.apply first).apply second = (tag.apply second).apply first := by
  apply ext_entry
  intro label
  by_cases assigned : label ∈ first.keys
  · have unassigned := disjoint label assigned
    rw [entry_apply_unassigned (tag.apply first) unassigned, entry_apply tag first,
      entry_apply (tag.apply second) first, entry_apply_unassigned tag unassigned]
  · rw [entry_apply_unassigned (tag.apply second) assigned, entry_apply tag second,
      entry_apply (tag.apply first) second, entry_apply_unassigned tag assigned]

theorem apply_followedBy (tag : Tag) (first second : Assignments) :
    (tag.apply first).apply second = tag.apply (first.followedBy second) := by
  apply ext_entry
  intro label
  rw [entry_apply, entry_apply, entry_apply, Assignments.get?_followedBy]
  cases second.get? label <;> rfl

/-- Assignments act on tags: what two of them do in turn, one of them does, and doing it again changes nothing. A tag
    holds the values that it was assigned last and no label that was cleared last; the other labels it holds as before,
    those without a value too. -/
theorem assignments_act (tag : Tag) (first second : Assignments) :
    let both := first.followedBy second
    (∀ label, both.get? label = (second.get? label).or (first.get? label)) ∧
      (tag.apply first).apply second = tag.apply both ∧
      (tag.apply first).apply first = tag.apply first ∧
      (∀ label value, first.get? label = some value →
        (tag.apply first).contains label = value.isSome ∧ (tag.apply first).get? label = value) ∧
      ∀ label ∉ first.keys, entry? (tag.apply first) label = tag.entry? label := by
  intro both
  refine ⟨Assignments.get?_followedBy first second, tag.apply_followedBy first second, tag.apply_apply first, ?_, ?_⟩
  · intro label value assigned
    refine ⟨?_, tag.get?_apply_assigned assigned⟩
    rw [contains_eq_isSome_entry, entry_apply_assigned tag assigned, Option.isSome_map]
  · intro label unassigned
    exact tag.entry_apply_unassigned unassigned

/-- The second changes clear a label that the first have set, and set one that the first have cleared. Of the labels
    without a value one is set, one is cleared and one is left alone. -/
theorem assignments_act_crosswise :
    let tag : Tag := (((Tag.ofList [("genre", "Pop"), ("title", "Old")]).setNull "isrc").setNull "mood").setNull "year"
    let first : Assignments := .ofList [("genre", some "Rock"), ("isrc", some "x"), ("title", none), ("year", none)]
    let second : Assignments := .ofList [("genre", none), ("title", some "New")]
    first.get? "isrc" = some (some "x") ∧ first.get? "year" = some none ∧ "mood" ∉ first.keys ∧
      (tag.apply first).contains "isrc" ∧ (tag.apply first).contains "year" = false ∧
      entry? (tag.apply first) "mood" = some none ∧
      (tag.apply first).apply second = (Tag.ofList [("isrc", "x"), ("title", "New")]).setNull "mood" ∧
      tag.apply (first.followedBy second) = (Tag.ofList [("isrc", "x"), ("title", "New")]).setNull "mood" := by
  intro tag first second
  have set : first.get? "isrc" = some (some "x") := by decide
  have cleared : first.get? "year" = some none := by decide
  have unassigned : "mood" ∉ first.keys := by decide
  have after : (tag.apply first).apply second = (Tag.ofList [("isrc", "x"), ("title", "New")]).setNull "mood" := by
    decide
  obtain ⟨-, together, -, assigned, kept⟩ := assignments_act tag first second
  exact ⟨set, cleared, unassigned, (assigned "isrc" _ set).1, (assigned "year" _ cleared).1,
    kept "mood" unassigned, after, together ▸ after⟩

end Tag

end TagQuery
