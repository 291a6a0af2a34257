import Mathlib.Data.List.Forall2
import TagQuery.Answer.Basic
import TagQuery.Engine.Matching
import TagQuery.Proofs.Tag

namespace TagQuery

namespace Requirement

def ofValue : Option String → Requirement
  | some value => text value
  | none => absent

theorem accepts_iff {requirement : Requirement} {held : Option String} :
    requirement.accepts held ↔ requirement = ofValue held := by
  cases requirement <;> cases held <;> simp [accepts, ofValue]

@[simp] theorem accepts_ofValue (value held : Option String) :
    (ofValue value).accepts held = decide (held = value) := by
  rw [Bool.eq_iff_iff, accepts_iff, decide_eq_true_eq]
  cases value <;> cases held <;> simp [ofValue, eq_comm]

end Requirement

/-- The value in the tag is the one required, or the id is, where the label stands for it. -/
def Record.Meets (settings : Settings) (record : Record) (label : String) (requirement : Requirement) : Prop :=
  requirement = .ofValue (record.tag.get? label) ∨
    label ∈ settings.idLabels ∧ requirement = .text record.id.path

theorem Record.satisfies_iff_meets {settings : Settings} {record : Record} {label : String}
    {requirement : Requirement} :
    record.satisfies settings label requirement ↔ record.Meets settings label requirement := by
  rw [satisfies, Bool.or_eq_true, Bool.and_eq_true, Requirement.accepts_iff, Requirement.accepts_iff,
    Settings.isIdLabel, decide_eq_true_eq]
  rfl

namespace Target

/-- An eager target asks for one of its values at one of its labels, if it names any; a strict target asks for
    its value at each of its labels. -/
def Matches (settings : Settings) (target : Target) (record : Record) : Prop :=
  match target with
  | eager labels => labels.isEmpty ∨ ∃ label values, labels.get? label = some values ∧
      ∃ requirement ∈ values.toList, record.Meets settings label requirement
  | strict labels => ∀ label requirement, labels.get? label = some requirement →
      record.Meets settings label requirement

variable {settings : Settings} {target : Target} {record : Record}

theorem accepts_iff_matches : target.accepts settings record ↔ target.Matches settings record := by
  cases target with
  | eager labels =>
    simp only [accepts, Matches, Bool.or_eq_true, List.any_eq_true, Prod.exists, OrderedMap.get?_eq_some_iff,
      Record.satisfies_iff_meets]
  | strict labels =>
    simp only [accepts, Matches, List.all_eq_true, Prod.forall, OrderedMap.get?_eq_some_iff,
      Record.satisfies_iff_meets]

instance : Decidable (target.Matches settings record) := decidable_of_iff _ accepts_iff_matches

@[simp] theorem decide_matches : decide (target.Matches settings record) = target.accepts settings record := by
  rw [Bool.eq_iff_iff, decide_eq_true_eq, accepts_iff_matches]

end Target

theorem Tag.entry_foldl_insert (tag : Tag) (value : String → Option String) (labels : List String) (label : String) :
    entry? (labels.foldl (fun tag label => tag.insert label (value label)) tag) label =
      if label ∈ labels then some (value label) else tag.entry? label := by
  induction labels generalizing tag with
  | nil => rfl
  | cons first rest ih =>
    rw [List.foldl_cons, ih, entry_insert]
    by_cases later : label ∈ rest
    · simp [later]
    · by_cases same : label = first <;> simp [later, same]

def Record.entry (settings : Settings) (labels : List String) (record : Record) : Answer.Entry :=
  ⟨record.id, record.project settings labels⟩

namespace Answer.Entry

/-- What an entry has of a record: of the labels asked for its values, or the id where a label stands for it, or
    nothing; of no label anything else. Where no labels are asked for, it has all of the tag. -/
structure Keeps (settings : Settings) (labels : List String) (entry : Answer.Entry) (record : Record) : Prop where
  id : entry.id = record.id
  whole : labels = [] → entry.tag = record.tag
  projected : labels ≠ [] → ∀ label, entry.tag.entry? label =
    if label ∈ labels then
      some ((record.tag.get? label).or (if settings.isIdLabel label then some record.id.path else none))
    else none

variable {settings : Settings} {labels : List String} {entry other : Answer.Entry} {record : Record}

theorem Keeps.unique (first : entry.Keeps settings labels record) (second : other.Keeps settings labels record) :
    entry = other := by
  have tags : entry.tag = other.tag := by
    by_cases none : labels = []
    · rw [first.whole none, second.whole none]
    · exact Tag.ext_entry fun label => by rw [first.projected none, second.projected none]
  obtain ⟨id, tag⟩ := entry
  obtain ⟨otherId, otherTag⟩ := other
  rw [mk.injEq]
  exact ⟨first.id.trans second.id.symm, tags⟩

theorem keeps_entry (settings : Settings) (labels : List String) (record : Record) :
    (record.entry settings labels).Keeps settings labels record where
  id := rfl
  whole none := by rw [Record.entry, Record.project, if_pos none]
  projected some label := by
    have value : record.projectedValue settings label =
        (record.tag.get? label).or (if settings.isIdLabel label then .some record.id.path else none) := by
      rw [Record.projectedValue]
      cases record.tag.get? label <;> rfl
    rw [Record.entry, Record.project, if_neg some, Tag.entry_foldl_insert, value, Tag.entry_empty]

theorem keeps_iff : entry.Keeps settings labels record ↔ entry = record.entry settings labels := by
  constructor
  · exact fun keeps => keeps.unique (keeps_entry settings labels record)
  · rintro rfl
    exact keeps_entry settings labels record

@[simp] theorem forall₂_keeps_iff {entries : List Answer.Entry} {found : List Record} :
    List.Forall₂ (Keeps settings labels) entries found ↔ entries = found.map (Record.entry settings labels) := by
  constructor
  · intro kept
    induction kept with
    | nil => rfl
    | cons first _ ih => rw [List.map_cons, ← keeps_iff.mp first, ← ih]
  · rintro rfl
    rw [List.forall₂_map_left_iff, List.forall₂_same]
    exact fun record _ => keeps_entry settings labels record

end Answer.Entry

end TagQuery
