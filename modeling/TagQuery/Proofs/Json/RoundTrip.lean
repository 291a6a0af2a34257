import TagQuery.Json.Answer
import TagQuery.Json.Query
import TagQuery.Json.Settings
import TagQuery.Proofs.Json.Reading
import TagQuery.Proofs.OrderedMap

namespace TagQuery

open Json (ReadsBack)

@[simp] theorem Assignments.readsBack : ReadsBack toJson ofJson? := by
  intro assignments
  have listed := Json.optional_readsBack.fields assignments.entries
  simp [ofJson?, toJson, listed]

@[simp] theorem Tag.readsBack : ReadsBack toJson ofJson? := by
  intro tag
  simp [ofJson?, toJson]

@[simp] theorem RecordId.readsBack : ReadsBack toJson ofJson? := fun _ => rfl

namespace PropertyValue

mutual

@[simp] theorem readsBack : ReadsBack toJson ofJson?
  | null => rfl
  | integer value => by simp [toJson, ofJson?]
  | text _ => rfl
  | list items => by simp [toJson, ofJson?, items_readBack items]

theorem items_readBack : ∀ items, itemsOfJson? (itemsToJson items) = some items
  | [] => rfl
  | item :: items => by rw [itemsToJson, itemsOfJson?, readsBack item, items_readBack items]

end

end PropertyValue

@[simp] theorem Command.readsBack : ReadsBack toJson ofJson? := by
  intro command
  cases command <;> rfl

@[simp] theorem Requirement.readsBack : ReadsBack toJson ofJson? := by
  intro requirement
  cases requirement <;> rfl

namespace Target

@[simp] theorem values_readBack : ReadsBack valuesToJson valuesOfJson? := by
  intro values
  have listed := Requirement.readsBack.list values.toList
  simp [valuesOfJson?, valuesToJson, listed]

@[simp] theorem readsBack : ReadsBack toJson ofJson? := by
  intro target
  cases target with
  | eager labels =>
    have listed := values_readBack.fields labels.entries
    simp [ofJson?, toJson, Json.variant?, listed]
  | strict labels =>
    have listed := Requirement.readsBack.fields labels.entries
    simp [ofJson?, toJson, Json.variant?, listed]

end Target

@[simp] theorem Subject.readsBack : ReadsBack toJson ofJson? := by
  intro subject
  cases subject with
  | projection labels =>
    have listed := Json.string_readsBack.list labels
    simp [ofJson?, toJson, Json.variant?, Json.ofStrings, listed]
  | assignment changes =>
    simp [ofJson?, toJson, Json.variant?]
  | property name => rfl

theorem Query.ofJson?_object (command subject target limit : Json) :
    ofJson? (.object [("command", command), ("subject", subject), ("target", target), ("limit", limit)]) = do
      let command ← Command.ofJson? command
      let subject ← Subject.ofJson? subject
      let target ← Target.ofJson? target
      let limit ← limit.uint64?
      return { command, subject, target, limit } := rfl

@[simp] theorem Query.readsBack : ReadsBack toJson ofJson? := by
  intro query
  rw [toJson, ofJson?_object]
  simp

theorem Settings.ofJson?_object (idLabels defaultLimit deduplicate : Json) :
    ofJson? (.object [("record_id_labels", idLabels), ("default_limit", defaultLimit),
      ("deduplicate", deduplicate)]) = do
        let idLabels ← idLabels.list? Json.string?
        let defaultLimit ← defaultLimit.uint64?
        let deduplicate ← deduplicate.bool?
        return { idLabels, defaultLimit, deduplicate } := rfl

@[simp] theorem Settings.readsBack : ReadsBack toJson ofJson? := by
  intro settings
  rw [toJson, ofJson?_object]
  simp [Json.ofStrings, Json.string_readsBack.list settings.idLabels]

namespace Answer

@[simp] theorem Entry.ofJson?_object (id tag : Json) :
    ofJson? (.object [("id", id), ("tag", tag)]) = do
      let id ← RecordId.ofJson? id
      let tag ← Tag.ofJson? tag
      return { id, tag } := rfl

@[simp] theorem Entry.readsBack : ReadsBack toJson ofJson? := by
  intro entry
  simp [toJson]

@[simp] theorem Item.ofJson?_property (name value : Json) :
    ofJson? (.object [("property", name), ("value", value)]) = do
      let name ← name.string?
      let value ← PropertyValue.ofJson? value
      return .property name value := rfl

@[simp] theorem Item.readsBack : ReadsBack toJson ofJson? := by
  intro item
  cases item with
  | entry found => simp [toJson, ofJson?]
  | property name value => simp [toJson]

namespace Counts

structure Fits (counts : Counts) : Prop where
  scanned : counts.scanned < UInt64.size
  matched : counts.matched < UInt64.size
  changed : counts.changed < UInt64.size

theorem ofJson?_object (scanned matched changed : Json) :
    ofJson? (.object [("records_scanned", scanned), ("records_matched", matched), ("records_changed", changed)]) = do
      let scanned ← scanned.count?
      let matched ← matched.count?
      let changed ← changed.count?
      return { scanned, matched, changed } := rfl

theorem readsBack_iff (counts : Counts) : ofJson? counts.toJson = some counts ↔ counts.Fits := by
  rw [toJson, ofJson?_object]
  simp only [Json.count?_ofNat]
  constructor
  · intro read
    obtain ⟨scanned, first, read⟩ := Option.bind_eq_some_iff.mp read
    obtain ⟨matched, second, read⟩ := Option.bind_eq_some_iff.mp read
    obtain ⟨changed, third, _⟩ := Option.bind_eq_some_iff.mp read
    simp only [Option.ite_none_right_eq_some] at first second third
    exact ⟨first.1, second.1, third.1⟩
  · intro fits
    simp [fits.scanned, fits.matched, fits.changed]

end Counts

theorem ofJson?_object (items changed counts : Json) :
    ofJson? (.object [("result_set", items), ("changed", changed), ("stats", counts)]) = do
      let items ← items.list? Item.ofJson?
      let changed ← changed.list? RecordId.ofJson?
      let counts ← Counts.ofJson? counts
      return { items, columns := [], changed, counts } := rfl

theorem ofJson?_object_columns (items columns changed counts : Json) :
    ofJson? (.object [("result_set", items), ("columns", columns), ("changed", changed), ("stats", counts)]) = do
      let items ← items.list? Item.ofJson?
      let columns ← columns.list? Json.string?
      let changed ← changed.list? RecordId.ofJson?
      let counts ← Counts.ofJson? counts
      return { items, columns, changed, counts } := rfl

theorem ofJson?_toJson (answer : Answer) :
    ofJson? answer.toJson = (Counts.ofJson? answer.counts.toJson).map fun counts => { answer with counts } := by
  have items : answer.itemsToJson.list? Item.ofJson? = some answer.items := Item.readsBack.list answer.items
  have columns := Json.string_readsBack.list answer.columns
  have changed := RecordId.readsBack.list answer.changed
  rw [toJson]
  by_cases none : answer.columns = []
  · rw [if_pos none, List.singleton_append, ofJson?_object, items, changed, ← none]
    cases Counts.ofJson? answer.counts.toJson <;> rfl
  · rw [if_neg none, List.cons_append, List.singleton_append, ofJson?_object_columns, items, Json.ofStrings, columns,
      changed]
    cases Counts.ofJson? answer.counts.toJson <;> rfl

theorem readsBack_iff (answer : Answer) : ofJson? answer.toJson = some answer ↔ answer.counts.Fits := by
  rw [ofJson?_toJson, ← Counts.readsBack_iff, Option.map_eq_some_iff]
  constructor
  · intro read
    obtain ⟨counts, found, same⟩ := read
    exact found.trans (congrArg (fun answer => some answer.counts) same)
  · intro read
    exact ⟨answer.counts, read, rfl⟩

theorem columns_left_out_iff (answer : Answer) :
    ∃ fields, answer.toJson = .object fields ∧ (Json.field? fields "columns" = none ↔ answer.columns = []) := by
  refine ⟨_, rfl, ?_⟩
  by_cases none : answer.columns = []
  · simp [none, Json.field?]
  · simp [none, Json.field?]

end Answer

/-- What is written as JSON is read back as it was: answers with counts of 64 bits, whether or not they have
    columns, queries and settings. Entries stay entries, properties stay properties, and labels without a
    value stay in their tags. -/
theorem Json.written_reads_back :
    (∀ answer : Answer, Answer.ofJson? answer.toJson = some answer ↔ answer.counts.Fits) ∧
    (∀ query : Query, Query.ofJson? query.toJson = some query) ∧
    (∀ settings : Settings, Settings.ofJson? settings.toJson = some settings) ∧
    (∀ item : Answer.Item, Answer.Item.ofJson? item.toJson = some item) ∧
    (∀ tag : Tag, Tag.ofJson? tag.toJson = some tag) ∧
    ∀ answer : Answer,
      ∃ fields, answer.toJson = .object fields ∧ (Json.field? fields "columns" = none ↔ answer.columns = []) :=
  ⟨Answer.readsBack_iff, Query.readsBack, Settings.readsBack, Answer.Item.readsBack, Tag.readsBack,
    Answer.columns_left_out_iff⟩

end TagQuery
