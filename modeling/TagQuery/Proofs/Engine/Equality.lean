import TagQuery.Proofs.Engine.Filter

namespace TagQuery

/-- What a text asks for in a target: itself, or no value. -/
def valueNamed (text : String) : Option String := if text = nullSentinel then none else some text

@[simp] theorem Requirement.accepts_ofText (text : String) (held : Option String) :
    (ofText text).accepts held = decide (held = valueNamed text) := by
  have named : ofText text = ofValue (valueNamed text) := by
    unfold ofText valueNamed
    split <;> rfl
  rw [named, accepts_ofValue]

namespace Library

def holders (library : Library) (label : String) (value : Option String) : List Record :=
  library.records.filter fun record => record.tag.get? label = value

def holderIds (library : Library) (label : String) (value : Option String) : List RecordId :=
  (library.holders label value).map Record.id

@[simp] theorem mem_holderIds_iff (library : Library) (label : String) (value : Option String) (id : RecordId) :
    id ∈ library.holderIds label value ↔ ∃ tag, library.get? id = some tag ∧ tag.get? label = value := by
  simp [holderIds, holders, mem_filter_ids_iff]

end Library

section Label

variable {settings : Settings} {label value : String} {mode : Target.Mode}
  (plain : settings.isIdLabel label = false)

include plain

theorem Record.satisfies_ofText (record : Record) :
    record.satisfies settings label (.ofText value) = decide (record.tag.get? label = valueNamed value) := by
  simp [satisfies, plain]

theorem Record.project_label (record : Record) :
    record.project settings [label] = Tag.empty.insert label (record.tag.get? label) := by
  have projected : record.projectedValue settings label = record.tag.get? label := by
    rw [projectedValue, plain]
    cases record.tag.get? label <;> rfl
  rw [← projected]
  rfl

theorem Library.matching_only (library : Library) :
    library.matching settings (.only label (.ofText value) mode) =
      library.holders label (valueNamed value) := by
  apply List.filter_congr
  intro record _
  simp [record.satisfies_ofText plain]

theorem Library.entries_holders (library : Library) (wanted : Option String) :
    (library.holders label wanted).map (fun record => Answer.Item.entry (record.entry settings [label])) =
      (library.holderIds label wanted).map fun id => .entry ⟨id, Tag.empty.insert label wanted⟩ := by
  rw [holderIds, List.map_map]
  apply List.map_congr_left
  intro record member
  have held : record.tag.get? label = wanted := of_decide_eq_true (List.mem_filter.mp member).2
  rw [Record.entry, record.project_label plain, held]
  rfl

end Label

section Texts

variable {label value : String} {mode : Target.Mode} (named : Text.Names CharClass.isPairPart label)
  (written : Text.WrittenIn CharClass.isPairPart value)

include named

theorem Text.Names.item : Text.Names CharClass.isItemPart label ∧ label ≠ Query.wildcard := by
  have itemPart : ∀ charClass, CharClass.isPairPart charClass → CharClass.isItemPart charClass := by
    intro charClass part
    cases charClass <;> first | rfl | cases part
  refine ⟨⟨⟨named.trimmed, fun c member => hasClass_imp itemPart (named.inside c member)⟩, named.some⟩, ?_⟩
  intro wild
  subst wild
  cases named.inside '*' (by decide)

include written

theorem Query.parseAll_equalityText {command : Command} {labels : List String} (known : command.WellFormed)
    (acts : command ≠ .showProperty) (suits : (Subject.projection labels).Suits command) :
    parseAll (equalityText command labels mode label value) =
      .ok [⟨command, .projection labels, .only label (.ofText value) mode, 0⟩] := by
  rw [equalityText_eq]
  apply parseAll_filterText known acts suits
  exact Target.wellFormed_only ⟨named, Requirement.ofText_wellFormed written⟩

theorem Query.parseAll_selectEquality :
    parseAll (equalityText .select [label] mode label value) =
      .ok [⟨.select, .projection [label], .only label (.ofText value) mode, 0⟩] := by
  have known : Command.select.WellFormed := trivial
  have acts : Command.select ≠ .showProperty := by decide
  apply parseAll_equalityText named written known acts
  apply Subject.Suits.projection acts (by decide)
  intro item member
  cases List.mem_singleton.mp member
  exact named.item

theorem Query.parseAll_deleteEquality :
    parseAll (equalityText .delete [] mode label value) =
      .ok [⟨.delete, .projection [], .only label (.ofText value) mode, 0⟩] := by
  have known : Command.delete.WellFormed := trivial
  have acts : Command.delete ≠ .showProperty := by decide
  apply parseAll_equalityText named written known acts
  exact .projection acts (by decide) (by simp)

end Texts

namespace Engine

/-- A text that asks for one value of one label is about the records that hold this value there, from
    its characters to the records that a deletion leaves. -/
theorem execute_equality (settings : Settings) (library : Library) {label value : String}
    (unlimited : settings.defaultLimit = 0) (plain : settings.isIdLabel label = false)
    (named : Text.Names CharClass.isPairPart label) (written : Text.WrittenIn CharClass.isPairPart value) :
    let holders := library.records.filter fun record => record.tag.get? label = valueNamed value
    let ids := holders.map Record.id
    ids.Pairwise (· < ·) ∧
    (∀ id, id ∈ ids ↔ ∃ tag, library.get? id = some tag ∧ tag.get? label = valueNamed value) ∧
    ∀ mode,
      execute settings (Query.equalityText .select [label] mode label value) library =
        (.ok
          { items := ids.map fun id => .entry ⟨id, Tag.empty.insert label (valueNamed value)⟩
            columns := [label]
            counts := ⟨library.records.length, ids.length, 0⟩ }, library) ∧
      ∃ after, execute settings (Query.equalityText .delete [] mode label value) library =
          (.ok
            { items := holders.map fun record => .entry ⟨record.id, record.tag⟩
              changed := ids
              counts := ⟨library.records.length, ids.length, ids.length⟩ }, after) ∧
        (∀ id, after.get? id = if id ∈ ids then none else library.get? id) ∧
        execute settings (Query.equalityText .select [label] mode label value) after =
          (.ok { columns := [label], counts := ⟨after.records.length, 0, 0⟩ }, after) := by
  intro holders ids
  refine ⟨library.filter_ids_ascending _, library.mem_holderIds_iff label _, fun mode => ?_⟩
  have readSelect := @Query.parseAll_selectEquality _ _ mode named written
  have readDelete := @Query.parseAll_deleteEquality _ _ mode named written
  have matching : library.matching settings (.only label (.ofText value) mode) = holders :=
    library.matching_only plain
  have length : ids.length = holders.length := List.length_map Record.id
  obtain ⟨after, deleted, final⟩ :=
    run_delete_unlimited unlimited (.only label (.ofText value) mode) [] library
  have none := library.matching_eq_nil settings (.only label (.ofText value) mode) final
  rw [Library.matchingIds, matching] at deleted final
  refine ⟨?_, after, ?_, final, ?_⟩
  · have kept : holders.map (fun record => Answer.Item.entry (record.entry settings [label])) =
        ids.map fun id => .entry ⟨id, Tag.empty.insert label (valueNamed value)⟩ :=
      library.entries_holders plain _
    rw [execute_of_single readSelect, run_select_unlimited unlimited, matching, kept, length]
  · rw [execute_of_single readDelete, deleted, length]
    rfl
  · rw [execute_of_single readSelect, run_select_unlimited unlimited, none]
    rfl

theorem execute_equality_keyword :
    let held : Tag := .ofList [("sub genre", "limit 5")]
    let other : Tag := .ofList [("sub genre", "Jazz")]
    let library : Library := .ofRecords [⟨⟨"a"⟩, held⟩, ⟨⟨"b"⟩, other⟩, ⟨⟨"c"⟩, held⟩]
    let items : List Answer.Item := [.entry ⟨⟨"a"⟩, held⟩, .entry ⟨⟨"c"⟩, held⟩]
    Text.Names CharClass.isPairPart "sub genre" ∧ Text.WrittenIn CharClass.isPairPart "limit 5" ∧
      execute {} "select (sub genre) where \x7bsub genre=limit 5\x7d" library =
        (.ok ⟨items, ["sub genre"], [], ⟨3, 2, 0⟩⟩, library) ∧
      ∃ after, execute {} "delete () where \x7bsub genre=limit 5\x7d" library =
          (.ok ⟨items, [], [⟨"a"⟩, ⟨"c"⟩], ⟨3, 2, 2⟩⟩, after) ∧
        after.get? ⟨"a"⟩ = none ∧ after.get? ⟨"b"⟩ = some other ∧
        execute {} "select (sub genre) where \x7bsub genre=limit 5\x7d" after =
          (.ok ⟨[], ["sub genre"], [], ⟨after.records.length, 0, 0⟩⟩, after) := by
  intro held other library items
  have named : Text.Names CharClass.isPairPart "sub genre" := by decide
  have written : Text.WrittenIn CharClass.isPairPart "limit 5" := by decide
  obtain ⟨_, _, each⟩ := execute_equality {} library rfl rfl named written
  obtain ⟨selected, after, deleted, final, reselected⟩ := each .eager
  have selectText : Query.equalityText .select ["sub genre"] .eager "sub genre" "limit 5" =
      "select (sub genre) where \x7bsub genre=limit 5\x7d" := by decide
  have deleteText : Query.equalityText .delete [] .eager "sub genre" "limit 5" =
      "delete () where \x7bsub genre=limit 5\x7d" := by decide
  have holders : (library.records.filter fun record =>
      record.tag.get? "sub genre" = valueNamed "limit 5") = [⟨⟨"a"⟩, held⟩, ⟨⟨"c"⟩, held⟩] := by decide
  rw [selectText] at selected reselected
  rw [deleteText] at deleted
  have counted : library.records.length = 3 := by decide
  have shown : Tag.empty.insert "sub genre" (valueNamed "limit 5") = held := by decide
  simp only [holders, counted, shown] at selected deleted final
  refine ⟨named, written, selected, after, deleted, final _, ?_, reselected⟩
  rw [final]
  decide

end Engine

end TagQuery
