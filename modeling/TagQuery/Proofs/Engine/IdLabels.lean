import TagQuery.Proofs.Engine.Equality

namespace TagQuery

theorem Requirement.accepts_some_iff {requirement : Requirement} {value : String} :
    requirement.accepts (some value) ↔ requirement = .text value :=
  accepts_iff

theorem Requirement.ofText_eq_text_iff {text value : String} :
    ofText text = .text value ↔ some value = valueNamed text := by
  rw [← accepts_some_iff, accepts_ofText, decide_eq_true_eq]

namespace Record

/-- The tag of a record answers nothing that a target asks unless the id is the answer as well. -/
def LeavesToId (target : Target) (record : Record) : Prop :=
  ∀ content ∈ target.contents,
    content.2.accepts (record.tag.get? content.1) → content.2 = .text record.id.path

instance (target : Target) (record : Record) : Decidable (record.LeavesToId target) :=
  inferInstanceAs (Decidable (∀ content ∈ target.contents,
    content.2.accepts (record.tag.get? content.1) → content.2 = .text record.id.path))

theorem leavesToId_only_iff {label text : String} (record : Record) :
    record.LeavesToId (.only label (.ofText text) .eager) ↔
      (record.tag.get? label = valueNamed text → some record.id.path = valueNamed text) := by
  simp only [LeavesToId, Target.contents_only, List.forall_mem_singleton, Requirement.accepts_ofText,
    decide_eq_true_eq, Requirement.ofText_eq_text_iff]

theorem satisfies_idLabel_iff {settings : Settings} {label : String} (addressed : settings.isIdLabel label)
    (record : Record) (requirement : Requirement) :
    record.satisfies settings label requirement ↔
      requirement = .text record.id.path ∨ requirement.accepts (record.tag.get? label) := by
  rw [satisfies, addressed, Bool.true_and, Bool.or_eq_true, Requirement.accepts_some_iff, or_comm]

end Record

section IdLabels

variable {settings : Settings} {target : Target}
  (addressed : ∀ content ∈ target.contents, settings.isIdLabel content.1)

include addressed

theorem Target.accepts_idLabels (record : Record) :
    target.accepts settings record ↔ target.Asks fun content =>
      content.2 = .text record.id.path ∨ content.2.accepts (record.tag.get? content.1) := by
  rw [accepts_iff_asks]
  apply asks_congr
  intro content listed
  exact record.satisfies_idLabel_iff (addressed content listed) content.2

theorem Target.accepts_idLabels_of_leavesToId {record : Record} (leaves : record.LeavesToId target) :
    target.accepts settings record ↔ target.Asks fun content => content.2 = .text record.id.path := by
  rw [accepts_idLabels addressed]
  apply asks_congr
  intro content listed
  exact or_iff_left_of_imp (leaves content listed)

end IdLabels

section Deletion

variable {settings : Settings} {label text : String} (addressed : settings.isIdLabel label)

include addressed

theorem Library.mem_matchingIds_idLabel_iff (library : Library) (id : RecordId) :
    id ∈ library.matchingIds settings (.only label (.ofText text) .eager) ↔
      ∃ tag, library.get? id = some tag ∧
        (some id.path = valueNamed text ∨ tag.get? label = valueNamed text) := by
  rw [mem_matchingIds_iff]
  apply exists_congr
  intro tag
  simp [Record.satisfies_idLabel_iff addressed, Requirement.ofText_eq_text_iff]

theorem Library.removed_by_id_iff {library after : Library}
    (removed : ∀ id, after.get? id =
      if id ∈ library.matchingIds settings (.only label (.ofText text) .eager) then none
      else library.get? id) :
    (∀ id, after.get? id = if some id.path = valueNamed text then none else library.get? id) ↔
      ∀ record ∈ library.records, record.LeavesToId (.only label (.ofText text) .eager) := by
  have listed (id : RecordId) : id ∈ library.matchingIds settings (.only label (.ofText text) .eager) ↔
      ∃ tag, library.get? id = some tag ∧
        (some id.path = valueNamed text ∨ tag.get? label = valueNamed text) :=
    library.mem_matchingIds_idLabel_iff addressed id
  constructor
  · intro byId record member
    rw [record.leavesToId_only_iff]
    intro valued
    apply Decidable.byContradiction
    intro other
    have held := (library.mem_records_iff record).mp member
    have gone := removed record.id
    rw [if_pos ((listed record.id).mpr ⟨record.tag, held, .inr valued⟩), byId, if_neg other, held] at gone
    cases gone
  · intro leaves id
    rw [removed]
    by_cases wanted : some id.path = valueNamed text
    · rw [if_pos wanted]
      split
      · rfl
      · rename_i unlisted
        apply Option.eq_none_iff_forall_ne_some.mpr
        intro tag held
        exact unlisted ((listed id).mpr ⟨tag, held, .inl wanted⟩)
    · -- A match by its tag would be a match by its id too, which is not the one asked for.
      have unlisted : id ∉ library.matchingIds settings (.only label (.ofText text) .eager) := by
        intro member
        obtain ⟨tag, held, either⟩ := (listed id).mp member
        have record := (library.mem_records_iff ⟨id, tag⟩).mpr held
        have answered := (Record.leavesToId_only_iff ⟨id, tag⟩).mp (leaves ⟨id, tag⟩ record)
        exact wanted (answered (either.resolve_left wanted))
      rw [if_neg unlisted, if_neg wanted]

end Deletion

namespace Engine

/-- A label that stands for the id is looked up in the id and in the tag. Where the tag leaves the answer
    to the id, the target is about the id alone, and a deletion by path removes the one record at the path
    just where all tags do so. -/
theorem idLabels_read_id_and_tag (settings : Settings) {target : Target} (record : Record)
    (library : Library) {text : String}
    (addressed : ∀ content ∈ target.contents, settings.isIdLabel content.1)
    (written : Text.WrittenIn CharClass.isPairPart text) :
    (target.accepts settings record ↔ target.Asks fun content =>
      content.2 = .text record.id.path ∨ content.2.accepts (record.tag.get? content.1)) ∧
    (record.LeavesToId target →
      (target.accepts settings record ↔ target.Asks fun content => content.2 = .text record.id.path)) ∧
    ∃ answer after,
      execute {} (Query.equalityText .delete [] .eager "path" text) library = (.ok answer, after) ∧
      (∀ id, id ∈ answer.changed ↔ ∃ tag, library.get? id = some tag ∧
        (some id.path = valueNamed text ∨ tag.get? "path" = valueNamed text)) ∧
      (∀ id, after.get? id = if id ∈ answer.changed then none else library.get? id) ∧
      ((∀ id, after.get? id = if some id.path = valueNamed text then none else library.get? id) ↔
        ∀ record ∈ library.records, record.LeavesToId (.only "path" (.ofText text) .eager)) := by
  refine ⟨Target.accepts_idLabels addressed record, Target.accepts_idLabels_of_leavesToId addressed, ?_⟩
  have named : Text.Names CharClass.isPairPart "path" := by decide
  have standing : ({} : Settings).isIdLabel "path" := rfl
  have unlimited : ({} : Settings).defaultLimit = 0 := rfl
  have read := @Query.parseAll_deleteEquality _ _ .eager named written
  obtain ⟨after, deleted, final⟩ :=
    run_delete_unlimited unlimited (.only "path" (.ofText text) .eager) [] library
  have executed := @execute_of_single _ _ {} _ _ read library
  rw [deleted] at executed
  exact ⟨_, after, executed, library.mem_matchingIds_idLabel_iff standing, final,
    Library.removed_by_id_iff standing final⟩

theorem idLabels_read_untagged_id :
    let untagged : Tag := .ofList [("title", "Intro")]
    let record : Record := ⟨⟨"b.mp3"⟩, untagged⟩
    let target : Target := .only "path" (.text "b.mp3") .eager
    let library : Library := .ofRecords [⟨⟨"a.mp3"⟩, untagged⟩, record, ⟨⟨"c.mp3"⟩, .empty⟩]
    (∀ content ∈ target.contents, ({} : Settings).isIdLabel content.1) ∧ record.LeavesToId target ∧
      target.accepts {} record ∧
      ∃ answer after, execute {} "delete () where \x7bpath=b.mp3\x7d" library = (.ok answer, after) ∧
        after.get? ⟨"a.mp3"⟩ = some untagged ∧ after.get? ⟨"b.mp3"⟩ = none ∧
        after.get? ⟨"c.mp3"⟩ = some .empty := by
  intro untagged record target library
  have addressed : ∀ content ∈ target.contents, ({} : Settings).isIdLabel content.1 := by decide
  have leaves : record.LeavesToId target := by decide
  have leavesAll : ∀ record ∈ library.records, record.LeavesToId target := by decide
  have deleteText : Query.equalityText .delete [] .eager "path" "b.mp3" =
      "delete () where \x7bpath=b.mp3\x7d" := by decide
  obtain ⟨_, accepted, answer, after, executed, _, _, removed⟩ :=
    idLabels_read_id_and_tag {} record library addressed (by decide : Text.WrittenIn _ "b.mp3")
  have final := removed.mpr leavesAll
  rw [deleteText] at executed
  refine ⟨addressed, leaves, (accepted leaves).mpr ?_, answer, after, executed, ?_, final _, ?_⟩
  · exact .inr ⟨_, List.mem_singleton_self _, rfl⟩
  · rw [final]
    decide
  · rw [final]
    decide

/-- The tag answers where it has another path than the id, and where it has none. -/
theorem accepts_idLabel_by_tag :
    let record : Record := ⟨⟨"a.mp3"⟩, .ofList [("path", "b.mp3")]⟩
    let untagged : Record := ⟨⟨"a.mp3"⟩, .empty⟩
    ({} : Settings).isIdLabel "path" ∧
      (Target.only "path" (.text "b.mp3") .eager).accepts {} record ∧
      (Target.only "path" .absent .eager).accepts {} untagged ∧
      (Target.only "path" .absent .strict).accepts {} untagged := by decide

end Engine

end TagQuery
