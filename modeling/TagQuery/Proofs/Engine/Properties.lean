import Mathlib.Algebra.Group.Nat.Defs
import Mathlib.Logic.Basic
import TagQuery.Proofs.Answer
import TagQuery.Proofs.Engine.Filter

namespace TagQuery

theorem PropertyValue.ofCount_of_lt {count : Nat} (few : count < 2 ^ 63) :
    ofCount count = .integer (.ofNat count) := by
  have greatest : Int64.maxValue.toNatClampNeg = 2 ^ 63 - 1 := by decide
  have below : count ≤ 2 ^ 63 - 1 := by omega
  rw [ofCount, greatest, Nat.min_eq_left below]

theorem Requirement.text_accepts_iff {value : String} {held : Option String} :
    (text value).accepts held ↔ held = some value := by
  cases held with
  | none => simp [accepts]
  | some other =>
    change (value == other) = true ↔ some other = some value
    rw [beq_iff_eq, Option.some.injEq, eq_comm]

theorem Record.satisfies_text_iff {settings : Settings} {label value : String}
    (plain : settings.isIdLabel label = false) (record : Record) :
    record.satisfies settings label (.text value) ↔ record.tag.get? label = some value := by
  rw [satisfies, plain, Bool.false_and, Bool.or_false, Requirement.text_accepts_iff]

namespace Library

variable (library : Library)

theorem property?_count (few : library.size < 2 ^ 63) :
    library.property? "count" = some (.integer (.ofNat library.records.length)) := by
  have counted : library.records.length = library.size := List.length_map _
  rw [counted, ← PropertyValue.ofCount_of_lt few]
  rfl

theorem property?_paths :
    library.property? "paths" = some (.ofTexts (library.records.map (·.id.path))) := by
  have listed : library.tags.keys.map RecordId.path = library.records.map (·.id.path) := by
    simp [records, OrderedMap.keys]
  rw [← listed]
  rfl

theorem propertyNames_generic : ∀ name ∈ propertyNames, Text.IsGeneric name := by decide

def valueProperties : List (String × String) :=
  [("artists", "artist"), ("albums", "album"), ("genres", "genre")]

section Values

variable {name label : String} (valued : (name, label) ∈ valueProperties)

include valued

theorem property?_values :
    library.property? name = some (.ofTexts (library.distinctValues label)) := by
  simp only [valueProperties, List.mem_cons, Prod.mk.injEq, List.not_mem_nil, or_false] at valued
  rcases valued with ⟨rfl, rfl⟩ | ⟨rfl, rfl⟩ | ⟨rfl, rfl⟩ <;> rfl

theorem valued_name : name ∈ propertyNames := by
  have listed : ∀ pair ∈ valueProperties, pair.1 ∈ propertyNames := by decide
  exact listed _ valued

theorem valued_label : label ∈ ["artist", "album", "genre"] := by
  have listed : ∀ pair ∈ valueProperties, pair.2 ∈ ["artist", "album", "genre"] := by decide
  exact listed _ valued

end Values

end Library

namespace Engine

theorem run_show {settings : Settings} {library : Library} {name : String} {value : PropertyValue}
    (held : library.property? name = some value) :
    run settings ⟨.showProperty, .property name, .everything, 0⟩ library =
      (.ok (.property name value), library) := by
  rw [run, runShow_library rfl, held]

theorem execute_show {settings : Settings} {library : Library} {name : String} {value : PropertyValue}
    (generic : Text.IsGeneric name) (held : library.property? name = some value) :
    execute settings ("show " ++ name) library = (.ok (.property name value), library) := by
  rw [execute_of_single (Query.parseAll_show generic), run_show held]

section Unlimited

variable {settings : Settings} (unlimited : settings.defaultLimit = 0) (library : Library)

include unlimited

theorem run_select_everything :
    ∃ everything, run settings ⟨.select, .everything, .everything, 0⟩ library = (.ok everything, library) ∧
      everything.columns = [] ∧
      everything.entries = library.records.map fun record => ⟨record.id, record.tag⟩ := by
  have selected := run_select_unlimited unlimited .everything [] library
  rw [library.matching_everything] at selected
  exact ⟨_, selected, rfl, Answer.entries_map _ _ _ _ _⟩

theorem select_finds_iff (target : Target) (labels : List String) :
    (∃ answer, run settings ⟨.select, .projection labels, target, 0⟩ library = (.ok answer, library) ∧
      answer.entries ≠ []) ↔ ∃ record ∈ library.records, target.accepts settings record := by
  have some : library.matching settings target ≠ [] ↔
      ∃ record ∈ library.records, target.accepts settings record := by
    simp [Library.matching]
  rw [run_select_unlimited unlimited, ← some]
  constructor
  · intro found
    obtain ⟨answer, same, entries⟩ := found
    cases same
    simpa using entries
  · intro matching
    exact ⟨_, rfl, by simpa using matching⟩

theorem mem_distinctValues_iff_selected {label : String} (addressed : settings.isIdLabel label = false)
    (value : String) (kept : List String) :
    value ∈ library.distinctValues label ↔
      ∃ answer, run settings ⟨.select, .projection kept, .strict (.ofList [(label, .text value)]), 0⟩
          library = (.ok answer, library) ∧ answer.entries ≠ [] := by
  have finds := select_finds_iff unlimited library (.only label (.text value) .strict) kept
  have holds (record : Record) : (Target.only label (.text value) .strict).accepts settings record ↔
      record.tag.get? label = some value := by
    simp [record.satisfies_text_iff addressed]
  simp only [holds] at finds
  rw [library.mem_distinctValues_iff]
  exact finds.symm

end Unlimited

theorem mem_labels_iff_headers {library : Library} {everything : Answer} (whole : everything.columns = [])
    (entries : everything.entries = library.records.map fun record => ⟨record.id, record.tag⟩)
    (label : String) : label ∈ library.labels ↔ label ∈ everything.headers := by
  simp [Answer.mem_headers_iff whole, entries]

/-- What is shown of a library is what can be selected from it. -/
theorem show_agrees_with_select (settings : Settings) (library : Library)
    (unlimited : settings.defaultLimit = 0)
    (plain : ∀ label ∈ ["artist", "album", "genre"], settings.isIdLabel label = false)
    (few : library.size < 2 ^ 63) :
    let shows (name : String) (value : PropertyValue) : Prop :=
      execute settings ("show " ++ name) library = (.ok (.property name value), library)
    ∃ everything, run settings ⟨.select, .everything, .everything, 0⟩ library = (.ok everything, library) ∧
      (∃ count : Int64, shows "count" (.integer count) ∧ count.toInt = everything.entries.length) ∧
      (let paths := everything.entries.map (·.id.path)
       shows "paths" (.ofTexts paths) ∧ paths.Pairwise (· < ·)) ∧
      (∃ labels, shows "labels" (.ofTexts labels) ∧ labels.Pairwise (· < ·) ∧
        ∀ label, label ∈ labels ↔ label ∈ everything.headers) ∧
      ∀ name label, (name, label) ∈ [("artists", "artist"), ("albums", "album"), ("genres", "genre")] →
        ∃ values, shows name (.ofTexts values) ∧ values.Pairwise (· < ·) ∧
          ∀ value kept, value ∈ values ↔
            ∃ answer, run settings ⟨.select, .projection kept, .strict (.ofList [(label, .text value)]), 0⟩
                library = (.ok answer, library) ∧ answer.entries ≠ [] := by
  intro shows
  have shown {name : String} {value : PropertyValue} (listed : name ∈ Library.propertyNames)
      (held : library.property? name = some value) : shows name value :=
    execute_show (Library.propertyNames_generic name listed) held
  obtain ⟨everything, selected, whole, entries⟩ := run_select_everything unlimited library
  refine ⟨everything, selected, ?_, ?_, ?_, ?_⟩
  · have counted : everything.entries.length = library.records.length := by
      rw [entries, List.length_map]
    have size : library.records.length < 2 ^ 63 := by
      rwa [Library.size, OrderedMap.size, ← List.length_map] at few
    refine ⟨_, shown (by decide) (library.property?_count few), ?_⟩
    rw [counted, Int64.toInt_ofNat_of_lt size]
  · have paths : everything.entries.map (·.id.path) = library.records.map (·.id.path) := by
      rw [entries, List.map_map]
      rfl
    have ascending := library.records_ascending
    rw [paths]
    refine ⟨shown (by decide) library.property?_paths, ?_⟩
    rw [List.pairwise_map] at ascending ⊢
    exact ascending
  · exact ⟨library.labels, shown (by decide) rfl, library.labels_ascending,
      mem_labels_iff_headers whole entries⟩
  · intro name label valued
    have addressed : settings.isIdLabel label = false := plain label (Library.valued_label valued)
    exact ⟨library.distinctValues label,
      shown (Library.valued_name valued) (library.property?_values valued),
      library.distinctValues_ascending label, mem_distinctValues_iff_selected unlimited library addressed⟩

/-- A label without a value is shown, a value that two records share is shown once, and a record without
    labels is counted. -/
theorem show_agrees_with_select_null :
    let unrated : Tag := (Tag.ofList [("artist", "Muse")]).setNull "rating"
    let rated : Tag := .ofList [("artist", "Muse")]
    let library : Library := .ofRecords [⟨⟨"b"⟩, unrated⟩, ⟨⟨"a"⟩, rated⟩, ⟨⟨"c"⟩, ∅⟩]
    ({} : Settings).defaultLimit = 0 ∧
      (∀ label ∈ ["artist", "album", "genre"], ({} : Settings).isIdLabel label = false) ∧
      library.size < 2 ^ 63 ∧
      execute {} ("show " ++ "count") library = (.ok (.property "count" (.integer 3)), library) ∧
      execute {} ("show " ++ "paths") library =
        (.ok (.property "paths" (.ofTexts ["a", "b", "c"])), library) ∧
      (∃ labels, execute {} ("show " ++ "labels") library =
        (.ok (.property "labels" (.ofTexts labels)), library) ∧ "rating" ∈ labels) ∧
      ∃ artists, execute {} ("show " ++ "artists") library =
        (.ok (.property "artists" (.ofTexts artists)), library) ∧ "Muse" ∈ artists := by
  intro unrated rated library
  have unlimited : ({} : Settings).defaultLimit = 0 := rfl
  have plain : ∀ label ∈ ["artist", "album", "genre"], ({} : Settings).isIdLabel label = false := by decide
  have few : library.size < 2 ^ 63 := by decide
  obtain ⟨everything, selected, ⟨count, counted, number⟩, ⟨paths, _⟩, ⟨labels, labelled, _, among⟩, values⟩ :=
    show_agrees_with_select {} library unlimited plain few
  obtain ⟨_, answered, whole, entries⟩ := run_select_everything unlimited library
  cases selected.symm.trans answered
  have listed : library.records.map (fun record => (⟨record.id, record.tag⟩ : Answer.Entry)) =
      [⟨⟨"a"⟩, rated⟩, ⟨⟨"b"⟩, unrated⟩, ⟨⟨"c"⟩, ∅⟩] := by decide
  rw [listed] at entries
  rw [entries] at number paths
  have three : count = 3 := Int64.toInt_inj.mp number
  subst three
  have shown : "rating" ∈ everything.headers := by
    rw [Answer.mem_headers_iff whole, entries]
    decide
  obtain ⟨artists, valued, _, finds⟩ := values "artists" "artist" (by decide)
  have found := (select_finds_iff unlimited library (.strict (.ofList [("artist", .text "Muse")])) []).mpr
    (by decide)
  exact ⟨unlimited, plain, few, counted, paths, ⟨labels, labelled, (among "rating").mpr shown⟩,
    artists, valued, (finds "Muse" []).mpr found⟩

end Engine

end TagQuery
