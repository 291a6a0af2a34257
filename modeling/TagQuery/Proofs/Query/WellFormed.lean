import TagQuery.Proofs.Keyword
import TagQuery.Proofs.Query.OfText
import TagQuery.Proofs.Token.WellFormed

namespace TagQuery

def CharClass.isLabelPart (charClass : CharClass) : Bool := charClass.isItemPart && charClass != equal

/-- A word that is none of the keywords, in any mixture of upper and lower case. -/
structure Text.IsGeneric (word : String) : Prop where
  spelled : IsWord word
  free : ∀ keyword : Keyword, word.toList.map Char.toLower ≠ keyword.name.toList

theorem Text.isGeneric_iff (word : String) :
    IsGeneric word ↔ IsWord word ∧ WordKind.ofWord word = .generic := by
  rw [WordKind.ofWord_eq_generic_iff]
  exact ⟨fun generic => ⟨generic.spelled, generic.free⟩, fun both => ⟨both.1, both.2⟩⟩

instance (word : String) : Decidable (Text.IsGeneric word) :=
  decidable_of_iff' _ (Text.isGeneric_iff word)

theorem TokenKind.isGeneric_of_wellFormed {word : String}
    (wellFormed : (TokenKind.word .generic word).WellFormed) :
    Text.IsGeneric word where
  spelled := wellFormed.2
  free := WordKind.ofWord_eq_generic_iff.mp wellFormed.1.symm

/-- A label may be cleared, or take any value but the one that says so. -/
structure Assignments.Assigns (label : String) (value : Option String) : Prop where
  label : Text.Names CharClass.isLabelPart label
  value : ∀ text ∈ value, Text.WrittenIn CharClass.isItemPart text ∧ text ≠ nullSentinel

theorem Assignments.assigns_of_pair? {item label : String} {value : Option String}
    (written : ∀ c ∈ item.toList, hasClass CharClass.isItemPart c) (cut : pair? item = some (label, value)) :
    Assigns label value := by
  unfold pair? at cut
  dsimp only at cut
  split at cut
  · cases cut
  · rename_i equal right following
    split at cut
    · cases cut
    · rename_i named
      have labelPart : ∀ c ∈ item.toList.takeWhile (· ≠ '='), hasClass CharClass.isLabelPart c := by
        intro c member
        have different : c ≠ '=' := by simpa using Text.takeWhile_held _ _ c member
        exact (hasClass_except_iff rfl).mpr ⟨written c (List.takeWhile_subset _ member), different⟩
      have valuePart : ∀ c ∈ right, hasClass CharClass.isItemPart c := by
        intro c member
        have later : c ∈ item.toList.dropWhile (· ≠ '=') := by
          rw [following]
          exact List.mem_cons_of_mem _ member
        exact written c (List.dropWhile_subset _ later)
      cases cut
      refine ⟨Text.names_trim labelPart named, fun text held => ?_⟩
      split at held
      · cases held
      · rename_i different
        cases held
        exact ⟨Text.writtenIn_trim valuePart, different⟩

def Command.WellFormed : Command → Prop
  | unknown word => Text.IsGeneric word
  | select | update | delete | showProperty => True

inductive Subject.Suits : Command → Subject → Prop
  | property {name : String} (generic : Text.IsGeneric name) : Suits .showProperty (.property name)
  | assignment {changes : Assignments} (some : changes.entries ≠ [])
      (assigns : ∀ change ∈ changes.entries, Assignments.Assigns change.1 change.2) :
      Suits .update (.assignment changes)
  | projection {command : Command} {labels : List String} (shows : command ≠ .showProperty)
      (updates : command ≠ .update)
      (named : ∀ label ∈ labels, Text.Names CharClass.isItemPart label ∧ label ≠ Query.wildcard) :
      Suits command (.projection labels)

namespace Query

/-- The queries that can be written. -/
structure WellFormed (query : Query) : Prop where
  command : query.command.WellFormed
  subject : query.subject.Suits query.command
  target : query.target.WellFormed
  unconditional : query.command = .showProperty → query.target = .everything ∧ query.limit = 0

theorem Opening.wellFormed {command : Command} {kind : TokenKind} (begun : Opening command kind)
    (wellFormed : kind.WellFormed) : command.WellFormed := by
  cases begun with
  | known keyword =>
    obtain ⟨found, _, named⟩ := Command.ofWord?_eq_some_iff.mp keyword
    cases found <;> cases named <;> trivial
  | unknown => exact TokenKind.isGeneric_of_wellFormed wellFormed

theorem suits_projectionOf {command : Command} {items : List String} (shows : command ≠ .showProperty)
    (updates : command ≠ .update) (named : ∀ item ∈ items, Text.Names CharClass.isItemPart item) :
    (projectionOf items).Suits command := by
  unfold projectionOf
  split
  · exact .projection shows updates (by simp)
  · rename_i unlisted
    refine .projection shows updates fun item member => ⟨named item member, ?_⟩
    rintro rfl
    exact unlisted member

theorem Naming.suits {command : Command} {kind : TokenKind} {subject : Subject}
    (named : Naming command kind subject) (wellFormed : kind.WellFormed) : subject.Suits command := by
  cases named with
  | property => exact .property (TokenKind.isGeneric_of_wellFormed wellFormed)
  | @assignment items pairs some cut =>
    refine .assignment (OrderedMap.ofList_entries_ne_nil ?_) fun change member => ?_
    · rintro rfl
      exact some (List.map_eq_nil_iff.mp cut)
    · have among : Option.some change ∈ items.map Assignments.pair? :=
        cut ▸ List.mem_map_of_mem (OrderedMap.mem_of_mem_ofList member)
      obtain ⟨item, listed, read⟩ := List.mem_map.mp among
      exact Assignments.assigns_of_pair? (wellFormed item listed).inside read
  | projection shows updates => exact suits_projectionOf shows updates wellFormed

theorem Stating.target_wellFormed {conditions final : Conditions} {kinds : List TokenKind}
    (stated : Stating conditions kinds final) (wellFormed : ∀ kind ∈ kinds, kind.WellFormed)
    (before : ∀ target ∈ conditions.target, target.WellFormed) :
    ∀ target ∈ final.target, target.WellFormed := by
  induction stated with
  | done => exact before
  | whereTarget _ _ _ ih =>
    simp only [List.forall_mem_cons] at wellFormed
    refine ih wellFormed.2.2 fun target member => ?_
    cases member
    exact wellFormed.2.1
  | limit _ _ _ ih =>
    simp only [List.forall_mem_cons] at wellFormed
    exact ih wellFormed.2.2 before

theorem Phrase.wellFormed {query : Query} {kinds : List TokenKind} (read : Phrase query kinds)
    (wellFormed : ∀ kind ∈ kinds, kind.WellFormed) : query.WellFormed := by
  cases read with
  | showProperty begun named =>
    simp only [List.forall_mem_cons] at wellFormed
    exact ⟨begun.wellFormed wellFormed.1, named.suits wellFormed.2.1, Target.everything_wellFormed,
      fun _ => ⟨rfl, rfl⟩⟩
  | @conditional _ _ _ _ _ conditions acts begun named stated =>
    simp only [List.forall_mem_cons] at wellFormed
    refine ⟨begun.wellFormed wellFormed.1, named.suits wellFormed.2.1, ?_, fun shows => absurd shows acts⟩
    have target := stated.target_wellFormed wellFormed.2.2 (by simp)
    cases found : conditions.target with
    | none => exact Target.everything_wellFormed
    | some wanted => exact target wanted found

theorem Buffer.wellFormed {queries : List Query} {kinds : List TokenKind} (buffer : Buffer queries kinds)
    (wellFormed : ∀ kind ∈ kinds, kind.WellFormed) : ∀ query ∈ queries, query.WellFormed := by
  induction buffer with
  | done => simp
  | terminator _ ih => exact ih (List.forall_mem_cons.mp wellFormed).2
  | query read _ _ ih =>
    obtain ⟨first, others⟩ := List.forall_mem_append.mp wellFormed
    exact List.forall_mem_cons.mpr ⟨read.wellFormed first, ih others⟩

theorem wellFormed_of_parseAll {text : String} {queries : List Query}
    (found : parseAll text = .ok queries) : ∀ query ∈ queries, query.WellFormed := by
  obtain ⟨tokens, read, buffer⟩ := parseAll_eq_ok_iff.mp found
  have spelled := (tokenize_eq_ok_iff.mp read).wellFormed
  apply buffer.wellFormed
  intro kind member
  obtain ⟨token, held, same⟩ := List.mem_map.mp member
  exact same ▸ spelled token held

theorem wellFormed_of_parse {text : String} {query : Query} (found : parse text = .ok query) :
    query.WellFormed := by
  obtain ⟨phrase, rest, read, stated, _⟩ := parse_eq_ok_iff.mp found
  have tokens := (tokenize_eq_ok_iff.mp read).wellFormed
  refine stated.wellFormed fun kind member => ?_
  obtain ⟨token, held, rfl⟩ := List.mem_map.mp member
  exact tokens token (List.mem_append_left _ held)

end Query

end TagQuery
