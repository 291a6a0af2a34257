import TagQuery.Proofs.Query.OfText
import TagQuery.Proofs.Token.Quoting

namespace TagQuery

def Command.texts : Command → List String
  | unknown word => [word]
  | select | update | delete | showProperty => []

def Subject.texts : Subject → List String
  | projection labels => labels
  | assignment changes => changes.entries.flatMap fun change => change.1 :: change.2.toList
  | property name => [name]

def Query.texts (query : Query) : List String := query.command.texts ++ query.subject.texts ++ query.target.texts

theorem Assignments.infix_of_pair? {item label : String} {value : Option String}
    (cut : pair? item = some (label, value)) :
    label.toList <:+: item.toList ∧ ∀ given ∈ value, given.toList <:+: item.toList := by
  unfold pair? at cut
  dsimp only at cut
  split at cut
  · cases cut
  · rename_i equal right following
    split at cut
    · cases cut
    · cases cut
      refine ⟨?_, fun given held => ?_⟩
      · rw [String.toList_ofList]
        exact (Text.trim_isInfix _).trans (List.takeWhile_prefix _).isInfix
      · split at held
        · cases held
        · cases held
          have later : right <:+: item.toList := by
            have suffix := List.dropWhile_suffix (fun c => decide (c ≠ '=')) (l := item.toList)
            rw [following] at suffix
            exact ((List.suffix_cons _ _).trans suffix).isInfix
          rw [String.toList_ofList]
          exact (Text.trim_isInfix right).trans later

namespace Query

section Quotes

variable {kind : TokenKind} {kinds : List TokenKind} {quoted : String}

theorem Opening.quotes {command : Command} (begun : Opening command kind) (said : quoted ∈ command.texts) :
    kind.Quotes quoted := by
  cases begun with
  | unknown =>
    cases List.mem_singleton.mp said
    exact .word
  | known keyword =>
    obtain ⟨read, _, named⟩ := Command.ofWord?_eq_some_iff.mp keyword
    cases read <;> cases named <;> cases said

theorem Naming.quotes {command : Command} {subject : Subject} (named : Naming command kind subject)
    (said : quoted ∈ subject.texts) : kind.Quotes quoted := by
  cases named with
  | property =>
    cases List.mem_singleton.mp said
    exact .word
  | @assignment items pairs some cut =>
    obtain ⟨change, member, given⟩ := List.mem_flatMap.mp said
    have listed : Option.some change ∈ pairs.map Option.some :=
      List.mem_map_of_mem (OrderedMap.mem_of_mem_ofList member)
    rw [← cut] at listed
    obtain ⟨item, among, read⟩ := List.mem_map.mp listed
    obtain ⟨label, value⟩ := Assignments.infix_of_pair? read
    rcases List.mem_cons.mp given with rfl | text
    · exact .item among label
    · exact .item among (value quoted (Option.mem_toList.mp text))
  | @projection command items =>
    have listed : quoted ∈ items := by
      unfold projectionOf at said
      split at said
      · cases said
      · exact said
    exact .item listed List.infix_rfl

theorem Stating.target_mem {conditions final : Conditions} (stated : Stating conditions kinds final) {target : Target}
    (given : final.target = some target) : conditions.target = some target ∨ .target target ∈ kinds := by
  induction stated with
  | done => exact .inl given
  | whereTarget unstated _ _ ih =>
    rcases ih given with same | later
    · cases same
      simp
    · exact .inr (List.mem_cons_of_mem _ (List.mem_cons_of_mem _ later))
  | limit _ _ _ ih =>
    exact (ih given).imp_right fun later => List.mem_cons_of_mem _ (List.mem_cons_of_mem _ later)

theorem Stating.quotes {final : Conditions} (stated : Stating {} kinds final)
    (said : quoted ∈ (final.target.getD .everything).texts) : ∃ kind ∈ kinds, kind.Quotes quoted := by
  cases given : final.target with
  | none =>
    rw [given] at said
    cases said
  | some target =>
    rw [given] at said
    have member := (stated.target_mem given).resolve_left (by simp)
    exact ⟨_, member, .target said⟩

theorem Phrase.quotes {query : Query} (read : Phrase query kinds) (said : quoted ∈ query.texts) :
    ∃ kind ∈ kinds, kind.Quotes quoted := by
  rw [texts, List.mem_append, List.mem_append] at said
  cases read with
  | showProperty begun named =>
    rcases said with (command | subject) | target
    · exact ⟨_, List.mem_cons_self, begun.quotes command⟩
    · exact ⟨_, List.mem_cons_of_mem _ List.mem_cons_self, named.quotes subject⟩
    · cases target
  | conditional _ begun named stated =>
    rcases said with (command | subject) | target
    · exact ⟨_, List.mem_cons_self, begun.quotes command⟩
    · exact ⟨_, List.mem_cons_of_mem _ List.mem_cons_self, named.quotes subject⟩
    · obtain ⟨kind, member, quotes⟩ := stated.quotes target
      exact ⟨kind, List.mem_cons_of_mem _ (List.mem_cons_of_mem _ member), quotes⟩

theorem Buffer.quotes {queries : List Query} (buffer : Buffer queries kinds) :
    ∀ query ∈ queries, quoted ∈ query.texts → ∃ kind ∈ kinds, kind.Quotes quoted := by
  induction buffer with
  | done => simp
  | terminator _ ih =>
    intro query member said
    obtain ⟨kind, listed, quotes⟩ := ih query member said
    exact ⟨kind, List.mem_cons_of_mem _ listed, quotes⟩
  | query read _ _ ih =>
    refine List.forall_mem_cons.mpr ⟨fun said => ?_, fun query member said => ?_⟩
    · obtain ⟨kind, listed, quotes⟩ := read.quotes said
      exact ⟨kind, List.mem_append_left _ listed, quotes⟩
    · obtain ⟨kind, listed, quotes⟩ := ih query member said
      exact ⟨kind, List.mem_append_right _ listed, quotes⟩

end Quotes

def Says (query : Query) : TokenKind → Prop
  | .word .command word => Command.ofWord? word = some query.command
  | .word .generic word => query.command = .unknown word ∨ query.subject = .property word
  | .collection items => Naming query.command (.collection items) query.subject
  | .target target => query.target = target
  | .integer limit => query.limit = limit
  | .word .condition _ | .terminator => True

section Says

variable {conditions final : Conditions} {kinds : List TokenKind}

theorem Stating.target_kept (stated : Stating conditions kinds final) {target : Target}
    (given : conditions.target = some target) : final.target = some target := by
  induction stated with
  | done => exact given
  | whereTarget unstated =>
    rw [unstated] at given
    cases given
  | limit _ _ _ ih => exact ih given

theorem Stating.limit_kept (stated : Stating conditions kinds final) {limit : UInt64}
    (given : conditions.limit = some limit) : final.limit = some limit := by
  induction stated with
  | done => exact given
  | limit unstated =>
    rw [unstated] at given
    cases given
  | whereTarget _ _ _ ih => exact ih given

theorem Stating.told (stated : Stating conditions kinds final) (command : Command) (subject : Subject) :
    ∀ kind ∈ kinds, Says ⟨command, subject, final.target.getD .everything, final.limit.getD 0⟩ kind := by
  induction stated with
  | done => simp
  | whereTarget _ _ others ih =>
    have kept := others.target_kept rfl
    refine List.forall_mem_cons.mpr ⟨trivial, List.forall_mem_cons.mpr ⟨?_, ih⟩⟩
    rw [Says, kept, Option.getD_some]
  | limit _ _ others ih =>
    have kept := others.limit_kept rfl
    refine List.forall_mem_cons.mpr ⟨trivial, List.forall_mem_cons.mpr ⟨?_, ih⟩⟩
    rw [Says, kept, Option.getD_some]

theorem Phrase.told {query : Query} (read : Phrase query kinds) : ∀ kind ∈ kinds, query.Says kind := by
  cases read with
  | showProperty begun named =>
    refine List.forall_mem_cons.mpr ⟨?_, List.forall_mem_singleton.mpr ?_⟩
    · cases begun with
      | known keyword => exact keyword
    · cases named with
      | property => exact .inr rfl
      | projection shows => exact absurd rfl shows
  | conditional acts begun named stated =>
    refine List.forall_mem_cons.mpr ⟨?_, List.forall_mem_cons.mpr ⟨?_, stated.told _ _⟩⟩
    · cases begun with
      | known keyword => exact keyword
      | unknown => exact .inl rfl
    · cases named with
      | property => exact absurd rfl acts
      | assignment some cut => exact .assignment some cut
      | projection shows updates => exact .projection shows updates

theorem Buffer.told {queries : List Query} (buffer : Buffer queries kinds) :
    ∀ kind ∈ kinds, kind = .terminator ∨ ∃ query ∈ queries, query.Says kind := by
  induction buffer with
  | done => simp
  | terminator _ ih => exact List.forall_mem_cons.mpr ⟨.inl rfl, ih⟩
  | @query query queries phrase rest read _ _ ih =>
    intro kind member
    rcases List.mem_append.mp member with first | later
    · exact .inr ⟨query, List.mem_cons_self, read.told kind first⟩
    · refine (ih kind later).imp_right fun said => ?_
      obtain ⟨other, listed, told⟩ := said
      exact ⟨other, List.mem_cons_of_mem _ listed, told⟩

end Says

/-- What the tokens of a text say is said by the queries read from it, and what these say beside their keywords
    stands in the text, letter for letter. -/
theorem parseAll_quotes {text : String} {tokens : List Token} {queries : List Query}
    (read : tokenize text = .ok tokens) (found : parseAll text = .ok queries) :
    (∀ token ∈ tokens, token.kind = .terminator ∨ ∃ query ∈ queries, query.Says token.kind) ∧
    ∀ query ∈ queries, ∀ quoted ∈ query.texts,
      ∃ token ∈ tokens, token.kind.Quotes quoted ∧ token.Holds text.toList quoted := by
  obtain ⟨known, same, buffer⟩ := parseAll_eq_ok_iff.mp found
  cases read.symm.trans same
  refine ⟨fun token among => buffer.told token.kind (List.mem_map_of_mem among), ?_⟩
  intro query member quoted said
  obtain ⟨kind, listed, quotes⟩ := buffer.quotes query member said
  obtain ⟨token, among, rfl⟩ := List.mem_map.mp listed
  exact ⟨token, among, quotes, tokenize_holds read token among quotes⟩

end Query

end TagQuery
