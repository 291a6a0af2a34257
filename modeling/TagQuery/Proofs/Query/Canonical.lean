import TagQuery.Proofs.Query.WellFormed
import TagQuery.Proofs.Token.Canonical
import TagQuery.Proofs.Token.Cut

namespace TagQuery

theorem Keyword.name_isWord (keyword : Keyword) : Text.IsWord keyword.name := by
  cases keyword <;> exact ⟨_, _, rfl, rfl, List.all_eq_true.mp rfl⟩

theorem Keyword.name_spells (keyword : Keyword) : keyword.Spells keyword.name := by
  cases keyword <;> decide

theorem Text.IsGeneric.kind {word : String} (generic : Text.IsGeneric word) :
    WordKind.ofWord word = .generic :=
  WordKind.ofWord_eq_generic_iff.mpr generic.free

theorem Text.IsGeneric.wordSpelled {word : String} (generic : Text.IsGeneric word) :
    TokenKind.Spelled (.word .generic word) word.toList := by
  have spelled := generic.spelled.spelled
  rwa [generic.kind] at spelled

namespace Assignments

def itemText (change : String × Option String) : String :=
  change.1 ++ "=" ++ change.2.getD nullSentinel

theorem getD_writtenIn {label : String} {value : Option String} (assigns : Assigns label value) :
    Text.WrittenIn CharClass.isItemPart (value.getD nullSentinel) := by
  cases value with
  | none => exact Text.nullSentinel_writtenIn rfl rfl
  | some text => exact (assigns.value text rfl).1

@[simp] theorem itemText_toList (label : String) (value : Option String) :
    (itemText (label, value)).toList = label.toList ++ '=' :: (value.getD nullSentinel).toList := by
  simp [itemText]

theorem itemText_names {label : String} {value : Option String} (assigns : Assigns label value) :
    Text.Names CharClass.isItemPart (itemText (label, value)) where
  trimmed := by
    rw [itemText_toList]
    exact assigns.label.trimmed.append_cons (getD_writtenIn assigns).trimmed (by decide)
  inside c member := by
    rw [itemText_toList] at member
    rcases List.mem_append.mp member with held | later
    · exact ((hasClass_except_iff rfl).mp (assigns.label.inside c held)).1
    · rcases List.mem_cons.mp later with rfl | held
      · decide
      · exact (getD_writtenIn assigns).inside c held
  some := by
    rw [Ne, ← String.toList_eq_nil_iff, itemText_toList]
    simp

theorem pair?_itemText {label : String} {value : Option String} (assigns : Assigns label value) :
    pair? (itemText (label, value)) = some (label, value) := by
  have solid : ∀ c ∈ label.toList, decide (c ≠ '=') := by
    intro c held
    simpa using ((hasClass_except_iff rfl).mp (assigns.label.inside c held)).2
  have stop : ∀ c ∈ ('=' :: (value.getD nullSentinel).toList).head?, decide (c ≠ '=') = false := by
    intro c first
    cases first
    rfl
  have valued : (if value.getD nullSentinel = nullSentinel then none else some (value.getD nullSentinel)) =
      value := by
    cases value with
    | none => rfl
    | some text => exact if_neg (assigns.value text rfl).2
  rw [pair?, itemText_toList, Text.dropWhile_run solid stop, Text.takeWhile_run solid stop]
  dsimp only
  simp [assigns.label.trimmed.trim_eq, (getD_writtenIn assigns).trimmed.trim_eq, assigns.label.toList_ne_nil, valued]

end Assignments

def Subject.canonical : Subject → String
  | projection labels => Collection.canonical labels
  | assignment changes => Collection.canonical (changes.entries.map Assignments.itemText)
  | property name => name

theorem Lexed.of_parts {parts : List (TokenKind × String)}
    (spelled : ∀ part ∈ parts, part.1.Spelled part.2.toList) (position : Nat) :
    ∃ tokens, Lexed position (" ".intercalate (parts.map Prod.snd)).toList tokens ∧
      tokens.map Token.kind = parts.map Prod.fst := by
  rw [String.toList_intercalate, List.map_map]
  induction parts generalizing position with
  | nil => exact ⟨[], .done, rfl⟩
  | cons part rest ih =>
    have first := spelled part List.mem_cons_self
    have later := ih fun other member => spelled other (List.mem_cons_of_mem _ member)
    cases rest with
    | nil =>
      refine ⟨[⟨part.1, position⟩], ?_, rfl⟩
      rw [List.map_cons, List.map_nil, List.intercalate_singleton, Function.comp_apply,
        ← List.append_nil part.2.toList]
      exact .token first (.of_stop (by simp)) .done
    | cons next rest =>
      obtain ⟨tokens, lexed, shown⟩ := later (position + part.2.toList.length + 1)
      refine ⟨⟨part.1, position⟩ :: tokens, ?_, congrArg (part.1 :: ·) shown⟩
      rw [List.map_cons, List.map_cons, List.intercalate_cons_cons, List.append_assoc]
      exact .token first (.of_stop fun c held => by cases held; decide) (.blank rfl lexed)

namespace Query

def conditionTexts (query : Query) : List String :=
  [Keyword.whereTarget.name, query.target.canonical, Keyword.limit.name, toString query.limit.toNat]

/-- The text of a query in full: what it shows, or its target and its limit even where it states none. -/
def canonical (query : Query) : String :=
  " ".intercalate (query.command.name :: query.subject.canonical ::
    if query.command = .showProperty then [] else query.conditionTexts)

theorem opening_spelled {command : Command} (wellFormed : command.WellFormed) :
    ∃ kind, Opening command kind ∧ kind.Spelled command.name.toList := by
  cases command with
  | unknown word => exact ⟨_, .unknown, Text.IsGeneric.wordSpelled wellFormed⟩
  | select => exact ⟨_, .known rfl, (Keyword.name_isWord .select).spelled⟩
  | update => exact ⟨_, .known rfl, (Keyword.name_isWord .update).spelled⟩
  | delete => exact ⟨_, .known rfl, (Keyword.name_isWord .delete).spelled⟩
  | showProperty => exact ⟨_, .known rfl, (Keyword.name_isWord .showProperty).spelled⟩

theorem naming_spelled {command : Command} {subject : Subject} (suits : subject.Suits command) :
    ∃ kind, Naming command kind subject ∧ kind.Spelled subject.canonical.toList := by
  cases suits with
  | property generic => exact ⟨_, .property, generic.wordSpelled⟩
  | @assignment changes some assigns =>
    have named : ∀ item ∈ changes.entries.map Assignments.itemText, Text.Names CharClass.isItemPart item := by
      intro item member
      obtain ⟨change, listed, rfl⟩ := List.mem_map.mp member
      exact Assignments.itemText_names (assigns change listed)
    have cut : (changes.entries.map Assignments.itemText).map Assignments.pair? =
        changes.entries.map Option.some := by
      rw [List.map_map]
      exact List.map_congr_left fun change listed => Assignments.pair?_itemText (assigns change listed)
    have naming := Naming.assignment (by simpa using some) cut
    rw [changes.ofList_entries] at naming
    exact ⟨_, naming, Collection.spelled_canonical named⟩
  | @projection command labels shows updates named =>
    have naming : Naming command (.collection labels) (projectionOf labels) := .projection shows updates
    rw [projectionOf, if_neg fun listed => (named _ listed).2 rfl] at naming
    exact ⟨_, naming, Collection.spelled_canonical fun label listed => (named label listed).1⟩

theorem parse_of_parts {parts : List (TokenKind × String)} {query : Query}
    (spelled : ∀ part ∈ parts, part.1.Spelled part.2.toList) (phrase : Phrase query (parts.map Prod.fst)) :
    parse (" ".intercalate (parts.map Prod.snd)) = .ok query := by
  obtain ⟨tokens, lexed, shown⟩ := Lexed.of_parts spelled 0
  have read : tokenize (" ".intercalate (parts.map Prod.snd)) = .ok (tokens ++ []) := by
    rw [List.append_nil]
    exact tokenize_eq_ok_iff.mpr lexed
  rw [← shown] at phrase
  exact parse_eq_ok_iff.mpr ⟨tokens, [], read, phrase, by simp⟩

theorem parse_canonical {query : Query} (wellFormed : query.WellFormed) :
    parse query.canonical = .ok query := by
  obtain ⟨command, subject, target, limit⟩ := query
  obtain ⟨opening, begun, openingText⟩ := opening_spelled wellFormed.command
  obtain ⟨naming, named, namingText⟩ := naming_spelled wellFormed.subject
  by_cases shows : command = .showProperty
  · subst shows
    obtain ⟨rfl, rfl⟩ := wellFormed.unconditional rfl
    have parts : ∀ part ∈ [(opening, Command.showProperty.name), (naming, subject.canonical)],
        part.1.Spelled part.2.toList := by
      simpa using ⟨openingText, namingText⟩
    have found := parse_of_parts parts (.showProperty begun named)
    rw [canonical, if_pos rfl]
    exact found
  · have whereText := (Keyword.name_isWord .whereTarget).spelled
    have limitText := (Keyword.name_isWord .limit).spelled
    have parts : ∀ part ∈ [(opening, command.name), (naming, subject.canonical),
          (.word .condition Keyword.whereTarget.name, Keyword.whereTarget.name),
          (.target target, target.canonical), (.word .condition Keyword.limit.name, Keyword.limit.name),
          (.integer limit, toString limit.toNat)], part.1.Spelled part.2.toList := by
      simp only [List.forall_mem_cons]
      exact ⟨openingText, namingText, whereText, Target.spelled_canonical wellFormed.target, limitText,
        TokenKind.spelled_integer limit, by simp⟩
    have stated : Stating {} [.word .condition Keyword.whereTarget.name, .target target,
        .word .condition Keyword.limit.name, .integer limit] { target, limit } :=
      .whereTarget rfl (Keyword.name_spells .whereTarget) (.limit rfl (Keyword.name_spells .limit) .done)
    have found := parse_of_parts parts (.conditional shows begun named stated)
    rw [canonical, if_neg shows]
    exact found

/-- Reading takes the texts onto the well-formed queries, and each of those is read from its own
    canonical text. -/
theorem parse_exists_iff_wellFormed (query : Query) :
    ((∃ text, parse text = .ok query) ↔ query.WellFormed) ∧
      (parse query.canonical = .ok query ↔ query.WellFormed) := by
  have sound : ∀ text, parse text = .ok query → query.WellFormed := fun _ => wellFormed_of_parse
  have complete : query.WellFormed → parse query.canonical = .ok query := parse_canonical
  refine ⟨⟨?_, fun wellFormed => ⟨_, complete wellFormed⟩⟩, sound _, complete⟩
  rintro ⟨text, found⟩
  exact sound text found

example : canonical ⟨.update, .assignment (.ofList [("genre", none), ("year", some "1969")]),
    .strict (.ofList [("artist", .text "The Doors"), ("rating", .absent)]), 3⟩ =
    "update (genre=\\Null,year=1969) where &\x7bartist=The Doors,rating=\\Null\x7d limit 3" := by decide

end Query

end TagQuery
