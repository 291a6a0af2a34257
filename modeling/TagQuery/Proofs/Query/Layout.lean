import TagQuery.Proofs.Query.Canonical

namespace TagQuery

namespace Target

def only (label : String) (requirement : Requirement) : Mode → Target
  | .eager => eager (.ofList [(label, .ofList [requirement])])
  | .strict => strict (.ofList [(label, requirement)])

variable {label : String} {requirement : Requirement} {mode : Mode}

@[simp] theorem contents_only : (only label requirement mode).contents = [(label, requirement)] := by
  cases mode <;> rfl

@[simp] theorem mode_only : (only label requirement mode).mode = mode := by
  cases mode <;> rfl

@[simp] theorem canonical_only :
    (only label requirement mode).canonical =
      opener mode ++ TargetPairs.pairText (label, requirement) ++ "\x7d" := by
  rw [canonical, contents_only, mode_only]
  rfl

theorem wellFormed_only (required : Requires label requirement) :
    (only label requirement mode).WellFormed := by
  cases mode with
  | strict =>
    intro entry member
    cases List.mem_singleton.mp member
    exact required
  | eager =>
    intro entry member
    cases List.mem_singleton.mp member
    refine ⟨required.label, List.cons_ne_nil _ _, ?_⟩
    intro value held
    cases List.mem_singleton.mp held
    exact required.value

end Target

@[simp] theorem Requirement.display_ofText (value : String) : (ofText value).display = value := by
  unfold ofText
  split
  · rename_i null
    exact null.symm
  · rfl

namespace Query

theorem Phrase.buffer {query : Query} {kinds : List TokenKind} (read : Phrase query kinds) :
    Buffer [query] kinds := by
  have buffer := Buffer.query read (.inr (by simp [Ended])) .done
  rwa [List.append_nil] at buffer

section Parts

variable {parts : List (TokenKind × String)} {text : String}
  (written : text = " ".intercalate (parts.map Prod.snd))
  (spelled : ∀ part ∈ parts, part.1.Spelled part.2.toList)

include written spelled

theorem tokenize_of_parts :
    ∃ tokens, tokenize text = .ok tokens ∧ tokens.map Token.kind = parts.map Prod.fst := by
  subst written
  obtain ⟨tokens, lexed, shown⟩ := Lexed.of_parts spelled 0
  exact ⟨tokens, tokenize_eq_ok_iff.mpr lexed, shown⟩

theorem tokenize_of_phrase {query : Query} (phrase : Phrase query (parts.map Prod.fst)) :
    ∃ tokens, tokenize text = .ok tokens ∧ Phrase query (tokens.map Token.kind) := by
  obtain ⟨tokens, read, shown⟩ := tokenize_of_parts written spelled
  rw [← shown] at phrase
  exact ⟨tokens, read, phrase⟩

theorem parseAll_of_parts {queries : List Query} (buffer : Buffer queries (parts.map Prod.fst)) :
    parseAll text = .ok queries := by
  obtain ⟨tokens, read, shown⟩ := tokenize_of_parts written spelled
  rw [← shown] at buffer
  exact parseAll_eq_ok_iff.mpr ⟨tokens, read, buffer⟩

end Parts

theorem spelled_show {name : String} (generic : Text.IsGeneric name) :
    ∀ part ∈ [(TokenKind.word .command "show", "show"), (TokenKind.word .generic name, name)],
      part.1.Spelled part.2.toList := by
  simp only [List.forall_mem_cons]
  exact ⟨(Keyword.name_isWord .showProperty).spelled, generic.wordSpelled, by simp⟩

theorem phrase_show (name : String) :
    Phrase ⟨.showProperty, .property name, .everything, 0⟩ [.word .command "show", .word .generic name] :=
  .showProperty (.known rfl) .property

theorem parseAll_show {name : String} (generic : Text.IsGeneric name) :
    parseAll ("show " ++ name) = .ok [⟨.showProperty, .property name, .everything, 0⟩] := by
  have written : "show " ++ name = " ".intercalate ["show", name] := by
    apply String.toList_injective
    simp
  exact parseAll_of_parts written (spelled_show generic) (phrase_show name).buffer

def filterText (command : Command) (labels : List String) (target : Target) : String :=
  " ".intercalate [command.name, Collection.canonical labels, Keyword.whereTarget.name, target.canonical]

theorem parseAll_filterText {command : Command} {labels : List String} {target : Target}
    (known : command.WellFormed) (acts : command ≠ .showProperty)
    (suits : (Subject.projection labels).Suits command) (wellFormed : target.WellFormed) :
    parseAll (filterText command labels target) = .ok [⟨command, .projection labels, target, 0⟩] := by
  obtain ⟨opening, begun, openingText⟩ := opening_spelled known
  obtain ⟨naming, named, namingText⟩ := naming_spelled suits
  have whereText := (Keyword.name_isWord .whereTarget).spelled
  have targetText := Target.spelled_canonical wellFormed
  have parts : ∀ part ∈ [(opening, command.name), (naming, Collection.canonical labels),
      (.word .condition Keyword.whereTarget.name, Keyword.whereTarget.name),
      (.target target, target.canonical)], part.1.Spelled part.2.toList := by
    simp only [List.forall_mem_cons]
    exact ⟨openingText, namingText, whereText, targetText, by simp⟩
  have stated : Stating {} [.word .condition Keyword.whereTarget.name, .target target]
      { target := some target } :=
    .whereTarget rfl (Keyword.name_spells .whereTarget) .done
  have phrase := Phrase.conditional acts begun named stated
  exact parseAll_of_parts rfl parts phrase.buffer

/-- The text of a query about the records that hold a value at a label, or no value where the text of
    the value is the one that says so. -/
def equalityText (command : Command) (labels : List String) (mode : Target.Mode) (label value : String) :
    String :=
  command.name ++ " " ++ Collection.canonical labels ++ " where " ++ Target.opener mode ++ label ++ "=" ++
    value ++ "\x7d"

theorem equalityText_eq (command : Command) (labels : List String) (mode : Target.Mode)
    (label value : String) :
    equalityText command labels mode label value =
      filterText command labels (.only label (.ofText value) mode) := by
  rw [filterText, Target.canonical_only, TargetPairs.pairText, Requirement.display_ofText]
  apply String.toList_injective
  simp [equalityText, Keyword.name]

example : equalityText .select ["genre"] .strict "genre" "Rock" =
    "select (genre) where &\x7bgenre=Rock\x7d" := by decide

end Query

end TagQuery
