import TagQuery.Proofs.Token.Extent
import TagQuery.Proofs.Token.TargetBody

namespace TagQuery

def Requirement.text? : Requirement → Option String
  | absent => none
  | text value => some value

def Target.texts (target : Target) : List String :=
  target.contents.flatMap fun content => content.1 :: content.2.text?.toList

namespace TokenKind

/-- The token has the text in it: as a word without a meaning of its own, in an item of a collection, or as a
    label or value of a target. -/
inductive Quotes : TokenKind → String → Prop
  | word {word : String} : Quotes (.word .generic word) word
  | item {items : List String} {item quoted : String} (listed : item ∈ items)
      (part : quoted.toList <:+: item.toList) : Quotes (.collection items) quoted
  | target {target : Target} {quoted : String} (given : quoted ∈ target.texts) : Quotes (.target target) quoted

end TokenKind

theorem Requirement.text?_ofText {value quoted : String} (asked : (ofText value).text? = some quoted) :
    quoted = value := by
  unfold ofText at asked
  split at asked
  · cases asked
  · exact (Option.some.inj asked).symm

theorem Collection.infix_of_mem_items {body : List Char} {item : String} (listed : item ∈ items body) :
    item.toList <:+: body := by
  obtain ⟨trimmed, kept, rfl⟩ := List.mem_map.mp listed
  obtain ⟨piece, cut, rfl⟩ := List.mem_map.mp (List.mem_filter.mp kept).1
  rw [String.toList_ofList]
  exact (Text.trim_isInfix piece).trans (Text.infix_of_mem_split cut)

theorem TargetPairs.Spelled.infix_of_mem {inside : List Char} {contents : List (String × Requirement)}
    (spelled : Spelled inside contents) {content : String × Requirement} (member : content ∈ contents) :
    content.1.toList <:+: inside ∧ ∀ asked ∈ content.2.text?, asked.toList <:+: inside := by
  induction spelled with
  | done => cases member
  | @skip c inside contents _ _ ih =>
    have later : inside <:+: c :: inside := (List.suffix_cons c inside).isInfix
    exact ⟨(ih member).1.trans later, fun asked given => ((ih member).2 asked given).trans later⟩
  | @pair key value inside contents _ _ _ _ _ _ ih =>
    have keyPart : key <:+: key ++ '=' :: (value ++ inside) := (List.prefix_append _ _).isInfix
    have others : value ++ inside <:+: key ++ '=' :: (value ++ inside) :=
      ((List.suffix_cons _ _).trans (List.suffix_append _ _)).isInfix
    rcases List.mem_cons.mp member with rfl | later
    · refine ⟨?_, fun asked given => ?_⟩
      · rw [contentOf, String.toList_ofList]
        exact (Text.trim_isInfix key).trans keyPart
      · rw [Requirement.text?_ofText given, String.toList_ofList]
        exact ((Text.trim_isInfix value).trans (List.prefix_append _ _).isInfix).trans others
    · have last := (List.suffix_append value inside).isInfix.trans others
      exact ⟨(ih later).1.trans last, fun asked given => ((ih later).2 asked given).trans last⟩

namespace Target

variable {mode : Mode} {contents : List (String × Requirement)}

theorem mem_of_mem_contents {content : String × Requirement}
    (member : content ∈ (ofContents contents mode).contents) : content ∈ contents := by
  cases mode with
  | strict => exact OrderedMap.mem_of_mem_ofList member
  | eager =>
    obtain ⟨entry, listed, given⟩ := List.mem_flatMap.mp member
    obtain ⟨value, held, rfl⟩ := List.mem_map.mp given
    have gathered : Gathers contents (ofContents contents .eager) := gathers_ofContents trivial
    have values := (OrderedMap.get?_of_mem listed).symm.trans (gathered entry.1)
    split at values
    · cases values
    · rw [Option.some.inj values, OrderedSet.mem_ofList_iff] at held
      obtain ⟨⟨label, requirement⟩, kept, rfl⟩ := List.mem_map.mp held
      obtain ⟨given, same⟩ := List.mem_filter.mp kept
      rwa [← of_decide_eq_true same]

theorem infix_of_mem_texts (mode : Mode) {inside : List Char} (spelled : TargetPairs.Spelled inside contents)
    {quoted : String} (given : quoted ∈ (ofContents contents mode).texts) : quoted.toList <:+: inside := by
  obtain ⟨content, member, said⟩ := List.mem_flatMap.mp given
  obtain ⟨label, asked⟩ := spelled.infix_of_mem (mem_of_mem_contents member)
  rcases List.mem_cons.mp said with rfl | text
  · exact label
  · exact asked quoted (Option.mem_toList.mp text)

end Target

theorem TokenKind.Spelled.infix_of_quotes {kind : TokenKind} {span : List Char} {quoted : String}
    (spelled : kind.Spelled span) (quotes : kind.Quotes quoted) : quoted.toList <:+: span := by
  cases spelled with
  | word begun inside =>
    generalize WordKind.ofWord _ = meaning at quotes
    cases quotes
    exact ⟨[], [], by simp⟩
  | collection paired inside =>
    obtain _ | ⟨listed, part⟩ := quotes
    exact (part.trans (Collection.infix_of_mem_items listed)).trans ⟨[_], [_], rfl⟩
  | eagerTarget spelled =>
    obtain _ | _ | given := quotes
    exact (Target.infix_of_mem_texts .eager spelled given).trans ⟨['{'], ['}'], rfl⟩
  | strictTarget spelled =>
    obtain _ | _ | given := quotes
    exact (Target.infix_of_mem_texts .strict spelled given).trans ⟨['&', '{'], ['}'], rfl⟩
  | integer | terminator => cases quotes

def Token.Holds (text : List Char) (token : Token) (quoted : String) : Prop :=
  ∃ stop, token.Spans text stop ∧ quoted.toList <:+: (text.take stop).drop token.position

theorem Lexed.holds {position : Nat} {input : List Char} {tokens : List Token} (lexed : Lexed position input tokens)
    (before : List Char) (placed : before.length = position) {quoted : String} :
    ∀ token ∈ tokens, token.kind.Quotes quoted → token.Holds (before ++ input) quoted := by
  induction lexed generalizing before with
  | done => simp
  | @blank position c rest tokens _ _ ih =>
    have others := ih (before ++ [c]) (by simp [placed])
    rwa [List.append_assoc, List.singleton_append] at others
  | @token position kind span rest tokens spelled ends _ ih =>
    subst placed
    have others := ih (before ++ span) List.length_append
    rw [List.append_assoc] at others
    refine List.forall_mem_cons.mpr ⟨fun quotes => ?_, others⟩
    refine ⟨_, Token.spans_of_spelled spelled ends before, ?_⟩
    have spanned : ((before ++ (span ++ rest)).take (before.length + span.length)).drop before.length = span := by
      rw [← List.append_assoc, List.take_left' List.length_append, List.drop_left]
    rw [spanned]
    exact spelled.infix_of_quotes quotes

theorem tokenize_holds {text : String} {tokens : List Token} (read : tokenize text = .ok tokens) {quoted : String} :
    ∀ token ∈ tokens, token.kind.Quotes quoted → token.Holds text.toList quoted :=
  (tokenize_eq_ok_iff.mp read).holds [] rfl

end TagQuery
