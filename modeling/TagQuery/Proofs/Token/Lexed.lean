import TagQuery.Proofs.Token.Spelling
import TagQuery.Token.OfText

namespace TagQuery

/-- How a text is laid out in tokens: spelled one after another, with white space around them. -/
inductive Lexed : Nat → List Char → List Token → Prop
  | done {position : Nat} : Lexed position [] []
  | blank {position : Nat} {c : Char} {rest : List Char} {tokens : List Token}
      (blank : CharClass.ofChar? c = some .whitespace) (others : Lexed (position + 1) rest tokens) :
      Lexed position (c :: rest) tokens
  | token {position : Nat} {kind : TokenKind} {span rest : List Char} {tokens : List Token}
      (spelled : kind.Spelled span) (ends : kind.EndsBefore rest)
      (others : Lexed (position + span.length) rest tokens) :
      Lexed position (span ++ rest) (⟨kind, position⟩ :: tokens)

theorem TokenKind.Spelled.span_ne_nil {kind : TokenKind} {span : List Char} (spelled : kind.Spelled span) :
    span ≠ [] := by
  cases spelled <;> first | assumption | exact List.cons_ne_nil _ _

theorem Lexeme.Covers.remaining {length : Nat} {c : Char} {tail span rest : List Char}
    (covers : Covers length span rest) (whole : c :: tail = span ++ rest) (some : span ≠ []) :
    (length = span.length ∧ tail.drop (length - 1) = rest) ∨
      ∃ after, rest = ' ' :: after ∧ length = span.length + 1 ∧ tail.drop (length - 1) = after := by
  rcases covers with rfl | ⟨rfl, space⟩
  · exact .inl ⟨rfl, Text.drop_tail whole some⟩
  · obtain ⟨after, rfl⟩ := List.head?_eq_some_iff.mp space
    have longer : c :: tail = (span ++ [' ']) ++ after := by simp [whole]
    have remaining := Text.drop_tail longer (by simp)
    rw [List.length_append, List.length_singleton] at remaining
    exact .inr ⟨after, rfl, rfl, remaining⟩

theorem lexed_of_tokensFrom {position : Nat} {input : List Char} {tokens : List Token}
    (found : tokensFrom position input = .ok tokens) : Lexed position input tokens := by
  fun_induction tokensFrom position input generalizing tokens with
  | case1 =>
    cases found
    exact .done
  | case2 => cases found
  | case3 position c rest blank ih => exact .blank blank (ih found)
  | case4 => cases found
  | case5 position c rest charClass solid classified lexeme read ih =>
    obtain ⟨span, after, whole, covers, spelled, ends⟩ := Lexeme.read_heads classified read
    cases others : tokensFrom (position + lexeme.length) (rest.drop (lexeme.length - 1)) with
    | error cause =>
      rw [others] at found
      cases found
    | ok tokens =>
      rw [others] at found
      cases found
      rw [whole]
      refine .token spelled ends ?_
      rcases covers.remaining whole spelled.span_ne_nil with ⟨taken, remaining⟩ | ⟨_, rfl, taken, remaining⟩
      · rw [remaining, taken] at ih others
        exact ih others
      · rw [remaining, taken] at ih others
        exact .blank rfl (ih others)

theorem Lexed.tokensFrom_eq {position : Nat} {input : List Char} {tokens : List Token}
    (lexed : Lexed position input tokens) : tokensFrom position input = .ok tokens := by
  induction lexed with
  | done => rw [tokensFrom]
  | blank blank _ ih =>
    rw [tokensFrom, blank]
    exact ih
  | @token position kind span rest tokens spelled ends _ ih =>
    obtain ⟨c, tail, charClass, length, whole, classified, solid, covers, read⟩ := spelled.read ends position
    have onward : tokensFrom (position + length) (tail.drop (length - 1)) = .ok tokens := by
      rcases covers.remaining whole.symm spelled.span_ne_nil with ⟨taken, remaining⟩ | ⟨_, rfl, taken, remaining⟩
      · rw [remaining, taken, ih]
      · have space : CharClass.ofChar? ' ' = some .whitespace := rfl
        rw [tokensFrom, space] at ih
        rw [remaining, taken]
        exact ih
    rw [whole, tokensFrom, classified]
    cases charClass
    case whitespace => exact absurd rfl solid
    all_goals simp only [read, onward, Except.map]

theorem tokensFrom_eq_ok_iff {position : Nat} {input : List Char} {tokens : List Token} :
    tokensFrom position input = .ok tokens ↔ Lexed position input tokens :=
  ⟨lexed_of_tokensFrom, Lexed.tokensFrom_eq⟩

theorem classifyFrom_succeeds (position : Nat) {input : List Char}
    (known : ∀ c ∈ input, (CharClass.ofChar? c).isSome) :
    ∃ classes, classifyFrom position input = .ok classes := by
  induction input generalizing position with
  | nil => exact ⟨[], rfl⟩
  | cons c rest ih =>
    obtain ⟨charClass, classified⟩ := Option.isSome_iff_exists.mp (known c List.mem_cons_self)
    obtain ⟨classes, others⟩ := ih (position + 1) fun d member => known d (List.mem_cons_of_mem _ member)
    exact ⟨(c, charClass) :: classes, by rw [classifyFrom, classified, others]; rfl⟩

theorem isSome_of_hasClass {property : CharClass → Bool} {c : Char} (held : hasClass property c) :
    (CharClass.ofChar? c).isSome := by
  obtain ⟨charClass, classified, _⟩ := hasClass_iff.mp held
  rw [classified]
  rfl

theorem TargetPairs.Spelled.isSome {inside : List Char} {contents : List (String × Requirement)}
    (spelled : TargetPairs.Spelled inside contents) : ∀ c ∈ inside, (CharClass.ofChar? c).isSome := by
  intro c member
  rcases spelled.known c member with rfl | rfl | part
  · rfl
  · rfl
  · exact isSome_of_hasClass part

theorem TokenKind.Spelled.isSome {kind : TokenKind} {span : List Char} (spelled : kind.Spelled span) :
    ∀ c ∈ span, (CharClass.ofChar? c).isSome := by
  intro c member
  cases spelled with
  | word begun inside =>
    rcases List.mem_cons.mp member with rfl | member
    · exact isSome_of_hasClass begun
    · exact isSome_of_hasClass (inside c member)
  | integer _ decimal _ => rw [CharClass.ofChar?_of_isDigit (decimal c member)]; rfl
  | collection paired inside =>
    simp only [List.mem_cons, List.mem_append, List.not_mem_nil, or_false] at member
    rcases member with rfl | member | rfl
    · rcases paired with same | same <;> cases same <;> rfl
    · exact isSome_of_hasClass (inside c member)
    · rcases paired with same | same <;> cases same <;> rfl
  | eagerTarget spelled =>
    simp only [List.mem_cons, List.mem_append, List.not_mem_nil, or_false] at member
    rcases member with rfl | member | rfl
    · rfl
    · exact spelled.isSome c member
    · rfl
  | strictTarget spelled =>
    simp only [List.mem_cons, List.mem_append, List.not_mem_nil, or_false] at member
    rcases member with rfl | rfl | member | rfl
    · rfl
    · rfl
    · exact spelled.isSome c member
    · rfl
  | terminator => cases List.mem_singleton.mp member; rfl

theorem Lexed.isSome {position : Nat} {input : List Char} {tokens : List Token}
    (lexed : Lexed position input tokens) : ∀ c ∈ input, (CharClass.ofChar? c).isSome := by
  induction lexed with
  | done => simp
  | blank blank _ ih =>
    intro c member
    rcases List.mem_cons.mp member with rfl | member
    · rw [blank]; rfl
    · exact ih c member
  | token spelled _ _ ih =>
    intro c member
    rcases List.mem_append.mp member with member | member
    · exact spelled.isSome c member
    · exact ih c member

theorem tokenize_of_known {text : String} (known : ∀ c ∈ text.toList, (CharClass.ofChar? c).isSome) :
    tokenize text = tokensFrom 0 text.toList := by
  obtain ⟨classes, classified⟩ := classifyFrom_succeeds 0 known
  simp only [tokenize, classifyAll, classified]

theorem tokenize_of_read_error {text : String} {c : Char} {rest : List Char} {charClass : CharClass}
    {cause : QueryError} (known : ∀ c ∈ text.toList, (CharClass.ofChar? c).isSome) (begun : text.toList = c :: rest)
    (classified : CharClass.ofChar? c = some charClass) (solid : charClass ≠ .whitespace)
    (failed : Lexeme.read 0 charClass (c :: rest) = .error cause) : tokenize text = .error cause := by
  rw [tokenize_of_known known, begun, tokensFrom, classified]
  cases charClass
  case whitespace => exact absurd rfl solid
  all_goals simp only [failed]

/-- Reading a text into tokens succeeds just where the text is laid out in them. -/
theorem tokenize_eq_ok_iff {text : String} {tokens : List Token} :
    tokenize text = .ok tokens ↔ Lexed 0 text.toList tokens := by
  rw [← tokensFrom_eq_ok_iff]
  constructor
  · intro found
    unfold tokenize at found
    split at found
    · cases found
    · exact found
  · intro found
    rw [tokenize_of_known (lexed_of_tokensFrom found).isSome, found]

end TagQuery
