import TagQuery.Proofs.Text.Pieces
import TagQuery.Proofs.Token.Lexed

namespace TagQuery

def Token.shift (distance : Nat) (token : Token) : Token :=
  { token with position := distance + token.position }

@[simp] theorem Token.kind_comp_shift (distance : Nat) : kind ∘ shift distance = kind := rfl

theorem TokenKind.EndsBefore.append {kind : TokenKind} {rest next : List Char}
    (ends : kind.EndsBefore rest) (last : rest = [] → kind.EndsBefore next) :
    kind.EndsBefore (rest ++ next) := by
  cases rest with
  | nil => exact last rfl
  | cons c rest =>
    cases kind with
    | word | integer => exact ends
    | collection | target | terminator => trivial

theorem TokenKind.EndsBefore.of_stop {kind : TokenKind} {rest : List Char}
    (stop : ∀ c ∈ rest.head?, hasClass CharClass.isWordPart c = false) : kind.EndsBefore rest := by
  cases kind with
  | word | integer => exact stop
  | collection | target | terminator => trivial

theorem TokenKind.EndsBefore.of_head {kind : TokenKind} {rest other : List Char}
    (ends : kind.EndsBefore rest) (same : rest.head? = other.head?) : kind.EndsBefore other := by
  cases kind with
  | word | integer => exact fun c first => ends c (same ▸ first)
  | collection | target | terminator => trivial

theorem TokenKind.EndsBefore.of_append {kind : TokenKind} {rest next : List Char}
    (ends : kind.EndsBefore (rest ++ next)) : kind.EndsBefore rest := by
  cases rest with
  | nil => exact .of_stop (by simp)
  | cons c rest => exact ends.of_head rfl

theorem TokenKind.Spelled.endsBefore_or {kind : TokenKind} {span : List Char} (spelled : kind.Spelled span)
    (rest : List Char) : kind.EndsBefore rest ∨ ∀ c ∈ span, hasClass CharClass.isWordPart c := by
  cases spelled with
  | word begun inside =>
    right
    exact List.forall_mem_cons.mpr ⟨hasClass_isWordPart begun, inside⟩
  | integer _ decimal _ =>
    right
    exact fun c member => hasClass_isWordPart_of_isDigit (decimal c member)
  | collection | eagerTarget | strictTarget | terminator => exact .inl trivial

theorem TokenKind.Spelled.eq_terminator {kind : TokenKind} {span : List Char} (spelled : kind.Spelled span)
    (member : ';' ∈ span) : kind = .terminator ∧ span = [';'] := by
  cases spelled with
  | word begun inside =>
    rcases List.mem_cons.mp member with rfl | member
    · exact absurd begun (by decide)
    · exact absurd (inside ';' member) (by decide)
  | integer _ decimal _ => exact absurd (decimal ';' member) (by decide)
  | collection paired inside =>
    simp only [List.mem_cons, List.mem_append, List.not_mem_nil, or_false] at member
    rcases member with rfl | member | rfl
    · simp at paired
    · exact absurd (inside ';' member) (by decide)
    · simp at paired
  | eagerTarget spelled | strictTarget spelled =>
    have solid : ';' ∉ _ := fun member => absurd (spelled.known ';' member) (by decide)
    simp at member
    exact absurd member solid
  | terminator => exact ⟨rfl, rfl⟩

namespace Lexed

variable {position : Nat} {first second : List Char} {tokens others : List Token}

theorem append (left : Lexed position first tokens)
    (apart : ∀ c ∈ first.getLast?, ∀ d ∈ second.head?,
      hasClass CharClass.isWordPart c → hasClass CharClass.isWordPart d = false)
    (right : Lexed (position + first.length) second others) :
    Lexed position (first ++ second) (tokens ++ others) := by
  induction left with
  | done => simpa using right
  | @blank position c rest tokens blank _ ih =>
    refine .blank blank (ih (fun d last => apart d ?_) ?_)
    · rw [List.getLast?_cons, Option.mem_def.mp last]
      rfl
    · rwa [Text.place_cons] at right
  | @token position kind span rest tokens spelled ends _ ih =>
    rw [List.append_assoc]
    refine .token spelled (ends.append fun done => ?_) (ih (fun d last => apart d ?_) ?_)
    · rcases spelled.endsBefore_or second with ends | parts
      · exact ends
      · have last := List.getLast?_eq_some_getLast spelled.span_ne_nil
        have part := parts _ (List.getLast_mem spelled.span_ne_nil)
        rw [done, List.append_nil] at apart
        exact .of_stop fun d next => apart _ last d next part
    · rw [List.getLast?_append, Option.mem_def.mp last]
      rfl
    · rwa [List.length_append, ← Nat.add_assoc] at right

/-- A text is read up to a terminator without a look beyond it, and onward from there afresh. -/
theorem cut_terminator (lexed : Lexed position (first ++ ';' :: second) tokens) :
    ∃ left right, Lexed position first left ∧ Lexed (position + first.length + 1) second right ∧
      tokens = left ++ ⟨.terminator, position + first.length⟩ :: right := by
  generalize whole : first ++ ';' :: second = text at lexed
  induction lexed generalizing first with
  | done => simp at whole
  | @blank position c rest tokens blank _ ih =>
    cases first with
    | nil =>
      cases whole
      exact absurd blank (by decide)
    | cons d first =>
      obtain ⟨rfl, following⟩ := List.cons.inj whole
      obtain ⟨left, right, lexedLeft, lexedRight, rfl⟩ := ih following
      refine ⟨left, right, .blank blank lexedLeft, ?_, ?_⟩
      · rwa [Text.place_cons]
      · rw [Text.place_cons]
  | @token position kind span rest tokens spelled ends others ih =>
    -- The cut either stands at a token of its own or lies after the whole of this one.
    have parted : (kind = .terminator ∧ first = [] ∧ span = [';'] ∧ rest = second) ∨
        ∃ middle, first = span ++ middle ∧ rest = middle ++ ';' :: second := by
      by_cases member : ';' ∈ span
      · obtain ⟨terminates, alone⟩ := spelled.eq_terminator member
        rw [alone] at whole
        cases first with
        | nil => exact .inl ⟨terminates, rfl, alone, (List.cons.inj whole).2.symm⟩
        | cons c first =>
          obtain ⟨same, following⟩ := List.cons.inj whole
          exact .inr ⟨first, by rw [alone, same]; rfl, following.symm⟩
      · exact .inr (Text.append_eq_append_cons member whole.symm)
    rcases parted with ⟨rfl, rfl, rfl, rfl⟩ | ⟨middle, rfl, following⟩
    · exact ⟨[], tokens, .done, others, rfl⟩
    · obtain ⟨left, right, lexedLeft, lexedRight, rfl⟩ := ih following.symm
      rw [following] at ends
      refine ⟨⟨kind, position⟩ :: left, right, .token spelled ends.of_append lexedLeft, ?_, ?_⟩
      · rwa [List.length_append, ← Nat.add_assoc]
      · rw [List.length_append, ← Nat.add_assoc, List.cons_append]

theorem shift (lexed : Lexed position first tokens) (distance : Nat) :
    Lexed (distance + position) first (tokens.map (Token.shift distance)) := by
  induction lexed with
  | done => exact .done
  | blank blank _ ih => exact .blank blank ih
  | token spelled ends _ ih => exact .token spelled ends (by rwa [Nat.add_assoc])

theorem unshift {distance : Nat} (lexed : Lexed (distance + position) first tokens) :
    ∃ original, Lexed position first original ∧ tokens = original.map (Token.shift distance) := by
  generalize origin : distance + position = start at lexed
  induction lexed generalizing position with
  | done => exact ⟨[], .done, rfl⟩
  | blank blank _ ih =>
    subst origin
    obtain ⟨original, lexed, rfl⟩ := ih (Nat.add_assoc _ _ _).symm
    exact ⟨original, .blank blank lexed, rfl⟩
  | @token _ kind span rest _ spelled ends _ ih =>
    subst origin
    obtain ⟨original, lexed, rfl⟩ := ih (Nat.add_assoc _ _ _).symm
    exact ⟨⟨kind, position⟩ :: original, .token spelled ends lexed, rfl⟩

end Lexed

end TagQuery
