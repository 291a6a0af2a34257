import TagQuery.Proofs.Query.OfText
import TagQuery.Proofs.Token.Cut

namespace TagQuery

theorem tokenize_append_terminator {first second : String} {tokens : List Token} :
    tokenize (first ++ ";" ++ second) = .ok tokens ↔
      ∃ left right, tokenize first = .ok left ∧ tokenize second = .ok right ∧
        tokens = left ++ ⟨.terminator, first.length⟩ :: right.map (Token.shift (first.length + 1)) := by
  have whole : (first ++ ";" ++ second).toList = first.toList ++ ';' :: second.toList := by simp
  simp only [tokenize_eq_ok_iff, whole]
  constructor
  · intro lexed
    obtain ⟨left, right, lexedLeft, lexedRight, rfl⟩ := lexed.cut_terminator
    rw [Nat.zero_add, String.length_toList] at lexedRight
    have afresh : Lexed (first.length + 1 + 0) second.toList right := lexedRight
    obtain ⟨original, lexedOriginal, rfl⟩ := afresh.unshift
    exact ⟨left, original, lexedLeft, lexedOriginal, by rw [Nat.zero_add, String.length_toList]⟩
  · rintro ⟨left, right, lexedLeft, lexedRight, rfl⟩
    have terminated : Lexed first.length ([';'] ++ second.toList)
        (⟨.terminator, first.length⟩ :: right.map (Token.shift (first.length + 1))) :=
      .token .terminator trivial (lexedRight.shift (first.length + 1))
    refine lexedLeft.append ?_ ?_
    · intro c _ d next _
      cases next
      decide
    · rwa [Nat.zero_add, String.length_toList]

namespace Query

theorem Stating.solid {conditions final : Conditions} {kinds : List TokenKind}
    (stated : Stating conditions kinds final) : TokenKind.terminator ∉ kinds := by
  induction stated with
  | done => exact List.not_mem_nil
  | whereTarget _ _ _ ih | limit _ _ _ ih => simpa using ih

theorem Phrase.solid {query : Query} {kinds : List TokenKind} (read : Phrase query kinds) :
    TokenKind.terminator ∉ kinds := by
  cases read with
  | showProperty begun named =>
    cases begun
    cases named <;> simp
  | conditional _ begun named stated =>
    have later := stated.solid
    cases begun <;> cases named <;> simpa using later

theorem Buffer.append {first second : List Query} {left right : List TokenKind} (before : Buffer first left)
    (after : Buffer second right) : Buffer (first ++ second) (left ++ .terminator :: right) := by
  induction before with
  | done => exact .terminator after
  | terminator _ ih => exact .terminator ih
  | @query query queries phrase rest read ended _ ih =>
    rw [List.cons_append, List.append_assoc]
    refine .query read (ended.imp_right fun ended => ?_) ih
    cases rest with
    | nil => simp [Ended]
    | cons kind rest => exact ended

theorem Buffer.cut {queries : List Query} {left right : List TokenKind}
    (buffer : Buffer queries (left ++ .terminator :: right)) :
    ∃ first second, Buffer first left ∧ Buffer second right ∧ queries = first ++ second := by
  generalize whole : left ++ .terminator :: right = kinds at buffer
  induction buffer generalizing left with
  | done => simp at whole
  | terminator others ih =>
    cases left with
    | nil =>
      obtain ⟨_, rfl⟩ := List.cons.inj whole
      exact ⟨[], _, .done, others, rfl⟩
    | cons kind left =>
      obtain ⟨rfl, following⟩ := List.cons.inj whole
      obtain ⟨first, second, before, after, rfl⟩ := ih following
      exact ⟨first, second, .terminator before, after, rfl⟩
  | @query query queries phrase rest read ended _ ih =>
    -- A phrase holds no terminator, so it lies on one side of the cut.
    have parted : ∃ middle, left = phrase ++ middle ∧ rest = middle ++ .terminator :: right := by
      rcases List.append_eq_append_iff.mp whole with ⟨middle, held, following⟩ | later
      · cases middle with
        | nil => exact ⟨[], by simpa using held.symm, following.symm⟩
        | cons kind middle =>
          obtain ⟨rfl, _⟩ := List.cons.inj following
          exact absurd (by simp [held]) read.solid
      · exact later
    obtain ⟨middle, rfl, following⟩ := parted
    obtain ⟨first, second, before, after, rfl⟩ := ih following.symm
    refine ⟨query :: first, second, .query read (ended.imp_right fun ended => ?_) before, after, rfl⟩
    cases middle with
    | nil => simp [Ended]
    | cons kind middle =>
      rw [following] at ended
      exact ended

theorem parseAll_append_terminator_iff {first second : String} {queries : List Query} :
    parseAll (first ++ ";" ++ second) = .ok queries ↔
      ∃ before after, parseAll first = .ok before ∧ parseAll second = .ok after ∧
        queries = before ++ after := by
  simp only [parseAll_eq_ok_iff, tokenize_append_terminator]
  constructor
  · rintro ⟨_, ⟨left, right, readLeft, readRight, rfl⟩, buffer⟩
    simp only [List.map_append, List.map_cons, List.map_map, Token.kind_comp_shift] at buffer
    obtain ⟨before, after, bufferLeft, bufferRight, rfl⟩ := buffer.cut
    exact ⟨before, after, ⟨left, readLeft, bufferLeft⟩, ⟨right, readRight, bufferRight⟩, rfl⟩
  · rintro ⟨before, after, ⟨left, readLeft, bufferLeft⟩, ⟨right, readRight, bufferRight⟩, rfl⟩
    refine ⟨_, ⟨left, right, readLeft, readRight, rfl⟩, ?_⟩
    simpa using bufferLeft.append bufferRight

/-- Texts put together at a terminator are read one by one: their tokens stand one after another,
    and so do their queries. -/
theorem parseAll_append_terminator (first second : String) :
    (∀ tokens, tokenize (first ++ ";" ++ second) = .ok tokens ↔
      ∃ left right, tokenize first = .ok left ∧ tokenize second = .ok right ∧
        tokens = left ++ ⟨.terminator, first.length⟩ :: right.map (Token.shift (first.length + 1))) ∧
    ∀ queries, parseAll (first ++ ";" ++ second) = .ok queries ↔
      ∃ before after, parseAll first = .ok before ∧ parseAll second = .ok after ∧
        queries = before ++ after :=
  ⟨fun _ => tokenize_append_terminator, fun _ => parseAll_append_terminator_iff⟩

end Query

end TagQuery
