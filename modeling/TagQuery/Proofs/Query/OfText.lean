import TagQuery.Proofs.Query.Phrase
import TagQuery.Query.OfText

namespace TagQuery.Query

variable {text : String}

theorem parse_eq_ok_iff {query : Query} :
    parse text = .ok query ↔ ∃ phrase rest, tokenize text = .ok (phrase ++ rest) ∧
      Phrase query (phrase.map Token.kind) ∧ ∀ token ∈ rest, token.kind = .terminator := by
  constructor
  · intro found
    unfold parse at found
    split at found
    · cases found
    · rename_i tokens read
      dsimp only at found
      split at found
      · cases found
      · rename_i outcome done
        cases found
        have whole : parseTokens (stopOf tokens) tokens =
            .ok query (parseTokens (stopOf tokens) tokens).rest := by
          rw [Parsed.ok, ← outcome]
        obtain ⟨phrase, parted, stated, _⟩ := parseTokens_eq_ok_iff.mp whole
        exact ⟨phrase, _, parted ▸ read, stated, skipTerminators_eq_nil_iff.mp done⟩
      · cases found
  · rintro ⟨phrase, rest, read, stated, terminating⟩
    have ended : Ended (rest.map Token.kind) := by
      intro kind first
      obtain ⟨token, member, rfl⟩ := List.mem_map.mp (List.mem_of_mem_head? first)
      exact terminating token member
    have whole : parseTokens (stopOf (phrase ++ rest)) (phrase ++ rest) = .ok query rest :=
      parseTokens_eq_ok_iff.mpr ⟨phrase, rfl, stated, .inr ended⟩
    have done : skipTerminators rest = [] := skipTerminators_eq_nil_iff.mpr terminating
    simp only [parse, read, whole, Parsed.ok, done]

theorem parseAll_eq_ok_iff {queries : List Query} :
    parseAll text = .ok queries ↔
      ∃ tokens, tokenize text = .ok tokens ∧ Buffer queries (tokens.map Token.kind) := by
  unfold parseAll
  cases read : tokenize text with
  | error cause => simp
  | ok tokens => simp [parseAllTokens_eq_ok_iff]

end TagQuery.Query
