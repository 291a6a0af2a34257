import Mathlib.Data.List.Forall2
import TagQuery.Proofs.Keyword
import TagQuery.Proofs.Text.LetterCase
import TagQuery.Proofs.Token.Concatenation

namespace TagQuery

/-- The kinds agree, but for the letter case of a word with a meaning of its own. -/
inductive TokenKind.Recased : TokenKind → TokenKind → Prop
  | same {kind : TokenKind} : Recased kind kind
  | keyword {kind : WordKind} {word other : String} (meant : kind ≠ .generic)
      (folded : other.toLower = word.toLower) : Recased (.word kind word) (.word kind other)

def TokenKind.keywordLength : TokenKind → Nat
  | word .command text | word .condition text => text.length
  | word .generic _ | integer _ | collection _ | target _ | terminator => 0

namespace Token

structure Recased (token other : Token) : Prop where
  position : other.position = token.position
  kind : token.kind.Recased other.kind

def CoversKeyword (token : Token) (place : Nat) : Prop :=
  token.position ≤ place ∧ place < token.position + token.kind.keywordLength

instance (token : Token) (place : Nat) : Decidable (token.CoversKeyword place) :=
  inferInstanceAs (Decidable (_ ∧ _))

end Token

namespace TokenKind

variable {kind other : TokenKind} {span : List Char}

theorem Recased.symm (recased : kind.Recased other) : other.Recased kind := by
  cases recased with
  | same => exact .same
  | keyword meant folded => exact .keyword meant folded.symm

theorem Recased.endsBefore (recased : kind.Recased other) {rest : List Char} (ends : kind.EndsBefore rest) :
    other.EndsBefore rest := by
  cases recased with
  | same | keyword => exact ends

theorem EndsBefore.recased {places : Nat → Prop} {rest remaining : List Char} (ends : kind.EndsBefore rest)
    (recased : Text.Recased places rest remaining) : kind.EndsBefore remaining := by
  cases kind with
  | word | integer => exact recased.head_class ends
  | collection | target | terminator => trivial

theorem keyword_of_keywordLength_pos (some : 0 < kind.keywordLength) :
    ∃ meaning word, kind = .word meaning word ∧ meaning ≠ .generic := by
  cases kind with
  | word meaning word =>
    refine ⟨meaning, word, rfl, ?_⟩
    rintro rfl
    cases some
  | integer | collection | target | terminator => cases some

theorem Spelled.keywordLength_le (spelled : kind.Spelled span) : kind.keywordLength ≤ span.length := by
  cases spelled with
  | @word c rest begun inside =>
    have length : (String.ofList (c :: rest)).length = (c :: rest).length := by
      rw [← String.length_toList, String.toList_ofList]
    cases WordKind.ofWord (String.ofList (c :: rest)) with
    | command | condition => exact length.le
    | generic => exact Nat.zero_le _
  | integer | collection | eagerTarget | strictTarget | terminator => exact Nat.zero_le _

theorem Spelled.recased {places : Nat → Prop} {changed : List Char} (spelled : kind.Spelled span)
    (recased : Text.Recased places span changed)
    (keyword : ∀ place < span.length, places place → 0 < kind.keywordLength) :
    ∃ renamed, Spelled renamed changed ∧ kind.Recased renamed := by
  by_cases some : 0 < kind.keywordLength
  · obtain ⟨meaning, word, rfl, meant⟩ := keyword_of_keywordLength_pos some
    cases spelled with
    | @word c rest begun inside =>
      have whole : ∀ d ∈ changed.head?, hasClass CharClass.isWord d := by
        intro d first
        rw [Option.mem_def, List.head?_eq_getElem?] at first
        rwa [hasClass_of_toLower_eq (recased.folded 0 rfl first)]
      obtain ⟨d, others, rfl⟩ := List.exists_cons_of_length_eq_add_one recased.length
      have parts : ∀ e ∈ d :: others, hasClass CharClass.isWordPart e :=
        recased.all_class (List.forall_mem_cons.mpr ⟨hasClass_isWordPart begun, inside⟩)
      have folded : (String.ofList (d :: others)).toLower = (String.ofList (c :: rest)).toLower := by
        apply String.toList_injective
        simp [recased.map_toLower]
      refine ⟨_, .word (whole d rfl) (List.forall_mem_cons.mp parts).2, ?_⟩
      rw [WordKind.ofWord_congr folded]
      exact .keyword meant folded
  · have same : changed = span := recased.eq_of_none fun place below held => some (keyword place below held)
    exact ⟨kind, same ▸ spelled, .same⟩

end TokenKind

theorem Lexed.recased {position : Nat} {input changed : List Char} {tokens : List Token}
    (lexed : Lexed position input tokens)
    (recased : Text.Recased (fun place => ∃ token ∈ tokens, token.CoversKeyword (position + place)) input changed) :
    ∃ others, Lexed position changed others ∧ List.Forall₂ Token.Recased tokens others := by
  induction lexed generalizing changed with
  | done =>
    have none : changed = [] := List.length_eq_zero_iff.mp recased.length
    rw [none]
    exact ⟨[], .done, .nil⟩
  | @blank position c rest tokens blank _ ih =>
    rw [← List.singleton_append] at recased
    obtain ⟨left, right, rfl, first, following⟩ := recased.parts
    obtain ⟨d, rfl⟩ := List.length_eq_one_iff.mp first.length
    have classified : CharClass.ofChar? d = some .whitespace := by
      rw [← CharClass.ofChar?_toLower, first.folded 0 rfl rfl, CharClass.ofChar?_toLower, blank]
    obtain ⟨others, read, alike⟩ := ih (following.mono fun place _ held => by rwa [Nat.add_assoc])
    exact ⟨others, .blank classified read, alike⟩
  | @token position kind span rest tokens spelled ends others ih =>
    obtain ⟨left, right, rfl, first, following⟩ := recased.parts
    -- a place of the span is in this token only, and a place behind the span only in the later tokens
    have here : ∀ place < span.length, (∃ token ∈ ⟨kind, position⟩ :: tokens,
        token.CoversKeyword (position + place)) → 0 < kind.keywordLength := by
      rintro place below ⟨token, member, above, inside⟩
      rcases List.mem_cons.mp member with rfl | later
      · dsimp only at inside
        omega
      · have behind := others.position_le token later
        omega
    have beyond : ∀ place < rest.length, (∃ token ∈ ⟨kind, position⟩ :: tokens,
        token.CoversKeyword (position + (span.length + place))) →
          ∃ token ∈ tokens, token.CoversKeyword (position + span.length + place) := by
      rintro place - ⟨token, member, covers⟩
      rw [← Nat.add_assoc] at covers
      rcases List.mem_cons.mp member with rfl | later
      · have length := spelled.keywordLength_le
        have inside := covers.2
        dsimp only at inside
        omega
      · exact ⟨token, later, covers⟩
    obtain ⟨renamed, spelling, alike⟩ := spelled.recased first here
    obtain ⟨remaining, read, likewise⟩ := ih (following.mono beyond)
    rw [← first.length] at read
    have stops : renamed.EndsBefore right := alike.endsBefore (ends.recased following)
    exact ⟨⟨renamed, position⟩ :: remaining, .token spelling stops read, .cons ⟨rfl, alike⟩ likewise⟩

theorem tokenize_recased {text changed : String} {tokens : List Token} (read : tokenize text = .ok tokens)
    (recased : Text.Recased (fun place => ∃ token ∈ tokens, token.CoversKeyword place) text.toList changed.toList) :
    ∃ others, tokenize changed = .ok others ∧ List.Forall₂ Token.Recased tokens others := by
  rw [tokenize_eq_ok_iff] at read
  obtain ⟨others, again, alike⟩ := read.recased (recased.mono fun place _ held => by rwa [Nat.zero_add])
  exact ⟨others, tokenize_eq_ok_iff.mpr again, alike⟩

end TagQuery
