import TagQuery.Proofs.Keyword
import TagQuery.Proofs.Token.Canonical

namespace TagQuery

namespace Text

def runFrom (property : CharClass → Bool) (text : List Char) (place : Nat) : List Char :=
  (text.drop place).takeWhile (hasClass property)

/-- The first place behind `start` at which one of the given characters stands. -/
structure FirstBehind (text : List Char) (start : Nat) (stops : List Char) (place : Nat) : Prop where
  later : start < place
  stands : ∃ c ∈ text[place]?, c ∈ stops
  before : ∀ between, start < between → between < place → ∀ c ∈ text[between]?, c ∉ stops

theorem FirstBehind.unique {text stops : List Char} {start place other : Nat}
    (first : FirstBehind text start stops place) (again : FirstBehind text start stops other) : place = other := by
  obtain ⟨c, here, stop⟩ := first.stands
  obtain ⟨d, there, stopAgain⟩ := again.stands
  rcases Nat.lt_trichotomy place other with less | same | more
  · exact absurd stop (again.before place first.later less c here)
  · exact same
  · exact absurd stopAgain (first.before other again.later more d there)

theorem getElem?_append_add (before after : List Char) (offset : Nat) :
    (before ++ after)[before.length + offset]? = after[offset]? := by
  rw [List.getElem?_append_right (by omega), Nat.add_sub_cancel_left]

theorem getElem?_closer (before inside after : List Char) (first stop : Char) :
    (before ++ first :: (inside ++ stop :: after))[before.length + (inside.length + 1)]? = some stop := by
  rw [getElem?_append_add, List.getElem?_cons_succ, getElem?_behind]
  rfl

theorem firstBehind_closer {inside stops : List Char} {stop : Char} (free : ∀ c ∈ inside, c ∉ stops)
    (listed : stop ∈ stops) (before after : List Char) (first : Char) :
    FirstBehind (before ++ first :: (inside ++ stop :: after)) before.length stops
      (before.length + (inside.length + 1)) where
  later := by omega
  stands := ⟨stop, getElem?_closer before inside after first stop, listed⟩
  before place above below c found := by
    obtain ⟨offset, rfl⟩ : ∃ offset, place = before.length + (offset + 1) := ⟨place - before.length - 1, by omega⟩
    rw [getElem?_append_add, List.getElem?_cons_succ, List.getElem?_append_left (by omega)] at found
    exact free c (List.mem_of_getElem? found)

end Text

namespace Token

/-- What a token takes of a text: the part from its position up to the place where it stops. A grouping stops
    behind the first character that could close it. -/
inductive Spans (text : List Char) : Token → Nat → Prop
  | word {position : Nat} {kind : WordKind} {word : String}
      (begun : ∃ c ∈ text[position]?, hasClass CharClass.isWord c)
      (run : Text.runFrom CharClass.isWordPart text position = word.toList) (fits : kind.Fits word)
      (resolved : kind = .command ↔ (Command.ofWord? word).isSome) :
      Spans text ⟨.word kind word, position⟩ (position + word.length)
  | integer {position : Nat} {value : UInt64} {digits : List Char} (some : digits ≠ [])
      (run : Text.runFrom (· = .digit) text position = digits)
      (decimal : value.toNat = Nat.ofDigitChars 10 digits 0)
      (ended : ∀ c ∈ text[position + digits.length]?, hasClass CharClass.isWord c = false) :
      Spans text ⟨.integer value, position⟩ (position + digits.length)
  | collection {position last : Nat} {items : List String} {opener closer : Char}
      (paired : (opener, closer) = ('(', ')') ∨ (opener, closer) = ('[', ']'))
      (opened : text[position]? = some opener) (closed : text[last]? = some closer)
      (first : Text.FirstBehind text position collectionStops last) :
      Spans text ⟨.collection items, position⟩ (last + 1)
  | target {position last : Nat} {target : Target}
      (opened : (Target.opener target.mode).toList <+: text.drop position)
      (first : Text.FirstBehind text position ['}'] last) : Spans text ⟨.target target, position⟩ (last + 1)
  | terminator {position : Nat} (stands : text[position]? = some ';') :
      Spans text ⟨.terminator, position⟩ (position + 1)

theorem Spans.unique {text : List Char} {token : Token} {stop other : Nat} (spans : token.Spans text stop)
    (again : token.Spans text other) : stop = other := by
  cases spans with
  | word => cases again with | word => rfl
  | integer _ run => cases again with | integer _ same => rw [← run, ← same]
  | collection _ _ _ first => cases again with | collection _ _ _ second => rw [first.unique second]
  | target _ first => cases again with | target _ second => rw [first.unique second]
  | terminator => cases again with | terminator => rfl

section Placing

variable {before rest : List Char}

theorem spans_word {c : Char} {tail : List Char} (begun : hasClass CharClass.isWord c)
    (inside : ∀ d ∈ tail, hasClass CharClass.isWordPart d)
    (stop : ∀ d ∈ rest.head?, hasClass CharClass.isWordPart d = false) :
    Spans (before ++ (c :: tail ++ rest))
      ⟨.word (.ofWord (String.ofList (c :: tail))) (String.ofList (c :: tail)), before.length⟩
      (before.length + (c :: tail).length) := by
  have whole : ∀ d ∈ c :: tail, hasClass CharClass.isWordPart d :=
    List.forall_mem_cons.mpr ⟨hasClass_isWordPart begun, inside⟩
  have letters : (String.ofList (c :: tail)).toList = c :: tail := String.toList_ofList
  have length : (String.ofList (c :: tail)).length = (c :: tail).length := by rw [← String.length_toList, letters]
  rw [← length]
  refine .word ⟨c, ?_, begun⟩ ?_ (WordKind.fits_ofWord _) WordKind.ofWord_eq_command_iff
  · exact Text.getElem?_behind before _
  · rw [Text.runFrom, List.drop_left, letters, Text.takeWhile_run whole stop]

theorem spans_integer {digits : List Char} (some : digits ≠ []) (decimal : ∀ c ∈ digits, c.isDigit)
    (fits : Lexeme.decimalValue digits < UInt64.size)
    (stop : ∀ d ∈ rest.head?, hasClass CharClass.isWordPart d = false) :
    Spans (before ++ (digits ++ rest)) ⟨.integer (.ofNat (Lexeme.decimalValue digits)), before.length⟩
      (before.length + digits.length) := by
  have held : ∀ c ∈ digits, hasClass (· = .digit) c := by
    intro c member
    rw [hasClass_of_ofChar? (CharClass.ofChar?_of_isDigit (decimal c member))]
    rfl
  refine .integer some ?_ ?_ ?_
  · have stopDigit : ∀ d ∈ rest.head?, hasClass (· = .digit) d = false := fun d first =>
      hasClass_eq_false_imp (fun charClass => by cases charClass <;> decide) (stop d first)
    rw [Text.runFrom, List.drop_left, Text.takeWhile_run held stopDigit]
  · rw [UInt64.toNat_ofNat_of_lt' fits, Lexeme.decimalValue, Nat.ofDigitChars_eq_foldl]
  · intro c following
    rw [Text.getElem?_append_add, Text.getElem?_behind] at following
    exact hasClass_eq_false_imp (fun charClass => by cases charClass <;> decide) (stop c following)

theorem spans_collection {opener closer : Char} {body : List Char}
    (paired : (opener, closer) = ('(', ')') ∨ (opener, closer) = ('[', ']'))
    (inside : ∀ c ∈ body, hasClass CharClass.isCollectionPart c) (items : List String) :
    Spans (before ++ opener :: (body ++ closer :: rest)) ⟨.collection items, before.length⟩
      (before.length + (body.length + 1) + 1) := by
  have free : ∀ c ∈ body, c ∉ collectionStops := fun c member => (hasClass_isCollectionPart_iff.mp (inside c member)).2
  have listed : closer ∈ collectionStops := by rcases paired with same | same <;> cases same <;> decide
  exact .collection paired (Text.getElem?_behind before _) (Text.getElem?_closer before body rest opener closer)
    (Text.firstBehind_closer free listed before rest opener)

theorem spans_target (target : Target) {mark : Char} {inside : List Char}
    (opened : (Target.opener target.mode).toList <+: mark :: inside) (unclosed : '}' ∉ inside) :
    Spans (before ++ mark :: (inside ++ '}' :: rest)) ⟨.target target, before.length⟩
      (before.length + (inside.length + 1) + 1) := by
  have free : ∀ c ∈ inside, c ∉ ['}'] := by
    intro c member closes
    rw [List.mem_singleton.mp closes] at member
    exact unclosed member
  refine .target ?_ (Text.firstBehind_closer free List.mem_cons_self before rest mark)
  rw [List.drop_left, ← List.cons_append]
  exact opened.trans (List.prefix_append _ _)

end Placing

theorem spans_of_spelled {kind : TokenKind} {span rest : List Char} (spelled : kind.Spelled span)
    (ends : kind.EndsBefore rest) (before : List Char) :
    Spans (before ++ (span ++ rest)) ⟨kind, before.length⟩ (before.length + span.length) := by
  cases spelled with
  | word begun inside => exact spans_word begun inside ends
  | integer some decimal fits => exact spans_integer some decimal fits ends
  | @collection opener closer body paired inside =>
    have spans : Spans (before ++ opener :: (body ++ closer :: rest)) _ _ :=
      spans_collection paired inside (Collection.items body)
    simpa [Nat.add_assoc] using spans
  | @eagerTarget inside contents spelled =>
    have opened : (Target.opener .eager).toList <+: '{' :: inside := List.prefix_append ['{'] inside
    have spans : Spans (before ++ '{' :: (inside ++ '}' :: rest)) _ _ :=
      spans_target (.eager (TargetPairs.collect contents)) opened spelled.unclosed
    simpa [Nat.add_assoc] using spans
  | @strictTarget inside contents spelled =>
    have unclosed : '}' ∉ '{' :: inside := by simpa using spelled.unclosed
    have opened : (Target.opener .strict).toList <+: '&' :: '{' :: inside := List.prefix_append ['&', '{'] inside
    have spans : Spans (before ++ '&' :: ('{' :: inside ++ '}' :: rest)) _ _ :=
      spans_target (.strict (.ofList contents)) opened unclosed
    simpa [Nat.add_assoc] using spans
  | terminator => exact .terminator (Text.getElem?_behind before _)

/-- How tokens stand in a text from a place on: one behind the other, each on a part of its own, with nothing but
    white space outside of these parts. -/
structure Arranged (text : List Char) (start : Nat) (tokens : List Token) : Prop where
  placed : ∀ token ∈ tokens, start ≤ token.position ∧
    ∃ stop, token.Spans text stop ∧ token.position < stop ∧ stop ≤ text.length
  apart : tokens.Pairwise fun token later => token.position < later.position ∧
    ∀ stop, token.Spans text stop → stop ≤ later.position
  complete : ∀ place c, start ≤ place → text[place]? = some c → hasClass (· = .whitespace) c ∨
    ∃ token ∈ tokens, ∃ stop, token.Spans text stop ∧ token.position ≤ place ∧ place < stop
  count : start + tokens.length ≤ text.length

namespace Arranged

variable {text : List Char} {start : Nat} {tokens : List Token}

theorem done : Arranged text text.length [] where
  placed := by simp
  apart := .nil
  complete place c beyond found := by
    rw [List.getElem?_eq_none beyond] at found
    cases found
  count := Nat.le_refl _

theorem blank {c : Char} (here : text[start]? = some c) (blank : hasClass (· = .whitespace) c)
    (others : Arranged text (start + 1) tokens) : Arranged text start tokens where
  placed token member := (others.placed token member).imp_left Nat.le_of_succ_le
  apart := others.apart
  complete place d above found := by
    by_cases same : place = start
    · rw [same, here] at found
      cases found
      exact .inl blank
    · exact others.complete place d (by omega) found
  count := by have count := others.count; omega

theorem token {kind : TokenKind} {stop : Nat} (spans : Spans text ⟨kind, start⟩ stop) (some : start < stop)
    (others : Arranged text stop tokens) : Arranged text start (⟨kind, start⟩ :: tokens) where
  placed := by
    have count := others.count
    refine List.forall_mem_cons.mpr ⟨⟨Nat.le_refl _, stop, spans, some, by omega⟩, fun later member => ?_⟩
    obtain ⟨behind, placed⟩ := others.placed later member
    exact ⟨by omega, placed⟩
  apart := by
    refine .cons (fun later member => ?_) others.apart
    have behind := (others.placed later member).1
    exact ⟨Nat.lt_of_lt_of_le some behind, fun other again => again.unique spans ▸ behind⟩
  complete place c above found := by
    by_cases inside : place < stop
    · exact .inr ⟨_, List.mem_cons_self, stop, spans, above, inside⟩
    · refine (others.complete place c (by omega) found).imp_right fun held => ?_
      obtain ⟨later, member, held⟩ := held
      exact ⟨later, List.mem_cons_of_mem _ member, held⟩
  count := by
    have count := others.count
    rw [List.length_cons]
    omega

end Arranged

end Token

theorem Lexed.arranged {position : Nat} {input : List Char} {tokens : List Token}
    (lexed : Lexed position input tokens) (before : List Char) (placed : before.length = position) :
    Token.Arranged (before ++ input) position tokens := by
  -- The spans look at the whole text, so what lies before the place grows along the layout.
  induction lexed generalizing before with
  | done =>
    rw [List.append_nil, ← placed]
    exact .done
  | @blank position c rest tokens blank _ ih =>
    have held : hasClass (· = .whitespace) c := by
      rw [hasClass_of_ofChar? blank]
      rfl
    have others := ih (before ++ [c]) (by simp [placed])
    rw [List.append_assoc, List.singleton_append] at others
    refine .blank ?_ held others
    rw [← placed]
    exact Text.getElem?_behind before _
  | @token position kind span rest tokens spelled ends _ ih =>
    subst placed
    have some : 0 < span.length := List.length_pos_iff.mpr spelled.span_ne_nil
    have others := ih (before ++ span) List.length_append
    rw [List.append_assoc] at others
    exact .token (Token.spans_of_spelled spelled ends before) (by omega) others

/-- Nothing of a text is lost when it is read into tokens, and every token is what stands at its position. -/
theorem tokenize_arranged {text : String} {tokens : List Token} (read : tokenize text = .ok tokens) :
    Token.Arranged text.toList 0 tokens :=
  (tokenize_eq_ok_iff.mp read).arranged [] rfl

theorem tokenize_arranged_touching :
    let text := "DELETE( a , b)limit 012;"
    let tokens : List Token := [⟨.word .command "DELETE", 0⟩, ⟨.collection ["a", "b"], 6⟩,
      ⟨.word .condition "limit", 14⟩, ⟨.integer 12, 20⟩, ⟨.terminator, 23⟩]
    tokenize text = .ok tokens ∧ Token.Arranged text.toList 0 tokens := by
  intro text tokens
  have read : tokenize text = .ok tokens := by decide +kernel
  exact ⟨read, tokenize_arranged read⟩

end TagQuery
