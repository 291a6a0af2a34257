import TagQuery.Proofs.Token.Itemwise

namespace TagQuery

open Text (White Loose separators)

theorem solid_of_isWordPart {c : Char} (part : hasClass CharClass.isWordPart c) :
    hasClass (· = .whitespace) c = false := by
  obtain ⟨charClass, classified, held⟩ := hasClass_iff.mp part
  rw [hasClass_of_ofChar? classified]
  cases charClass <;> first | rfl | cases held

theorem isWordPart_of_separator {c : Char} (separates : c ∈ separators) :
    hasClass CharClass.isWordPart c = false :=
  Text.refused_of_separator (by decide) separates

theorem solid_of_separator {c : Char} (separates : c ∈ separators) : hasClass (· = .whitespace) c = false :=
  Text.refused_of_separator (by decide) separates

theorem comma_of_isCollectionPart {c : Char} (separates : c ∈ separators)
    (part : hasClass CharClass.isCollectionPart c) : c = ',' := by
  have refused : separators.all fun c => !hasClass CharClass.isCollectionPart c || c == ',' := by decide
  have alone := List.all_eq_true.mp refused c separates
  rw [part] at alone
  exact eq_of_beq alone

theorem TargetPairs.Spelled.comma_of_separator {inside : List Char} {contents : List (String × Requirement)}
    (spelled : Spelled inside contents) {c : Char} (member : c ∈ inside) (separates : c ∈ separators) :
    c = ',' := by
  rcases spelled.known c member with comma | equal | part
  · exact comma
  · rw [equal] at separates
    exact absurd separates (by decide)
  · apply comma_of_isCollectionPart separates
    exact hasClass_imp (fun charClass held => by cases charClass <;> first | rfl | cases held) part

namespace TokenKind.Spelled

variable {kind : TokenKind} {before gap other after span : List Char}

theorem isWordPart_or_closed (spelled : kind.Spelled span) :
    (∀ c ∈ span, hasClass CharClass.isWordPart c) ∨ ∃ c ∈ span.getLast?, c ∈ separators := by
  cases spelled with
  | word begun inside => exact .inl (List.forall_mem_cons.mpr ⟨hasClass_isWordPart begun, inside⟩)
  | integer _ decimal _ => exact .inl fun c member => hasClass_isWordPart_of_isDigit (decimal c member)
  | @collection opener closer body paired _ =>
    right
    have last : ((opener :: body) ++ [closer]).getLast? = some closer := List.getLast?_concat
    refine ⟨closer, last, ?_⟩
    rcases paired with same | same <;> cases same <;> decide
  | @eagerTarget inside _ _ =>
    have last : (('{' :: inside) ++ ['}']).getLast? = some '}' := List.getLast?_concat
    exact .inr ⟨'}', last, by decide⟩
  | @strictTarget inside _ _ _ =>
    have last : (('&' :: '{' :: inside) ++ ['}']).getLast? = some '}' := List.getLast?_concat
    exact .inr ⟨'}', last, by decide⟩
  | terminator => exact .inr ⟨';', rfl, by decide⟩

theorem last_solid (spelled : kind.Spelled span) : ∀ c ∈ span.getLast?, hasClass (· = .whitespace) c = false := by
  intro c last
  rcases spelled.isWordPart_or_closed with parts | ⟨closer, final, separates⟩
  · exact solid_of_isWordPart (parts c (List.mem_of_getLast? last))
  · cases Option.mem_unique last final
    exact solid_of_separator separates

theorem not_all_isWordPart (loose : Loose before after) (some : before ≠ []) (others : after ≠ []) :
    ¬ ∀ c ∈ before ++ gap ++ after, hasClass CharClass.isWordPart c := by
  intro parts
  obtain ⟨c, member, separates⟩ := loose.exists_separator some others gap
  have part := parts c member
  rw [isWordPart_of_separator separates] at part
  cases part

theorem exists_after_opener {closing body left right : List Char} (white : White gap)
    (loose : Loose ('&' :: left) (right ++ closing)) (whole : '{' :: body = left ++ gap ++ right) :
    ∃ rest, left = '{' :: rest ∧ body = rest ++ gap ++ right := by
  cases left with
  | nil =>
    cases gap with
    | nil =>
      have opened : right = '{' :: body := whole.symm
      rw [opened] at loose
      exact absurd ⟨rfl, rfl⟩ loose.apart
    | cons c gap =>
      obtain ⟨same, _⟩ := List.cons.inj whole
      have blank := white c List.mem_cons_self
      rw [← same] at blank
      cases blank
  | cons c rest =>
    obtain ⟨same, following⟩ := List.cons.inj whole
    exact ⟨rest, by rw [same], following⟩

variable (white : White gap) (otherWhite : White other)

include white otherWhite

theorem respaced_items {opening closing left right : List Char} (loose : Loose (opening ++ left) (right ++ closing))
    (inside : ∀ c ∈ left ++ gap ++ right, hasClass CharClass.isCollectionPart c) :
    (∀ c ∈ left ++ other ++ right, hasClass CharClass.isCollectionPart c) ∧
      Collection.items (left ++ other ++ right) = Collection.items (left ++ gap ++ right) := by
  have part (c : Char) (member : c ∈ left ++ right) : hasClass CharClass.isCollectionPart c :=
    inside c (Text.append_subset_spaced left gap right member)
  have commas (c : Char) (member : c ∈ left ++ right) (separates : c ∈ separators) : c = ',' :=
    comma_of_isCollectionPart separates (part c member)
  constructor
  · intro c member
    rcases List.mem_append.mp member with before | after
    · rcases List.mem_append.mp before with before | blank
      · exact part c (List.mem_append_left _ before)
      · exact otherWhite.hasClass_of_held rfl c blank
    · exact part c (List.mem_append_right _ after)
  · exact Collection.itemwise.respaced white otherWhite (loose.inside commas) rfl

theorem respaced_contents {opening closing left right : List Char} {contents : List (String × Requirement)}
    (loose : Loose (opening ++ left) (right ++ closing))
    (spelled : TargetPairs.Spelled (left ++ gap ++ right) contents) :
    TargetPairs.Spelled (left ++ other ++ right) contents := by
  have commas (c : Char) (member : c ∈ left ++ right) (separates : c ∈ separators) : c = ',' :=
    spelled.comma_of_separator (Text.append_subset_spaced left gap right member) separates
  exact TargetPairs.itemwise.respaced white otherWhite (loose.inside commas) spelled

theorem respaced (loose : Loose before after) (some : before ≠ []) (others : after ≠ [])
    (spelled : kind.Spelled (before ++ gap ++ after)) : kind.Spelled (before ++ other ++ after) := by
  have mixed : ¬ ∀ c ∈ before ++ gap ++ after, hasClass CharClass.isWordPart c :=
    not_all_isWordPart loose some others
  generalize whole : before ++ gap ++ after = span at spelled mixed
  cases spelled with
  | word begun inside =>
    refine absurd ?_ mixed
    exact List.forall_mem_cons.mpr ⟨hasClass_isWordPart begun, inside⟩
  | integer _ decimal _ =>
    refine absurd ?_ mixed
    exact fun c member => hasClass_isWordPart_of_isDigit (decimal c member)
  | @collection opener closer body paired inside =>
    obtain ⟨left, right, rfl, rfl, rfl⟩ := Text.eq_grouping some others whole.symm
    have placed : Loose ([opener] ++ left) (right ++ [closer]) := loose
    obtain ⟨parts, same⟩ := respaced_items white otherWhite placed inside
    have spelled := Spelled.collection paired parts
    rw [same] at spelled
    simpa using spelled
  | eagerTarget spelled =>
    obtain ⟨left, right, rfl, rfl, rfl⟩ := Text.eq_grouping some others whole.symm
    have placed : Loose (['{'] ++ left) (right ++ ['}']) := loose
    have spelled := Spelled.eagerTarget (respaced_contents white otherWhite placed spelled)
    simpa using spelled
  | @strictTarget body _ spelled distinct =>
    have parted : '&' :: (('{' :: body) ++ ['}']) = before ++ gap ++ after := whole.symm
    obtain ⟨left, right, rfl, rfl, opened⟩ := Text.eq_grouping some others parted
    obtain ⟨rest, rfl, rfl⟩ := exists_after_opener white loose opened
    have placed : Loose (['&', '{'] ++ rest) (right ++ ['}']) := loose
    have spelled := Spelled.strictTarget (respaced_contents white otherWhite placed spelled) distinct
    simpa using spelled
  | terminator =>
    have short := congrArg List.length whole
    have first := List.length_pos_iff.mpr some
    have last := List.length_pos_iff.mpr others
    simp only [List.length_append, List.length_singleton] at short
    omega

omit otherWhite

theorem white_after_or_inside {rest : List Char} (spelled : kind.Spelled span)
    (whole : span ++ rest = before ++ (gap ++ after)) :
    (∃ middle, before = span ++ middle ∧ rest = middle ++ (gap ++ after)) ∨
      ∃ middle, middle ≠ [] ∧ span = before ++ gap ++ middle ∧ after = middle ++ rest := by
  rcases List.append_eq_append_iff.mp whole with later | ⟨inner, same, following⟩
  · exact .inl later
  rcases List.eq_nil_or_concat' inner with none | ⟨start, last, ends⟩
  · left
    rw [none, List.append_nil] at same
    exact ⟨[], by rw [same, List.append_nil], by rw [following, none]; rfl⟩
  · right
    have solid : hasClass (· = .whitespace) last = false := by
      apply spelled.last_solid last
      simp [same, ends]
    rcases List.append_eq_append_iff.mp following with ⟨middle, held, further⟩ | ⟨middle, held, _⟩
    · refine ⟨middle, ?_, by rw [same, held, List.append_assoc], further⟩
      intro none
      have member : last ∈ gap := by
        rw [none, List.append_nil] at held
        simp [← held, ends]
      exact white.not_mem solid member
    · have member : last ∈ gap := by simp [held, ends]
      exact absurd member (white.not_mem solid)

omit white

include otherWhite

theorem endsBefore_white (spelled : kind.Spelled span) (loose : Loose span after) :
    kind.EndsBefore (other ++ after) := by
  rcases spelled.endsBefore_or (other ++ after) with ends | parts
  · exact ends
  apply EndsBefore.of_stop
  intro c leading
  cases other with
  | nil =>
    rcases loose.beside with closes | opens
    · have part := parts _ (List.getLast_mem spelled.span_ne_nil)
      have separates := closes _ (List.getLast?_eq_some_getLast spelled.span_ne_nil)
      rw [isWordPart_of_separator separates] at part
      cases part
    · exact isWordPart_of_separator (opens c leading)
  | cons d others =>
    cases leading
    apply Bool.eq_false_iff.mpr
    intro part
    have blank := otherWhite c List.mem_cons_self
    rw [solid_of_isWordPart part] at blank
    cases blank

end TokenKind.Spelled

namespace Lexed

variable {position : Nat} {before gap other after text : List Char} {tokens : List Token}

theorem move (lexed : Lexed position text tokens) (place : Nat) :
    ∃ others, Lexed place text others ∧ others.map Token.kind = tokens.map Token.kind := by
  induction lexed generalizing place with
  | done => exact ⟨[], .done, rfl⟩
  | blank blank _ ih =>
    obtain ⟨others, lexed, same⟩ := ih (place + 1)
    exact ⟨others, .blank blank lexed, same⟩
  | @token position kind span rest tokens spelled ends _ ih =>
    obtain ⟨others, lexed, same⟩ := ih (place + span.length)
    exact ⟨⟨kind, place⟩ :: others, .token spelled ends lexed, congrArg (kind :: ·) same⟩

theorem white_append_iff (white : White gap) :
    Lexed position (gap ++ text) tokens ↔ Lexed (position + gap.length) text tokens := by
  induction gap generalizing position with
  | nil => rfl
  | cons c gap ih =>
    obtain ⟨first, white⟩ := List.forall_mem_cons.mp white
    obtain ⟨charClass, classified, held⟩ := hasClass_iff.mp first
    rw [of_decide_eq_true held] at classified
    have skipped : Lexed position (c :: (gap ++ text)) tokens ↔ Lexed (position + 1) (gap ++ text) tokens := by
      rw [← tokensFrom_eq_ok_iff, tokensFrom, classified, tokensFrom_eq_ok_iff]
    rw [List.cons_append, skipped, ih white, Text.place_cons]

section Respaced

variable (white : White gap) (otherWhite : White other)

include white otherWhite

theorem respaced_start (lexed : Lexed position (gap ++ after) tokens) (place : Nat) :
    ∃ others, Lexed place (other ++ after) others ∧ others.map Token.kind = tokens.map Token.kind := by
  obtain ⟨others, moved, kinds⟩ := ((white_append_iff white).mp lexed).move (place + other.length)
  exact ⟨others, (white_append_iff otherWhite).mpr moved, kinds⟩

/-- The tokens of a text do not change with the white space at a loose place. -/
theorem respaced (loose : Loose before after) (lexed : Lexed position (before ++ gap ++ after) tokens)
    (place : Nat) :
    ∃ others, Lexed place (before ++ other ++ after) others ∧ others.map Token.kind = tokens.map Token.kind := by
  generalize whole : before ++ gap ++ after = text at lexed
  induction lexed generalizing before place with
  | @done position =>
    obtain ⟨nothing, rfl⟩ := List.append_eq_nil_iff.mp whole
    obtain ⟨rfl, rfl⟩ := List.append_eq_nil_iff.mp nothing
    have lexed : Lexed position ([] ++ []) [] := .done
    exact respaced_start white otherWhite lexed place
  | @blank position c rest tokens blank others ih =>
    cases before with
    | nil =>
      have lexed := Lexed.blank blank others
      rw [← whole] at lexed
      exact respaced_start white otherWhite lexed place
    | cons d before =>
      obtain ⟨same, following⟩ := List.cons.inj whole
      have placed : Loose ([d] ++ before) after := loose
      obtain ⟨others, lexed, kinds⟩ := ih placed.of_append (place + 1) following
      rw [← same] at blank
      exact ⟨others, .blank blank lexed, kinds⟩
  | @token position kind span rest tokens spelled ends others ih =>
    by_cases start : before = []
    · have lexed := Lexed.token spelled ends others
      rw [← whole, start] at lexed
      rw [start]
      exact respaced_start white otherWhite lexed place
    rw [List.append_assoc] at whole
    rcases spelled.white_after_or_inside white whole.symm with
      ⟨middle, same, following⟩ | ⟨middle, some, same, following⟩
    -- the white space comes after the token, which has to end where it did
    · rw [same] at loose
      rw [← List.append_assoc] at following
      obtain ⟨later, lexed, kinds⟩ := ih loose.of_append (place + span.length) following.symm
      have stops : kind.EndsBefore (middle ++ other ++ after) := by
        cases middle with
        | nil =>
          rw [List.append_nil] at loose
          exact spelled.endsBefore_white otherWhite loose
        | cons c middle =>
          rw [following] at ends
          exact ends.of_head rfl
      have text : before ++ other ++ after = span ++ (middle ++ other ++ after) := by simp [same]
      rw [text]
      exact ⟨⟨kind, place⟩ :: later, .token spelled stops lexed, congrArg (kind :: ·) kinds⟩
    -- the white space stands in the token, and what follows it only moves
    · rw [following] at loose
      rw [same] at spelled
      have changed := spelled.respaced white otherWhite (loose.of_append_right some) start some
      obtain ⟨later, lexed, kinds⟩ := others.move (place + (before ++ other ++ middle).length)
      have text : before ++ other ++ after = (before ++ other ++ middle) ++ rest := by simp [following]
      rw [text]
      exact ⟨⟨kind, place⟩ :: later, .token changed ends lexed, congrArg (kind :: ·) kinds⟩

end Respaced

end Lexed

end TagQuery
