import TagQuery.Proofs.Query.Phrase

namespace TagQuery

theorem Parsed.error_of_map {α β : Type} {parsed : Parsed α} {change : α → β} {cause : QueryError}
    (failed : (parsed.andThen fun value rest => .ok (change value) rest).outcome = .error cause) :
    parsed.outcome = .error cause := by
  rw [andThen] at failed
  cases outcome : parsed.outcome with
  | ok value =>
    rw [outcome] at failed
    cases failed
  | error other =>
    rw [outcome] at failed
    cases failed
    rfl

namespace Query

section Blame

variable {α β : Type}

/-- The error is at the last token taken, and what follows this token has no part in it. -/
def BlamesLast (read : Nat → List Token → Parsed α) (tokens : List Token) (cause : QueryError) : Prop :=
  ∃ before token rest, tokens = before ++ token :: rest ∧ cause.position? = some token.position ∧
    ∀ stop more, read stop (tokens ++ more) = .error cause (rest ++ more)

/-- The error is where the tokens end, and there are tokens that would make up for those missing. -/
def BlamesEnd (read : Nat → List Token → Parsed α) (stop : Nat) (tokens : List Token) (cause : QueryError) : Prop :=
  read stop tokens = .error cause [] ∧ cause.position? = some stop ∧
    ∃ more, ∀ stop, ∃ value, read stop (tokens ++ more) = .ok value []

/-- A reading that can come to a good end, and that fails at the last token it took or for want of tokens. -/
structure Accountable (read : Nat → List Token → Parsed α) : Prop where
  completable : ∃ tokens, ∀ stop, ∃ value, read stop tokens = .ok value []
  blames {stop : Nat} {tokens : List Token} {cause : QueryError}
    (failed : (read stop tokens).outcome = .error cause) :
    BlamesLast read tokens cause ∨ BlamesEnd read stop tokens cause

structure ReadsOne (read : Nat → List Token → Parsed α) : Prop where
  first (token : Token) : ∃ outcome, (∀ stop rest, read stop (token :: rest) = ⟨outcome, rest⟩) ∧
    ∀ cause, outcome = .error cause → cause.position? = some token.position
  missing (stop : Nat) : ∃ cause, read stop [] = .error cause [] ∧ cause.position? = some stop
  succeeds : ∃ token value, ∀ stop rest, read stop (token :: rest) = .ok value rest

/-- Behind `front` the one reading goes like the other reads what is there. -/
structure Continues (inner : Nat → List Token → Parsed α) (read : Nat → List Token → Parsed β)
    (front tokens : List Token) : Prop where
  error {stop : Nat} {more rest : List Token} {cause : QueryError}
    (failed : inner stop (tokens ++ more) = .error cause rest) :
    read stop (front ++ tokens ++ more) = .error cause rest
  ok {stop : Nat} {more : List Token} {value : α} (found : inner stop (tokens ++ more) = .ok value []) :
    ∃ value, read stop (front ++ tokens ++ more) = .ok value []

theorem Continues.of_eq {inner read : Nat → List Token → Parsed α} {front tokens : List Token}
    (same : ∀ stop more, read stop (front ++ tokens ++ more) = inner stop (tokens ++ more)) :
    Continues inner read front tokens where
  error failed := (same _ _).trans failed
  ok found := ⟨_, (same _ _).trans found⟩

theorem Continues.of_map {inner : Nat → List Token → Parsed α} {read : Nat → List Token → Parsed β}
    {front tokens : List Token} (change : α → β)
    (same : ∀ stop more, read stop (front ++ tokens ++ more) =
      (inner stop (tokens ++ more)).andThen fun value rest => .ok (change value) rest) :
    Continues inner read front tokens where
  error failed := by
    rw [same, failed, Parsed.andThen_error]
  ok {_ _ value} found := ⟨change value, by rw [same, found, Parsed.andThen_ok]⟩

theorem Continues.blames {inner : Nat → List Token → Parsed α} {read : Nat → List Token → Parsed β}
    {front tokens : List Token} (goes : Continues inner read front tokens) {stop : Nat} {cause : QueryError}
    (inside : BlamesLast inner tokens cause ∨ BlamesEnd inner stop tokens cause) :
    BlamesLast read (front ++ tokens) cause ∨ BlamesEnd read stop (front ++ tokens) cause := by
  rcases inside with last | ending
  · obtain ⟨before, token, rest, whole, placed, again⟩ := last
    refine .inl ⟨front ++ before, token, rest, ?_, placed, fun stop more => goes.error (again stop more)⟩
    rw [whole, List.append_assoc]
  · obtain ⟨failed, placed, more, complete⟩ := ending
    refine .inr ⟨?_, placed, more, fun stop => ?_⟩
    · have ended := goes.error ((congrArg (inner stop) (List.append_nil tokens)).trans failed)
      rwa [List.append_nil] at ended
    · obtain ⟨value, found⟩ := complete stop
      exact goes.ok found

theorem Accountable.ok (value : α) : Accountable fun _ rest => .ok value rest where
  completable := ⟨[], fun _ => ⟨value, rfl⟩⟩
  blames failed := by cases failed

theorem Accountable.map {inner : Nat → List Token → Parsed α} {read : Nat → List Token → Parsed β}
    (change : α → β) (accountable : Accountable inner)
    (composed : ∀ stop tokens,
      read stop tokens = (inner stop tokens).andThen fun value rest => .ok (change value) rest) :
    Accountable read where
  completable := by
    obtain ⟨tokens, complete⟩ := accountable.completable
    refine ⟨tokens, fun stop => ?_⟩
    obtain ⟨value, found⟩ := complete stop
    exact ⟨change value, by simp [composed, found]⟩
  blames {stop tokens cause} failed := by
    have first : (inner stop tokens).outcome = .error cause :=
      Parsed.error_of_map ((congrArg Parsed.outcome (composed stop tokens)).symm.trans failed)
    have goes : Continues inner read [] tokens := .of_map change fun stop more => composed stop _
    exact goes.blames (accountable.blames first)

theorem ReadsOne.andThen {first : Nat → List Token → Parsed α} {next : α → Nat → List Token → Parsed β}
    {read : Nat → List Token → Parsed β} (one : ReadsOne first) (accountable : ∀ value, Accountable (next value))
    (composed : ∀ stop tokens,
      read stop tokens = (first stop tokens).andThen fun value rest => next value stop rest) :
    Accountable read where
  completable := by
    obtain ⟨token, value, reads⟩ := one.succeeds
    obtain ⟨tokens, complete⟩ := (accountable value).completable
    refine ⟨token :: tokens, fun stop => ?_⟩
    rw [composed, reads]
    exact complete stop
  blames {stop tokens cause} failed := by
    cases tokens with
    | nil =>
      obtain ⟨other, none, placed⟩ := one.missing stop
      rw [composed, none] at failed
      cases failed
      obtain ⟨token, value, reads⟩ := one.succeeds
      obtain ⟨more, complete⟩ := (accountable value).completable
      refine .inr ⟨by rw [composed, none]; rfl, placed, token :: more, fun stop => ?_⟩
      rw [composed, List.nil_append, reads]
      exact complete stop
    | cons token rest =>
      obtain ⟨outcome, reads, placed⟩ := one.first token
      rw [composed, reads] at failed
      cases outcome with
      | error other =>
        cases failed
        refine .inl ⟨[], token, rest, rfl, placed _ rfl, fun stop more => ?_⟩
        rw [composed, List.cons_append, reads]
        rfl
      | ok value =>
        have goes : Continues (next value) read [token] rest := .of_eq fun stop more => by
          rw [composed, List.singleton_append, List.cons_append, reads]
          rfl
        exact goes.blames ((accountable value).blames failed)

theorem blames_unwanted {read : Nat → List Token → Parsed α} {token : Token} {rest : List Token} (expected : String)
    (wanted : Token) (accepts : ∀ stop, ∃ value, read stop [token, wanted] = .ok value [])
    (refuses : ∀ stop more, rest ≠ [] ∨ more = [] → read stop (token :: (rest ++ more)) =
      .error (.expecting expected stop (rest ++ more)) ((rest ++ more).drop 1)) (stop : Nat) :
    BlamesLast read (token :: rest) (.expecting expected stop rest) ∨
      BlamesEnd read stop (token :: rest) (.expecting expected stop rest) := by
  cases rest with
  | nil => exact .inr ⟨refuses stop [] (.inr rfl), rfl, [wanted], accepts⟩
  | cons other rest =>
    exact .inl ⟨[token], other, rest, rfl, rfl, fun stop more => refuses stop more (.inl (List.cons_ne_nil _ _))⟩

theorem append_ne_cons {token : Token} {rest more : List Token} (unwanted : ∀ others, rest ≠ token :: others)
    (given : rest ≠ [] ∨ more = []) (others : List Token) : rest ++ more ≠ token :: others := by
  cases rest with
  | nil =>
    rw [given.resolve_left (not_not_intro rfl)]
    exact (List.cons_ne_nil _ _).symm
  | cons first rest =>
    intro same
    cases (List.cons.inj same).1
    exact unwanted rest rfl

end Blame

theorem parseCommand_readsOne : ReadsOne parseCommand where
  first token := by
    obtain ⟨kind, position⟩ := token
    have accepted (command : Command) : ∀ cause, (.ok command : Except QueryError Command) = .error cause →
        cause.position? = some position := by
      intro cause failed
      cases failed
    have refused : ∀ cause, (.error (.missingCommand position) : Except QueryError Command) = .error cause →
        cause.position? = some position := by
      intro cause failed
      cases failed
      rfl
    cases kind with
    | word kind word =>
      cases kind with
      | command =>
        cases named : Command.ofWord? word with
        | none => exact ⟨.error (.missingCommand position), by simp [parseCommand, named, Parsed.error], refused⟩
        | some command => exact ⟨.ok command, by simp [parseCommand, named, Parsed.ok], accepted command⟩
      | condition => exact ⟨.error (.missingCommand position), fun _ _ => rfl, refused⟩
      | generic => exact ⟨.ok (.unknown word), fun _ _ => rfl, accepted _⟩
    | integer | collection | target | terminator =>
      exact ⟨.error (.missingCommand position), fun _ _ => rfl, refused⟩
  missing stop := ⟨.missingCommand stop, rfl, rfl⟩
  succeeds := ⟨⟨.word .generic "word", 0⟩, .unknown "word", fun _ _ => rfl⟩

theorem addItems_error_position {position : Nat} {before : Assignments} {items : List String} {cause : QueryError}
    (failed : Assignments.addItems position before items = .error cause) : cause.position? = some position := by
  fun_induction Assignments.addItems position before items with
  | case1 => cases failed
  | case2 =>
    cases failed
    rfl
  | case3 _ _ _ _ _ _ ih => exact ih failed

theorem ofItems_error_position {position : Nat} {items : List String} {cause : QueryError}
    (failed : Assignments.ofItems position items = .error cause) : cause.position? = some position := by
  unfold Assignments.ofItems at failed
  split at failed
  · cases failed
    rfl
  · exact addItems_error_position failed

theorem parseSubject_readsOne (command : Command) : ReadsOne fun stop => parseSubject stop command where
  first token := by
    obtain ⟨kind, position⟩ := token
    have accepted (subject : Subject) : ∀ cause, (.ok subject : Except QueryError Subject) = .error cause →
        cause.position? = some position := by
      intro cause failed
      cases failed
    have refused (expected : String) : ∀ cause,
        (.error (.unexpectedToken expected kind.describe position) : Except QueryError Subject) = .error cause →
          cause.position? = some position := by
      intro cause failed
      cases failed
      rfl
    cases command with
    | showProperty =>
      cases kind with
      | word kind name =>
        cases kind with
        | generic => exact ⟨.ok (.property name), fun _ _ => rfl, accepted _⟩
        | command | condition => exact ⟨_, fun _ _ => rfl, refused "property name"⟩
      | integer | collection | target | terminator => exact ⟨_, fun _ _ => rfl, refused "property name"⟩
    | update =>
      cases kind with
      | collection items =>
        refine ⟨(Assignments.ofItems position items).map .assignment, fun _ _ => rfl, fun cause failed => ?_⟩
        cases read : Assignments.ofItems position items with
        | ok changes =>
          rw [read] at failed
          cases failed
        | error other =>
          rw [read] at failed
          cases failed
          exact ofItems_error_position read
      | word | integer | target | terminator => exact ⟨_, fun _ _ => rfl, refused "collection"⟩
    | select | delete | unknown =>
      cases kind with
      | collection items => exact ⟨.ok (projectionOf items), fun _ _ => rfl, accepted _⟩
      | word | integer | target | terminator => exact ⟨_, fun _ _ => rfl, refused "collection"⟩
  missing stop := by cases command <;> exact ⟨_, rfl, rfl⟩
  succeeds := by
    cases command with
    | showProperty => exact ⟨⟨.word .generic "word", 0⟩, .property "word", fun _ _ => rfl⟩
    | update =>
      have assigned : Naming .update (.collection ["label="]) (.assignment (.ofList [("label", some "")])) :=
        .assignment (by decide) (by decide)
      exact ⟨⟨.collection ["label="], 0⟩, _, fun _ _ => parseSubject_eq_ok_iff.mpr ⟨_, rfl, assigned⟩⟩
    | select | delete | unknown => exact ⟨⟨.collection [], 0⟩, projectionOf [], fun _ _ => rfl⟩

theorem parseConditions_unstated {stop : Nat} {conditions : Conditions} {token : Token}
    (solid : token.kind ≠ .terminator) (unstated : ∀ word, token.kind ≠ .word .condition word) (rest : List Token) :
    parseConditions stop conditions (token :: rest) = .error (.expecting "condition" stop [token]) rest := by
  obtain ⟨kind, position⟩ := token
  cases kind with
  | word kind text =>
    cases kind with
    | condition => exact absurd rfl (unstated text)
    | command | generic => rw [parseConditions.eq_def]
  | terminator => exact absurd rfl solid
  | integer | collection | target => rw [parseConditions.eq_def]

theorem parseConditions_accountable (conditions : Conditions) :
    Accountable fun stop => parseConditions stop conditions where
  completable := ⟨[], fun _ => ⟨conditions, by rw [parseConditions]⟩⟩
  blames {stop tokens cause} failed := by
    fun_induction parseConditions stop conditions tokens with
    | case1 | case2 => cases failed
    | case3 conditions token word stated asks target position rest ih =>
      have goes : Continues (fun stop => parseConditions stop { conditions with target := some target })
          (fun stop => parseConditions stop conditions) [token, ⟨.target target, position⟩] rest :=
        .of_eq fun stop more =>
          parseConditions_target stated (Keyword.spells_iff.mpr asks.1) asks.2 target position (rest ++ more)
      exact goes.blames (ih failed)
    | case4 conditions token word stated asks rest missing =>
      -- What stands there instead of a target is blamed; where nothing stands, a target would do.
      cases failed
      have keyword : Keyword.whereTarget.Spells word := Keyword.spells_iff.mpr asks.1
      refine blames_unwanted "target" ⟨.target .everything, 0⟩ (fun stop => ?_) (fun stop more given => ?_) stop
      · exact ⟨_, (parseConditions_target stated keyword asks.2 _ 0 []).trans (by rw [parseConditions])⟩
      · exact parseConditions_no_target stated keyword asks.2 fun target position =>
          append_ne_cons (missing target position) given
    | case5 conditions token word stated _ limits limit position rest ih =>
      have goes : Continues (fun stop => parseConditions stop { conditions with limit := some limit })
          (fun stop => parseConditions stop conditions) [token, ⟨.integer limit, position⟩] rest :=
        .of_eq fun stop more =>
          parseConditions_limit stated (Keyword.spells_iff.mpr limits.1) limits.2 limit position (rest ++ more)
      exact goes.blames (ih failed)
    | case6 conditions token word stated _ limits rest missing =>
      cases failed
      have keyword : Keyword.limit.Spells word := Keyword.spells_iff.mpr limits.1
      refine blames_unwanted "integer" ⟨.integer 0, 0⟩ (fun stop => ?_) (fun stop more given => ?_) stop
      · exact ⟨_, (parseConditions_limit stated keyword limits.2 _ 0 []).trans (by rw [parseConditions])⟩
      · exact parseConditions_no_limit stated keyword limits.2 fun limit position =>
          append_ne_cons (missing limit position) given
    | case7 conditions token rest word stated asked bounded =>
      cases failed
      refine .inl ⟨[], token, rest, rfl, rfl, fun stop more => ?_⟩
      exact parseConditions_repeated stated (fun keyword unstated => asked ⟨Keyword.spells_iff.mp keyword, unstated⟩)
        (fun keyword unstated => bounded ⟨Keyword.spells_iff.mp keyword, unstated⟩) (rest ++ more)
    | case8 conditions token rest solid unstated =>
      cases failed
      refine .inl ⟨[], token, rest, rfl, rfl, fun stop more => ?_⟩
      exact parseConditions_unstated solid unstated (rest ++ more)

/-- A query fails at the last token it took, unless it could go on behind the end of the tokens. -/
theorem parseTokens_accountable : Accountable parseTokens := by
  refine parseCommand_readsOne.andThen (fun command => ?_) fun stop tokens => rfl
  refine (parseSubject_readsOne command).andThen (fun subject => ?_) fun stop tokens => rfl
  by_cases shows : command = .showProperty
  · simp only [shows, ↓reduceIte]
    exact .ok _
  · simp only [shows, ↓reduceIte]
    exact (parseConditions_accountable {}).map _ fun stop tokens => rfl

theorem parseTokens_append {stop : Nat} {tokens rest : List Token} {query : Query}
    (read : parseTokens stop tokens = .ok query rest) (left : rest ≠ []) (other : Nat) (more : List Token) :
    parseTokens other (tokens ++ more) = .ok query (rest ++ more) := by
  obtain ⟨phrase, rfl, stated, ended⟩ := parseTokens_eq_ok_iff.mp read
  refine parseTokens_eq_ok_iff.mpr ⟨phrase, List.append_assoc _ _ _, stated, ended.imp_right fun ends => ?_⟩
  obtain ⟨first, others, rfl⟩ := List.exists_cons_of_ne_nil left
  exact ends

theorem exists_skipped {tokens rest : List Token} {token : Token}
    (begun : skipTerminators tokens = token :: rest) : ∃ front, tokens = front ++ token :: rest := by
  obtain ⟨front, whole⟩ : skipTerminators tokens <:+ tokens := List.dropWhile_suffix _
  exact ⟨front, by rw [← whole, begun]⟩

theorem skipTerminators_append {tokens rest : List Token} {token : Token}
    (begun : skipTerminators tokens = token :: rest) (more : List Token) :
    skipTerminators (tokens ++ more) = token :: (rest ++ more) := by
  unfold skipTerminators at begun ⊢
  rw [List.dropWhile_append, begun]
  rfl

theorem continues_first {front rest : List Token} {token : Token}
    (begun : skipTerminators (front ++ token :: rest) = token :: rest) :
    Continues parseTokens parseAllTokens front (token :: rest) where
  error {stop more unread cause} failed := by
    rw [parseAllTokens_of_cons (skipTerminators_append begun more), ← List.cons_append, failed]
    rfl
  ok {stop more query} found := by
    refine ⟨[query], ?_⟩
    rw [parseAllTokens_of_cons (skipTerminators_append begun more), ← List.cons_append, found]
    simp

theorem continues_others {stop : Nat} {front rest unread : List Token} {token : Token} {query : Query}
    (begun : skipTerminators (front ++ token :: rest) = token :: rest)
    (read : parseTokens stop (token :: rest) = .ok query unread) (left : unread ≠ []) :
    ∃ taken, front ++ token :: rest = taken ++ unread ∧ Continues parseAllTokens parseAllTokens taken unread := by
  obtain ⟨phrase, whole, _⟩ := parseTokens_eq_ok_iff.mp read
  have parted : front ++ token :: rest = front ++ phrase ++ unread := by rw [whole, List.append_assoc]
  refine ⟨front ++ phrase, parted, .of_map (query :: ·) fun stop more => ?_⟩
  rw [← parted, parseAllTokens_of_cons (skipTerminators_append begun more), ← List.cons_append,
    parseTokens_append read left]
  rfl

theorem parseAllTokens_accountable : Accountable parseAllTokens where
  completable := ⟨[], fun stop => ⟨[], parseAllTokens_nil stop⟩⟩
  blames {stop tokens cause} failed := by
    -- A query that could not be read is the buffer's own error, and any other is behind the query read first.
    fun_induction parseAllTokens stop tokens with
    | case1 => cases failed
    | case2 tokens first rest begun other unread read =>
      obtain ⟨front, rfl⟩ := exists_skipped begun
      cases failed
      exact (continues_first begun).blames (parseTokens_accountable.blames (by rw [read]))
    | case3 tokens first rest begun query unread read shorter ih =>
      obtain ⟨front, rfl⟩ := exists_skipped begun
      have later : (parseAllTokens stop unread).outcome = .error cause := Parsed.error_of_map failed
      have left : unread ≠ [] := by
        rintro rfl
        simp at later
      obtain ⟨taken, parted, goes⟩ := continues_others begun read left
      rw [parted]
      exact goes.blames (ih later)

theorem unread_suffix {stop : Nat} {tokens rest unread : List Token} {token : Token}
    {outcome : Except QueryError Query} (begun : skipTerminators tokens = token :: rest)
    (read : parseTokens stop (token :: rest) = ⟨outcome, unread⟩) : unread <:+ tokens := by
  have taken := parseTokens_rest_suffix stop token rest
  obtain ⟨front, rfl⟩ := exists_skipped begun
  rw [read] at taken
  exact taken.trans ((List.suffix_cons _ _).trans (List.suffix_append _ _))

theorem parseAllTokens_rest_suffix (stop : Nat) (tokens : List Token) :
    (parseAllTokens stop tokens).rest <:+ tokens := by
  fun_induction parseAllTokens stop tokens with
  | case1 => exact List.nil_suffix
  | case2 tokens token rest begun cause unread read => exact unread_suffix begun read
  | case3 tokens token rest begun query unread read shorter ih =>
    have onward := ih.trans (unread_suffix begun read)
    exact (Parsed.andThen_rest_suffix fun _ => List.suffix_rfl).trans onward

theorem parseAllTokens_rest_of_ok {stop : Nat} {tokens : List Token} {queries : List Query}
    (found : (parseAllTokens stop tokens).outcome = .ok queries) : (parseAllTokens stop tokens).rest = [] := by
  have whole : parseAllTokens stop tokens = .ok queries [] :=
    (parseAllTokens_eq_ok_iff.mp found).parseAllTokens_eq rfl
  rw [whole]
  rfl

end Query

end TagQuery
