import TagQuery.Proofs.Token.Collection
import TagQuery.Proofs.Token.Pairs
import TagQuery.Token.Lexeme

namespace TagQuery

namespace TokenKind

/-- The texts from which a token is read. -/
inductive Spelled : TokenKind → List Char → Prop
  | word {c : Char} {rest : List Char} (begun : hasClass CharClass.isWord c)
      (inside : ∀ d ∈ rest, hasClass CharClass.isWordPart d) :
      Spelled (.word (.ofWord (String.ofList (c :: rest))) (String.ofList (c :: rest))) (c :: rest)
  | integer {digits : List Char} (some : digits ≠ []) (decimal : ∀ c ∈ digits, c.isDigit)
      (fits : Lexeme.decimalValue digits < UInt64.size) :
      Spelled (.integer (.ofNat (Lexeme.decimalValue digits))) digits
  | collection {opener closer : Char} {body : List Char}
      (paired : (opener, closer) = ('(', ')') ∨ (opener, closer) = ('[', ']'))
      (inside : ∀ c ∈ body, hasClass CharClass.isCollectionPart c) :
      Spelled (.collection (Collection.items body)) (opener :: (body ++ [closer]))
  | eagerTarget {inside : List Char} {contents : List (String × Requirement)}
      (spelled : TargetPairs.Spelled inside contents) :
      Spelled (.target (.eager (TargetPairs.collect contents))) ('{' :: (inside ++ ['}']))
  | strictTarget {inside : List Char} {contents : List (String × Requirement)}
      (spelled : TargetPairs.Spelled inside contents) (distinct : (contents.map Prod.fst).Nodup) :
      Spelled (.target (.strict (.ofList contents))) ('&' :: '{' :: (inside ++ ['}']))
  | terminator : Spelled .terminator [';']

/-- Words and integers go on as far as they can. -/
def EndsBefore (rest : List Char) : TokenKind → Prop
  | word _ _ | integer _ => ∀ c ∈ rest.head?, hasClass CharClass.isWordPart c = false
  | collection _ | target _ | terminator => True

end TokenKind

namespace Lexeme

/-- How many characters are read with a spelling: all of it, and maybe a space behind it. -/
def Covers (length : Nat) (span rest : List Char) : Prop :=
  length = span.length ∨ length = span.length + 1 ∧ rest.head? = some ' '

def Heads (lexeme : Lexeme) (input : List Char) : Prop :=
  ∃ span rest, input = span ++ rest ∧ Covers lexeme.length span rest ∧ lexeme.kind.Spelled span ∧
    lexeme.kind.EndsBefore rest

theorem covers_space (span rest : List Char) :
    Covers (if (span ++ rest)[span.length]? = some ' ' then span.length + 1 else span.length) span rest := by
  rw [Text.getElem?_behind]
  split
  · rename_i space
    exact .inr ⟨rfl, space⟩
  · exact .inl rfl

theorem wordRun_append (input : List Char) :
    input = wordRun input ++ input.dropWhile (hasClass CharClass.isWordPart) :=
  List.takeWhile_append_dropWhile.symm

theorem readWord_heads {c : Char} {rest : List Char} (begun : hasClass CharClass.isWord c) :
    (readWord (c :: rest)).Heads (c :: rest) := by
  have first := hasClass_isWordPart begun
  have run : wordRun (c :: rest) = c :: wordRun rest := List.takeWhile_cons_of_pos first
  have covers := covers_space (wordRun (c :: rest)) ((c :: rest).dropWhile (hasClass CharClass.isWordPart))
  rw [← wordRun_append] at covers
  refine ⟨wordRun (c :: rest), _, wordRun_append _, covers, ?_, Text.dropWhile_stop _ _⟩
  simp only [readWord, run]
  exact .word begun (Text.takeWhile_held _ _)

theorem readInteger_heads {c : Char} {rest : List Char} {position : Nat} {lexeme : Lexeme}
    (begun : hasClass CharClass.isWordPart c) (found : readInteger position (c :: rest) = .ok lexeme) :
    lexeme.Heads (c :: rest) := by
  unfold readInteger at found
  dsimp only at found
  split at found
  · rename_i number
    cases found
    have some : wordRun (c :: rest) ≠ [] := by simp [wordRun, begun]
    exact ⟨_, _, wordRun_append _, .inl rfl, .integer some (List.all_eq_true.mp number.1) number.2,
      Text.dropWhile_stop _ _⟩
  · cases found

section Collection

variable {opener closer : Char} {charClass : CharClass}
  (paired : (opener, closer) = ('(', ')') ∨ (opener, closer) = ('[', ']'))
  (classified : CharClass.ofChar? opener = some charClass)

include paired classified

theorem closerOf_paired : (closerOf charClass).isGrouping ∧ CharClass.ofChar? closer = some (closerOf charClass) ∧
    (if closerOf charClass = .closeBracket then ']' else ')') = closer := by
  rcases paired with same | same <;> cases same <;> cases classified <;> exact ⟨rfl, rfl, rfl⟩

theorem readCollection_heads {rest : List Char} {position : Nat} {lexeme : Lexeme}
    (found : readCollection charClass position (opener :: rest) = .ok lexeme) : lexeme.Heads (opener :: rest) := by
  obtain ⟨grouping, closes, -⟩ := closerOf_paired paired classified
  unfold readCollection at found
  simp only [List.drop_succ_cons, List.drop_zero] at found
  split at found
  · rename_i items taken read
    cases found
    obtain ⟨body, c, after, rfl, closing, inside, rfl, rfl⟩ := Collection.read_sound grouping read
    have same : c = closer := CharClass.eq_of_isGrouping grouping closing closes
    subst same
    refine ⟨opener :: (body ++ [c]), after, by simp, .inl (by simp), .collection paired inside, trivial⟩
  · cases found

theorem readCollection_closed {body : List Char} (inside : ∀ c ∈ body, hasClass CharClass.isCollectionPart c)
    (rest : List Char) (position : Nat) :
    readCollection charClass position (opener :: (body ++ closer :: rest)) =
      .ok ⟨.collection (Collection.items body), body.length + 2⟩ := by
  obtain ⟨grouping, closes, -⟩ := closerOf_paired paired classified
  simp [readCollection, Collection.read_complete grouping inside closes]

theorem readCollection_unclosed {body rest : List Char} (inside : ∀ c ∈ body, hasClass CharClass.isCollectionPart c)
    (stop : ∀ c ∈ rest.head?, hasClass CharClass.isCollectionPart c = false) (unclosed : rest.head? ≠ some closer)
    (position : Nat) :
    readCollection charClass position (opener :: (body ++ rest)) =
      .error (.unterminatedAt closer position (opener :: (body ++ rest))) := by
  obtain ⟨grouping, closes, expected⟩ := closerOf_paired paired classified
  have other : ∀ c ∈ rest.head?, CharClass.ofChar? c ≠ some (closerOf charClass) := by
    intro c first closing
    cases CharClass.eq_of_isGrouping grouping closing closes
    exact unclosed first
  rw [readCollection, List.drop_succ_cons, List.drop_zero,
    Collection.read_unclosed grouping inside stop other, expected]

end Collection

theorem ofPairs_eq_ok {position : Nat} {input : List Char} {target : Target} {ending : PairsEnd}
    {lexeme : Lexeme} (found : ofPairs position input target ending = .ok lexeme) :
    ∃ stop, ending = .closed stop ∧ lexeme = ⟨.target target, stop - position⟩ := by
  cases ending with
  | closed stop =>
    cases found
    exact ⟨stop, rfl, rfl⟩
  | unterminated | unexpected => cases found

theorem readEagerTarget_heads {rest : List Char} {position : Nat} {lexeme : Lexeme}
    (found : readEagerTarget position ('{' :: rest) = .ok lexeme) : lexeme.Heads ('{' :: rest) := by
  obtain ⟨stop, closed, rfl⟩ := ofPairs_eq_ok found
  obtain ⟨inside, after, rfl, rfl, spelled⟩ := TargetPairs.read_sound (congrArg (TargetPairs.mk _) closed)
  refine ⟨'{' :: (inside ++ ['}']), after, by simp, .inl ?_, ?_, trivial⟩
  · simp only [List.length_cons, List.length_append, List.length_nil]
    omega
  · rw [TargetPair.eagerTarget_eq]
    exact .eagerTarget spelled

theorem readStrictTarget_heads {rest : List Char} {position : Nat} {lexeme : Lexeme}
    (found : readStrictTarget position ('&' :: rest) = .ok lexeme) : lexeme.Heads ('&' :: rest) := by
  unfold readStrictTarget at found
  simp only [List.drop_succ_cons, List.drop_zero] at found
  split at found
  · rename_i following
    split at found
    · cases found
    · rename_i unrepeated
      obtain ⟨stop, closed, rfl⟩ := ofPairs_eq_ok found
      obtain ⟨inside, after, rfl, rfl, spelled⟩ :=
        TargetPairs.read_sound (congrArg (TargetPairs.mk _) closed)
      refine ⟨'&' :: '{' :: (inside ++ ['}']), after, by simp, .inl ?_, ?_, trivial⟩
      · simp only [List.length_cons, List.length_append, List.length_nil]
        omega
      · rw [TargetPair.strictTarget_eq]
        exact .strictTarget spelled (TargetPair.firstRepeated?_eq_none_iff.mp unrepeated).1
  · cases found

theorem read_heads {position : Nat} {charClass : CharClass} {c : Char} {rest : List Char}
    {lexeme : Lexeme} (classified : CharClass.ofChar? c = some charClass)
    (found : read position charClass (c :: rest) = .ok lexeme) : lexeme.Heads (c :: rest) := by
  unfold read at found
  split at found
  · cases found
    exact readWord_heads (by rw [hasClass_of_ofChar? classified]; rfl)
  · cases found
    exact readWord_heads (by rw [hasClass_of_ofChar? classified]; rfl)
  · exact readInteger_heads (by rw [hasClass_of_ofChar? classified]; rfl) found
  · cases CharClass.eq_symbol classified rfl
    exact readCollection_heads (.inl rfl) rfl found
  · cases CharClass.eq_symbol classified rfl
    exact readCollection_heads (.inr rfl) rfl found
  · cases CharClass.eq_symbol classified rfl
    exact readEagerTarget_heads found
  · cases CharClass.eq_symbol classified rfl
    exact readStrictTarget_heads found
  · cases CharClass.eq_symbol classified rfl
    cases found
    exact ⟨[';'], rest, rfl, .inl rfl, .terminator, trivial⟩
  · cases found

end Lexeme

namespace TokenKind.Spelled

theorem readWord {c : Char} {tail rest : List Char} (begun : hasClass CharClass.isWord c)
    (inside : ∀ d ∈ tail, hasClass CharClass.isWordPart d)
    (stop : ∀ d ∈ rest.head?, hasClass CharClass.isWordPart d = false) :
    ∃ length, Lexeme.Covers length (c :: tail) rest ∧
      Lexeme.readWord (c :: tail ++ rest) =
        ⟨.word (.ofWord (String.ofList (c :: tail))) (String.ofList (c :: tail)), length⟩ := by
  have whole : ∀ d ∈ c :: tail, hasClass CharClass.isWordPart d :=
    List.forall_mem_cons.mpr ⟨hasClass_isWordPart begun, inside⟩
  refine ⟨_, Lexeme.covers_space (c :: tail) rest, ?_⟩
  simp only [Lexeme.readWord, Lexeme.wordRun, Text.takeWhile_run whole stop]

theorem readInteger {digits rest : List Char} (decimal : ∀ c ∈ digits, c.isDigit)
    (fits : Lexeme.decimalValue digits < UInt64.size)
    (stop : ∀ d ∈ rest.head?, hasClass CharClass.isWordPart d = false) (position : Nat) :
    Lexeme.readInteger position (digits ++ rest) =
      .ok ⟨.integer (.ofNat (Lexeme.decimalValue digits)), digits.length⟩ := by
  have whole : ∀ c ∈ digits, hasClass CharClass.isWordPart c :=
    fun c member => hasClass_isWordPart_of_isDigit (decimal c member)
  have number : digits.all Char.isDigit ∧ Lexeme.decimalValue digits < UInt64.size :=
    ⟨List.all_eq_true.mpr decimal, fits⟩
  simp only [Lexeme.readInteger, Lexeme.wordRun, Text.takeWhile_run whole stop, if_pos number]

theorem readEagerTarget {inside : List Char} {contents : List (String × Requirement)}
    (spelled : TargetPairs.Spelled inside contents) (rest : List Char) (position : Nat) :
    Lexeme.readEagerTarget position ('{' :: (inside ++ '}' :: rest)) =
      .ok ⟨.target (.eager (TargetPairs.collect contents)), inside.length + 2⟩ := by
  obtain ⟨pairs, found, rfl⟩ := TargetPairs.read_complete spelled (position + 1) rest
  simp only [Lexeme.readEagerTarget, List.drop_succ_cons, List.drop_zero, found, Lexeme.ofPairs,
    TargetPair.eagerTarget_eq]
  congr 2
  omega

theorem readStrictTarget {inside : List Char} {contents : List (String × Requirement)}
    (spelled : TargetPairs.Spelled inside contents) (distinct : (contents.map Prod.fst).Nodup)
    (rest : List Char) (position : Nat) :
    Lexeme.readStrictTarget position ('&' :: '{' :: (inside ++ '}' :: rest)) =
      .ok ⟨.target (.strict (.ofList contents)), inside.length + 3⟩ := by
  obtain ⟨pairs, found, rfl⟩ := TargetPairs.read_complete spelled (position + 2) rest
  have unrepeated : TargetPair.firstRepeated? [] pairs = none :=
    TargetPair.firstRepeated?_eq_none_iff.mpr ⟨distinct, by simp⟩
  simp only [Lexeme.readStrictTarget, List.drop_succ_cons, List.drop_zero, found, unrepeated,
    Lexeme.ofPairs, TargetPair.strictTarget_eq]
  congr 2
  omega

theorem read {kind : TokenKind} {span rest : List Char} (spelled : kind.Spelled span)
    (ends : kind.EndsBefore rest) (position : Nat) :
    ∃ c tail charClass length, span ++ rest = c :: tail ∧ CharClass.ofChar? c = some charClass ∧
      charClass ≠ .whitespace ∧ Lexeme.Covers length span rest ∧
      Lexeme.read position charClass (c :: tail) = .ok ⟨kind, length⟩ := by
  cases spelled with
  | @word c tail begun inside =>
    obtain ⟨charClass, classified, word⟩ := hasClass_iff.mp begun
    obtain ⟨length, covers, found⟩ := readWord begun inside ends
    refine ⟨c, tail ++ rest, charClass, length, rfl, classified, ?_, covers, ?_⟩
    · rintro rfl
      cases word
    · cases charClass <;> cases word <;> exact congrArg Except.ok found
  | integer some decimal fits =>
    obtain ⟨c, tail, rfl⟩ := List.exists_cons_of_ne_nil some
    refine ⟨c, tail ++ rest, .digit, _, rfl, ?_, by decide, .inl rfl, readInteger decimal fits ends position⟩
    exact CharClass.ofChar?_of_isDigit (decimal c List.mem_cons_self)
  | @collection opener closer body paired inside =>
    have taken : body.length + 2 = (opener :: (body ++ [closer])).length := by simp
    have whole : opener :: (body ++ [closer]) ++ rest = opener :: (body ++ closer :: rest) := by simp
    have read {charClass : CharClass} (classified : CharClass.ofChar? opener = .some charClass) :=
      Lexeme.readCollection_closed paired classified inside rest position
    rcases paired with same | same <;> cases same
    · exact ⟨'(', _, .openParen, _, whole, rfl, by decide, .inl taken, read rfl⟩
    · exact ⟨'[', _, .openBracket, _, whole, rfl, by decide, .inl taken, read rfl⟩
  | @eagerTarget inside contents spelled =>
    have taken : inside.length + 2 = ('{' :: (inside ++ ['}'])).length := by simp
    exact ⟨'{', inside ++ '}' :: rest, .openBrace, _, by simp, by decide, by decide, .inl taken,
      readEagerTarget spelled rest position⟩
  | @strictTarget inside contents spelled distinct =>
    have taken : inside.length + 3 = ('&' :: '{' :: (inside ++ ['}'])).length := by simp
    exact ⟨'&', '{' :: (inside ++ '}' :: rest), .ampersand, _, by simp, by decide, by decide, .inl taken,
      readStrictTarget spelled distinct rest position⟩
  | terminator => exact ⟨';', rest, .terminator, _, rfl, by decide, by decide, .inl rfl, rfl⟩

end TokenKind.Spelled

end TagQuery
