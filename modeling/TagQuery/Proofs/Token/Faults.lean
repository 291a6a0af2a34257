import TagQuery.Proofs.Token.Cut
import TagQuery.Proofs.Token.Extent

namespace TagQuery

def Text.groupings : List (Char × Char) := [('(', ')'), ('[', ']'), ('{', '}'), ('&', '}')]

def Text.ReadableBefore (text : List Char) (place : Nat) : Prop :=
  ∃ tokens, tokenize (String.ofList (text.take place)) = .ok tokens

/-- What an error says of the text in which it was found. -/
inductive QueryError.PointsInto (text : List Char) : QueryError → Prop
  | unknownCharacter {c : Char} {position : Nat} (here : text[position]? = some c)
      (unknown : CharClass.ofChar? c = none)
      (known : ∀ d ∈ text.take position, (CharClass.ofChar? d).isSome) :
      PointsInto text (.unknownCharacter c position)
  | unterminatedGrouping {mark expected : Char} {position : Nat}
      (paired : (mark, expected) ∈ Text.groupings)
      (here : text[position]? = some mark)
      (read : Text.ReadableBefore text position) :
      PointsInto text (.unterminatedGrouping expected position (String.ofList ((text.drop position).take 24)))
  | expectedInteger {c : Char} {run : List Char} {position : Nat} (here : text[position]? = some c)
      (digit : c.isDigit) (found : Text.runFrom CharClass.isWordPart text position = run)
      (unfit : (∃ d ∈ run, d.isDigit = false) ∨ UInt64.size ≤ Nat.ofDigitChars 10 run 0)
      (read : Text.ReadableBefore text position) :
      PointsInto text (.expectedInteger (String.ofList run) position)
  | unexpectedCharacter {c : Char} {position : Nat} (here : text[position]? = some c) :
      PointsInto text
        (.unexpectedCharacter (String.singleton c) position (String.ofList ((text.drop position).take 24)))
  | unexpectedEnd : PointsInto text (.unexpectedCharacter "end of input" text.length "")
  | duplicateStrictKey {label : String} {position : Nat} (here : label.toList <+: text.drop position) :
      PointsInto text (.duplicateStrictKey label position)

namespace Text

/-- In an input whose first character stands at `position`, the place where the rest of it begins. -/
def BeginsAt (position : Nat) (input : List Char) (place : Nat) (rest : List Char) : Prop :=
  ∃ front, input = front ++ rest ∧ place = position + front.length

variable {position place : Nat} {input rest : List Char}

theorem BeginsAt.here (position : Nat) (input : List Char) : BeginsAt position input position input :=
  ⟨[], rfl, rfl⟩

theorem BeginsAt.trans {further : Nat} {last : List Char} (begins : BeginsAt position input place rest)
    (onward : BeginsAt place rest further last) : BeginsAt position input further last := by
  obtain ⟨front, rfl, rfl⟩ := begins
  obtain ⟨middle, rfl, rfl⟩ := onward
  exact ⟨front ++ middle, by simp, by simp [Nat.add_assoc]⟩

theorem BeginsAt.cons {c : Char} (begins : BeginsAt (position + 1) input place rest) :
    BeginsAt position (c :: input) place rest :=
  BeginsAt.trans ⟨[c], rfl, rfl⟩ begins

theorem BeginsAt.drop (begins : BeginsAt 0 input place rest) : input.drop place = rest := by
  obtain ⟨front, rfl, rfl⟩ := begins
  rw [Nat.zero_add, List.drop_left]

theorem BeginsAt.getElem? (begins : BeginsAt 0 input place rest) : input[place]? = rest.head? := by
  rw [← begins.drop, List.head?_drop]

end Text

namespace TargetPairs

variable {position place length : Nat} {input rest : List Char} {pair : TargetPair}

theorem readPair_begins {c : Char} (found : readPair position (c :: rest) = .ok (pair, length)) :
    Text.BeginsAt position (c :: rest) (position + length) (rest.drop (length - 1)) := by
  obtain ⟨key, value, left, whole, -, -, -, -, -, taken⟩ := readPair_sound found
  have parted : c :: rest = (key ++ '=' :: value) ++ left := by simp [whole]
  rw [taken, Text.drop_tail parted (by simp)]
  exact ⟨_, parted, rfl⟩

theorem readPair_labels {c : Char} (solid : hasClass (· = .whitespace) c = false)
    (found : readPair position (c :: rest) = .ok (pair, length)) :
    pair.position = position ∧ pair.label.toList <+: c :: rest := by
  obtain ⟨key, value, left, whole, -, keyPart, -, -, rfl, -⟩ := readPair_sound found
  have label : (pairOf position key value).label.toList = Text.trim key := String.toList_ofList
  have start : ∀ d ∈ key.head?, Text.isBlank d = false := by
    intro d first
    have part := keyPart d (List.mem_of_mem_head? first)
    rw [CharClass.isBlank_eq_hasClass part, Text.begins_alike whole d first, solid]
  refine ⟨rfl, ?_⟩
  rw [label, whole]
  exact (Text.trim_prefix start).trans (List.prefix_append _ _)

theorem read_unexpected (failed : (read position input).ending = .unexpected place rest) :
    Text.BeginsAt position input place rest := by
  fun_induction read position input with
  | case1 => cases failed
  | case2 => cases failed
  | case3 position c others unclosed skipped ih => exact .cons (ih failed)
  | case4 position c others unclosed solid ending refused =>
    cases failed
    rcases readPair_error refused with none | ⟨front, rest, whole, unexpected⟩
    · cases none
    · cases unexpected
      exact ⟨front, whole, rfl⟩
  | case5 position c others unclosed solid pair length found remaining ih =>
    exact (readPair_begins found).trans (ih failed)

theorem read_labels : ∀ pair ∈ (read position input).pairs,
    ∃ rest, Text.BeginsAt position input pair.position rest ∧ pair.label.toList <+: rest := by
  fun_induction read position input with
  | case1 => simp
  | case2 => simp
  | case3 position c others unclosed skipped ih =>
    intro pair member
    obtain ⟨rest, begins, labelled⟩ := ih pair member
    exact ⟨rest, begins.cons, labelled⟩
  | case4 => simp
  | case5 position c others unclosed solid first length found remaining ih =>
    intro pair member
    rcases List.mem_cons.mp member with rfl | later
    · have visible : hasClass (· = .whitespace) c = false := Bool.eq_false_iff.mpr fun white => solid (.inr white)
      obtain ⟨placed, labelled⟩ := readPair_labels visible found
      rw [placed]
      exact ⟨_, .here position _, labelled⟩
    · obtain ⟨rest, begins, labelled⟩ := ih pair later
      exact ⟨rest, (readPair_begins found).trans begins, labelled⟩

end TargetPairs

section Reading

open Text (BeginsAt)

variable {text rest : List Char} {place : Nat}

namespace QueryError

theorem unexpectedAt_points (begins : BeginsAt 0 text place rest) : (unexpectedAt place rest).PointsInto text := by
  have near : contextOf rest = String.ofList ((text.drop place).take 24) := by rw [begins.drop]; rfl
  have first := begins.getElem?
  cases rest with
  | nil =>
    obtain ⟨front, rfl, rfl⟩ := begins
    rw [List.append_nil, Nat.zero_add]
    exact .unexpectedEnd
  | cons c rest =>
    rw [unexpectedAt, near]
    exact .unexpectedCharacter first

theorem unterminatedAt_points {mark expected : Char} (begins : BeginsAt 0 text place (mark :: rest))
    (paired : (mark, expected) ∈ Text.groupings)
    (read : Text.ReadableBefore text place) :
    (unterminatedAt expected place (mark :: rest)).PointsInto text := by
  have near : contextOf (mark :: rest) = String.ofList ((text.drop place).take 24) := by rw [begins.drop]; rfl
  rw [unterminatedAt, near]
  exact .unterminatedGrouping paired begins.getElem? read

end QueryError

namespace Lexeme

variable {cause : QueryError}

theorem readInteger_points {c : Char} (begins : BeginsAt 0 text place (c :: rest)) (digit : c.isDigit)
    (read : Text.ReadableBefore text place)
    (failed : readInteger place (c :: rest) = .error cause) : cause.PointsInto text := by
  unfold readInteger at failed
  dsimp only at failed
  split at failed
  · cases failed
  · rename_i unfit
    cases failed
    have found : Text.runFrom CharClass.isWordPart text place = wordRun (c :: rest) := by
      rw [Text.runFrom, begins.drop, wordRun]
    refine .expectedInteger begins.getElem? digit found ?_ read
    by_cases decimal : (wordRun (c :: rest)).all Char.isDigit
    · right
      have large := Nat.le_of_not_lt fun fits => unfit ⟨decimal, fits⟩
      rwa [decimalValue, ← Nat.ofDigitChars_eq_foldl] at large
    · left
      simpa using decimal

theorem readCollection_points {opener : Char} {charClass : CharClass}
    (begins : BeginsAt 0 text place (opener :: rest))
    (paired : (opener, if closerOf charClass = .closeBracket then ']' else ')') ∈ Text.groupings)
    (read : Text.ReadableBefore text place)
    (failed : readCollection charClass place (opener :: rest) = .error cause) : cause.PointsInto text := by
  unfold readCollection at failed
  dsimp only at failed
  split at failed
  · cases failed
  · cases failed
    exact QueryError.unterminatedAt_points begins paired read

theorem ofPairs_points {mark : Char} {target : Target} {ending : PairsEnd}
    (begins : BeginsAt 0 text place (mark :: rest))
    (paired : (mark, '}') ∈ Text.groupings)
    (read : Text.ReadableBefore text place)
    (located : ∀ further last, ending = .unexpected further last → BeginsAt 0 text further last)
    (failed : ofPairs place (mark :: rest) target ending = .error cause) : cause.PointsInto text := by
  cases ending with
  | closed stop => cases failed
  | unterminated =>
    cases failed
    exact QueryError.unterminatedAt_points begins paired read
  | unexpected further last =>
    cases failed
    exact QueryError.unexpectedAt_points (located further last rfl)

theorem readStrictTarget_points (begins : BeginsAt 0 text place ('&' :: rest))
    (read : Text.ReadableBefore text place)
    (failed : readStrictTarget place ('&' :: rest) = .error cause) : cause.PointsInto text := by
  have behind : BeginsAt 0 text (place + 1) rest := begins.trans ⟨['&'], rfl, rfl⟩
  unfold readStrictTarget at failed
  rw [List.drop_succ_cons, List.drop_zero] at failed
  split at failed
  · rename_i inside
    have within : BeginsAt 0 text (place + 2) inside := behind.trans ⟨['{'], rfl, rfl⟩
    dsimp only at failed
    split at failed
    · rename_i pair repeated
      cases failed
      obtain ⟨earlier, later, whole, -, -⟩ := TargetPair.isFirstRepeat_of_firstRepeated? repeated
      have member : pair ∈ (TargetPairs.read (place + 2) inside).pairs := by simp [whole]
      obtain ⟨last, onward, labelled⟩ := TargetPairs.read_labels pair member
      refine .duplicateStrictKey ?_
      rwa [(within.trans onward).drop]
    · refine ofPairs_points begins (by decide) read (fun further last unexpected => ?_) failed
      exact within.trans (TargetPairs.read_unexpected unexpected)
  · cases failed
    exact QueryError.unexpectedAt_points behind

theorem read_points {c : Char} {charClass : CharClass} (begins : BeginsAt 0 text place (c :: rest))
    (classified : CharClass.ofChar? c = some charClass)
    (read : Text.ReadableBefore text place)
    (failed : Lexeme.read place charClass (c :: rest) = .error cause) : cause.PointsInto text := by
  unfold Lexeme.read at failed
  split at failed
  · cases failed
  · cases failed
  · exact readInteger_points begins (CharClass.isDigit_of_ofChar? classified) read failed
  · cases CharClass.eq_symbol classified rfl
    exact readCollection_points begins (by decide) read failed
  · cases CharClass.eq_symbol classified rfl
    exact readCollection_points begins (by decide) read failed
  · cases CharClass.eq_symbol classified rfl
    refine ofPairs_points begins (by decide) read (fun further last unexpected => ?_) failed
    have within : BeginsAt 0 text (place + 1) rest := begins.trans ⟨['{'], rfl, rfl⟩
    exact within.trans (TargetPairs.read_unexpected unexpected)
  · cases CharClass.eq_symbol classified rfl
    exact readStrictTarget_points begins read failed
  · cases failed
  · cases failed
    exact QueryError.unexpectedAt_points begins

end Lexeme

end Reading

theorem classifyFrom_unknown {front rest : List Char} {c : Char} (known : ∀ d ∈ front, (CharClass.ofChar? d).isSome)
    (unknown : CharClass.ofChar? c = none) (position : Nat) :
    classifyFrom position (front ++ c :: rest) = .error (.unknownCharacter c (position + front.length)) := by
  induction front generalizing position with
  | nil => rw [List.nil_append, classifyFrom, unknown]; rfl
  | cons d front ih =>
    obtain ⟨first, later⟩ := List.forall_mem_cons.mp known
    obtain ⟨charClass, classified⟩ := Option.isSome_iff_exists.mp first
    rw [List.cons_append, classifyFrom, classified, ih later, Text.place_cons]
    rfl

theorem tokenize_unknown {text : String} {front rest : List Char} {c : Char}
    (whole : text.toList = front ++ c :: rest) (known : ∀ d ∈ front, (CharClass.ofChar? d).isSome)
    (unknown : CharClass.ofChar? c = none) :
    tokenize text = .error (.unknownCharacter c front.length) := by
  rw [tokenize, classifyAll, whole, classifyFrom_unknown known unknown, Nat.zero_add]

theorem tokensFrom_error {position : Nat} {input : List Char} {cause : QueryError}
    (known : ∀ c ∈ input, (CharClass.ofChar? c).isSome) (failed : tokensFrom position input = .error cause) :
    ∃ front c rest tokens charClass, input = front ++ c :: rest ∧ Lexed position front tokens ∧
      CharClass.ofChar? c = some charClass ∧
      Lexeme.read (position + front.length) charClass (c :: rest) = .error cause := by
  -- Along the run of the reader: what it has read before it fails is laid out in tokens up to the failing place.
  fun_induction tokensFrom position input generalizing cause with
  | case1 => cases failed
  | case2 position c rest unknown =>
    have first := known c List.mem_cons_self
    rw [unknown] at first
    cases first
  | case3 position c rest blank ih =>
    obtain ⟨front, d, last, tokens, charClass, rfl, lexed, classified, refused⟩ :=
      ih (fun d member => known d (List.mem_cons_of_mem _ member)) failed
    refine ⟨c :: front, d, last, tokens, charClass, rfl, .blank blank lexed, classified, ?_⟩
    rwa [Text.place_cons]
  | case4 position c rest charClass solid classified error refused =>
    cases failed
    exact ⟨[], c, rest, [], charClass, rfl, .done, classified, refused⟩
  | case5 position c rest charClass solid classified lexeme read ih =>
    obtain ⟨span, after, whole, covers, spelled, ends⟩ := Lexeme.read_heads classified read
    have knownAfter : ∀ d ∈ after, (CharClass.ofChar? d).isSome := by
      intro d member
      exact known d (whole ▸ List.mem_append_right span member)
    cases others : tokensFrom (position + lexeme.length) (rest.drop (lexeme.length - 1)) with
    | ok tokens =>
      rw [others] at failed
      cases failed
    | error cause =>
      rw [others] at failed
      cases failed
      have onward : ∃ front d last tokens charClass, after = front ++ d :: last ∧
          Lexed (position + span.length) front tokens ∧ CharClass.ofChar? d = some charClass ∧
          Lexeme.read (position + span.length + front.length) charClass (d :: last) = .error cause := by
        rcases covers.remaining whole spelled.span_ne_nil with ⟨taken, remaining⟩ | ⟨_, rfl, taken, remaining⟩
        · rw [remaining, taken] at ih others
          exact ih knownAfter others
        · rw [remaining, taken] at ih others
          obtain ⟨front, d, last, tokens, further, rfl, lexed, classified, refused⟩ :=
            ih (List.forall_mem_cons.mp knownAfter).2 others
          refine ⟨' ' :: front, d, last, tokens, further, rfl, .blank rfl lexed, classified, ?_⟩
          rwa [Text.place_cons]
      obtain ⟨front, d, last, tokens, further, rfl, lexed, classified, refused⟩ := onward
      refine ⟨span ++ front, d, last, _, further, by rw [whole, List.append_assoc],
        .token spelled ends.of_append lexed, classified, ?_⟩
      rwa [List.length_append, ← Nat.add_assoc]

theorem tokenize_known_error {text : String} {cause : QueryError}
    (known : ∀ c ∈ text.toList, (CharClass.ofChar? c).isSome) (failed : tokenize text = .error cause) :
    cause.PointsInto text.toList := by
  rw [tokenize_of_known known] at failed
  obtain ⟨front, c, rest, tokens, charClass, whole, lexed, classified, refused⟩ := tokensFrom_error known failed
  have begins : Text.BeginsAt 0 text.toList (0 + front.length) (c :: rest) := ⟨front, whole, rfl⟩
  refine Lexeme.read_points begins classified ⟨tokens, ?_⟩ refused
  rw [tokenize_eq_ok_iff, String.toList_ofList, whole, Nat.zero_add, List.take_left]
  exact lexed

/-- An error tells where in the text its cause is, and what stands there. A character that no query may hold comes
    before all else that is wrong with the text. -/
theorem tokenize_error_points {text : String} {cause : QueryError} (failed : tokenize text = .error cause) :
    cause.PointsInto text.toList ∧
      ((∃ c position, cause = .unknownCharacter c position) ↔
        ∃ c ∈ text.toList, CharClass.ofChar? c = none) := by
  cases first : text.toList.find? fun c => (CharClass.ofChar? c).isNone with
  | none =>
    have known : ∀ c ∈ text.toList, (CharClass.ofChar? c).isSome := by
      simpa [Option.isSome_iff_ne_none] using List.find?_eq_none.mp first
    have points := tokenize_known_error known failed
    refine ⟨points, fun reported => ?_, fun present => ?_⟩
    · obtain ⟨c, position, rfl⟩ := reported
      cases points with
      | unknownCharacter here unknown => exact ⟨c, List.mem_of_getElem? here, unknown⟩
    · obtain ⟨c, member, unknown⟩ := present
      have some := known c member
      rw [unknown] at some
      cases some
  | some c =>
    obtain ⟨refused, front, rest, whole, others⟩ := List.find?_eq_some_iff_append.mp first
    have unknown : CharClass.ofChar? c = none := Option.isNone_iff_eq_none.mp refused
    have known : ∀ d ∈ front, (CharClass.ofChar? d).isSome := by simpa using others
    cases failed.symm.trans (tokenize_unknown whole known unknown)
    refine ⟨?_, fun _ => ⟨c, List.mem_of_find?_eq_some first, unknown⟩, fun _ => ⟨c, _, rfl⟩⟩
    rw [whole]
    refine .unknownCharacter (Text.getElem?_behind front _) unknown ?_
    rwa [List.take_left]

theorem tokenize_error_points_unknown :
    let text := "limit 9x (é"
    let cause := QueryError.unknownCharacter 'é' 10
    tokenize text = .error cause ∧ cause.PointsInto text.toList ∧ ∃ c ∈ text.toList, CharClass.ofChar? c = none := by
  intro text cause
  have failed : tokenize text = .error cause := by decide +kernel
  obtain ⟨points, reported⟩ := tokenize_error_points failed
  exact ⟨failed, points, reported.mp ⟨'é', 10, rfl⟩⟩

example : tokenize "limit 9x (" = .error (.expectedInteger "9x" 6) := by decide +kernel

end TagQuery
