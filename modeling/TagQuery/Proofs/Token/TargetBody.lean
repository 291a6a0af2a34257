import TagQuery.Proofs.Token.Canonical
import TagQuery.Proofs.Token.PairPieces

namespace TagQuery

open Text (split)
open TargetPairs (IsPiece pairsAt)

namespace Target

variable {mode : Mode} {contents : List (String × Requirement)}

def Mode.Permits (contents : List (String × Requirement)) : Mode → Prop
  | .eager => True
  | .strict => (contents.map Prod.fst).Nodup

instance (contents : List (String × Requirement)) (mode : Mode) : Decidable (mode.Permits contents) :=
  match mode with
  | .eager => inferInstanceAs (Decidable True)
  | .strict => inferInstanceAs (Decidable (contents.map Prod.fst).Nodup)

theorem Mode.Permits.sublist {fewer : List (String × Requirement)} (permitted : mode.Permits contents)
    (sublist : fewer.Sublist contents) : mode.Permits fewer := by
  cases mode with
  | eager => trivial
  | strict => exact permitted.sublist (sublist.map Prod.fst)

def valuesFor (label : String) (contents : List (String × Requirement)) : List Requirement :=
  (contents.filter (·.1 = label)).map Prod.snd

/-- A target that says what the pairs say and nothing else: under each label that they have, the set of the
    values given for it or, in a strict target, the one value. -/
def Gathers (contents : List (String × Requirement)) : Target → Prop
  | eager labels => ∀ label, labels.get? label =
      if valuesFor label contents = [] then none else some (.ofList (valuesFor label contents))
  | strict labels => ∀ label value, labels.get? label = some value ↔ (label, value) ∈ contents

def ofContents (contents : List (String × Requirement)) : Mode → Target
  | .eager => eager (TargetPairs.collect contents)
  | .strict => strict (.ofList contents)

theorem mode_ofContents (contents : List (String × Requirement)) (mode : Mode) :
    (ofContents contents mode).mode = mode := by
  cases mode <;> rfl

theorem get?_foldl_give (labels : OrderedMap String (OrderedSet Requirement))
    (contents : List (String × Requirement)) (label : String) :
    (contents.foldl TargetPairs.give labels).get? label =
      if valuesFor label contents = [] then labels.get? label
      else some ((valuesFor label contents).foldl OrderedSet.insert ((labels.get? label).getD ∅)) := by
  induction contents generalizing labels with
  | nil => rfl
  | cons content rest ih =>
    rw [List.foldl_cons, ih, TargetPairs.give, OrderedMap.get?_insert]
    by_cases same : content.1 = label
    · have given : valuesFor label (content :: rest) = content.2 :: valuesFor label rest := by
        simp [valuesFor, same]
      rw [given, if_neg (List.cons_ne_nil _ _), if_pos same.symm, List.foldl_cons, same]
      split
      · rename_i none
        rw [none]
        rfl
      · rfl
    · have given : valuesFor label (content :: rest) = valuesFor label rest := by
        simp [valuesFor, same]
      rw [given, if_neg (Ne.symm same)]

theorem gathers_ofContents (permitted : mode.Permits contents) : (ofContents contents mode).Gathers contents := by
  cases mode with
  | eager =>
    intro label
    simp [TargetPairs.collect, get?_foldl_give, OrderedSet.ofList_eq_foldl]
  | strict => exact fun label value => OrderedMap.get?_ofList_eq_some_iff permitted

end Target

namespace Lexeme

variable {inside : List Char} {pairs : List TargetPair} {ending : PairsEnd}

theorem readEagerTarget_of_read (position : Nat)
    (read : TargetPairs.read (position + 1) inside = ⟨pairs, ending⟩) :
    readEagerTarget position ('{' :: inside) =
      ofPairs position ('{' :: inside) (TargetPair.eagerTarget pairs) ending := by
  simp [readEagerTarget, read]

theorem readStrictTarget_of_read (position : Nat) (read : TargetPairs.read (position + 2) inside = ⟨pairs, ending⟩)
    (fresh : TargetPair.firstRepeated? [] pairs = none) :
    readStrictTarget position ('&' :: '{' :: inside) =
      ofPairs position ('&' :: '{' :: inside) (TargetPair.strictTarget pairs) ending := by
  simp only [readStrictTarget, List.drop_succ_cons, List.drop_zero, read, fresh]

theorem readStrictTarget_of_repeated (position : Nat) {pair : TargetPair}
    (read : TargetPairs.read (position + 2) inside = ⟨pairs, ending⟩)
    (repeated : TargetPair.firstRepeated? [] pairs = some pair) :
    readStrictTarget position ('&' :: '{' :: inside) =
      .error (.duplicateStrictKey pair.label pair.position) := by
  simp only [readStrictTarget, List.drop_succ_cons, List.drop_zero, read, repeated]

end Lexeme

namespace Target

open TargetPairs (Spelled)

variable {mode : Mode} {contents : List (String × Requirement)}

theorem spelled_ofContents {inside : List Char} (spelled : Spelled inside contents)
    (permitted : mode.Permits contents) :
    TokenKind.Spelled (.target (ofContents contents mode)) ((opener mode).toList ++ (inside ++ ['}'])) := by
  cases mode with
  | eager => exact .eagerTarget spelled
  | strict => exact .strictTarget spelled permitted

theorem of_spelled_opener {kind : TokenKind} {span rest after : List Char} (spelled : kind.Spelled span)
    (whole : span ++ rest = (opener mode).toList ++ after) :
    ∃ inside contents, span = (opener mode).toList ++ (inside ++ ['}']) ∧ Spelled inside contents ∧
      mode.Permits contents ∧ kind = .target (ofContents contents mode) := by
  have first : (span ++ rest).head? = (opener mode).toList.head? := by
    rw [whole]
    cases mode <;> rfl
  cases spelled with
  | word begun inside =>
    cases mode <;> cases first <;> exact absurd begun (by decide)
  | integer some decimal fits =>
    obtain ⟨c, others, rfl⟩ := List.exists_cons_of_ne_nil some
    have begun := decimal c List.mem_cons_self
    cases mode <;> cases first <;> exact absurd begun (by decide)
  | collection paired inside =>
    rcases paired with same | same <;> cases same <;> cases mode <;> cases first
  | eagerTarget spelled =>
    cases mode with
    | eager => exact ⟨_, _, rfl, spelled, trivial, rfl⟩
    | strict => cases first
  | strictTarget spelled distinct =>
    cases mode with
    | eager => cases first
    | strict => exact ⟨_, _, rfl, spelled, distinct, rfl⟩
  | terminator => cases mode <;> cases first

theorem lexed_opener_iff {body : List Char} (unclosed : '}' ∉ body) {tokens : List Token} :
    Lexed 0 ((opener mode).toList ++ (body ++ ['}'])) tokens ↔
      ∃ contents, Spelled body contents ∧ mode.Permits contents ∧
        tokens = [⟨.target (ofContents contents mode), 0⟩] := by
  constructor
  · intro lexed
    generalize whole : (opener mode).toList ++ (body ++ ['}']) = text at lexed
    cases lexed with
    | done => simp at whole
    | blank blank others =>
      cases mode <;> cases whole <;> exact absurd blank (by decide)
    | @token _ _ span rest _ spelled _ others =>
      obtain ⟨inside, contents, rfl, between, permitted, rfl⟩ := of_spelled_opener spelled whole.symm
      rw [List.append_assoc, List.append_cancel_left_eq, List.append_assoc, List.singleton_append] at whole
      obtain ⟨rfl, -, rfl⟩ := (List.append_cons_inj_of_notMem unclosed List.not_mem_nil).mp whole
      have none := others.tokensFrom_eq
      rw [tokensFrom] at none
      cases none
      exact ⟨contents, between, permitted, rfl⟩
  · intro found
    obtain ⟨contents, spelled, permitted, rfl⟩ := found
    rw [← List.append_nil (_ ++ _)]
    exact .token (spelled_ofContents spelled permitted) trivial .done

section Tokens

variable {body : String} {pairs : List TargetPair}

theorem toList_opened (mode : Mode) (body : String) :
    (opener mode ++ body ++ "\x7d").toList = (opener mode).toList ++ (body.toList ++ ['}']) := by
  rw [String.toList_append, String.toList_append, List.append_assoc]
  rfl

theorem isSome_of_mem_opened (mode : Mode) {inside : List Char} (spelled : Spelled inside contents) {c : Char}
    (member : c ∈ (opener mode).toList ++ (inside ++ ['}'])) : (CharClass.ofChar? c).isSome := by
  have braced := (TokenKind.Spelled.eagerTarget spelled).isSome
  cases mode with
  | eager => exact braced c member
  | strict =>
    rcases List.mem_cons.mp member with rfl | member
    · rfl
    · exact braced c member

theorem tokenize_unterminated (spelled : Spelled body.toList contents)
    (read : TargetPairs.read (opener mode).length body.toList = ⟨pairs, .unterminated⟩)
    (permitted : mode.Permits (pairs.map TargetPair.content)) :
    tokenize (opener mode ++ body) = .error (.unterminatedAt '}' 0 (opener mode ++ body).toList) := by
  have whole : (opener mode ++ body).toList = (opener mode).toList ++ body.toList := String.toList_append
  have known : ∀ c ∈ (opener mode ++ body).toList, (CharClass.ofChar? c).isSome := by
    intro c member
    rw [whole] at member
    apply isSome_of_mem_opened mode spelled
    rw [← List.append_assoc]
    exact List.mem_append_left _ member
  cases mode with
  | eager =>
    have failed : Lexeme.read 0 .openBrace ('{' :: body.toList) =
        .error (.unterminatedAt '}' 0 ('{' :: body.toList)) := Lexeme.readEagerTarget_of_read 0 read
    rw [whole]
    exact tokenize_of_read_error known whole rfl (by decide) failed
  | strict =>
    have fresh : TargetPair.firstRepeated? [] pairs = none :=
      TargetPair.firstRepeated?_eq_none_iff.mpr ⟨permitted, by simp⟩
    have failed : Lexeme.read 0 .ampersand ('&' :: '{' :: body.toList) =
        .error (.unterminatedAt '}' 0 ('&' :: '{' :: body.toList)) := Lexeme.readStrictTarget_of_read 0 read fresh
    rw [whole]
    exact tokenize_of_read_error known whole rfl (by decide) failed

theorem tokenize_repeated {pair : TargetPair} {stop : Nat} (spelled : Spelled body.toList contents)
    (read : TargetPairs.read 2 (body.toList ++ ['}']) = ⟨pairs, .closed stop⟩)
    (repeated : TargetPair.firstRepeated? [] pairs = some pair) :
    tokenize (opener .strict ++ body ++ "\x7d") = .error (.duplicateStrictKey pair.label pair.position) := by
  have whole := toList_opened .strict body
  have known : ∀ c ∈ (opener .strict ++ body ++ "\x7d").toList, (CharClass.ofChar? c).isSome := by
    intro c member
    rw [whole] at member
    exact isSome_of_mem_opened .strict spelled member
  have failed : Lexeme.read 0 .ampersand ('&' :: '{' :: (body.toList ++ ['}'])) =
      .error (.duplicateStrictKey pair.label pair.position) := Lexeme.readStrictTarget_of_repeated 0 read repeated
  exact tokenize_of_read_error known whole rfl (by decide) failed

example : tokenize "&\x7bgenre=Rock, genre=Pop\x7d" = .error (.duplicateStrictKey "genre" 14) := by decide +kernel

end Tokens

end Target

end TagQuery
