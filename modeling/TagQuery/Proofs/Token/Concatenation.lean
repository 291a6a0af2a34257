import TagQuery.Proofs.Token.Cut

namespace TagQuery

/-- A place where a text may be cut: where the first of the later tokens begins, or the end of the text if
    there are none. -/
def Token.CutsAt (place : Nat) (second : List Char) : List Token → Prop
  | [] => second = []
  | token :: _ => token.position = place

namespace Lexed

variable {position : Nat} {first second input : List Char} {tokens before after : List Token}

theorem position_le (lexed : Lexed position input tokens) : ∀ token ∈ tokens, position ≤ token.position := by
  induction lexed with
  | done => simp
  | blank _ _ ih => exact fun token member => Nat.le_of_succ_le (ih token member)
  | token _ _ _ ih =>
    intro token member
    rcases List.mem_cons.mp member with rfl | later
    · exact Nat.le_refl _
    · exact Nat.le_trans (Nat.le_add_right _ _) (ih token later)

theorem place_le_of_cutsAt {place : Nat} (lexed : Lexed position input tokens) (some : second ≠ [])
    (cuts : Token.CutsAt place second after) (later : ∀ token ∈ after, token ∈ tokens) : position ≤ place := by
  cases after with
  | nil => exact absurd cuts some
  | cons token after => exact cuts ▸ lexed.position_le token (later token List.mem_cons_self)

theorem cut (lexed : Lexed position (first ++ second) (before ++ after))
    (cuts : Token.CutsAt (position + first.length) second after) :
    Lexed position first before ∧ Lexed (position + first.length) second after := by
  generalize whole : first ++ second = input at lexed
  generalize listed : before ++ after = tokens at lexed
  induction lexed generalizing first before with
  | done =>
    obtain ⟨rfl, rfl⟩ := List.append_eq_nil_iff.mp whole
    obtain ⟨rfl, rfl⟩ := List.append_eq_nil_iff.mp listed
    exact ⟨.done, .done⟩
  | @blank position c rest tokens blank others ih =>
    cases first with
    | nil =>
      have opened : second = c :: rest := whole
      have some : second ≠ [] := by simp [opened]
      have beyond := others.place_le_of_cutsAt some cuts fun token member => by simp [← listed, member]
      exact absurd beyond (Nat.not_succ_le_self position)
    | cons d first =>
      obtain ⟨rfl, following⟩ := List.cons.inj whole
      rw [Text.place_cons] at cuts ⊢
      obtain ⟨left, right⟩ := ih cuts following listed
      exact ⟨.blank blank left, right⟩
  | @token position kind span rest tokens spelled ends others ih =>
    cases before with
    | nil =>
      subst listed
      have here : position = position + first.length := cuts
      have none : first = [] := List.length_eq_zero_iff.mp (by omega)
      subst none
      rw [List.nil_append] at whole
      rw [whole]
      exact ⟨.done, .token spelled ends others⟩
    | cons token before =>
      obtain ⟨rfl, remaining⟩ := List.cons.inj listed
      -- the first token lies before the cut, so its whole span does
      have parted : ∃ middle, first = span ++ middle ∧ rest = middle ++ second := by
        rcases List.append_eq_append_iff.mp whole with ⟨inner, held, following⟩ | later
        · cases inner with
          | nil => exact ⟨[], by simpa using held.symm, by simpa using following.symm⟩
          | cons c inner =>
            have some : second ≠ [] := by simp [following]
            have beyond := others.place_le_of_cutsAt some cuts fun token member => by simp [← remaining, member]
            rw [held, List.length_append, List.length_cons] at beyond
            omega
        · exact later
      obtain ⟨middle, rfl, rfl⟩ := parted
      rw [List.length_append, ← Nat.add_assoc] at cuts ⊢
      obtain ⟨left, right⟩ := ih cuts rfl remaining
      exact ⟨.token spelled ends.of_append left, right⟩

end Lexed

/-- Texts that may stand one after the other: no word or number of the first goes on into the second. -/
def Text.Apart (first second : List Char) : Prop :=
  ¬ (first.getLast?.any (hasClass CharClass.isWordPart) ∧ second.head?.any (hasClass CharClass.isWordPart))

instance (first second : List Char) : Decidable (Text.Apart first second) :=
  inferInstanceAs (Decidable (¬ _))

theorem tokenize_append {first second : String} {left right : List Token} (readLeft : tokenize first = .ok left)
    (readRight : tokenize second = .ok right) (apart : Text.Apart first.toList second.toList) :
    tokenize (first ++ second) = .ok (left ++ right.map (Token.shift first.length)) := by
  rw [tokenize_eq_ok_iff] at readLeft readRight ⊢
  have shifted := readRight.shift first.length
  rw [String.toList_append]
  refine readLeft.append (fun c last d next part => ?_) ?_
  · apply Bool.eq_false_iff.mpr
    intro held
    apply apart
    rw [Option.mem_def.mp last, Option.mem_def.mp next]
    exact ⟨part, held⟩
  · rwa [Nat.zero_add, String.length_toList]

theorem tokenize_cut {first second : String} {before after : List Token}
    (read : tokenize (first ++ second) = .ok (before ++ after))
    (cuts : Token.CutsAt first.length second.toList after) :
    tokenize first = .ok before ∧
      ∃ right, tokenize second = .ok right ∧ after = right.map (Token.shift first.length) := by
  simp only [tokenize_eq_ok_iff] at read ⊢
  rw [String.toList_append] at read
  rw [← String.length_toList, ← Nat.zero_add first.toList.length] at cuts
  obtain ⟨left, right⟩ := read.cut cuts
  have afresh : Lexed (first.length + 0) second.toList after := by
    rwa [← String.length_toList, Nat.add_comm]
  exact ⟨left, afresh.unshift⟩

/-- Reading a text into tokens goes piece by piece. Texts that are apart are read one after the other, and a
    text cut where one of its tokens begins, or at its end, is read in two parts that know nothing of each
    other. -/
theorem tokenize_piecewise (first second : String) :
    (∀ left right, tokenize first = .ok left → tokenize second = .ok right →
      Text.Apart first.toList second.toList →
        tokenize (first ++ second) = .ok (left ++ right.map (Token.shift first.length))) ∧
    ∀ before after, tokenize (first ++ second) = .ok (before ++ after) →
      Token.CutsAt first.length second.toList after →
        tokenize first = .ok before ∧
          ∃ right, tokenize second = .ok right ∧ after = right.map (Token.shift first.length) :=
  ⟨fun _ _ readLeft readRight apart => tokenize_append readLeft readRight apart,
    fun _ _ read cuts => tokenize_cut read cuts⟩

theorem tokenize_piecewise_clause :
    let left : List Token := [⟨.word .command "delete", 0⟩, ⟨.collection [], 7⟩]
    let right : List Token := [⟨.word .condition "limit", 0⟩, ⟨.integer 10, 6⟩]
    tokenize "delete ()" = .ok left ∧ tokenize "limit 10" = .ok right ∧
      Text.Apart "delete ()".toList "limit 10".toList ∧
      tokenize ("delete ()" ++ "limit 10") = .ok (left ++ right.map (Token.shift 9)) ∧
      Token.CutsAt 9 "limit 10".toList (right.map (Token.shift 9)) ∧
      ∃ again, tokenize "limit 10" = .ok again ∧ right.map (Token.shift 9) = again.map (Token.shift 9) := by
  intro left right
  have readLeft : tokenize "delete ()" = .ok left := by decide +kernel
  have readRight : tokenize "limit 10" = .ok right := by decide +kernel
  have apart : Text.Apart "delete ()".toList "limit 10".toList := by decide
  have cuts : Token.CutsAt 9 "limit 10".toList (right.map (Token.shift 9)) := rfl
  obtain ⟨join, part⟩ := tokenize_piecewise "delete ()" "limit 10"
  have joined := join left right readLeft readRight apart
  exact ⟨readLeft, readRight, apart, joined, cuts, (part _ _ joined cuts).2⟩

example : tokenize ("limit" ++ "10") = .ok [⟨.word .generic "limit10", 0⟩] := by decide +kernel

end TagQuery
