import TagQuery.Text.Split

namespace TagQuery.Text

variable {separator : Char}

theorem append_eq_append_cons {head rest left right : List Char} (solid : separator ∉ head)
    (whole : head ++ rest = left ++ separator :: right) :
    ∃ middle, left = head ++ middle ∧ rest = middle ++ separator :: right := by
  rcases List.append_eq_append_iff.mp whole with later | ⟨middle, held, following⟩
  · exact later
  · cases middle with
    | nil =>
      rw [List.append_nil] at held
      exact ⟨[], by rw [held, List.append_nil], following.symm⟩
    | cons c middle =>
      obtain ⟨same, _⟩ := List.cons.inj following
      have member : separator ∈ head := by simp [held, same]
      exact absurd member solid

theorem split_of_not_mem {piece : List Char} (solid : separator ∉ piece) :
    split separator piece = [piece] := by
  induction piece with
  | nil => rfl
  | cons c rest ih =>
    simp only [List.mem_cons, not_or] at solid
    rw [split, if_neg (Ne.symm solid.1), ih solid.2]

theorem split_cons {c : Char} {text piece : List Char} {others : List (List Char)} (different : c ≠ separator)
    (cut : split separator text = piece :: others) : split separator (c :: text) = (c :: piece) :: others := by
  rw [split, if_neg different, cut]

theorem split_append {left right last next : List Char} {first others : List (List Char)}
    (ended : split separator left = first ++ [last]) (begun : split separator right = next :: others) :
    split separator (left ++ right) = first ++ (last ++ next) :: others := by
  induction left generalizing first last with
  | nil =>
    cases first with
    | nil =>
      cases ended
      exact begun
    | cons piece first => simp [split] at ended
  | cons c rest ih =>
    by_cases same : c = separator
    · rw [split, if_pos same] at ended
      cases first with
      | nil => exact absurd (List.cons.inj ended).2 (split_ne_nil separator rest)
      | cons piece first =>
        obtain ⟨empty, ended⟩ := List.cons.inj ended
        rw [List.cons_append, split, if_pos same, ih ended, ← empty]
        rfl
    · obtain ⟨piece, pieces, cut⟩ := List.exists_cons_of_ne_nil (split_ne_nil separator rest)
      rw [split_cons same cut] at ended
      cases first with
      | nil =>
        obtain ⟨grown, none⟩ := List.cons.inj ended
        have alone : split separator rest = [] ++ [piece] := cut.trans (congrArg (piece :: ·) none)
        have joined := ih alone
        rw [List.nil_append] at joined
        rw [← grown]
        exact split_cons same joined
      | cons head first =>
        obtain ⟨grown, further⟩ := List.cons.inj ended
        have longer : split separator rest = (piece :: first) ++ [last] :=
          cut.trans (congrArg (piece :: ·) further)
        rw [← grown]
        exact split_cons same (ih longer)

theorem exists_split_eq_concat (separator : Char) (text : List Char) :
    ∃ first last, split separator text = first ++ [last] := by
  have some := split_ne_nil separator text
  exact ⟨_, _, (List.dropLast_concat_getLast some).symm⟩

theorem split_append_separator (left right : List Char) :
    split separator (left ++ separator :: right) = split separator left ++ split separator right := by
  obtain ⟨first, last, ended⟩ := exists_split_eq_concat separator left
  have begun : split separator (separator :: right) = [] :: split separator right := if_pos rfl
  simp [split_append ended begun, ended]

theorem split_append_cons {piece : List Char} (solid : separator ∉ piece) (rest : List Char) :
    split separator (piece ++ separator :: rest) = piece :: split separator rest := by
  rw [split_append_separator, split_of_not_mem solid]
  rfl

theorem split_intercalate {pieces : List (List Char)} (some : pieces ≠ [])
    (solid : ∀ piece ∈ pieces, separator ∉ piece) :
    split separator ([separator].intercalate pieces) = pieces := by
  induction pieces with
  | nil => exact absurd rfl some
  | cons piece others ih =>
    have head := solid piece List.mem_cons_self
    cases others with
    | nil => rw [List.intercalate_singleton, split_of_not_mem head]
    | cons next others =>
      rw [List.intercalate_cons_cons, List.append_assoc, List.singleton_append,
        split_append_cons head, ih (List.cons_ne_nil _ _)]
      exact fun other member => solid other (List.mem_cons_of_mem _ member)

theorem mem_intercalate {pieces : List (List Char)} {c : Char}
    (member : c ∈ [separator].intercalate pieces) : c = separator ∨ ∃ piece ∈ pieces, c ∈ piece := by
  induction pieces with
  | nil => cases member
  | cons piece others ih =>
    cases others with
    | nil =>
      rw [List.intercalate_singleton] at member
      exact .inr ⟨piece, List.mem_cons_self, member⟩
    | cons next others =>
      rw [List.intercalate_cons_cons, List.mem_append, List.mem_append, List.mem_singleton] at member
      rcases member with (held | same) | later
      · exact .inr ⟨piece, List.mem_cons_self, held⟩
      · exact .inl same
      · rcases ih later with same | ⟨other, listed, held⟩
        · exact .inl same
        · exact .inr ⟨other, List.mem_cons_of_mem _ listed, held⟩

theorem infix_intercalate {pieces : List (List Char)} {piece : List Char} (member : piece ∈ pieces) :
    piece <:+: [separator].intercalate pieces := by
  induction pieces with
  | nil => cases member
  | cons first others ih =>
    cases others with
    | nil =>
      cases List.mem_singleton.mp member
      exact ⟨[], [], by simp⟩
    | cons next others =>
      rw [List.intercalate_cons_cons, List.append_assoc]
      rcases List.mem_cons.mp member with rfl | later
      · exact (List.prefix_append _ _).isInfix
      · refine (ih later).trans ?_
        rw [← List.append_assoc]
        exact (List.suffix_append _ _).isInfix

theorem infix_of_mem_split {text piece : List Char} (cut : piece ∈ split separator text) : piece <:+: text := by
  rw [← intercalate_split separator text]
  exact infix_intercalate cut

theorem mem_of_mem_split {text piece : List Char} {c : Char} (cut : piece ∈ split separator text)
    (member : c ∈ piece) : c ∈ text ∧ c ≠ separator := by
  induction text generalizing piece with
  | nil =>
    cases List.mem_singleton.mp cut
    cases member
  | cons head rest ih =>
    simp only [split] at cut
    split at cut
    · rcases List.mem_cons.mp cut with rfl | cut
      · cases member
      · exact (ih cut member).imp_left (List.mem_cons_of_mem _)
    · rename_i different
      cases pieces : split separator rest with
      | nil => exact absurd pieces (split_ne_nil separator rest)
      | cons first others =>
        rw [pieces] at cut ih
        rcases List.mem_cons.mp cut with rfl | cut
        · rcases List.mem_cons.mp member with rfl | member
          · exact ⟨List.mem_cons_self, different⟩
          · exact (ih List.mem_cons_self member).imp_left (List.mem_cons_of_mem _)
        · exact (ih (List.mem_cons_of_mem _ cut) member).imp_left (List.mem_cons_of_mem _)

end TagQuery.Text
