import TagQuery.Proofs.Token.Cut

namespace TagQuery

namespace Collection

theorem itemwise : Text.Itemwise fun body found => items body = found where
  comma left right found := by
    simp only [items_append_comma, exists_and_left, exists_eq_left']
    exact eq_comm
  leading white text found := by rw [items_white_append white]
  trailing white text found := by rw [items_append_white white]

end Collection

namespace TargetPairs

theorem contentOf_append_white {gap : List Char} (white : Text.White gap) (key value : List Char) :
    contentOf key (value ++ gap) = contentOf key value := by
  rw [contentOf, Text.trim_append_blank white.blank, contentOf]

namespace Spelled

variable {left right text : List Char} {contents first second : List (String × Requirement)} {blank : Char}

theorem cons_white_iff (white : hasClass (· = .whitespace) blank) :
    Spelled (blank :: text) contents ↔ Spelled text contents := by
  constructor
  · intro spelled
    generalize whole : blank :: text = given at spelled
    cases spelled with
    | done => cases whole
    | skip _ others =>
      cases whole
      exact others
    | pair named solid =>
      obtain ⟨head, tail, rfl⟩ := List.exists_cons_of_ne_nil named
      obtain ⟨same, _⟩ := List.cons.inj whole
      have visible := solid head rfl
      rw [← same, white] at visible
      cases visible
  · exact .skip (.inr white)

theorem append_comma (before : Spelled left first) (after : Spelled right second) :
    Spelled (left ++ ',' :: right) (first ++ second) := by
  induction before with
  | done => exact .skip (.inl rfl) after
  | skip skipped _ ih => exact .skip skipped ih
  | @pair key value inside contents named solid keyPart valuePart ended _ ih =>
    rw [List.append_assoc, List.cons_append, List.append_assoc]
    apply Spelled.pair named solid keyPart valuePart _ ih
    intro c leading
    cases inside with
    | nil => exact (Option.some.inj leading).symm
    | cons d inside => exact ended c leading

theorem cut_comma (spelled : Spelled (left ++ ',' :: right) contents) :
    ∃ first second, Spelled left first ∧ Spelled right second ∧ contents = first ++ second := by
  generalize whole : left ++ ',' :: right = given at spelled
  induction spelled generalizing left with
  | done => simp at whole
  | @skip c inside contents skipped others ih =>
    cases left with
    | nil =>
      obtain ⟨_, same⟩ := List.cons.inj whole
      rw [← same] at others
      exact ⟨[], contents, .done, others, rfl⟩
    | cons d left =>
      obtain ⟨same, following⟩ := List.cons.inj whole
      obtain ⟨first, second, before, after, joined⟩ := ih following
      rw [← same] at skipped
      exact ⟨first, second, .skip skipped before, after, joined⟩
  | @pair key value inside contents named solid keyPart valuePart ended _ ih =>
    -- no comma stands in the pair itself
    have apart : ',' ∉ key ++ '=' :: value := by
      intro member
      rcases List.mem_append.mp member with inKey | inValue
      · exact absurd (keyPart ',' inKey) (by decide)
      · rcases List.mem_cons.mp inValue with same | inValue
        · cases same
        · exact absurd (valuePart ',' inValue) (by decide)
    have parted : (key ++ '=' :: value) ++ inside = left ++ ',' :: right := by simp [whole]
    obtain ⟨middle, cut, following⟩ := Text.append_eq_append_cons apart parted
    obtain ⟨first, second, before, after, joined⟩ := ih following.symm
    have text : left = key ++ '=' :: (value ++ middle) := by simp [cut]
    rw [text, joined]
    refine ⟨_, second, .pair named solid keyPart valuePart ?_ before, after, rfl⟩
    intro c leading
    apply ended c
    rw [following]
    exact List.mem_head?_append_of_mem_head? leading

theorem append_blank (white : hasClass (· = .whitespace) blank) (spelled : Spelled text contents) :
    Spelled (text ++ [blank]) contents := by
  have gap : Text.White [blank] := List.forall_mem_singleton.mpr white
  induction spelled with
  | done => exact .skip (.inr white) .done
  | skip skipped _ ih => exact .skip skipped ih
  | @pair key value inside contents named solid keyPart valuePart ended others ih =>
    rw [List.append_assoc, List.cons_append, List.append_assoc]
    cases inside with
    | nil =>
      have padded : ∀ c ∈ value ++ [blank], isPart c := by
        intro c member
        rcases List.mem_append.mp member with inValue | last
        · exact valuePart c inValue
        · exact gap.hasClass_of_held rfl c last
      rw [← contentOf_append_white gap]
      have spelled := Spelled.pair named solid keyPart padded ended others
      rwa [List.append_nil] at spelled
    | cons d inside => exact .pair named solid keyPart valuePart ended ih

theorem pair_ends_with {key value inside : List Char} (different : blank ≠ '=')
    (whole : text ++ [blank] = key ++ '=' :: (value ++ inside)) :
    (∃ start, value = start ++ [blank] ∧ inside = [] ∧ text = key ++ '=' :: start) ∨
      ∃ start, inside = start ++ [blank] ∧ text = key ++ '=' :: (value ++ start) := by
  rcases List.eq_nil_or_concat' inside with none | ⟨start, last, ends⟩
  · left
    rcases List.eq_nil_or_concat' value with empty | ⟨start, last, ends⟩
    · subst none empty
      obtain ⟨_, same⟩ := List.append_inj' whole rfl
      exact absurd (List.cons.inj same).1 different
    · subst none ends
      have moved : text ++ [blank] = (key ++ '=' :: start) ++ [last] := by simp [whole]
      obtain ⟨same, final⟩ := List.append_inj' moved rfl
      exact ⟨start, by rw [final], rfl, same⟩
  · right
    subst ends
    have moved : text ++ [blank] = (key ++ '=' :: (value ++ start)) ++ [last] := by simp [whole]
    obtain ⟨same, final⟩ := List.append_inj' moved rfl
    exact ⟨start, by rw [final], same⟩

theorem of_append_blank (white : hasClass (· = .whitespace) blank) (spelled : Spelled (text ++ [blank]) contents) :
    Spelled text contents := by
  generalize whole : text ++ [blank] = given at spelled
  induction spelled generalizing text with
  | done => simp at whole
  | @skip c inside contents skipped others ih =>
    cases text with
    | nil =>
      obtain ⟨_, same⟩ := List.cons.inj whole
      rwa [← same] at others
    | cons d text =>
      obtain ⟨same, following⟩ := List.cons.inj whole
      rw [← same] at skipped
      exact .skip skipped (ih following)
  | @pair key value inside contents named solid keyPart valuePart ended others ih =>
    have different : blank ≠ '=' := by
      intro same
      rw [same] at white
      cases white
    rcases pair_ends_with different whole with ⟨start, padded, none, same⟩ | ⟨start, padded, same⟩
    · subst padded none
      have startPart (c : Char) (member : c ∈ start) := valuePart c (List.mem_append_left _ member)
      have spelled := Spelled.pair named solid keyPart startPart ended others
      rwa [List.append_nil, ← same, ← contentOf_append_white (List.forall_mem_singleton.mpr white)] at spelled
    · subst padded
      have startEnded : ∀ c ∈ start.head?, c = ',' :=
        fun c leading => ended c (List.mem_head?_append_of_mem_head? leading)
      rw [same]
      exact .pair named solid keyPart valuePart startEnded (ih rfl)

end Spelled

theorem itemwise : Text.Itemwise Spelled where
  comma left right found := by
    constructor
    · exact Spelled.cut_comma
    · intro parts
      obtain ⟨first, second, before, after, joined⟩ := parts
      rw [joined]
      exact before.append_comma after
  leading {gap} white text found := by
    induction gap with
    | nil => rfl
    | cons blank gap ih =>
      obtain ⟨first, white⟩ := List.forall_mem_cons.mp white
      rw [List.cons_append, Spelled.cons_white_iff first, ih white]
  trailing {gap} white text found := by
    induction gap generalizing text with
    | nil => rw [List.append_nil]
    | cons blank gap ih =>
      obtain ⟨first, white⟩ := List.forall_mem_cons.mp white
      rw [List.append_cons, ih white]
      constructor
      · exact Spelled.of_append_blank first
      · exact Spelled.append_blank first

end TargetPairs

end TagQuery
