import Mathlib.Data.List.Basic
import TagQuery.Proofs.CharClass

namespace TagQuery.Text

def White (gap : List Char) : Prop := ∀ c ∈ gap, hasClass (· = .whitespace) c

namespace White

variable {gap : List Char} (white : White gap)

include white

theorem blank : ∀ c ∈ gap, isBlank c := by
  intro c member
  rw [CharClass.isBlank_eq_hasClass (white c member)]
  exact white c member

theorem hasClass_of_held {property : CharClass → Bool} (held : property .whitespace) :
    ∀ c ∈ gap, hasClass property c := by
  intro c member
  apply hasClass_imp _ (white c member)
  intro charClass same
  rw [of_decide_eq_true same]
  exact held

theorem not_mem {c : Char} (solid : hasClass (· = .whitespace) c = false) : c ∉ gap := by
  intro member
  rw [white c member] at solid
  cases solid

end White

/-- A way to read a text piece by piece between its commas, for which white space around a piece does not
    matter. -/
structure Itemwise {α : Type} (reads : List Char → List α → Prop) : Prop where
  comma (left right : List Char) (found : List α) : reads (left ++ ',' :: right) found ↔
    ∃ first second, reads left first ∧ reads right second ∧ found = first ++ second
  leading {gap : List Char} (white : White gap) (text : List Char) (found : List α) :
    reads (gap ++ text) found ↔ reads text found
  trailing {gap : List Char} (white : White gap) (text : List Char) (found : List α) :
    reads (text ++ gap) found ↔ reads text found

theorem Itemwise.spaced {α : Type} {reads : List Char → List α → Prop} (itemwise : Itemwise reads)
    {gap left right : List Char} (white : White gap)
    (beside : (∀ c ∈ left.getLast?, c = ',') ∨ ∀ c ∈ right.head?, c = ',') (found : List α) :
    reads (left ++ gap ++ right) found ↔ reads (left ++ right) found := by
  rcases beside with after | before
  · rcases List.eq_nil_or_concat' left with none | ⟨start, last, whole⟩
    · simp [none, itemwise.leading white]
    · have comma : last = ',' := after last (by simp [whole])
      rw [whole, comma, List.append_assoc, List.append_assoc, List.append_assoc, List.singleton_append,
        List.singleton_append, itemwise.comma, itemwise.comma]
      simp only [itemwise.leading white]
  · cases right with
    | nil => rw [List.append_nil, List.append_nil, itemwise.trailing white]
    | cons c rest =>
      have comma : c = ',' := before c rfl
      rw [comma, itemwise.comma, itemwise.comma]
      simp only [itemwise.trailing white]

theorem Itemwise.respaced {α : Type} {reads : List Char → List α → Prop} (itemwise : Itemwise reads)
    {gap other left right : List Char} (white : White gap) (otherWhite : White other)
    (beside : (∀ c ∈ left.getLast?, c = ',') ∨ ∀ c ∈ right.head?, c = ',') {found : List α}
    (read : reads (left ++ gap ++ right) found) : reads (left ++ other ++ right) found :=
  (itemwise.spaced otherWhite beside found).mpr ((itemwise.spaced white beside found).mp read)

theorem Itemwise.of_pieces {α : Type} {reads : List Char → List α → Prop} (itemwise : Itemwise reads)
    {pieces : List (List Char)} {found : List α} (some : pieces ≠ []) (read : reads ([','].intercalate pieces) found) :
    ∀ piece ∈ pieces, ∃ part, reads piece part := by
  induction pieces generalizing found with
  | nil => exact absurd rfl some
  | cons piece others ih =>
    cases others with
    | nil =>
      rw [List.intercalate_singleton] at read
      exact List.forall_mem_singleton.mpr ⟨found, read⟩
    | cons next others =>
      rw [List.intercalate_cons_cons, List.append_assoc, List.singleton_append, itemwise.comma] at read
      obtain ⟨first, second, before, after, -⟩ := read
      exact List.forall_mem_cons.mpr ⟨⟨first, before⟩, ih (List.cons_ne_nil _ _) after⟩

def separators : List Char := [',', '(', ')', '[', ']', '{', '}', ';']

theorem refused_of_separator {property : CharClass → Bool}
    (table : separators.all fun c => !hasClass property c) {c : Char} (separates : c ∈ separators) :
    hasClass property c = false := by
  simpa using List.all_eq_true.mp table c separates

/-- A place for white space: an end of the text or a side of a separator, but not the inside of the mark
    that opens a strict target. -/
structure Loose (before after : List Char) : Prop where
  beside : (∀ c ∈ before.getLast?, c ∈ separators) ∨ ∀ c ∈ after.head?, c ∈ separators
  apart : ¬ (before.getLast? = some '&' ∧ after.head? = some '{')

theorem loose_iff (before after : List Char) :
    Loose before after ↔
      (before.getLast?.all (separators.contains ·) ∨ after.head?.all (separators.contains ·)) ∧
        ¬ (before.getLast? = some '&' ∧ after.head? = some '{') := by
  simp only [Option.all_eq_true, List.contains_iff_mem]
  exact ⟨fun loose => ⟨loose.beside, loose.apart⟩, fun both => ⟨both.1, both.2⟩⟩

instance (before after : List Char) : Decidable (Loose before after) :=
  decidable_of_iff' _ (loose_iff before after)

namespace Loose

variable {before after left right : List Char}

theorem of_append {first second : List Char} (loose : Loose (first ++ second) after) : Loose second after := by
  constructor
  · exact loose.beside.imp_left fun ends c last => ends c (List.mem_getLast?_append_of_mem_getLast? last)
  · intro both
    exact loose.apart ⟨List.mem_getLast?_append_of_mem_getLast? both.1, both.2⟩

theorem of_append_right {first second : List Char} (loose : Loose before (first ++ second))
    (some : first ≠ []) : Loose before first := by
  obtain ⟨c, rest, rfl⟩ := List.exists_cons_of_ne_nil some
  exact ⟨loose.beside, loose.apart⟩

theorem exists_separator (loose : Loose before after) (some : before ≠ []) (others : after ≠ [])
    (gap : List Char) : ∃ c ∈ before ++ gap ++ after, c ∈ separators := by
  rcases loose.beside with ends | begins
  · exact ⟨before.getLast some, by simp, ends _ (List.getLast?_eq_some_getLast some)⟩
  · exact ⟨after.head others, by simp, begins _ (List.head?_eq_some_head others)⟩

theorem inside {opening closing : List Char} (loose : Loose (opening ++ left) (right ++ closing))
    (commas : ∀ c ∈ left ++ right, c ∈ separators → c = ',') :
    (∀ c ∈ left.getLast?, c = ',') ∨ ∀ c ∈ right.head?, c = ',' := by
  rcases loose.beside with ends | begins
  · left
    intro c last
    have separates := ends c (List.mem_getLast?_append_of_mem_getLast? last)
    exact commas c (List.mem_append_left _ (List.mem_of_getLast? last)) separates
  · right
    intro c first
    have separates := begins c (List.mem_head?_append_of_mem_head? first)
    exact commas c (List.mem_append_right _ (List.mem_of_mem_head? first)) separates

end Loose

theorem append_subset_spaced (left gap right : List Char) : left ++ right ⊆ left ++ gap ++ right := by
  intro c member
  rcases List.mem_append.mp member with before | after
  · exact List.mem_append_left _ (List.mem_append_left _ before)
  · exact List.mem_append_right _ after

theorem eq_grouping {opener closer : Char} {body before gap after : List Char} (some : before ≠ [])
    (others : after ≠ []) (whole : opener :: (body ++ [closer]) = before ++ gap ++ after) :
    ∃ left right, before = opener :: left ∧ after = right ++ [closer] ∧ body = left ++ gap ++ right := by
  obtain ⟨head, left, rfl⟩ := List.exists_cons_of_ne_nil some
  rcases List.eq_nil_or_concat' after with none | ⟨right, last, ends⟩
  · exact absurd none others
  · have parted : opener :: (body ++ [closer]) = head :: ((left ++ gap ++ right) ++ [last]) := by
      simp [whole, ends]
    obtain ⟨begins, following⟩ := List.cons.inj parted
    obtain ⟨same, final⟩ := List.append_inj' following rfl
    obtain ⟨closes, _⟩ := List.cons.inj final
    exact ⟨left, right, by rw [begins], by rw [ends, closes], same⟩

end TagQuery.Text
