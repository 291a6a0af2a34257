import TagQuery.Proofs.Text.Runs
import TagQuery.Text.Blank

namespace TagQuery.Text

structure Trimmed (text : List Char) : Prop where
  start : ∀ c ∈ text.head?, isBlank c = false
  finish : ∀ c ∈ text.getLast?, isBlank c = false

theorem trimmed_iff (text : List Char) :
    Trimmed text ↔ text.head?.all (!isBlank ·) ∧ text.getLast?.all (!isBlank ·) := by
  simp only [Option.all_eq_true, Bool.not_eq_true']
  exact ⟨fun trimmed => ⟨trimmed.start, trimmed.finish⟩, fun both => ⟨both.1, both.2⟩⟩

instance (text : List Char) : Decidable (Trimmed text) := decidable_of_iff' _ (trimmed_iff text)

theorem Trimmed.nil : Trimmed [] := ⟨by simp, by simp⟩

theorem trimEnd_finish (text : List Char) : ∀ c ∈ (trimEnd text).getLast?, isBlank c = false := by
  intro c last
  rw [trimEnd, List.getLast?_reverse] at last
  exact dropWhile_stop isBlank text.reverse c last

theorem trimEnd_append (text : List Char) : ∃ blank, trimEnd text ++ blank = text := by
  obtain ⟨blank, whole⟩ := List.dropWhile_suffix isBlank (l := text.reverse)
  refine ⟨blank.reverse, ?_⟩
  rw [trimEnd, ← List.reverse_append, whole, List.reverse_reverse]

theorem trim_prefix {text : List Char} (start : ∀ c ∈ text.head?, isBlank c = false) : trim text <+: text := by
  have none : ∀ c ∈ ([] : List Char), isBlank c := by simp
  have kept : trimStart text = text := dropWhile_run none start
  obtain ⟨blank, whole⟩ := trimEnd_append text
  rw [trim, kept]
  exact ⟨blank, whole⟩

theorem trim_isInfix (text : List Char) : trim text <:+: text := by
  obtain ⟨blank, whole⟩ := trimEnd_append (trimStart text)
  have started : trim text <+: trimStart text := ⟨blank, whole⟩
  exact started.isInfix.trans (List.dropWhile_suffix _).isInfix

theorem mem_of_mem_trim {text : List Char} {c : Char} (member : c ∈ trim text) : c ∈ text :=
  (trim_isInfix text).subset member

theorem mem_dropWhile {text : List Char} {c : Char} (member : c ∈ text) (solid : isBlank c = false) :
    c ∈ text.dropWhile isBlank := by
  rw [← List.takeWhile_append_dropWhile (p := isBlank) (l := text)] at member
  refine (List.mem_append.mp member).resolve_left fun leading => ?_
  rw [takeWhile_held isBlank text c leading] at solid
  cases solid

theorem mem_trim {text : List Char} {c : Char} (member : c ∈ text) (solid : isBlank c = false) :
    c ∈ trim text := by
  have started : c ∈ trimStart text := mem_dropWhile member solid
  rw [trim, trimEnd, List.mem_reverse]
  exact mem_dropWhile (List.mem_reverse.mpr started) solid

theorem trimmed_trim (text : List Char) : Trimmed (trim text) where
  start c first := by
    obtain ⟨blank, whole⟩ := trimEnd_append (trimStart text)
    apply dropWhile_stop isBlank text c
    change c ∈ (trimStart text).head?
    rw [← whole, List.head?_append, Option.mem_def]
    exact Option.or_eq_some_iff.mpr (.inl first)
  finish := trimEnd_finish (trimStart text)

theorem Trimmed.trim_eq {text : List Char} (trimmed : Trimmed text) : trim text = text := by
  have fixed {rest : List Char} (start : ∀ c ∈ rest.head?, isBlank c = false) :
      rest.dropWhile isBlank = rest := by
    have none : ∀ c ∈ ([] : List Char), isBlank c := by simp
    exact dropWhile_run none start
  have finish : ∀ c ∈ text.reverse.head?, isBlank c = false := by simpa using trimmed.finish
  rw [trim, trimStart, fixed trimmed.start, trimEnd, fixed finish, List.reverse_reverse]

section Blank

variable {gap : List Char} (blank : ∀ c ∈ gap, isBlank c)

include blank

theorem trim_blank_append (text : List Char) : trim (gap ++ text) = trim text := by
  rw [trim, trimStart, List.dropWhile_append_of_pos blank, trim, trimStart]

theorem trimEnd_append_blank (text : List Char) : trimEnd (text ++ gap) = trimEnd text := by
  have reversed : ∀ c ∈ gap.reverse, isBlank c := fun c member => blank c (List.mem_reverse.mp member)
  rw [trimEnd, List.reverse_append, List.dropWhile_append_of_pos reversed, trimEnd]

theorem trim_append_blank (text : List Char) : trim (text ++ gap) = trim text := by
  have nothing : gap.dropWhile isBlank = [] := by
    rw [← List.append_nil gap, List.dropWhile_append_of_pos blank, List.dropWhile_nil]
  rw [trim, trimStart, List.dropWhile_append, nothing, trim, trimStart]
  split
  · rename_i empty
    rw [List.isEmpty_iff.mp empty]
  · exact trimEnd_append_blank blank _

end Blank

/-- A text between white space, with none left at its own ends. -/
structure TrimsTo (text inner : List Char) : Prop where
  between : ∃ before after, text = before ++ inner ++ after ∧ (∀ c ∈ before, isBlank c) ∧ ∀ c ∈ after, isBlank c
  trimmed : Trimmed inner

theorem trimsTo_trim (text : List Char) : TrimsTo text (trim text) where
  between := by
    refine ⟨text.takeWhile isBlank, ((trimStart text).reverse.takeWhile isBlank).reverse, ?_, ?_, ?_⟩
    · have ended : trim text ++ ((trimStart text).reverse.takeWhile isBlank).reverse = trimStart text := by
        rw [trim, trimEnd, ← List.reverse_append, List.takeWhile_append_dropWhile, List.reverse_reverse]
      rw [List.append_assoc, ended, trimStart, List.takeWhile_append_dropWhile]
    · exact takeWhile_held isBlank text
    · intro c member
      exact takeWhile_held isBlank _ c (List.mem_reverse.mp member)
  trimmed := trimmed_trim text

theorem trim_eq_iff {text inner : List Char} : trim text = inner ↔ TrimsTo text inner := by
  constructor
  · rintro rfl
    exact trimsTo_trim text
  · intro trims
    obtain ⟨before, after, rfl, leading, trailing⟩ := trims.between
    rw [trim_append_blank trailing, trim_blank_append leading, trims.trimmed.trim_eq]

theorem Trimmed.append_cons {left right : List Char} {middle : Char} (first : Trimmed left)
    (last : Trimmed right) (solid : isBlank middle = false) : Trimmed (left ++ middle :: right) where
  start c member := by
    cases left with
    | nil => cases member; exact solid
    | cons head tail => exact first.start c member
  finish c member := by
    rw [List.getLast?_append, List.getLast?_cons, Option.some_or] at member
    cases ended : right.getLast? with
    | none =>
      simp only [ended, Option.getD_none, Option.mem_some] at member
      exact member ▸ solid
    | some final =>
      simp only [ended, Option.getD_some, Option.mem_some] at member
      exact member ▸ last.finish final ended

end TagQuery.Text
