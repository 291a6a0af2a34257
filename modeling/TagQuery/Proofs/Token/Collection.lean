import Mathlib.Data.List.TakeWhile
import TagQuery.Proofs.Text.Pieces
import TagQuery.Proofs.Text.Spacing
import TagQuery.Proofs.Text.Trim
import TagQuery.Token.Collection

namespace TagQuery.Collection

/-- The items that these pieces of a collection come to. -/
def itemsOf (pieces : List (List Char)) : List String :=
  ((pieces.map Text.trim).filter (· ≠ [])).map String.ofList

def items (body : List Char) : List String := itemsOf (Text.split ',' body)

theorem itemsOf_cons (piece : List Char) (pieces : List (List Char)) :
    itemsOf (piece :: pieces) =
      if Text.trim piece = [] then itemsOf pieces else String.ofList (Text.trim piece) :: itemsOf pieces := by
  by_cases none : Text.trim piece = [] <;> simp [itemsOf, none]

@[simp] theorem itemsOf_append (first second : List (List Char)) :
    itemsOf (first ++ second) = itemsOf first ++ itemsOf second := by
  simp only [itemsOf, List.map_append, List.filter_append]

theorem itemsOf_cons_congr {piece other : List Char} (same : Text.trim piece = Text.trim other)
    (pieces : List (List Char)) : itemsOf (piece :: pieces) = itemsOf (other :: pieces) := by
  simp only [itemsOf, List.map_cons, same]

@[simp] theorem items_nil : items [] = [] := rfl

@[simp] theorem items_append_comma (left right : List Char) :
    items (left ++ ',' :: right) = items left ++ items right := by
  rw [items, Text.split_append_separator]
  exact itemsOf_append _ _

theorem items_white_append {gap : List Char} (white : Text.White gap) (text : List Char) :
    items (gap ++ text) = items text := by
  obtain ⟨piece, others, begun⟩ := List.exists_cons_of_ne_nil (Text.split_ne_nil ',' text)
  have alone : Text.split ',' gap = [] ++ [gap] := Text.split_of_not_mem (white.not_mem (by decide))
  have joined := Text.split_append alone begun
  rw [items, joined, items, begun]
  exact itemsOf_cons_congr (Text.trim_blank_append white.blank piece) others

theorem items_append_white {gap : List Char} (white : Text.White gap) (text : List Char) :
    items (text ++ gap) = items text := by
  obtain ⟨first, last, ended⟩ := Text.exists_split_eq_concat ',' text
  have alone : Text.split ',' gap = [gap] := Text.split_of_not_mem (white.not_mem (by decide))
  have joined := Text.split_append ended alone
  rw [items, joined, items, ended, itemsOf_append, itemsOf_append,
    itemsOf_cons_congr (Text.trim_append_blank white.blank last)]

theorem items_skip {c : Char} (skipped : c = ',' ∨ hasClass (· = .whitespace) c) (rest : List Char) :
    items (c :: rest) = items rest := by
  rcases skipped with rfl | white
  · exact items_append_comma [] rest
  · exact items_white_append (List.forall_mem_singleton.mpr white) rest

theorem items_run {run rest : List Char} (solid : ',' ∉ run) (stop : ∀ c ∈ rest.head?, c = ',') :
    items (run ++ rest) =
      if Text.trim run = [] then items rest else String.ofList (Text.trim run) :: items rest := by
  cases rest with
  | nil =>
    rw [List.append_nil, items, Text.split_of_not_mem solid]
    exact itemsOf_cons run []
  | cons c rest =>
    cases stop c rfl
    rw [items, Text.split_append_cons solid, itemsOf_cons, items_skip (.inl rfl)]
    rfl

section Step

variable {closer : CharClass} {c : Char} {rest : List Char}

theorem read_skip (grouping : closer.isGrouping) (skipped : c = ',' ∨ hasClass (· = .whitespace) c) :
    read closer (c :: rest) = (read closer rest).map fun found => (found.1, found.2 + 1) := by
  rcases skipped with rfl | white
  · have other : .comma ≠ closer := by
      rintro rfl
      cases grouping
    have classified : CharClass.ofChar? ',' = some .comma := rfl
    simp only [read, classified, reduceCtorEq, other, ↓reduceIte]
  · obtain ⟨charClass, classified, same⟩ := hasClass_iff.mp white
    cases of_decide_eq_true same
    rw [read, classified]
    rfl

theorem read_closer (closes : CharClass.ofChar? c = some closer) (grouping : closer.isGrouping) :
    read closer (c :: rest) = some ([], 1) := by
  have solid : closer ≠ .whitespace := by
    rintro rfl
    cases grouping
  simp only [read, closes, solid, ↓reduceIte]

theorem read_stop (stop : hasClass CharClass.isCollectionPart c = false)
    (unclosed : CharClass.ofChar? c ≠ some closer) : read closer (c :: rest) = none := by
  cases classified : CharClass.ofChar? c with
  | none => rw [read, classified]
  | some charClass =>
    have other : charClass ≠ closer := fun same => unclosed (same ▸ classified)
    rw [hasClass_of_ofChar? classified] at stop
    rw [read, classified]
    cases charClass <;> cases stop <;> simp [other, CharClass.isGrouping]

theorem read_run {run : List Char} (grouping : closer.isGrouping) (some : run ≠ [])
    (solid : ∀ c ∈ run.head?, hasClass (· = .whitespace) c = false)
    (inside : ∀ c ∈ run, hasClass CharClass.isItemPart c)
    (stop : ∀ c ∈ rest.head?, hasClass CharClass.isItemPart c = false) :
    read closer (run ++ rest) = (read closer rest).map fun found =>
      (if Text.trim run = [] then found.1 else String.ofList (Text.trim run) :: found.1, run.length + found.2) := by
  obtain ⟨c, tail, rfl⟩ := List.exists_cons_of_ne_nil some
  have found : (c :: (tail ++ rest)).takeWhile (hasClass CharClass.isItemPart) = c :: tail :=
    Text.takeWhile_run inside stop
  obtain ⟨charClass, classified, part⟩ := hasClass_iff.mp (inside c List.mem_cons_self)
  have visible := solid c rfl
  rw [hasClass_of_ofChar? classified] at visible
  have other : charClass ≠ closer := by
    rintro rfl
    cases charClass <;> cases grouping <;> cases part
  rw [List.cons_append, read, classified]
  cases charClass <;> cases part <;> cases visible <;> simp [found, other, CharClass.isGrouping]

end Step

theorem exists_run {c : Char} {tail : List Char} (inside : ∀ d ∈ c :: tail, hasClass CharClass.isCollectionPart d)
    (comma : c ≠ ',') :
    ∃ run back, c :: tail = (c :: run) ++ back ∧ (∀ d ∈ c :: run, hasClass CharClass.isItemPart d) ∧
      ∀ d ∈ back.head?, d = ',' := by
  obtain ⟨first, later⟩ := List.forall_mem_cons.mp inside
  refine ⟨tail.takeWhile (hasClass CharClass.isItemPart), tail.dropWhile (hasClass CharClass.isItemPart), ?_, ?_, ?_⟩
  · rw [List.cons_append, List.takeWhile_append_dropWhile]
  · exact List.forall_mem_cons.mpr ⟨hasClass_isItemPart_iff.mpr ⟨first, comma⟩, Text.takeWhile_held _ tail⟩
  · intro d leading
    have refused := Text.dropWhile_stop (hasClass CharClass.isItemPart) tail d leading
    have part := later d (List.dropWhile_subset _ (List.mem_of_mem_head? leading))
    by_contra different
    rw [hasClass_isItemPart_iff.mpr ⟨part, different⟩] at refused
    cases refused

section Body

variable {closer : CharClass} {rest : List Char} (grouping : closer.isGrouping)

include grouping

/-- A body that nothing after it continues is read as its items, and the reading goes on behind it. -/
theorem read_append (stop : ∀ c ∈ rest.head?, hasClass CharClass.isCollectionPart c = false) (body : List Char)
    (inside : ∀ c ∈ body, hasClass CharClass.isCollectionPart c) :
    read closer (body ++ rest) =
      (read closer rest).map fun found => (items body ++ found.1, body.length + found.2) := by
  -- Each step of the loop takes a character that is skipped or a whole run from the front of the body.
  match body with
  | [] => simp
  | c :: tail =>
    by_cases skipped : c = ',' ∨ hasClass (· = .whitespace) c
    · have later := read_append stop tail (List.forall_mem_cons.mp inside).2
      rw [List.cons_append, read_skip grouping skipped, later, items_skip skipped, Option.map_map]
      simp only [Function.comp_def, List.length_cons, Nat.add_right_comm]
    · obtain ⟨comma, white⟩ := not_or.mp skipped
      obtain ⟨run, back, whole, part, ended⟩ := exists_run inside comma
      have solid : ∀ d ∈ (c :: run).head?, hasClass (· = .whitespace) d = false := by
        rintro _ ⟨⟩
        exact Bool.eq_false_iff.mpr white
      have apart : ',' ∉ c :: run := fun member => (hasClass_isItemPart_iff.mp (part ',' member)).2 rfl
      have within : ∀ d ∈ back, hasClass CharClass.isCollectionPart d := fun d member =>
        inside d (whole ▸ List.mem_append_right _ member)
      have behind : ∀ d ∈ (back ++ rest).head?, hasClass CharClass.isItemPart d = false := by
        cases back with
        | nil =>
          intro d first
          exact hasClass_eq_false_imp (fun _ part => (Bool.and_eq_true_iff.mp part).1) (stop d first)
        | cons d back =>
          cases ended d rfl
          rintro _ ⟨⟩
          rfl
      have later := read_append stop back within
      rw [whole, List.append_assoc, read_run grouping (List.cons_ne_nil c run) solid part behind, later,
        items_run apart ended, Option.map_map, List.length_append]
      by_cases none : Text.trim (c :: run) = [] <;>
        simp only [none, ↓reduceIte, Function.comp_def, List.cons_append, Nat.add_assoc]
termination_by body.length
decreasing_by
  · simp
  · have shorter := congrArg List.length whole
    simp at shorter ⊢
    omega

theorem read_complete {body : List Char} {c : Char} (inside : ∀ d ∈ body, hasClass CharClass.isCollectionPart d)
    (closes : CharClass.ofChar? c = some closer) (after : List Char) :
    read closer (body ++ c :: after) = some (items body, body.length + 1) := by
  have stop : ∀ d ∈ (c :: after).head?, hasClass CharClass.isCollectionPart d = false := by
    rintro _ ⟨⟩
    rw [hasClass_of_ofChar? closes, CharClass.isCollectionPart, grouping]
    rfl
  simp [read_append grouping stop body inside, read_closer closes grouping]

theorem read_unclosed {body : List Char} (inside : ∀ d ∈ body, hasClass CharClass.isCollectionPart d)
    (stop : ∀ d ∈ rest.head?, hasClass CharClass.isCollectionPart d = false)
    (unclosed : ∀ d ∈ rest.head?, CharClass.ofChar? d ≠ some closer) : read closer (body ++ rest) = none := by
  rw [read_append grouping stop body inside]
  cases rest with
  | nil => simp [read]
  | cons c after =>
    rw [read_stop (stop c rfl) (unclosed c rfl)]
    rfl

theorem read_sound {input : List Char} {found : List String} {taken : Nat}
    (read : Collection.read closer input = some (found, taken)) :
    ∃ body c after, input = body ++ c :: after ∧ CharClass.ofChar? c = some closer ∧
      (∀ d ∈ body, hasClass CharClass.isCollectionPart d) ∧ found = items body ∧ taken = body.length + 1 := by
  have inside := Text.takeWhile_held (hasClass CharClass.isCollectionPart) input
  have stop := Text.dropWhile_stop (hasClass CharClass.isCollectionPart) input
  have parted : input.takeWhile (hasClass CharClass.isCollectionPart) ++
      input.dropWhile (hasClass CharClass.isCollectionPart) = input := List.takeWhile_append_dropWhile
  by_cases closed : ∃ c ∈ (input.dropWhile (hasClass CharClass.isCollectionPart)).head?,
      CharClass.ofChar? c = some closer
  · obtain ⟨c, first, closes⟩ := closed
    obtain ⟨after, behind⟩ := List.head?_eq_some_iff.mp first
    rw [behind] at parted
    rw [← parted, read_complete grouping inside closes after] at read
    cases read
    exact ⟨_, c, after, parted.symm, closes, inside, rfl, rfl⟩
  · have unclosed := read_unclosed grouping inside stop fun d first closes => closed ⟨d, first, closes⟩
    rw [parted, read] at unclosed
    cases unclosed

end Body

end TagQuery.Collection
