import Mathlib.Data.List.DropRight
import TagQuery.Proofs.Token.Lexed
import TagQuery.Proofs.Text.Pieces
import TagQuery.Proofs.Text.Trim

namespace TagQuery

namespace Text

theorem split_eq_splitOn (separator : Char) (text : List Char) : split separator text = text.splitOn separator := by
  induction text with
  | nil => rw [split, List.splitOn_nil]
  | cons c rest ih =>
    rw [List.splitOn_cons_eq_if_modifyHead, ← ih, split]
    by_cases same : c = separator
    · simp [same]
    · obtain ⟨piece, others, cut⟩ := List.exists_cons_of_ne_nil (split_ne_nil separator rest)
      simp [same, cut]

theorem dropWhile_congr {first second : Char → Bool} {text : List Char} (same : ∀ c ∈ text, first c = second c) :
    text.dropWhile first = text.dropWhile second := by
  induction text with
  | nil => rfl
  | cons c rest ih =>
    obtain ⟨here, later⟩ := List.forall_mem_cons.mp same
    rw [List.dropWhile_cons, List.dropWhile_cons, here, ih later]

def stripped (text : List Char) : List Char :=
  (text.dropWhile (hasClass (· = .whitespace))).rdropWhile (hasClass (· = .whitespace))

theorem trim_eq_stripped {text : List Char} (accepted : ∀ c ∈ text, (CharClass.ofChar? c).isSome) :
    trim text = stripped text := by
  have same : ∀ c ∈ text, isBlank c = hasClass (· = .whitespace) c := by
    intro c member
    obtain ⟨charClass, classified⟩ := Option.isSome_iff_exists.mp (accepted c member)
    exact CharClass.isBlank_eq_hasClass (hasClass_iff.mpr ⟨charClass, classified, rfl⟩ : hasClass (fun _ => true) c)
  have started : trimStart text = text.dropWhile (hasClass (· = .whitespace)) := dropWhile_congr same
  rw [trim, trimEnd, started, stripped, List.rdropWhile]
  refine congrArg List.reverse (dropWhile_congr fun c member => ?_)
  exact same c (List.dropWhile_subset _ (List.mem_reverse.mp member))

end Text

namespace Collection

/-- The items of a collection are what its commas leave of its body, stripped, as far as anything is left. -/
theorem items_eq {body : List Char} (accepted : ∀ c ∈ body, (CharClass.ofChar? c).isSome) :
    items body = (((body.splitOn ',').map Text.stripped).filter (· ≠ [])).map String.ofList := by
  have stripped : (body.splitOn ',').map Text.trim = (body.splitOn ',').map Text.stripped := by
    refine List.map_congr_left fun piece listed => Text.trim_eq_stripped fun c member => ?_
    rw [← Text.split_eq_splitOn] at listed
    exact accepted c (Text.mem_of_mem_split listed member).1
  rw [items, itemsOf, Text.split_eq_splitOn, stripped]

end Collection

theorem tokenize_of_collection {opener closer : Char} {body : String}
    (paired : (opener, closer) = ('(', ')') ∨ (opener, closer) = ('[', ']'))
    (inside : ∀ c ∈ body.toList, hasClass CharClass.isCollectionPart c) :
    tokenize (String.singleton opener ++ body ++ String.singleton closer) =
      .ok [⟨.collection (Collection.items body.toList), 0⟩] := by
  have whole : (String.singleton opener ++ body ++ String.singleton closer).toList =
      (opener :: (body.toList ++ [closer])) ++ [] := by simp
  rw [tokenize_eq_ok_iff, whole]
  exact .token (.collection paired inside) trivial .done

theorem tokenize_of_unterminated {opener closer : Char} {body rest : String}
    (paired : (opener, closer) = ('(', ')') ∨ (opener, closer) = ('[', ']'))
    (inside : ∀ c ∈ body.toList, hasClass CharClass.isCollectionPart c)
    (known : ∀ c ∈ rest.toList, (CharClass.ofChar? c).isSome)
    (stop : ∀ c ∈ rest.toList.head?, hasClass CharClass.isCollectionPart c = false)
    (unclosed : rest.toList.head? ≠ some closer) :
    tokenize (String.singleton opener ++ body ++ rest) =
      .error (.unterminatedAt closer 0 (opener :: (body.toList ++ rest.toList))) := by
  have whole : (String.singleton opener ++ body ++ rest).toList = opener :: (body.toList ++ rest.toList) := by simp
  have opens : (CharClass.ofChar? opener).isSome := by rcases paired with same | same <;> cases same <;> rfl
  have all : ∀ c ∈ (String.singleton opener ++ body ++ rest).toList, (CharClass.ofChar? c).isSome := by
    rw [whole]
    exact List.forall_mem_cons.mpr
      ⟨opens, List.forall_mem_append.mpr ⟨fun c member => isSome_of_hasClass (inside c member), known⟩⟩
  have failed {charClass : CharClass} (classified : CharClass.ofChar? opener = some charClass) :=
    Lexeme.readCollection_unclosed paired classified inside stop unclosed 0
  rcases paired with same | same <;> cases same
  · exact tokenize_of_read_error all whole rfl (by decide) (failed rfl)
  · exact tokenize_of_read_error all whole rfl (by decide) (failed rfl)

/-- A collection is split at its commas and each item stripped. What is empty then is no item. Where something
    else than its closer ends its body, the collection is reported where it begins. -/
theorem tokenize_collection_body (opener closer : Char)
    (paired : (opener, closer) = ('(', ')') ∨ (opener, closer) = ('[', ']')) (body : String)
    (accepted : ∀ c ∈ body.toList, (CharClass.ofChar? c).isSome) (inside : ∀ c ∈ body.toList, c ∉ collectionStops) :
    let items := (((body.toList.splitOn ',').map Text.stripped).filter (· ≠ [])).map String.ofList
    tokenize (String.singleton opener ++ body ++ String.singleton closer) = .ok [⟨.collection items, 0⟩] ∧
    ∀ rest : String, (∀ c ∈ rest.toList, (CharClass.ofChar? c).isSome) →
      (∀ c ∈ rest.toList.head?, c ∈ collectionStops ∧ c ≠ closer) →
        let text := String.singleton opener ++ body ++ rest
        tokenize text = .error (.unterminatedGrouping closer 0 (String.ofList (text.toList.take 24))) := by
  intro items
  have part : ∀ c ∈ body.toList, hasClass CharClass.isCollectionPart c := fun c member =>
    hasClass_isCollectionPart_iff.mpr ⟨accepted c member, inside c member⟩
  refine ⟨?_, ?_⟩
  · rw [tokenize_of_collection paired part, Collection.items_eq accepted]
  · intro rest known ends text
    have stop : ∀ c ∈ rest.toList.head?, hasClass CharClass.isCollectionPart c = false := fun c first =>
      Bool.eq_false_iff.mpr fun held => (hasClass_isCollectionPart_iff.mp held).2 (ends c first).1
    have unclosed : rest.toList.head? ≠ some closer := fun first => (ends closer first).2 rfl
    have whole : text.toList = opener :: (body.toList ++ rest.toList) := by simp [text]
    rw [tokenize_of_unterminated paired part known stop unclosed, ← whole]
    rfl

theorem tokenize_collection_body_repeated :
    let body := " title = A&B ,,*,\t, title = A&B"
    let text := "[" ++ body ++ "; delete ()"
    (∀ c ∈ body.toList, (CharClass.ofChar? c).isSome) ∧ (∀ c ∈ body.toList, c ∉ collectionStops) ∧
      tokenize ("[" ++ body ++ "]") = .ok [⟨.collection ["title = A&B", "*", "title = A&B"], 0⟩] ∧
      tokenize text = .error (.unterminatedGrouping ']' 0 "[ title = A&B ,,*,\t, tit") := by
  intro body text
  have accepted : ∀ c ∈ body.toList, (CharClass.ofChar? c).isSome := List.all_eq_true.mp (by decide)
  have free : body.toList.all (· ∉ collectionStops) := by decide
  have inside : ∀ c ∈ body.toList, c ∉ collectionStops := fun c member =>
    of_decide_eq_true (List.all_eq_true.mp free c member)
  have known : ∀ c ∈ "; delete ()".toList, (CharClass.ofChar? c).isSome := List.all_eq_true.mp (by decide)
  have ends : ∀ c ∈ "; delete ()".toList.head?, c ∈ collectionStops ∧ c ≠ ']' := by
    rintro _ ⟨⟩
    decide
  obtain ⟨closed, ended⟩ := tokenize_collection_body '[' ']' (.inr rfl) body accepted inside
  have failed := ended "; delete ()" known ends
  have items : (((body.toList.splitOn ',').map Text.stripped).filter (· ≠ [])).map String.ofList =
      ["title = A&B", "*", "title = A&B"] := by decide +kernel
  have near : String.ofList (text.toList.take 24) = "[ title = A&B ,,*,\t, tit" := by decide +kernel
  rw [items] at closed
  exact ⟨accepted, inside, closed, near ▸ failed⟩

end TagQuery
