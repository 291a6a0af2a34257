import TagQuery.Proofs.CharClass

namespace TagQuery

@[simp] theorem CharClass.ofChar?_toLower (c : Char) : ofChar? c.toLower = ofChar? c := by
  by_cases upper : c.val ≥ 'A'.val ∧ c.val ≤ 'Z'.val
  · have table : (List.range 128).all fun code =>
        ofChar? (Char.ofNat code).toLower == ofChar? (Char.ofNat code) := by decide +kernel
    have ascii := ascii_of_le upper.2 (by decide : 'Z'.toNat < 128)
    have entry := List.all_eq_true.mp table c.toNat (List.mem_range.mpr ascii)
    rw [Char.ofNat_toNat] at entry
    exact eq_of_beq entry
  · have kept : c.toLower = c := dif_neg upper
    rw [kept]

theorem hasClass_of_toLower_eq {property : CharClass → Bool} {c d : Char} (folded : d.toLower = c.toLower) :
    hasClass property d = hasClass property c := by
  rw [hasClass, hasClass, ← CharClass.ofChar?_toLower d, folded, CharClass.ofChar?_toLower]

namespace Text

/-- The texts differ at most in the case of letters, and in that only at some places. -/
structure Recased (places : Nat → Prop) (text other : List Char) : Prop where
  length : other.length = text.length
  letter : ∀ (place : Nat) (c d : Char), text[place]? = some c → other[place]? = some d →
    d = c ∨ d.toLower = c.toLower ∧ places place

theorem recased_iff {places : Nat → Prop} {text other : List Char} :
    Recased places text other ↔ other.length = text.length ∧ ∀ place < text.length,
      other[place]? = text[place]? ∨ other[place]?.map Char.toLower = text[place]?.map Char.toLower ∧ places place := by
  constructor
  · intro recased
    refine ⟨recased.length, fun place above => ?_⟩
    have here := List.getElem?_eq_getElem above
    have there := List.getElem?_eq_getElem (recased.length ▸ above)
    rw [here, there]
    exact (recased.letter place _ _ here there).imp (congrArg some) (And.imp_left (congrArg some))
  · rintro ⟨length, letters⟩
    refine ⟨length, fun place c d here there => ?_⟩
    have either := letters place (List.getElem?_eq_some_iff.mp here).choose
    rw [here, there] at either
    exact either.imp Option.some.inj (And.imp_left Option.some.inj)

instance (places : Nat → Prop) [DecidablePred places] (text other : List Char) :
    Decidable (Recased places text other) :=
  decidable_of_iff' _ recased_iff

namespace Recased

variable {places : Nat → Prop} {text other : List Char}

theorem folded (recased : Recased places text other) (place : Nat) {c d : Char} (here : text[place]? = some c)
    (there : other[place]? = some d) : d.toLower = c.toLower := by
  rcases recased.letter place c d here there with same | changed
  · rw [same]
  · exact changed.1

theorem eq_of_none (recased : Recased places text other) (none : ∀ place < text.length, ¬ places place) :
    other = text := by
  refine List.ext_getElem recased.length fun place below above => ?_
  have either := recased.letter place _ _ (List.getElem?_eq_getElem above) (List.getElem?_eq_getElem below)
  exact either.resolve_right fun changed => none place above changed.2

theorem map_toLower (recased : Recased places text other) : other.map Char.toLower = text.map Char.toLower := by
  refine List.ext_getElem (by simp [recased.length]) fun place below above => ?_
  rw [List.length_map] at below above
  rw [List.getElem_map, List.getElem_map]
  exact recased.folded place (List.getElem?_eq_getElem above) (List.getElem?_eq_getElem below)

theorem head_class (recased : Recased places text other) {property : CharClass → Bool}
    (refused : ∀ c ∈ text.head?, hasClass property c = false) : ∀ d ∈ other.head?, hasClass property d = false := by
  intro d there
  rw [Option.mem_def, List.head?_eq_getElem?] at there
  have some : 0 < text.length := recased.length ▸ (List.getElem?_eq_some_iff.mp there).choose
  have here : text[0]? = .some text[0] := List.getElem?_eq_getElem some
  rw [hasClass_of_toLower_eq (recased.folded 0 here there)]
  exact refused _ (by rw [List.head?_eq_getElem?, here, Option.mem_def])

theorem all_class (recased : Recased places text other) {property : CharClass → Bool}
    (held : ∀ c ∈ text, hasClass property c) : ∀ d ∈ other, hasClass property d := by
  intro d member
  obtain ⟨place, below, rfl⟩ := List.getElem_of_mem member
  have above : place < text.length := recased.length ▸ below
  rw [hasClass_of_toLower_eq (recased.folded place (List.getElem?_eq_getElem above) (List.getElem?_eq_getElem below))]
  exact held _ (List.getElem_mem above)

theorem mono {wider : Nat → Prop} (recased : Recased places text other)
    (implied : ∀ place < text.length, places place → wider place) : Recased wider text other where
  length := recased.length
  letter place c d here there := by
    have above := (List.getElem?_eq_some_iff.mp here).choose
    exact (recased.letter place c d here there).imp_right (And.imp_right (implied place above))

theorem parts {first second : List Char} (recased : Recased places (first ++ second) other) :
    ∃ left right, other = left ++ right ∧ Recased places first left ∧
      Recased (fun place => places (first.length + place)) second right := by
  have length := recased.length
  rw [List.length_append] at length
  refine ⟨other.take first.length, other.drop first.length, (List.take_append_drop _ _).symm, ⟨?_, ?_⟩, ⟨?_, ?_⟩⟩
  · rw [List.length_take]
    omega
  · intro place c d here there
    have below := (List.getElem?_eq_some_iff.mp here).choose
    rw [List.getElem?_take_of_lt below] at there
    exact recased.letter place c d (by rw [List.getElem?_append_left below, here]) there
  · rw [List.length_drop]
    omega
  · intro place c d here there
    rw [List.getElem?_drop] at there
    refine recased.letter _ c d ?_ there
    rw [List.getElem?_append_right (Nat.le_add_right _ _), Nat.add_sub_cancel_left, here]

end Recased

end Text

end TagQuery
