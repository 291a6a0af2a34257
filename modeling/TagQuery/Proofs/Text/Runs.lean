namespace TagQuery.Text

variable {α : Type} {property : α → Bool}

theorem dropWhile_stop (property : α → Bool) (text : List α) :
    ∀ c ∈ (text.dropWhile property).head?, property c = false := by
  intro c first
  have kept := List.head?_dropWhile_not property text
  rw [Option.mem_def] at first
  rw [first] at kept
  exact Bool.eq_false_iff.mpr fun held => by simp [held] at kept

theorem takeWhile_held (property : α → Bool) (text : List α) :
    ∀ c ∈ text.takeWhile property, property c :=
  List.all_eq_true.mp List.all_takeWhile

theorem takeWhile_run {run rest : List α} (inside : ∀ c ∈ run, property c)
    (stop : ∀ c ∈ rest.head?, property c = false) : (run ++ rest).takeWhile property = run := by
  rw [List.takeWhile_append_of_pos inside]
  cases rest with
  | nil => exact List.append_nil run
  | cons c rest => rw [List.takeWhile_cons_of_neg (by simp [stop c rfl]), List.append_nil]

theorem dropWhile_run {run rest : List α} (inside : ∀ c ∈ run, property c)
    (stop : ∀ c ∈ rest.head?, property c = false) : (run ++ rest).dropWhile property = rest := by
  rw [List.dropWhile_append_of_pos inside]
  cases rest with
  | nil => rfl
  | cons c rest => exact List.dropWhile_cons_of_neg (by simp [stop c rfl])

theorem place_cons (position : Nat) (c : α) (text : List α) :
    position + (c :: text).length = position + 1 + text.length := by
  rw [List.length_cons]
  omega

@[simp] theorem getElem?_behind (before after : List α) : (before ++ after)[before.length]? = after.head? := by
  rw [List.getElem?_append_right (Nat.le_refl _), Nat.sub_self, List.head?_eq_getElem?]

theorem begins_alike {c : α} {rest span after : List α} (whole : c :: rest = span ++ after) :
    ∀ d ∈ span.head?, d = c := by
  intro d first
  cases span with
  | nil => cases first
  | cons head tail =>
    cases first
    exact (List.cons.inj whole).1.symm

theorem drop_tail {c : α} {tail span after : List α} (whole : c :: tail = span ++ after) (some : span ≠ []) :
    tail.drop (span.length - 1) = after := by
  have dropped : (c :: tail).drop span.length = after := by rw [whole, List.drop_left]
  have positive : 0 < span.length := List.length_pos_iff.mpr some
  rwa [show span.length = span.length - 1 + 1 by omega, List.drop_succ_cons] at dropped

end TagQuery.Text
