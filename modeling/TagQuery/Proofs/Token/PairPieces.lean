import TagQuery.Proofs.Token.Itemwise

namespace TagQuery

open Text (White)

namespace TargetPairs

/-- What may stand between two commas of a target: white space, or a key and a value on the two sides of an
    equal sign. -/
inductive IsPiece : List Char → Prop
  | white {gap : List Char} (white : White gap) : IsPiece gap
  | pair {key value : List Char} (named : Text.trim key ≠ []) (keyPart : ∀ c ∈ key, isPart c)
      (valuePart : ∀ c ∈ value, isPart c) : IsPiece (key ++ '=' :: value)

/-- The pair of a piece that stands at `position`, if the piece has an equal sign. White space before the key
    has no part in it. -/
def pairAt? (position : Nat) (piece : List Char) : Option TargetPair :=
  match piece.dropWhile (· ≠ '=') with
  | [] => none
  | _ :: value =>
    some (pairOf (position + (piece.takeWhile (hasClass (· = .whitespace))).length) (piece.takeWhile (· ≠ '=')) value)

def pairsAt (position : Nat) : List (List Char) → List TargetPair
  | [] => []
  | piece :: rest => (pairAt? position piece).toList ++ pairsAt (position + piece.length + 1) rest

theorem pairAt?_white {gap : List Char} (white : White gap) (position : Nat) : pairAt? position gap = none := by
  have different : ∀ c ∈ gap, decide (c ≠ '=') := by
    rintro c member
    refine decide_eq_true ?_
    rintro rfl
    exact white.not_mem (by decide) member
  have dropped : gap.dropWhile (· ≠ '=') = [] := List.dropWhile_eq_nil_iff.mpr different
  rw [pairAt?, dropped]

theorem pairAt?_pair {key value : List Char} (keyPart : ∀ c ∈ key, isPart c) (position : Nat) :
    pairAt? position (key ++ '=' :: value) =
      some (pairOf (position + (key.takeWhile (hasClass (· = .whitespace))).length) key value) := by
  have different : ∀ c ∈ key, decide (c ≠ '=') := by
    rintro c member
    refine decide_eq_true ?_
    rintro rfl
    exact absurd (keyPart '=' member) (by decide)
  have stop : ∀ c ∈ ('=' :: value).head?, decide (c ≠ '=') = false := by
    intro c equal
    cases equal
    rfl
  have leading : (key ++ '=' :: value).takeWhile (hasClass (· = .whitespace)) =
      key.takeWhile (hasClass (· = .whitespace)) := by
    rw [List.takeWhile_append]
    split
    · rename_i all
      have whole := (List.takeWhile_prefix (hasClass (· = .whitespace)) (l := key)).eq_of_length all
      have solid : hasClass (· = .whitespace) '=' = false := by decide
      rw [List.takeWhile_cons_of_neg (by simp [solid]), List.append_nil, whole]
    · rfl
  rw [pairAt?, Text.dropWhile_run different stop, Text.takeWhile_run different stop, leading]

section Reading

variable {piece gap body rest : List Char} {pieces : List (List Char)}

theorem read_white (white : White gap) (position : Nat) (rest : List Char) :
    read position (gap ++ rest) = read (position + gap.length) rest := by
  induction gap generalizing position with
  | nil => rfl
  | cons c gap ih =>
    obtain ⟨first, white⟩ := List.forall_mem_cons.mp white
    rw [List.cons_append, read_skip (.inr first), ih white, Text.place_cons]

theorem pairOf_white_append (white : White gap) (position : Nat) (key value : List Char) :
    pairOf position (gap ++ key) value = pairOf position key value := by
  simp only [pairOf, contentOf, Text.trim_blank_append white.blank]

theorem exists_solid {key : List Char} (named : Text.trim key ≠ []) :
    ∃ gap solid, key = gap ++ solid ∧ White gap ∧ key.takeWhile (hasClass (· = .whitespace)) = gap ∧ solid ≠ [] ∧
      ∀ c ∈ solid.head?, hasClass (· = .whitespace) c = false := by
  have parted := List.takeWhile_append_dropWhile (p := hasClass (· = .whitespace)) (l := key)
  have white : White (key.takeWhile (hasClass (· = .whitespace))) := Text.takeWhile_held _ _
  refine ⟨_, _, parted.symm, white, rfl, ?_, Text.dropWhile_stop _ _⟩
  intro none
  have blank : key = key.takeWhile (hasClass (· = .whitespace)) ++ [] := by rw [← none, parted]
  rw [blank, Text.trim_blank_append white.blank] at named
  exact named rfl

theorem read_piece (shaped : IsPiece piece) (closing : ∃ c ∈ rest.head?, c = ',' ∨ c = '}') (position : Nat) :
    read position (piece ++ rest) =
      ⟨(pairAt? position piece).toList ++ (read (position + piece.length) rest).pairs,
        (read (position + piece.length) rest).ending⟩ := by
  cases shaped with
  | white white => rw [pairAt?_white white, read_white white]; rfl
  | @pair key value named keyPart valuePart =>
    rw [pairAt?_pair keyPart]
    obtain ⟨gap, solid, rfl, white, leading, some, begun⟩ := exists_solid named
    have solidPart : ∀ c ∈ solid, isPart c := fun c member => keyPart c (List.mem_append_right _ member)
    have whole : gap ++ solid ++ '=' :: value ++ rest = gap ++ (solid ++ '=' :: (value ++ rest)) := by simp
    have place : position + gap.length + (solid.length + 1 + value.length) =
        position + (gap ++ solid ++ '=' :: value).length := by
      simp only [List.length_append, List.length_cons]
      omega
    rw [whole, read_white white, read_pair _ some begun solidPart valuePart closing, leading,
      pairOf_white_append white, place]
    rfl

theorem read_last_piece (shaped : IsPiece piece) (position : Nat) : read position piece = ⟨[], .unterminated⟩ := by
  cases shaped with
  | white white =>
    rw [← List.append_nil piece, read_white white, read]
  | @pair key value named keyPart valuePart =>
    obtain ⟨gap, solid, rfl, white, -, some, begun⟩ := exists_solid named
    have solidPart : ∀ c ∈ solid, isPart c := fun c member => keyPart c (List.mem_append_right _ member)
    have failed := readPair_unterminated (position + gap.length) some solidPart valuePart
    rw [List.append_assoc, read_white white]
    obtain ⟨c, tail, rfl⟩ := List.exists_cons_of_ne_nil some
    rw [List.cons_append] at failed ⊢
    rw [read_part (solidPart c List.mem_cons_self) (begun c rfl), failed]

theorem read_pieces (some : pieces ≠ []) (shaped : ∀ piece ∈ pieces, IsPiece piece) (position : Nat)
    (rest : List Char) :
    read position ([','].intercalate pieces ++ '}' :: rest) =
      ⟨pairsAt position pieces, .closed (position + ([','].intercalate pieces).length + 1)⟩ := by
  induction pieces generalizing position with
  | nil => exact absurd rfl some
  | cons piece others ih =>
    obtain ⟨first, later⟩ := List.forall_mem_cons.mp shaped
    cases others with
    | nil =>
      rw [List.intercalate_singleton, read_piece first ⟨'}', rfl, .inr rfl⟩, read, if_pos rfl]
      rfl
    | cons next others =>
      rw [List.intercalate_cons_cons, List.append_assoc, List.append_assoc, List.singleton_append,
        read_piece first ⟨',', rfl, .inl rfl⟩, read_skip (.inl rfl), ih (List.cons_ne_nil _ _) later]
      simp only [pairsAt, List.length_append, List.length_cons, List.length_nil]
      congr 2
      omega

theorem read_pieces_unterminated (some : pieces ≠ []) (shaped : ∀ piece ∈ pieces, IsPiece piece) (position : Nat) :
    read position ([','].intercalate pieces) = ⟨pairsAt position pieces.dropLast, .unterminated⟩ := by
  induction pieces generalizing position with
  | nil => exact absurd rfl some
  | cons piece others ih =>
    obtain ⟨first, later⟩ := List.forall_mem_cons.mp shaped
    cases others with
    | nil => rw [List.intercalate_singleton, read_last_piece first]; rfl
    | cons next others =>
      rw [List.intercalate_cons_cons, List.append_assoc, List.singleton_append, read_piece first ⟨',', rfl, .inl rfl⟩,
        read_skip (.inl rfl), ih (List.cons_ne_nil _ _) later]
      rfl

theorem isPiece_of_spelled {contents : List (String × Requirement)} (spelled : Spelled piece contents)
    (solid : ',' ∉ piece) : IsPiece piece := by
  induction spelled with
  | done => exact .white (by simp [White])
  | @skip c inside contents skipped _ ih =>
    rw [List.mem_cons, not_or] at solid
    have blank := skipped.resolve_left (Ne.symm solid.1)
    cases ih solid.2 with
    | white white => exact .white (List.forall_mem_cons.mpr ⟨blank, white⟩)
    | @pair key value named keyPart valuePart =>
      have gap : White [c] := List.forall_mem_singleton.mpr blank
      have longerPart : ∀ d ∈ c :: key, isPart d :=
        List.forall_mem_cons.mpr ⟨gap.hasClass_of_held rfl c List.mem_cons_self, keyPart⟩
      have longerNamed : Text.trim (c :: key) ≠ [] := by
        rwa [← List.singleton_append, Text.trim_blank_append gap.blank]
      exact .pair longerNamed longerPart valuePart
  | @pair key value inside contents named begun keyPart valuePart ended _ _ =>
    have none : inside = [] := by
      cases inside with
      | nil => rfl
      | cons c inside =>
        cases ended c rfl
        simp at solid
    rw [none, List.append_nil]
    refine .pair ?_ keyPart valuePart
    obtain ⟨c, rest, rfl⟩ := List.exists_cons_of_ne_nil named
    have visible : Text.isBlank c = false :=
      (CharClass.isBlank_eq_hasClass (keyPart c List.mem_cons_self)).trans (begun c rfl)
    exact List.ne_nil_of_mem (Text.mem_trim List.mem_cons_self visible)

end Reading

section Body

variable {body : List Char} {pieces : List (List Char)} {contents : List (String × Requirement)}

theorem IsPiece.known {piece : List Char} (shaped : IsPiece piece) : ∀ c ∈ piece, c = '=' ∨ isPart c := by
  intro c member
  cases shaped with
  | white white => exact .inr (white.hasClass_of_held rfl c member)
  | pair named keyPart valuePart =>
    rcases List.mem_append.mp member with inKey | inValue
    · exact .inr (keyPart c inKey)
    · exact (List.mem_cons.mp inValue).imp_right (valuePart c)

theorem brace_not_mem_intercalate (shaped : ∀ piece ∈ pieces, IsPiece piece) : '}' ∉ [','].intercalate pieces := by
  intro member
  rcases Text.mem_intercalate member with same | ⟨piece, listed, held⟩
  · cases same
  · rcases (shaped piece listed).known '}' held with same | part
    · cases same
    · exact absurd part (by decide)

theorem spelled_of_pieces (some : pieces ≠ []) (shaped : ∀ piece ∈ pieces, IsPiece piece) (position : Nat) :
    Spelled ([','].intercalate pieces) ((pairsAt position pieces).map TargetPair.content) := by
  obtain ⟨inside, rest, whole, -, spelled⟩ := read_sound (read_pieces some shaped position [])
  obtain ⟨same, -⟩ := (List.append_cons_inj_of_notMem (brace_not_mem_intercalate shaped) List.not_mem_nil).mp whole
  rwa [same]

/-- What may stand between the braces of a target is told piece by piece, and so are its pairs. -/
theorem spelled_iff (position : Nat) :
    Spelled body contents ↔ (∀ piece ∈ Text.split ',' body, IsPiece piece) ∧
      (pairsAt position (Text.split ',' body)).map TargetPair.content = contents := by
  have some := Text.split_ne_nil ',' body
  have joined := Text.intercalate_split ',' body
  constructor
  · intro spelled
    have shaped : ∀ piece ∈ Text.split ',' body, IsPiece piece := by
      intro piece listed
      rw [← joined] at spelled
      obtain ⟨part, held⟩ := itemwise.of_pieces some spelled piece listed
      exact isPiece_of_spelled held fun member => (Text.mem_of_mem_split listed member).2 rfl
    obtain ⟨pairs, found, content⟩ := read_complete spelled position []
    have again := read_pieces some shaped position []
    rw [joined, found] at again
    cases again
    exact ⟨shaped, content⟩
  · intro both
    obtain ⟨shaped, content⟩ := both
    have spelled := spelled_of_pieces some shaped position
    rwa [joined, content] at spelled

theorem pairsAt_dropLast_sublist (position : Nat) (pieces : List (List Char)) :
    (pairsAt position pieces.dropLast).Sublist (pairsAt position pieces) := by
  induction pieces generalizing position with
  | nil => exact List.nil_sublist _
  | cons piece others ih =>
    cases others with
    | nil => exact List.nil_sublist _
    | cons next others => exact (ih (position + piece.length + 1)).append_left _

end Body

end TargetPairs

end TagQuery
