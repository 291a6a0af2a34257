import Mathlib.Data.List.TakeWhile
import TagQuery.Proofs.CharClass
import TagQuery.Proofs.Text.Runs
import TagQuery.Token.TargetPairs

namespace TagQuery

def TargetPair.content (pair : TargetPair) : String × Requirement := (pair.label, pair.value)

namespace TargetPairs

def contentOf (key value : List Char) : String × Requirement :=
  (String.ofList (Text.trim key), .ofText (String.ofList (Text.trim value)))

/-- The texts that may stand between the braces of a target, with what their pairs say. -/
inductive Spelled : List Char → List (String × Requirement) → Prop
  | done : Spelled [] []
  | skip {c : Char} {inside : List Char} {contents : List (String × Requirement)}
      (skipped : c = ',' ∨ hasClass (· = .whitespace) c) (others : Spelled inside contents) :
      Spelled (c :: inside) contents
  | pair {key value inside : List Char} {contents : List (String × Requirement)} (named : key ≠ [])
      (solid : ∀ c ∈ key.head?, hasClass (· = .whitespace) c = false) (keyPart : ∀ c ∈ key, isPart c)
      (valuePart : ∀ c ∈ value, isPart c) (ended : ∀ c ∈ inside.head?, c = ',')
      (others : Spelled inside contents) :
      Spelled (key ++ '=' :: (value ++ inside)) (contentOf key value :: contents)

theorem Spelled.known {inside : List Char} {contents : List (String × Requirement)}
    (spelled : Spelled inside contents) :
    ∀ c ∈ inside, c = ',' ∨ c = '=' ∨ isPart c := by
  induction spelled with
  | done => simp
  | skip skipped _ ih =>
    intro c member
    rcases List.mem_cons.mp member with rfl | member
    · rcases skipped with comma | blank
      · exact .inl comma
      · exact .inr (.inr (hasClass_imp (fun charClass => by cases charClass <;> decide) blank))
    · exact ih c member
  | pair _ _ keyPart valuePart _ _ ih =>
    intro c member
    simp only [List.mem_append, List.mem_cons] at member
    rcases member with member | rfl | member | member
    · exact .inr (.inr (keyPart c member))
    · exact .inr (.inl rfl)
    · exact .inr (.inr (valuePart c member))
    · exact ih c member

theorem Spelled.unclosed {inside : List Char} {contents : List (String × Requirement)}
    (spelled : Spelled inside contents) : '}' ∉ inside :=
  fun member => absurd (spelled.known '}' member) (by decide)

def pairOf (position : Nat) (key value : List Char) : TargetPair where
  label := (contentOf key value).1
  value := (contentOf key value).2
  position := position

theorem readPair_sound {position length : Nat} {input : List Char} {pair : TargetPair}
    (found : readPair position input = .ok (pair, length)) :
    ∃ key value rest, input = key ++ '=' :: (value ++ rest) ∧ key ≠ [] ∧ (∀ c ∈ key, isPart c) ∧
      (∀ c ∈ value, isPart c) ∧ (∃ c ∈ rest.head?, c = ',' ∨ c = '}') ∧
      pair = pairOf position key value ∧ length = (key ++ '=' :: value).length := by
  have parted : input.takeWhile isPart ++ input.dropWhile isPart = input :=
    List.takeWhile_append_dropWhile
  unfold readPair at found
  dsimp only at found
  split at found
  · cases found
  · rename_i afterEqual following
    split at found
    · cases found
    · rename_i named
      have partedAfter : afterEqual.takeWhile isPart ++ afterEqual.dropWhile isPart = afterEqual :=
        List.takeWhile_append_dropWhile
      split at found
      · cases found
      · rename_i c rest stopped
        split at found
        · rename_i closing
          cases found
          refine ⟨_, _, c :: rest, ?_, named, Text.takeWhile_held _ _, Text.takeWhile_held isPart afterEqual,
            ⟨c, rfl, closing⟩, rfl, ?_⟩
          · rw [← stopped, partedAfter, ← following, parted]
          · simp [Nat.add_assoc, Nat.add_comm 1]
        · cases found
  · cases found

theorem readPair_complete {key value rest : List Char} (position : Nat) (named : key ≠ [])
    (keyPart : ∀ c ∈ key, isPart c) (valuePart : ∀ c ∈ value, isPart c)
    (closing : ∃ c ∈ rest.head?, c = ',' ∨ c = '}') :
    readPair position (key ++ '=' :: (value ++ rest)) =
      .ok (pairOf position key value, key.length + 1 + value.length) := by
  obtain ⟨c, first, closing⟩ := closing
  obtain ⟨tail, rfl⟩ := List.head?_eq_some_iff.mp first
  have stop : isPart c = false := by rcases closing with rfl | rfl <;> decide
  have keyStop : ∀ d ∈ ('=' :: (value ++ c :: tail)).head?, isPart d = false := by
    intro d equal
    cases equal
    decide
  have valueStop : ∀ d ∈ (c :: tail).head?, isPart d = false := by
    intro d same
    cases same
    exact stop
  simp only [readPair, Text.takeWhile_run keyPart keyStop, Text.dropWhile_run keyPart keyStop,
    Text.takeWhile_run valuePart valueStop, Text.dropWhile_run valuePart valueStop, named, closing,
    ↓reduceIte]
  rfl

theorem readPair_unterminated {key value : List Char} (position : Nat) (named : key ≠ [])
    (keyPart : ∀ c ∈ key, isPart c) (valuePart : ∀ c ∈ value, isPart c) :
    readPair position (key ++ '=' :: value) = .error .unterminated := by
  have keyStop : ∀ c ∈ ('=' :: value).head?, isPart c = false := by
    intro c equal
    cases equal
    decide
  have nothing : value.dropWhile isPart = [] := List.dropWhile_eq_nil_iff.mpr valuePart
  simp only [readPair, Text.takeWhile_run keyPart keyStop, Text.dropWhile_run keyPart keyStop, named, nothing,
    ↓reduceIte]

theorem readPair_error {position : Nat} {input : List Char} {ending : PairsEnd}
    (failed : readPair position input = .error ending) :
    ending = .unterminated ∨
      ∃ front rest, input = front ++ rest ∧ ending = .unexpected (position + front.length) rest := by
  have parted : input.takeWhile isPart ++ input.dropWhile isPart = input := List.takeWhile_append_dropWhile
  unfold readPair at failed
  dsimp only at failed
  split at failed
  · cases failed
    exact .inl rfl
  · rename_i afterEqual following
    have partedAfter : afterEqual.takeWhile isPart ++ afterEqual.dropWhile isPart = afterEqual :=
      List.takeWhile_append_dropWhile
    split at failed
    · cases failed
      exact .inr ⟨[], input, rfl, rfl⟩
    · split at failed
      · cases failed
        exact .inl rfl
      · rename_i c rest stopped
        split at failed
        · cases failed
        · cases failed
          refine .inr ⟨input.takeWhile isPart ++ '=' :: afterEqual.takeWhile isPart, c :: rest, ?_, ?_⟩
          · rw [List.append_assoc, List.cons_append, ← stopped, partedAfter, ← following, parted]
          · simp [Nat.add_assoc, Nat.add_comm 1]
  · cases failed
    exact .inr ⟨_, _, parted.symm, rfl⟩

theorem read_sound {position stop : Nat} {input : List Char} {pairs : List TargetPair}
    (found : read position input = ⟨pairs, .closed stop⟩) :
    ∃ inside rest, input = inside ++ '}' :: rest ∧ stop = position + inside.length + 1 ∧
      Spelled inside (pairs.map TargetPair.content) := by
  fun_induction read position input generalizing pairs with
  | case1 => cases found
  | case2 position rest =>
    cases found
    exact ⟨[], rest, rfl, rfl, .done⟩
  | case3 position c rest unclosed skipped ih =>
    obtain ⟨inside, after, rfl, rfl, spelled⟩ := ih found
    refine ⟨c :: inside, after, rfl, ?_, .skip skipped spelled⟩
    simp only [List.length_cons]
    omega
  | case4 position c rest unclosed solid ending failed =>
    cases found
    rcases readPair_error failed with none | ⟨front, rest, -, none⟩ <;> cases none
  | case5 position c rest unclosed solid pair length read others =>
    rename_i ih
    simp only [TargetPairs.mk.injEq] at found
    obtain ⟨rfl, closed⟩ := found
    obtain ⟨inside, after, following, ends, spelled⟩ := ih (congrArg (TargetPairs.mk others.pairs) closed)
    obtain ⟨key, value, left, whole, named, keyPart, valuePart, closing, rfl, taken⟩ := readPair_sound read
    have parted : c :: rest = (key ++ '=' :: value) ++ left := by simp [whole]
    have remaining : rest.drop (length - 1) = left := taken ▸ Text.drop_tail parted (by simp)
    have joined : left = inside ++ '}' :: after := remaining.symm.trans following
    refine ⟨key ++ '=' :: (value ++ inside), after, ?_, ?_, ?_⟩
    · rw [whole, joined]
      simp
    · simp only [List.length_append, List.length_cons] at taken ⊢
      omega
    · refine .pair named ?_ keyPart valuePart ?_ spelled
      · intro d first
        rw [Text.begins_alike whole d first]
        exact Bool.eq_false_iff.mpr fun white => solid (.inr white)
      · -- The inside goes on behind the pair, so it is no brace that ends the pair.
        intro d first
        obtain ⟨e, leading, closing⟩ := closing
        have same : e = d := by
          rw [joined, List.head?_append, first] at leading
          exact (Option.some.inj leading).symm
        subst same
        have member : e ∈ inside := List.mem_of_mem_head? first
        rcases closing with comma | brace
        · exact comma
        · exact absurd (brace ▸ member) spelled.unclosed

theorem read_skip {c : Char} (skipped : c = ',' ∨ hasClass (· = .whitespace) c) (position : Nat)
    (rest : List Char) : read position (c :: rest) = read (position + 1) rest := by
  have unclosed : c ≠ '}' := by
    rintro rfl
    exact absurd skipped (by decide)
  rw [read, if_neg unclosed, if_pos skipped]

theorem read_part {c : Char} (part : isPart c) (solid : hasClass (· = .whitespace) c = false) (position : Nat)
    (rest : List Char) :
    read position (c :: rest) =
      match readPair position (c :: rest) with
      | .error ending => ⟨[], ending⟩
      | .ok (pair, length) =>
        ⟨pair :: (read (position + length) (rest.drop (length - 1))).pairs,
          (read (position + length) (rest.drop (length - 1))).ending⟩ := by
  have unclosed : c ≠ '}' := by
    rintro rfl
    exact absurd part (by decide)
  have unskipped : ¬ (c = ',' ∨ hasClass (· = .whitespace) c) := by
    rintro (rfl | blank)
    · exact absurd part (by decide)
    · simp [solid] at blank
  rw [read]
  exact (if_neg unclosed).trans (if_neg unskipped)

theorem read_pair {key value rest : List Char} (position : Nat) (named : key ≠ [])
    (solid : ∀ c ∈ key.head?, hasClass (· = .whitespace) c = false) (keyPart : ∀ c ∈ key, isPart c)
    (valuePart : ∀ c ∈ value, isPart c) (closing : ∃ c ∈ rest.head?, c = ',' ∨ c = '}') :
    read position (key ++ '=' :: (value ++ rest)) =
      ⟨pairOf position key value :: (read (position + (key.length + 1 + value.length)) rest).pairs,
        (read (position + (key.length + 1 + value.length)) rest).ending⟩ := by
  have found := readPair_complete position named keyPart valuePart closing
  obtain ⟨head, tail, rfl⟩ := List.exists_cons_of_ne_nil named
  have remaining : (tail ++ '=' :: (value ++ rest)).drop ((head :: tail).length + 1 + value.length - 1) = rest := by
    rw [← List.cons_append, ← List.append_assoc]
    exact List.drop_left' (by simp only [List.length_append, List.length_cons]; omega)
  rw [List.cons_append] at found ⊢
  rw [read_part (keyPart head List.mem_cons_self) (solid head rfl), found]
  dsimp only
  rw [remaining]

theorem read_complete {inside : List Char} {contents : List (String × Requirement)}
    (spelled : Spelled inside contents) (position : Nat) (rest : List Char) :
    ∃ pairs, read position (inside ++ '}' :: rest) = ⟨pairs, .closed (position + inside.length + 1)⟩ ∧
      pairs.map TargetPair.content = contents := by
  induction spelled generalizing position with
  | done =>
    refine ⟨[], ?_, rfl⟩
    rw [List.nil_append, read, if_pos rfl]
    rfl
  | @skip c inside contents skipped _ ih =>
    obtain ⟨pairs, found, contents⟩ := ih (position + 1)
    refine ⟨pairs, ?_, contents⟩
    rw [List.cons_append, read_skip skipped, found, List.length_cons]
    congr 2
    omega
  | @pair key value inside contents named solid keyPart valuePart ended _ ih =>
    have closing : ∃ c ∈ (inside ++ '}' :: rest).head?, c = ',' ∨ c = '}' := by
      cases inside with
      | nil => exact ⟨'}', rfl, .inr rfl⟩
      | cons d others => exact ⟨d, rfl, .inl (ended d rfl)⟩
    have whole : key ++ '=' :: (value ++ inside) ++ '}' :: rest = key ++ '=' :: (value ++ (inside ++ '}' :: rest)) := by
      simp
    obtain ⟨pairs, found, contents⟩ := ih (position + (key.length + 1 + value.length))
    refine ⟨pairOf position key value :: pairs, ?_, congrArg (contentOf key value :: ·) contents⟩
    rw [whole, read_pair position named solid keyPart valuePart closing, found]
    simp only [List.length_append, List.length_cons]
    congr 2
    omega

def give (labels : OrderedMap String (OrderedSet Requirement)) (content : String × Requirement) :
    OrderedMap String (OrderedSet Requirement) :=
  labels.insert content.1 (((labels.get? content.1).getD ∅ : OrderedSet Requirement).insert content.2)

def collect (contents : List (String × Requirement)) : OrderedMap String (OrderedSet Requirement) :=
  contents.foldl give ∅

end TargetPairs

namespace TargetPair

theorem eagerTarget_eq (pairs : List TargetPair) :
    eagerTarget pairs = .eager (TargetPairs.collect (pairs.map content)) := by
  rw [TargetPairs.collect, List.foldl_map]
  rfl

theorem strictTarget_eq (pairs : List TargetPair) :
    strictTarget pairs = .strict (.ofList (pairs.map content)) := rfl

theorem firstRepeated?_eq_none_iff {seen : List String} {pairs : List TargetPair} :
    firstRepeated? seen pairs = none ↔
      ((pairs.map content).map Prod.fst).Nodup ∧ ∀ pair ∈ pairs, pair.label ∉ seen := by
  induction pairs generalizing seen with
  | nil => simp [firstRepeated?]
  | cons pair rest ih =>
    rw [firstRepeated?]
    split
    · rename_i repeated
      simp [repeated]
    · rename_i fresh
      rw [ih]
      simp only [List.map_cons, List.nodup_cons, List.mem_map, List.mem_cons, not_or, content]
      constructor
      · rintro ⟨distinct, unseen⟩
        refine ⟨⟨?_, distinct⟩, ?_⟩
        · rintro ⟨_, ⟨other, member, rfl⟩, same⟩
          exact (unseen other member).1 same
        · rintro other (rfl | member)
          · exact fresh
          · exact (unseen other member).2
      · rintro ⟨⟨first, distinct⟩, unseen⟩
        refine ⟨distinct, fun other member => ⟨fun same => ?_, unseen other (.inr member)⟩⟩
        exact first ⟨_, ⟨other, member, rfl⟩, same⟩

/-- A pair whose label an earlier pair has, the pairs before it having labels of their own. -/
def IsFirstRepeat (pair : TargetPair) (pairs : List TargetPair) : Prop :=
  ∃ earlier later, pairs = earlier ++ pair :: later ∧ (earlier.map TargetPair.label).Nodup ∧
    pair.label ∈ earlier.map TargetPair.label

theorem firstRepeated?_sound {seen : List String} {pairs : List TargetPair} {pair : TargetPair}
    (found : firstRepeated? seen pairs = some pair) :
    ∃ earlier later, pairs = earlier ++ pair :: later ∧ (earlier.map TargetPair.label).Nodup ∧
      (∀ other ∈ earlier, other.label ∉ seen) ∧ (pair.label ∈ seen ∨ pair.label ∈ earlier.map TargetPair.label) := by
  induction pairs generalizing seen with
  | nil => cases found
  | cons head rest ih =>
    rw [firstRepeated?] at found
    split at found
    · rename_i repeated
      cases found
      exact ⟨[], rest, rfl, List.nodup_nil, by simp, .inl repeated⟩
    · rename_i fresh
      obtain ⟨earlier, later, rfl, distinct, unseen, held⟩ := ih found
      refine ⟨head :: earlier, later, rfl, ?_, ?_, ?_⟩
      · rw [List.map_cons, List.nodup_cons]
        refine ⟨fun member => ?_, distinct⟩
        obtain ⟨other, listed, same⟩ := List.mem_map.mp member
        exact unseen other listed (same ▸ List.mem_cons_self)
      · exact List.forall_mem_cons.mpr
          ⟨fresh, fun other listed member => unseen other listed (List.mem_cons_of_mem _ member)⟩
      · rcases held with held | held
        · rcases List.mem_cons.mp held with same | held
          · exact .inr (same ▸ List.mem_cons_self)
          · exact .inl held
        · exact .inr (List.mem_cons_of_mem _ held)

theorem isFirstRepeat_of_firstRepeated? {pairs : List TargetPair} {pair : TargetPair}
    (found : firstRepeated? [] pairs = some pair) : pair.IsFirstRepeat pairs := by
  obtain ⟨earlier, later, whole, distinct, -, held⟩ := firstRepeated?_sound found
  exact ⟨earlier, later, whole, distinct, held.resolve_left List.not_mem_nil⟩

end TargetPair

end TagQuery
