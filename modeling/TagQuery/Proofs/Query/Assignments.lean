import Mathlib.Data.List.TakeWhile
import TagQuery.Proofs.OrderedMap
import TagQuery.Proofs.Query.Grammar
import TagQuery.Proofs.Text.Trim

namespace TagQuery

namespace Assignments

/-- What an item says: a label stands before its first equal sign and a value behind it, apart from the white space
    around them. The sentinel is no value, but clears the label. -/
inductive Says : List Char → String → Option String → Prop
  | sets {left right : List Char} {label text : String} (first : '=' ∉ left)
      (labelled : Text.TrimsTo left label.toList) (named : label ≠ "") (given : Text.TrimsTo right text.toList)
      (other : text ≠ nullSentinel) : Says (left ++ '=' :: right) label (some text)
  | clears {left right : List Char} {label : String} (first : '=' ∉ left)
      (labelled : Text.TrimsTo left label.toList) (named : label ≠ "")
      (given : Text.TrimsTo right nullSentinel.toList) : Says (left ++ '=' :: right) label none

def Labelled (item : List Char) : Prop :=
  ∃ left right label, item = left ++ '=' :: right ∧ '=' ∉ left ∧ Text.TrimsTo left label ∧ label ≠ []

/-- The changes that a list of items makes: each label that one of them says, with what the last one says of it. -/
structure Collects (items : List String) (changes : Assignments) : Prop where
  labels (label : String) : label ∈ changes.keys ↔ ∃ item ∈ items, ∃ value, Says item.toList label value
  values (label : String) (value : Option String) : changes.get? label = some value ↔
    ∃ front item back, items = front ++ item :: back ∧ Says item.toList label value ∧
      ∀ later ∈ back, ∀ other, ¬ Says later.toList label other

/-- Why items at a position are no changes: there are none of them, or one is the first that has no label. -/
inductive Refused (position : Nat) : List String → QueryError → Prop
  | nothing : Refused position [] (.invalidAssignment "" position)
  | unlabelled {front back : List String} {item : String} (before : ∀ other ∈ front, Labelled other.toList)
      (offends : ¬ Labelled item.toList) : Refused position (front ++ item :: back) (.invalidAssignment item position)

section Item

variable {item label : String} {value : Option String} {left right : List Char}

theorem pair?_uncut (uncut : '=' ∉ item.toList) : pair? item = none := by
  have none : item.toList.dropWhile (· ≠ '=') = [] := by
    rw [List.dropWhile_eq_nil_iff]
    intro c member
    exact decide_eq_true fun same => uncut (same ▸ member)
  rw [pair?, none]

theorem pair?_cut (cut : item.toList = left ++ '=' :: right) (first : '=' ∉ left) :
    pair? item =
      if Text.trim left = [] then none
      else some (String.ofList (Text.trim left),
        if String.ofList (Text.trim right) = nullSentinel then none else some (String.ofList (Text.trim right))) := by
  have solid : ∀ c ∈ left, decide (c ≠ '=') := fun c member => decide_eq_true fun same => first (same ▸ member)
  have stop : ∀ c ∈ ('=' :: right).head?, decide (c ≠ '=') = false := by
    rintro _ ⟨⟩
    rfl
  rw [pair?, cut, Text.dropWhile_run solid stop, Text.takeWhile_run solid stop]

theorem labelled_iff_isSome : Labelled item.toList ↔ (pair? item).isSome := by
  constructor
  · intro labelled
    obtain ⟨left, right, label, cut, first, trims, named⟩ := labelled
    rw [pair?_cut cut first, Text.trim_eq_iff.mpr trims, if_neg named]
    rfl
  · intro read
    by_cases equal : '=' ∈ item.toList
    · obtain ⟨left, right, cut, first⟩ := List.eq_append_cons_of_mem equal
      refine ⟨left, right, Text.trim left, cut, first, Text.trimsTo_trim left, fun none => ?_⟩
      rw [pair?_cut cut first, if_pos none] at read
      cases read
    · rw [pair?_uncut equal] at read
      cases read

theorem Says.pair?_eq (said : Says item.toList label value) : pair? item = some (label, value) := by
  generalize same : item.toList = text at said
  cases said with
  | sets first labelled named given other =>
    have some : label.toList ≠ [] := by simpa using named
    simp [pair?_cut same first, Text.trim_eq_iff.mpr labelled, Text.trim_eq_iff.mpr given, some, other]
  | clears first labelled named given =>
    have some : label.toList ≠ [] := by simpa using named
    rw [pair?_cut same first, Text.trim_eq_iff.mpr labelled, Text.trim_eq_iff.mpr given, if_neg some,
      String.ofList_toList, String.ofList_toList, if_pos rfl]

theorem says_of_pair? (read : pair? item = some (label, value)) : Says item.toList label value := by
  have labelled : Labelled item.toList := labelled_iff_isSome.mpr (read ▸ rfl)
  obtain ⟨left, right, inner, cut, first, trims, named⟩ := labelled
  rw [pair?_cut cut first, Text.trim_eq_iff.mpr trims, if_neg named] at read
  have given := Text.trimsTo_trim right
  rw [← String.toList_ofList (l := inner)] at trims
  rw [← String.toList_ofList (l := Text.trim right)] at given
  have some : String.ofList inner ≠ "" := by simpa using named
  rw [cut]
  cases read
  split
  · rename_i sentinel
    exact .clears first trims some (sentinel ▸ given)
  · rename_i other
    exact .sets first trims some given other

theorem pair?_eq_some_iff : pair? item = some (label, value) ↔ Says item.toList label value :=
  ⟨says_of_pair?, Says.pair?_eq⟩

end Item

section Items

variable {items : List String} {changes : Assignments} {position : Nat} {cause : QueryError}

theorem addItems_error {before : Assignments} (failed : addItems position before items = .error cause) :
    ∃ front item back, items = front ++ item :: back ∧ (∀ other ∈ front, Labelled other.toList) ∧
      ¬ Labelled item.toList ∧ cause = .invalidAssignment item position := by
  fun_induction addItems position before items with
  | case1 => cases failed
  | case2 before item rest unread =>
    have offends : ¬ Labelled item.toList := by simp [labelled_iff_isSome, unread]
    exact ⟨[], item, rest, rfl, by simp, offends, (Except.error.inj failed).symm⟩
  | case3 before item rest label value read ih =>
    obtain ⟨front, other, back, rfl, labelled, offends, same⟩ := ih failed
    have first : Labelled item.toList := labelled_iff_isSome.mpr (read ▸ rfl)
    exact ⟨item :: front, other, back, rfl, List.forall_mem_cons.mpr ⟨first, labelled⟩, offends, same⟩

theorem refused_of_ofItems (failed : ofItems position items = .error cause) : Refused position items cause := by
  unfold ofItems at failed
  split at failed
  · rename_i none
    cases failed
    exact none ▸ .nothing
  · obtain ⟨front, item, back, rfl, labelled, offends, rfl⟩ := addItems_error failed
    exact .unlabelled labelled offends

theorem Refused.not_labelled (refused : Refused position items cause) :
    ¬ (items ≠ [] ∧ ∀ item ∈ items, Labelled item.toList) := by
  rintro ⟨some, labelled⟩
  cases refused with
  | nothing => exact some rfl
  | @unlabelled _ _ item _ offends => exact offends (labelled item (by simp))

section Pairs

variable {pairs : List (String × Option String)} (cut : items.map pair? = pairs.map some)

include cut

theorem labelled_of_pairs : ∀ item ∈ items, Labelled item.toList := by
  intro item member
  have listed : pair? item ∈ pairs.map some := cut ▸ List.mem_map_of_mem member
  obtain ⟨pair, -, read⟩ := List.mem_map.mp listed
  exact labelled_iff_isSome.mpr (read ▸ rfl)

theorem mem_pairs_iff (label : String) (value : Option String) :
    (label, value) ∈ pairs ↔ ∃ item ∈ items, Says item.toList label value := by
  have listed : (label, value) ∈ pairs ↔ some (label, value) ∈ pairs.map some := by simp
  simp only [listed, ← cut, List.mem_map, pair?_eq_some_iff]

theorem mem_labels_iff (label : String) :
    label ∈ pairs.map Prod.fst ↔ ∃ item ∈ items, ∃ value, Says item.toList label value := by
  rw [List.mem_map]
  constructor
  · rintro ⟨⟨_, value⟩, member, rfl⟩
    obtain ⟨item, among, said⟩ := (mem_pairs_iff cut _ value).mp member
    exact ⟨item, among, value, said⟩
  · rintro ⟨item, among, value, said⟩
    exact ⟨(label, value), (mem_pairs_iff cut label value).mpr ⟨item, among, said⟩, rfl⟩

end Pairs

theorem last_pair_iff {pairs : List (String × Option String)} (cut : items.map pair? = pairs.map some)
    (label : String) (value : Option String) :
    (∃ front back, pairs = front ++ (label, value) :: back ∧ label ∉ back.map Prod.fst) ↔
      ∃ front item back, items = front ++ item :: back ∧ Says item.toList label value ∧
        ∀ later ∈ back, ∀ other, ¬ Says later.toList label other := by
  constructor
  · rintro ⟨front, back, rfl, fresh⟩
    rw [List.map_append, List.map_cons] at cut
    obtain ⟨before, after, rfl, -, behind⟩ := List.map_eq_append_iff.mp cut
    obtain ⟨item, after, rfl, read, others⟩ := List.map_eq_cons_iff.mp behind
    refine ⟨before, item, after, rfl, pair?_eq_some_iff.mp read, fun later among other said => fresh ?_⟩
    exact (mem_labels_iff others label).mpr ⟨later, among, other, said⟩
  · rintro ⟨front, item, back, rfl, said, last⟩
    rw [List.map_append, List.map_cons, said.pair?_eq] at cut
    obtain ⟨before, after, rfl, -, behind⟩ := List.map_eq_append_iff.mp cut.symm
    obtain ⟨pair, after, rfl, read, others⟩ := List.map_eq_cons_iff.mp behind
    cases read
    refine ⟨before, after, rfl, fun again => ?_⟩
    obtain ⟨later, among, other, said⟩ := (mem_labels_iff others.symm label).mp again
    exact last later among other said

theorem collects_of_pairs {pairs : List (String × Option String)} (cut : items.map pair? = pairs.map some) :
    Collects items (.ofList pairs) where
  labels label := by
    rw [OrderedMap.mem_keys_ofList_iff, mem_labels_iff cut]
  values label value := by
    rw [OrderedMap.get?_ofList_eq_some_iff_last, last_pair_iff cut]

theorem collects_of_ofItems (read : ofItems position items = .ok changes) :
    items ≠ [] ∧ (∀ item ∈ items, Labelled item.toList) ∧ Collects items changes := by
  obtain ⟨some, pairs, cut, rfl⟩ := ofItems_eq_ok_iff.mp read
  exact ⟨some, labelled_of_pairs cut, collects_of_pairs cut⟩

end Items

end Assignments

namespace Query

variable {word : String} {target : Option Target} {limit : Option UInt64} {clauses rest : List Token}

theorem parseTokens_update (stop start position : Nat) (items : List String) (spelled : Keyword.update.Spells word)
    (stated : Clauses target limit (clauses.map Token.kind)) (ended : Ended (rest.map Token.kind)) :
    (parseTokens stop (⟨.word .command word, start⟩ :: ⟨.collection items, position⟩ :: (clauses ++ rest))).outcome =
      (Assignments.ofItems position items).map fun changes =>
        ⟨.update, .assignment changes, target.getD .everything, limit.getD 0⟩ := by
  have command : Command.ofWord? word = some .update := by
    rw [Command.ofWord?_of_spells spelled]
    rfl
  have stating : Stating {} (clauses.map Token.kind) ⟨target, limit⟩ := stating_of_clauses stated
  have conditions : parseConditions stop {} (clauses ++ rest) = .ok ⟨target, limit⟩ rest :=
    parseConditions_complete stating rfl ended
  simp only [parseTokens, parseCommand, command, Parsed.andThen, Parsed.ok, parseSubject]
  cases Assignments.ofItems position items with
  | error cause => rfl
  | ok changes => simp only [Except.map, reduceCtorEq, ↓reduceIte, conditions, Parsed.ok]

end Query

namespace TokenStream

/-- The items of an update are read as changes, or the first of them that has no label is refused; neither depends on
    the conditions of the update or on the queries after it. -/
theorem nextQuery_update_items (word : String) (start position : Nat) (items : List String)
    (target : Option Target) (limit : Option UInt64) (clauses rest : List Token)
    (spelled : Keyword.update.Spells word) (stated : Query.Clauses target limit (clauses.map Token.kind))
    (ended : ∀ token ∈ rest.head?, token.kind = .terminator) :
    let tokens := ⟨.word .command word, start⟩ :: ⟨.collection items, position⟩ :: (clauses ++ rest)
    let found := (ofTokens tokens).nextQuery.1
    ((∃ query, found = .ok query) ↔ items ≠ [] ∧ ∀ item ∈ items, Assignments.Labelled item.toList) ∧
      (∀ query, found = .ok query → ∃ changes, Assignments.Collects items changes ∧
        query = ⟨.update, .assignment changes, target.getD .everything, limit.getD 0⟩) ∧
      ∀ cause, found = .error cause → Assignments.Refused position items cause := by
  intro tokens found
  have behind : Query.Ended (rest.map Token.kind) := by
    intro kind first
    rw [List.head?_map] at first
    obtain ⟨token, next, rfl⟩ := Option.map_eq_some_iff.mp first
    exact ended token next
  have outcome : found = (Assignments.ofItems position items).map fun changes =>
      ⟨.update, .assignment changes, target.getD .everything, limit.getD 0⟩ :=
    Query.parseTokens_update _ start position items spelled stated behind
  cases read : Assignments.ofItems position items with
  | error cause =>
    have refused := Assignments.refused_of_ofItems read
    rw [outcome, read]
    refine ⟨⟨?_, fun readable => absurd readable refused.not_labelled⟩, ?_, ?_⟩
    · rintro ⟨query, ⟨⟩⟩
    · rintro query ⟨⟩
    · rintro _ ⟨⟩
      exact refused
  | ok changes =>
    obtain ⟨some, labelled, collected⟩ := Assignments.collects_of_ofItems read
    rw [outcome, read]
    refine ⟨⟨fun _ => ⟨some, labelled⟩, fun _ => ⟨_, rfl⟩⟩, ?_, ?_⟩
    · rintro _ ⟨⟩
      exact ⟨changes, collected, rfl⟩
    · rintro cause ⟨⟩

/-- A label is said twice, with white space of its own each time, and the value that counts has an equal sign in it.
    In the second list the item without a label stands before one without an equal sign. -/
theorem nextQuery_update_items_repeated :
    let items := ["title=Old", " isrc =\t\\Null", "\u3000title\u00A0= a=b ", "note="]
    let changes : Assignments := .ofList [("title", some "a=b"), ("isrc", none), ("note", some "")]
    let unlabelled := ["title=Old", " \u3000= x", "note"]
    let clauses : List Token := [⟨.word .condition "Limit", 80⟩, ⟨.integer 2, 86⟩]
    let rest : List Token := [⟨.terminator, 87⟩, ⟨.word .generic "x", 89⟩]
    let found (items : List String) :=
      (ofTokens (⟨.word .command "UPDATE", 4⟩ :: ⟨.collection items, 11⟩ :: (clauses ++ rest))).nextQuery.1
    Keyword.update.Spells "UPDATE" ∧ Query.Clauses none (some 2) (clauses.map Token.kind) ∧
      (∀ token ∈ rest.head?, token.kind = .terminator) ∧
      found items = .ok ⟨.update, .assignment changes, .everything, 2⟩ ∧ Assignments.Collects items changes ∧
      found unlabelled = .error (.invalidAssignment " \u3000= x" 11) ∧
      Assignments.Refused 11 unlabelled (.invalidAssignment " \u3000= x" 11) := by
  intro items changes unlabelled clauses rest found
  have spelled : Keyword.update.Spells "UPDATE" := by decide
  have limits : Keyword.limit.Spells "Limit" := by decide
  have stated : Query.Clauses none (some 2) (clauses.map Token.kind) :=
    ⟨[], _, .unstated, .stated limits, .inl rfl⟩
  have ended : ∀ token ∈ rest.head?, token.kind = .terminator := by
    rintro _ ⟨⟩
    rfl
  have read : found items = .ok ⟨.update, .assignment changes, .everything, 2⟩ := by decide
  have failed : found unlabelled = .error (.invalidAssignment " \u3000= x" 11) := by decide
  obtain ⟨-, collects, -⟩ := nextQuery_update_items "UPDATE" 4 11 items none (some 2) clauses rest spelled stated ended
  obtain ⟨-, -, refused⟩ :=
    nextQuery_update_items "UPDATE" 4 11 unlabelled none (some 2) clauses rest spelled stated ended
  obtain ⟨_, collected, ⟨⟩⟩ := collects _ read
  exact ⟨spelled, stated, ended, read, collected, failed, refused _ failed⟩

end TokenStream

end TagQuery
