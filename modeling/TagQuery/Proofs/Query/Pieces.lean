import Mathlib.Data.List.Forall2
import TagQuery.Proofs.Query.Layout
import TagQuery.Proofs.Query.Terminated

namespace TagQuery.Query

def pieces (tokens : List Token) : List (List Token) :=
  (tokens.splitOnP Token.isTerminator).filter (· ≠ [])

section Cutting

variable {before after tokens : List Token} {token : Token}

theorem solid_iff :
    (∀ token ∈ tokens, token.isTerminator = false) ↔ TokenKind.terminator ∉ tokens.map Token.kind := by
  simp [Token.isTerminator]

theorem pieces_of_solid (solid : ∀ token ∈ tokens, token.isTerminator = false) (some : tokens ≠ []) :
    pieces tokens = [tokens] := by
  rw [pieces, List.splitOnP_eq_singleton solid]
  simp [some]

theorem pieces_append_terminator (solid : ∀ token ∈ before, token.isTerminator = false)
    (terminates : token.isTerminator) :
    pieces (before ++ token :: after) = if before = [] then pieces after else before :: pieces after := by
  rw [pieces, List.splitOnP_append_cons_of_forall_mem solid token terminates, List.filter_cons]
  by_cases none : before = [] <;> simp [none, pieces]

end Cutting

section Reading

variable {queries : List Query} {kinds : List TokenKind}

theorem Buffer.eq_nil (buffer : Buffer queries []) : queries = [] := by
  generalize none : ([] : List TokenKind) = kinds at buffer
  cases buffer with
  | done => rfl
  | terminator => cases none
  | query read =>
    obtain ⟨kind, others, opens, _⟩ := read.starts
    rw [opens] at none
    cases none

structure Group (group : List Query) (piece : List Token) : Prop where
  buffer : Buffer group (piece.map Token.kind)
  some : piece ≠ []
  solid : ∀ token ∈ piece, token.isTerminator = false

theorem Buffer.groups {tokens : List Token} (buffer : Buffer queries (tokens.map Token.kind)) :
    ∃ groups : List (List Query), queries = groups.flatten ∧ List.Forall₂ Group groups (pieces tokens) := by
  -- On the number of tokens: the piece before the first terminator stands alone, and fewer come after.
  induction length : tokens.length using Nat.strongRecOn generalizing tokens queries with
  | ind n ih =>
    cases found : tokens.find? Token.isTerminator with
    | none =>
      have solid : ∀ token ∈ tokens, token.isTerminator = false := by simpa using found
      by_cases some : tokens = []
      · subst some
        exact ⟨[], buffer.eq_nil, .nil⟩
      · rw [pieces_of_solid solid some]
        exact ⟨[queries], by simp, .cons ⟨buffer, some, solid⟩ .nil⟩
    | some token =>
      obtain ⟨terminates, before, after, rfl, others⟩ := List.find?_eq_some_iff_append.mp found
      have solid : ∀ token ∈ before, token.isTerminator = false := by simpa using others
      have shorter : after.length < n := by
        rw [List.length_append, List.length_cons] at length
        omega
      have kind : token.kind = .terminator := by simpa [Token.isTerminator] using terminates
      rw [List.map_append, List.map_cons, kind] at buffer
      obtain ⟨first, second, left, right, rfl⟩ := buffer.cut
      obtain ⟨groups, rfl, read⟩ := ih _ shorter right rfl
      rw [pieces_append_terminator solid terminates]
      split
      · rename_i none
        subst none
        exact ⟨groups, by rw [left.eq_nil, List.nil_append], read⟩
      · rename_i some
        exact ⟨first :: groups, by rw [List.flatten_cons], .cons ⟨left, some, solid⟩ read⟩

theorem Group.kinds_solid {group : List Query} {piece : List Token} (read : Group group piece) :
    TokenKind.terminator ∉ piece.map Token.kind :=
  solid_iff.mp read.solid

theorem Group.kinds_ne_nil {group : List Query} {piece : List Token} (read : Group group piece) :
    piece.map Token.kind ≠ [] := by
  simpa using read.some

theorem Buffer.ne_nil (buffer : Buffer queries kinds) (solid : TokenKind.terminator ∉ kinds)
    (some : kinds ≠ []) : queries ≠ [] := by
  cases buffer with
  | done => exact absurd rfl some
  | terminator => simp at solid
  | query => exact List.cons_ne_nil _ _

theorem shows_of_solid {query : Query} {kind : TokenKind} {rest : List TokenKind}
    (ended : query.command = .showProperty ∨ Ended (kind :: rest)) (solid : kind ≠ .terminator) :
    query.command = .showProperty := by
  apply ended.resolve_right
  intro ends
  exact solid (ends kind rfl)

theorem Buffer.shows_before_last (buffer : Buffer queries kinds) (solid : TokenKind.terminator ∉ kinds) :
    ∀ query ∈ queries.dropLast, query.command = .showProperty := by
  induction buffer with
  | done => simp
  | terminator => simp at solid
  | @query query queries phrase rest read ended others ih =>
    have later := ih fun member => solid (List.mem_append_right _ member)
    cases queries with
    | nil => simp
    | cons next queries =>
      cases rest with
      | nil => cases others.eq_nil
      | cons kind rest =>
        have continues : kind ≠ .terminator := by
          intro terminates
          simp [terminates] at solid
        have shows := shows_of_solid ended continues
        rw [List.dropLast_cons_cons]
        exact List.forall_mem_cons.mpr ⟨shows, later⟩

theorem Opening.unique {first second : Command} {kind : TokenKind} (one : Opening first kind)
    (other : Opening second kind) : first = second := by
  cases one with
  | known keyword =>
    cases other with
    | known again => exact Option.some.inj (keyword.symm.trans again)
  | unknown =>
    cases other with
    | unknown => rfl

/-- A query that shows a property is all there is of a piece that it begins. -/
def ShowsAlone (kinds : List TokenKind) : Prop :=
  ∀ kind ∈ kinds.head?, Opening .showProperty kind → kinds.length = 2

theorem Phrase.showsAlone {query : Query} (read : Phrase query kinds) : ShowsAlone kinds := by
  intro kind first shows
  cases read with
  | showProperty => rfl
  | conditional acts begun =>
    cases first
    exact absurd (begun.unique shows) acts

theorem Phrase.tokens_ne_nil {query : Query} {tokens : List Token}
    (read : Phrase query (tokens.map Token.kind)) : tokens ≠ [] := by
  rintro rfl
  cases read

theorem Buffer.single (buffer : Buffer queries kinds) (solid : TokenKind.terminator ∉ kinds)
    (some : kinds ≠ []) (alone : ShowsAlone kinds) : ∃ query, queries = [query] ∧ Phrase query kinds := by
  cases buffer with
  | done => exact absurd rfl some
  | terminator => simp at solid
  | @query query queries phrase rest read ended others =>
    cases rest with
    | nil =>
      cases others.eq_nil
      exact ⟨query, rfl, by rwa [List.append_nil]⟩
    | cons kind rest =>
      have continues : kind ≠ .terminator := by
        intro terminates
        simp [terminates] at solid
      cases read with
      | conditional acts => exact absurd (shows_of_solid ended continues) acts
      | showProperty begun =>
        have two := alone _ rfl begun
        simp at two

theorem parseTokens_whole_iff {stop : Nat} {query : Query} {piece : List Token} :
    parseTokens stop piece = .ok query [] ↔ Phrase query (piece.map Token.kind) := by
  rw [parseTokens_eq_ok_iff]
  constructor
  · intro found
    obtain ⟨phrase, whole, read, _⟩ := found
    rwa [whole, List.append_nil]
  · intro read
    exact ⟨piece, (List.append_nil piece).symm, read, .inr (by simp [Ended])⟩

theorem Group.single {group : List Query} {piece : List Token} (read : Group group piece)
    (alone : ShowsAlone (piece.map Token.kind)) :
    ∃ query, group = [query] ∧ Phrase query (piece.map Token.kind) :=
  read.buffer.single read.kinds_solid read.kinds_ne_nil alone

theorem phrases_of_groups {groups : List (List Query)} {pieces : List (List Token)}
    (read : List.Forall₂ Group groups pieces) (alone : ∀ piece ∈ pieces, ShowsAlone (piece.map Token.kind)) :
    List.Forall₂ (fun query piece => Phrase query (piece.map Token.kind)) groups.flatten pieces := by
  induction read with
  | nil => exact .nil
  | cons first _ ih =>
    obtain ⟨here, later⟩ := List.forall_mem_cons.mp alone
    obtain ⟨query, rfl, phrase⟩ := first.single here
    exact .cons phrase (ih later)

theorem showsAlone_of_phrases {pieces : List (List Token)}
    (read : List.Forall₂ (fun query piece => Phrase query (piece.map Token.kind)) queries pieces) :
    ∀ piece ∈ pieces, ShowsAlone (piece.map Token.kind) := by
  induction read with
  | nil => simp
  | cons first _ ih => exact List.forall_mem_cons.mpr ⟨first.showsAlone, ih⟩

end Reading

/-- The queries of a text are those of its pieces, one for each unless a query that shows a property
    stands before others without a terminator between them. -/
theorem parseAll_pieces {text : String} {queries : List Query} (found : parseAll text = .ok queries) :
    ∃ tokens, tokenize text = .ok tokens ∧
      (∃ groups : List (List Query), queries = groups.flatten ∧
        List.Forall₂ (fun group piece => parseAllTokens (stopOf piece) piece = .ok group [] ∧ group ≠ [] ∧
          ∀ query ∈ group.dropLast, query.command = .showProperty) groups (pieces tokens)) ∧
      ((∀ piece ∈ pieces tokens, ShowsAlone (piece.map Token.kind)) ↔
        List.Forall₂ (fun query piece => parseTokens (stopOf piece) piece = .ok query [])
          queries (pieces tokens)) := by
  obtain ⟨tokens, read, buffer⟩ := parseAll_eq_ok_iff.mp found
  obtain ⟨groups, rfl, grouped⟩ := buffer.groups
  refine ⟨tokens, read, ⟨groups, rfl, ?_⟩, ?_⟩
  · apply grouped.imp
    intro group piece held
    have read : parseAllTokens (stopOf piece) piece = .ok group [] := held.buffer.parseAllTokens_eq rfl
    have some := held.buffer.ne_nil held.kinds_solid held.kinds_ne_nil
    exact ⟨read, some, held.buffer.shows_before_last held.kinds_solid⟩
  · simp only [parseTokens_whole_iff]
    exact ⟨phrases_of_groups grouped, showsAlone_of_phrases⟩

section Unseparated

theorem spelled_delete :
    ∀ part ∈ [(TokenKind.word .command "delete", "delete"), (TokenKind.collection [], "()")],
      part.1.Spelled part.2.toList := by
  simp only [List.forall_mem_cons]
  exact ⟨(Keyword.name_isWord .delete).spelled, Collection.spelled_canonical (by simp), by simp⟩

theorem phrase_delete :
    Phrase ⟨.delete, .everything, .everything, 0⟩ [.word .command "delete", .collection []] := by
  have acts : Command.delete ≠ .showProperty := by decide
  have begun : Opening .delete (.word .command "delete") := .known rfl
  have named : Naming .delete (.collection []) .everything := .projection acts (by decide)
  exact .conditional acts begun named .done

theorem count_isGeneric : Text.IsGeneric "count" := by decide

theorem parseAll_pieces_terminated :
    let text := "show count;delete ()"
    let queries : List Query :=
      [⟨.showProperty, .property "count", .everything, 0⟩, ⟨.delete, .everything, .everything, 0⟩]
    ∃ tokens, tokenize text = .ok tokens ∧ parseAll text = .ok queries ∧
      List.Forall₂ (fun query piece => parseTokens (stopOf piece) piece = .ok query [])
        queries (pieces tokens) := by
  intro text queries
  have shows : "show count" = " ".intercalate ["show", "count"] := by decide
  have deletes : "delete ()" = " ".intercalate ["delete", "()"] := by decide
  obtain ⟨left, readLeft, phraseLeft⟩ :=
    tokenize_of_phrase shows (spelled_show count_isGeneric) (phrase_show "count")
  obtain ⟨right, readRight, phraseRight⟩ := tokenize_of_phrase deletes spelled_delete phrase_delete
  have foundLeft := parseAll_eq_ok_iff.mpr ⟨left, readLeft, phraseLeft.buffer⟩
  have foundRight := parseAll_eq_ok_iff.mpr ⟨right, readRight, phraseRight.buffer⟩
  have parted : text = "show count" ++ ";" ++ "delete ()" := by decide
  have found : parseAll text = .ok queries := by
    rw [parted, parseAll_append_terminator_iff]
    exact ⟨_, _, foundLeft, foundRight, rfl⟩
  have whole : tokenize text = .ok (left ++ ⟨.terminator, 10⟩ :: right.map (Token.shift 11)) := by
    rw [parted, tokenize_append_terminator]
    exact ⟨left, right, readLeft, readRight, rfl⟩
  have shifted : Phrase ⟨.delete, .everything, .everything, 0⟩
      ((right.map (Token.shift 11)).map Token.kind) := by
    simpa using phraseRight
  have cut : pieces (left ++ ⟨.terminator, 10⟩ :: right.map (Token.shift 11)) =
      [left, right.map (Token.shift 11)] := by
    rw [pieces_append_terminator (solid_iff.mpr phraseLeft.solid) rfl, if_neg phraseLeft.tokens_ne_nil,
      pieces_of_solid (solid_iff.mpr shifted.solid) shifted.tokens_ne_nil]
  obtain ⟨tokens, read, _, separated⟩ := parseAll_pieces found
  cases whole.symm.trans read
  refine ⟨_, read, found, separated.mp ?_⟩
  rw [cut]
  exact List.forall_mem_cons.mpr ⟨phraseLeft.showsAlone, by simpa using shifted.showsAlone⟩

/-- Without a terminator between them the two queries are read all the same. -/
theorem parseAll_joins_after_show :
    let text := "show count delete ()"
    let queries : List Query :=
      [⟨.showProperty, .property "count", .everything, 0⟩, ⟨.delete, .everything, .everything, 0⟩]
    ∃ tokens, tokenize text = .ok tokens ∧ parseAll text = .ok queries ∧ pieces tokens = [tokens] := by
  intro text queries
  have spelled := List.forall_mem_append.mpr ⟨spelled_show count_isGeneric, spelled_delete⟩
  have written : text = " ".intercalate ["show", "count", "delete", "()"] := by decide
  obtain ⟨tokens, read, shown⟩ := tokenize_of_parts written spelled
  have buffer : Buffer queries (tokens.map Token.kind) := by
    rw [shown]
    exact .query (phrase_show "count") (.inl rfl) (.query phrase_delete (.inr (by simp [Ended])) .done)
  refine ⟨tokens, read, parseAll_eq_ok_iff.mpr ⟨tokens, read, buffer⟩, ?_⟩
  apply pieces_of_solid
  · rw [solid_iff, shown]
    simp
  · rintro rfl
    cases shown

end Unseparated

end TagQuery.Query
