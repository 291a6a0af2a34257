import TagQuery.Proofs.Query.Quoting
import TagQuery.Proofs.Token.LetterCase

namespace TagQuery

namespace Query

section Recased

open TokenKind (Recased)

variable {kind other : TokenKind} {kinds others : List TokenKind}

theorem Opening.recased {command : Command} (begun : Opening command kind) (recased : kind.Recased other) :
    Opening command other := by
  cases recased with
  | same => exact begun
  | keyword meant folded =>
    cases begun with
    | unknown => exact absurd rfl meant
    | known keyword => exact .known ((Command.ofWord?_congr folded).trans keyword)

theorem Naming.recased {command : Command} {subject : Subject} (named : Naming command kind subject)
    (recased : kind.Recased other) : Naming command other subject := by
  cases recased with
  | same => exact named
  | keyword meant =>
    cases named
    exact absurd rfl meant

theorem Stating.recased {conditions final : Conditions} (stated : Stating conditions kinds final)
    (recased : List.Forall₂ Recased kinds others) : Stating conditions others final := by
  induction stated generalizing others with
  | done =>
    cases recased
    exact .done
  | whereTarget unstated keyword _ ih =>
    obtain _ | ⟨first, _ | ⟨second, remaining⟩⟩ := recased
    have later := ih remaining
    cases second
    cases first with
    | same => exact .whereTarget unstated keyword later
    | keyword _ folded => exact .whereTarget unstated (keyword.recased folded) later
  | limit unstated keyword _ ih =>
    obtain _ | ⟨first, _ | ⟨second, remaining⟩⟩ := recased
    have later := ih remaining
    cases second
    cases first with
    | same => exact .limit unstated keyword later
    | keyword _ folded => exact .limit unstated (keyword.recased folded) later

theorem Phrase.recased {query : Query} (read : Phrase query kinds) (recased : List.Forall₂ Recased kinds others) :
    Phrase query others := by
  cases read with
  | showProperty begun named =>
    obtain _ | ⟨first, _ | ⟨second, ⟨⟩⟩⟩ := recased
    exact .showProperty (begun.recased first) (named.recased second)
  | conditional acts begun named stated =>
    obtain _ | ⟨first, _ | ⟨second, remaining⟩⟩ := recased
    exact .conditional acts (begun.recased first) (named.recased second) (stated.recased remaining)

theorem Ended.recased (ended : Ended kinds) (recased : List.Forall₂ Recased kinds others) : Ended others := by
  cases recased with
  | nil => exact ended
  | cons first remaining =>
    intro kind head
    cases head
    have terminates := ended _ rfl
    subst terminates
    cases first
    rfl

theorem Buffer.recased {queries : List Query} (buffer : Buffer queries kinds)
    (recased : List.Forall₂ Recased kinds others) : Buffer queries others := by
  induction buffer generalizing others with
  | done =>
    cases recased
    exact .done
  | terminator _ ih =>
    obtain _ | ⟨first, remaining⟩ := recased
    cases first
    exact .terminator (ih remaining)
  | query read ended _ ih =>
    have parted := recased.flip
    have first := (List.forall₂_take_append _ _ _ parted).flip
    have remaining := (List.forall₂_drop_append _ _ _ parted).flip
    rw [← List.take_append_drop _ others]
    exact .query (read.recased first) (ended.imp_right fun ended => ended.recased remaining) (ih remaining)

end Recased

theorem parseAll_iff_of_recased {text changed : String} {tokens others : List Token} (read : tokenize text = .ok tokens)
    (again : tokenize changed = .ok others) (alike : List.Forall₂ Token.Recased tokens others) (queries : List Query) :
    parseAll text = .ok queries ↔ parseAll changed = .ok queries := by
  have kinds : List.Forall₂ TokenKind.Recased (tokens.map Token.kind) (others.map Token.kind) := by
    rw [List.forall₂_map_left_iff, List.forall₂_map_right_iff]
    exact alike.imp fun _ _ recased => recased.kind
  have back : List.Forall₂ TokenKind.Recased (others.map Token.kind) (tokens.map Token.kind) :=
    (kinds.imp fun _ _ recased => recased.symm).flip
  rw [parseAll_eq_ok_iff, parseAll_eq_ok_iff, read, again]
  simp only [Except.ok.injEq, exists_eq_left']
  exact ⟨fun buffer => buffer.recased kinds, fun buffer => buffer.recased back⟩

/-- Keywords may be written in any mixture of upper and lower case, and nothing else may. Where letters change
    their case inside keywords only, the tokens stay where they are and what they are, and the same queries are
    read. All other text is in the queries as it is written. -/
theorem parseAll_recased {text changed : String} {tokens : List Token} (read : tokenize text = .ok tokens)
    (recased : Text.Recased (fun place => ∃ token ∈ tokens, token.CoversKeyword place) text.toList changed.toList) :
    (∃ others, tokenize changed = .ok others ∧ List.Forall₂ Token.Recased tokens others) ∧
    (∀ queries, parseAll text = .ok queries ↔ parseAll changed = .ok queries) ∧
    ∀ queries, parseAll text = .ok queries →
      (∀ token ∈ tokens, token.kind = .terminator ∨ ∃ query ∈ queries, query.Says token.kind) ∧
      ∀ query ∈ queries, ∀ quoted ∈ query.texts,
        ∃ token ∈ tokens, token.kind.Quotes quoted ∧ token.Holds text.toList quoted := by
  obtain ⟨others, again, alike⟩ := tokenize_recased read recased
  exact ⟨⟨others, again, alike⟩, parseAll_iff_of_recased read again alike, fun _ found => parseAll_quotes read found⟩

theorem parseAll_recased_where :
    let text := "select (Where) where \x7bArtist=Muse\x7d limit 3; show Labels"
    let changed := "SELECT (Where) wHere \x7bArtist=Muse\x7d LIMIT 3; Show Labels"
    let target : Target := .eager (.ofList [("Artist", .ofList [.text "Muse"])])
    let tokens : List Token := [⟨.word .command "select", 0⟩, ⟨.collection ["Where"], 7⟩,
      ⟨.word .condition "where", 15⟩, ⟨.target target, 21⟩, ⟨.word .condition "limit", 35⟩, ⟨.integer 3, 41⟩,
      ⟨.terminator, 42⟩, ⟨.word .command "show", 44⟩, ⟨.word .generic "Labels", 49⟩]
    let queries : List Query :=
      [⟨.select, .projection ["Where"], target, 3⟩, ⟨.showProperty, .property "Labels", .everything, 0⟩]
    tokenize text = .ok tokens ∧
      Text.Recased (fun place => ∃ token ∈ tokens, token.CoversKeyword place) text.toList changed.toList ∧
      (∃ others, tokenize changed = .ok others ∧ List.Forall₂ Token.Recased tokens others) ∧
      parseAll changed = .ok queries ∧
      ∃ token ∈ tokens, token.kind.Quotes "Where" ∧ token.Holds text.toList "Where" := by
  intro text changed target tokens queries
  have read : tokenize text = .ok tokens := by decide +kernel
  have recased : Text.Recased (fun place => ∃ token ∈ tokens, token.CoversKeyword place)
      text.toList changed.toList := by decide +kernel
  obtain ⟨again, alike, verbatim⟩ := parseAll_recased read recased
  have found : parseAll text = .ok queries := by
    have stated : Stating {} [.word .condition "where", .target target, .word .condition "limit", .integer 3]
        { target := some target, limit := some 3 } := .whereTarget rfl rfl (.limit rfl rfl .done)
    have begun : Opening .select (.word .command "select") := .known rfl
    have acts : Command.select ≠ .showProperty := by decide
    have named : Naming .select (.collection ["Where"]) (.projection ["Where"]) := .projection acts (by decide)
    have selects := Phrase.conditional acts begun named stated
    have shows : Phrase ⟨.showProperty, .property "Labels", .everything, 0⟩
        [.word .command "show", .word .generic "Labels"] := .showProperty (.known rfl) .property
    have ended : Ended (.terminator :: ([.word .command "show", .word .generic "Labels"] ++ [])) := by simp [Ended]
    exact parseAll_eq_ok_iff.mpr
      ⟨tokens, read, .query selects (.inr ended) (.terminator (.query shows (.inl rfl) .done))⟩
  exact ⟨read, recased, again, (alike queries).mp found,
    (verbatim queries found).2 _ List.mem_cons_self "Where" (by decide)⟩

end Query

end TagQuery
