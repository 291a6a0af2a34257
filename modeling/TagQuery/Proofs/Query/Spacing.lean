import TagQuery.Proofs.Query.Layout
import TagQuery.Proofs.Token.Spacing

namespace TagQuery.Query

theorem white_of_listed {gap : List Char} (listed : ∀ c ∈ gap, c ∈ [' ', '\t', '\r', '\n']) : Text.White gap := by
  have white : [' ', '\t', '\r', '\n'].all (hasClass (· = .whitespace)) := by decide
  exact fun c member => List.all_eq_true.mp white c (listed c member)

theorem parseAll_respaced {before gap other after : String} {queries : List Query}
    (white : Text.White gap.toList) (otherWhite : Text.White other.toList)
    (loose : Text.Loose before.toList after.toList) (read : parseAll (before ++ gap ++ after) = .ok queries) :
    parseAll (before ++ other ++ after) = .ok queries := by
  obtain ⟨tokens, found, buffer⟩ := parseAll_eq_ok_iff.mp read
  have lexed := tokenize_eq_ok_iff.mp found
  rw [String.toList_append, String.toList_append] at lexed
  obtain ⟨others, respaced, kinds⟩ := lexed.respaced white otherWhite loose 0
  rw [← kinds] at buffer
  refine parseAll_eq_ok_iff.mpr ⟨others, tokenize_eq_ok_iff.mpr ?_, buffer⟩
  rwa [String.toList_append, String.toList_append]

/-- Layout does not matter: white space at the ends of a text or beside a comma, a parenthesis, a bracket, a
    brace or a terminator has no influence on the queries that are read. -/
theorem parseAll_spaced (before blank after : String) (listed : ∀ c ∈ blank.toList, c ∈ [' ', '\t', '\r', '\n'])
    (loose : Text.Loose before.toList after.toList) (queries : List Query) :
    parseAll (before ++ blank ++ after) = .ok queries ↔ parseAll (before ++ after) = .ok queries := by
  have white := white_of_listed listed
  have nothing : Text.White "".toList := by simp [Text.White]
  have joined : before ++ after = before ++ "" ++ after := by rw [String.append_empty]
  rw [joined]
  constructor
  · exact parseAll_respaced white nothing loose
  · exact parseAll_respaced nothing white loose

theorem parseAll_spaced_inside :
    let query : Query := ⟨.select, .projection ["genre", "artist"], .only "artist" (.ofText "Muse") .strict, 0⟩
    let blank := "\r\n\t "
    (∀ c ∈ blank.toList, c ∈ [' ', '\t', '\r', '\n']) ∧
      Text.Loose "select (genre,".toList "artist) where &\x7bartist=Muse\x7d".toList ∧
      parseAll ("select (genre," ++ blank ++ "artist) where &\x7bartist=Muse\x7d") = .ok [query] ∧
      Text.Loose "select (genre,artist) where &\x7bartist=Muse".toList "\x7d".toList ∧
      parseAll ("select (genre,artist) where &\x7bartist=Muse" ++ blank ++ "\x7d") = .ok [query] := by
  intro query blank
  have listed : ∀ c ∈ blank.toList, c ∈ [' ', '\t', '\r', '\n'] := by
    have table : blank.toList.all ([' ', '\t', '\r', '\n'].contains ·) := by decide
    simpa only [List.all_eq_true, List.contains_iff_mem] using table
  have read : parseAll "select (genre,artist) where &\x7bartist=Muse\x7d" = .ok [query] := by
    have acts : Command.select ≠ .showProperty := by decide
    have suits : (Subject.projection ["genre", "artist"]).Suits .select :=
      .projection acts (by decide) (by decide)
    have named : Text.Names CharClass.isPairPart "artist" := by decide
    have written : Text.WrittenIn CharClass.isPairPart "Muse" := by decide
    have wellFormed : (Target.only "artist" (.ofText "Muse") .strict).WellFormed :=
      Target.wellFormed_only ⟨named, Requirement.ofText_wellFormed written⟩
    have text : filterText .select ["genre", "artist"] query.target =
        "select (genre,artist) where &\x7bartist=Muse\x7d" := by decide
    rw [← text]
    exact parseAll_filterText trivial acts suits wellFormed
  have afterComma : Text.Loose "select (genre,".toList "artist) where &\x7bartist=Muse\x7d".toList := by decide
  have beforeBrace : Text.Loose "select (genre,artist) where &\x7bartist=Muse".toList "\x7d".toList := by decide
  refine ⟨listed, afterComma, ?_, beforeBrace, ?_⟩
  · exact (parseAll_spaced _ blank _ listed afterComma [query]).mpr read
  · exact (parseAll_spaced _ blank _ listed beforeBrace [query]).mpr read

end TagQuery.Query
