import TagQuery.Query.OfTokens

namespace TagQuery

/-- Tokens that are read one query after another. What an error has consumed stays consumed. -/
structure TokenStream where
  remaining : List Token
  stop : Nat

namespace TokenStream

def ofTokens (tokens : List Token) : TokenStream := ⟨tokens, Query.stopOf tokens⟩

def nextQuery (stream : TokenStream) : Except QueryError Query × TokenStream :=
  let parsed := Query.parseTokens stream.stop stream.remaining
  (parsed.outcome, { stream with remaining := parsed.rest })

def allQueries (stream : TokenStream) : Except QueryError (List Query) × TokenStream :=
  let parsed := Query.parseAllTokens stream.stop stream.remaining
  (parsed.outcome, { stream with remaining := parsed.rest })

end TokenStream

end TagQuery
