import TagQuery.Query.OfTokens
import TagQuery.Token.OfText

namespace TagQuery.Query

/-- Reads a text that holds exactly one query. Terminators may follow it. -/
def parse (text : String) : Except QueryError Query :=
  match tokenize text with
  | .error cause => .error cause
  | .ok tokens =>
    let parsed := parseTokens (stopOf tokens) tokens
    match parsed.outcome, skipTerminators parsed.rest with
    | .error cause, _ => .error cause
    | .ok query, [] => .ok query
    | .ok _, rest => .error (.expecting "end of input" (stopOf tokens) rest)

def parseAll (text : String) : Except QueryError (List Query) :=
  match tokenize text with
  | .error cause => .error cause
  | .ok tokens => (parseAllTokens (stopOf tokens) tokens).outcome

end TagQuery.Query
