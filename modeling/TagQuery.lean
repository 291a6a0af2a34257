import TagQuery.Answer.Display
import TagQuery.Console.Json
import TagQuery.Console.Table
import TagQuery.Engine.Run
import TagQuery.Json.Answer
import TagQuery.Json.Query
import TagQuery.Json.Settings
import TagQuery.OrderedMap.Lemmas
import TagQuery.Store.FaultyLibrary
import TagQuery.Query.Stream
import TagQuery.Proofs.Text.Pieces
import TagQuery.Proofs.Text.Trim
import TagQuery.Proofs.CharClass
import TagQuery.Proofs.Keyword
import TagQuery.Proofs.OrderedMap
import TagQuery.Proofs.Query.Canonical
import TagQuery.Proofs.Query.Layout
import TagQuery.Proofs.Query.Pieces
import TagQuery.Proofs.Store.Backed
import TagQuery.Proofs.Engine.Selection
import TagQuery.Proofs.Engine.Sequence
import TagQuery.Proofs.Engine.WritePhase
import TagQuery.Proofs.Engine.Filter
import TagQuery.Proofs.Engine.Equality
import TagQuery.Proofs.Engine.IdLabels
import TagQuery.Proofs.Engine.Provenance
import TagQuery.Proofs.Query.SyntaxErrors
import TagQuery.Proofs.Engine.Failure
import TagQuery.Proofs.Answer
import TagQuery.Proofs.Engine.Properties
import TagQuery.Proofs.Engine.Commuting
import TagQuery.Proofs.Engine.Updating
import TagQuery.Proofs.Engine.ReadBack
import TagQuery.Proofs.Engine.Batches
import TagQuery.Proofs.Text.Spacing
import TagQuery.Proofs.Token.Itemwise
import TagQuery.Proofs.Token.Spacing
import TagQuery.Proofs.Query.Spacing
import TagQuery.Proofs.Json.RoundTrip
import TagQuery.Proofs.Token.Concatenation
import TagQuery.Proofs.Query.Grammar
import TagQuery.Proofs.Token.PairPieces
import TagQuery.Proofs.Token.TargetBody
import TagQuery.Proofs.Token.Extent
import TagQuery.Proofs.Token.Faults
import TagQuery.Proofs.Token.CollectionBody
import TagQuery.Proofs.Query.Single
import TagQuery.Proofs.Query.Progress
import TagQuery.Proofs.Query.LetterCase
import TagQuery.Proofs.Engine.Algebra
import TagQuery.Proofs.Engine.Projection
import TagQuery.Proofs.Query.Assignments
import TagQuery.Proofs.Store.Listing
import TagQuery.Proofs.Engine.Session
