import TagQuery.Main
import TagQuery.Query.NormalForm
import TagQuery.Session.Action
import TagQuery.Session.Event
import TagQuery.Text.Folding
import TagQuery.Proofs.Classification.Caches
import TagQuery.Proofs.Classification.CategoryRenames
import TagQuery.Proofs.Classification.Counts
import TagQuery.Proofs.Classification.DateOrder
import TagQuery.Proofs.Classification.Dates
import TagQuery.Proofs.Classification.DrillDown
import TagQuery.Proofs.Classification.Groups
import TagQuery.Proofs.Classification.NoOther
import TagQuery.Proofs.Classification.Stopping
import TagQuery.Proofs.Classification.Visits
import TagQuery.Proofs.DateIndex
import TagQuery.Proofs.DateIndex.FullWindow
import TagQuery.Proofs.DateRange
import TagQuery.Proofs.DateRange.Instants
import TagQuery.Proofs.DateRange.Order
import TagQuery.Proofs.Hierarchy
import TagQuery.Proofs.Hierarchy.Closure
import TagQuery.Proofs.Hierarchy.ValueRenames
import TagQuery.Proofs.Json.Strings
import TagQuery.Proofs.Lists
import TagQuery.Proofs.MatchCache
import TagQuery.Proofs.MatchCache.Uses
import TagQuery.Proofs.MatchText.BlankText
import TagQuery.Proofs.MatchText.Checking
import TagQuery.Proofs.MatchText.Cuts
import TagQuery.Proofs.MatchText.Joining
import TagQuery.Proofs.MatchText.Padding
import TagQuery.Proofs.MatchText.Splitting
import TagQuery.Proofs.MatchText.Values
import TagQuery.Proofs.Matcher.Evaluation
import TagQuery.Proofs.Matcher.Notes
import TagQuery.Proofs.Matcher.OfText
import TagQuery.Proofs.Matcher.Wildcard
import TagQuery.Proofs.Query.AddedValues
import TagQuery.Proofs.Query.CategoryRenames
import TagQuery.Proofs.Query.Constraints
import TagQuery.Proofs.Query.Edits
import TagQuery.Proofs.Query.Lock
import TagQuery.Proofs.Query.Matching
import TagQuery.Proofs.Query.Narrowing
import TagQuery.Proofs.Query.NormalForm
import TagQuery.Proofs.Query.PaddedTexts
import TagQuery.Proofs.Query.RequiredValues
import TagQuery.Proofs.Renames
import TagQuery.Proofs.Session.Actions
import TagQuery.Proofs.Session.Answers
import TagQuery.Proofs.Session.CategoryRenames
import TagQuery.Proofs.Session.Coherence
import TagQuery.Proofs.Session.DateCounts
import TagQuery.Proofs.Session.DateOrder
import TagQuery.Proofs.Session.Entries
import TagQuery.Proofs.Session.Evaluations
import TagQuery.Proofs.Session.FreeText
import TagQuery.Proofs.Session.Moves
import TagQuery.Proofs.Session.Revisions
import TagQuery.Proofs.Session.Snapshots
import TagQuery.Proofs.Session.TagCounts
import TagQuery.Proofs.Session.ValueRenames
import TagQuery.Proofs.Store
import TagQuery.Proofs.Tags
import TagQuery.Proofs.Text.Pieces
import TagQuery.Proofs.Text.Trim
import TagQuery.Proofs.Timestamp
