import TagQuery.MatchText.Check
import TagQuery.Query
import TagQuery.Record.Format

/-!
# Search requests

A request describes a search as a client sends it.  It becomes a query by one
change for each part that asks for something.
-/

namespace TagQuery

/-- A search as a client asks for it. -/
structure SearchRequest where
  categories : TextTable := ∅
  label : String := ""
  description : String := ""
  date : DateRange := .unbounded
  rating : Option UInt8 := none
  ratingMode : RatingMode := .exact
  minMegapixel : UInt32 := 0
  maxMegapixel : UInt32 := 0
  rawOnly : Bool := false
  region : Option GeoBox := none
  fileNamePattern : Option String := none
  freeform : Option String := none

/-- The names of the ways to compare ratings. -/
def RatingMode.named : List (String × RatingMode) :=
  [("exact", .exact), ("at_least", .atLeast), ("less_than", .lessThan), ("not_equal", .notEqual)]

namespace Json.Reader

def ratingMode : Reader RatingMode :=
  choice fun name => RatingMode.named.lookup name

def geoBox : Reader GeoBox :=
  (floats ["north", "south", "east", "west"]).check fun
    | [north, south, east, west] => .ok ⟨north, south, east, west⟩
    | _ => .error .unsuitable

end Json.Reader

/-- A flaw in the match text of a category. -/
structure FlawedText where
  category : String
  report : MatchText.FlawReport
  deriving DecidableEq, Repr

def FlawedText.message (flawed : FlawedText) : String :=
  "match text of " ++ Text.quoted flawed.category ++ ": " ++ flawed.report.message

namespace SearchRequest

open Json.Reader (Field)

/-- The reader of requests; a field that is missing asks for nothing. -/
def reader : Json.Reader SearchRequest :=
  Json.Reader.record
    [.of "categories" (.table .string) fun r x => { r with categories := x },
      .of "label" .string fun r x => { r with label := x },
      .of "description" .string fun r x => { r with description := x },
      .of "date" .dateRange fun r x => { r with date := x },
      .of "rating" (.nullable .rating) fun r x => { r with rating := x },
      .of "rating_mode" .ratingMode fun r x => { r with ratingMode := x },
      .of "min_megapixel" .word fun r x => { r with minMegapixel := x },
      .of "max_megapixel" .word fun r x => { r with maxMegapixel := x },
      .of "raw_only" .bool fun r x => { r with rawOnly := x },
      .of "region" (.nullable .geoBox) fun r x => { r with region := x },
      .of "file_name_pattern" (.nullable .string) fun r x => { r with fileNamePattern := x },
      .of "freeform" (.nullable .string) fun r x => { r with freeform := x }]
    false {}

def ofJson (text : String) : Except Json.Problem SearchRequest :=
  reader.whole text

/-- The first match text with a flaw, in the order of the categories. -/
def flaw? (request : SearchRequest) : Option FlawedText :=
  request.categories.toList.findSome? fun (category, text) =>
    (MatchText.flaw? text).map (⟨category, ·⟩)

/-- One change of a query, if it is wanted. -/
def editIf (wanted : Bool) (edit : QueryEdit) : List QueryEdit :=
  if wanted then [edit] else []

/-- The changes that turn the query without any wish into the one of the request. -/
def edits (r : SearchRequest) : List QueryEdit :=
  r.categories.toList.map (fun (category, text) => .text category text) ++
    editIf (!r.label.isEmpty) (.label r.label) ++
    editIf (!r.description.isEmpty) (.description r.description) ++
    editIf (!r.date.isNull) (.date r.date) ++
    editIf r.rating.isSome (.rating r.rating) ++
    editIf r.rating.isSome (.ratingMode r.ratingMode) ++
    editIf (r.minMegapixel > 0) (.minMegapixel r.minMegapixel) ++
    editIf (r.maxMegapixel > 0) (.maxMegapixel r.maxMegapixel) ++
    editIf r.rawOnly (.rawOnly true) ++
    editIf r.region.isSome (.region r.region) ++
    (r.fileNamePattern.map QueryEdit.fileNamePattern).toList ++
    (r.freeform.map QueryEdit.freeform).toList

/--
The query of the request, and the last generation drawn after `drawn`: one for
the query and one for each change, also for those before a pattern that cannot
be read.
-/
def build (r : SearchRequest) (drawn : Nat) : Except Pattern.Invalid SearchQuery × Nat :=
  (SearchQuery.new (drawn + 1)).editAll (drawn + 1) r.edits

end SearchRequest

end TagQuery
