import TagQuery.Query.Compiled

/-!
# Search queries

A query holds one match text for each category and the filters.  It is compiled
when a record is first matched after a change of the query or of the store, and
keeps what was compiled.  Every change gives the query a new generation, a
number drawn from the store it was made for.
-/

namespace TagQuery

/-- What a user asks of records. -/
structure SearchQuery where
  generation : Nat
  /-- Match texts by category. -/
  texts : TextTable
  filters : Filters
  /-- Answers may be remembered by records. -/
  cacheable : Bool
  /-- What the query was last compiled to. -/
  compiled : Option CompiledQuery
  /-- How many answers have been worked out anew. -/
  evaluations : Nat

/-- A change to a query. -/
inductive QueryEdit where
  /-- Sets the match text of a category; a blank one removes it. -/
  | text (category value : String)
  /-- Adds a value to the terms of a category. -/
  | addAnd (category value : String)
  | rating (wanted : Option UInt8)
  | ratingMode (mode : RatingMode)
  | minMegapixel (megapixel : UInt32)
  | maxMegapixel (megapixel : UInt32)
  | rawOnly (value : Bool)
  | date (range : DateRange)
  | label (value : String)
  | description (value : String)
  /-- Sets the pattern for file names; the empty one removes it. -/
  | fileNamePattern (source : String)
  | region (box : Option GeoBox)
  | exif (predicate : Option (String → Bool))
  /-- Sets the free text, after which answers are not remembered; the empty one removes it. -/
  | freeform (source : String)
  | cacheable (value : Bool)
  /-- Moves the match text of a category to another. -/
  | renameCategory (old new : String)

namespace SearchQuery

/-- The query that asks nothing. -/
def new (generation : Nat) : SearchQuery :=
  { generation, texts := ∅, filters := {}, cacheable := true, compiled := none,
    evaluations := 0 }

/-- The query for a date, a label and a description. -/
def withRange (generation : Nat) (date : DateRange) (label description : String) :
    SearchQuery :=
  { new generation with filters := { date, label, description } }

/-- The query asks nothing: all its match texts are blank and its filters empty. -/
def isNull (q : SearchQuery) : Bool :=
  q.texts.toList.all (fun (_, text) => Text.isBlankText text) && q.filters.isEmpty

/-- A match text that also asks for a value. -/
def joinTerm (text : Option String) (value : String) : String :=
  let escaped := MatchText.escape value
  match text with
  | none => escaped
  | some text =>
    if Text.isBlankText text then escaped
    else text ++ String.ofList MatchText.andSeparator ++ escaped

/-- The texts after one is set; a blank text is removed. -/
def setText (texts : TextTable) (category value : String) : TextTable :=
  if Text.isBlankText value then texts.erase category else texts.insert category value

/-- The query that also asks for a value in a category, with its generation still as it was. -/
def addAnd (q : SearchQuery) (category value : String) : SearchQuery :=
  { q with texts := q.texts.insert category (joinTerm q.texts[category]? value) }

/-- The query after a change, with its generation still as it was. -/
def change (q : SearchQuery) : QueryEdit → Except Pattern.Invalid SearchQuery
  | .text category value => .ok { q with texts := setText q.texts category value }
  | .addAnd category value => .ok (q.addAnd category value)
  | .rating wanted => .ok { q with filters.rating := wanted }
  | .ratingMode mode => .ok { q with filters.ratingMode := mode }
  | .minMegapixel megapixel =>
    .ok { q with filters.resolution.minMegapixel := megapixel }
  | .maxMegapixel megapixel =>
    .ok { q with filters.resolution.maxMegapixel := megapixel }
  | .rawOnly value => .ok { q with filters.rawOnly := value }
  | .date range => .ok { q with filters.date := range }
  | .label value => .ok { q with filters.label := value }
  | .description value => .ok { q with filters.description := value }
  | .fileNamePattern source =>
    if source.isEmpty then .ok { q with filters.fileNamePattern := none }
    else
      (Pattern.ofSource source).map fun pattern =>
        { q with filters.fileNamePattern := some pattern }
  | .region box => .ok { q with filters.region := box }
  | .exif predicate => .ok { q with filters.exif := predicate }
  | .freeform source =>
    if source.isEmpty then .ok { q with filters.freeform := none }
    else
      (Pattern.ofSourceIgnoringCase source).map fun pattern =>
        { q with filters.freeform := some pattern, cacheable := false }
  | .cacheable value => .ok { q with cacheable := value }
  | .renameCategory old new => .ok { q with texts := moveKey q.texts old new }

/--
The query after a change, at the given new generation.  A pattern that cannot be
read changes nothing.
-/
def edit (q : SearchQuery) (edit : QueryEdit) (generation : Nat) :
    Except Pattern.Invalid SearchQuery :=
  (q.change edit).map fun q => { q with generation }

/--
The query after several changes, each of which draws the next generation after
`drawn`, and the last generation drawn.  The first change that fails draws none
and ends it.
-/
def editAll (q : SearchQuery) (drawn : Nat) :
    List QueryEdit → Except Pattern.Invalid SearchQuery × Nat
  | [] => (.ok q, drawn)
  | change :: changes =>
    match q.edit change (drawn + 1) with
    | .ok q => q.editAll (drawn + 1) changes
    | .error invalid => (.error invalid, drawn)

/-- The values that every match already has to carry: the terms of a sole alternative. -/
def alreadyMatched (q : SearchQuery) (category : String) : TagSet :=
  match q.texts[category]? with
  | none => ∅
  | some text =>
    match MatchText.parse text with
    | [terms] =>
      .ofList ((terms.filter fun t => !t.negated && t.value != noneMarker).map (·.value))
    | _ => ∅

/-! ## Matching -/

/-- Compiles the query for a store, under the given stamp. -/
def compile (q : SearchQuery) (store : RecordStore) (stamp : Nat) : CompiledQuery :=
  { generation := q.generation
    revision := store.revision
    stamp
    cacheable := q.cacheable
    filters := q.filters
    roots := Matcher.ofTexts store.hierarchy q.texts
    wildcard := q.filters.freeform.map (Wildcard.ofPattern · store) }

/-- What the query was compiled to, if neither query nor store have changed since. -/
def current? (q : SearchQuery) (store : RecordStore) : Option CompiledQuery :=
  q.compiled.filter fun c => c.generation == q.generation && c.revision == store.revision

/-- What the query means now, compiled under the given stamp if need be, and kept. -/
def refresh (q : SearchQuery) (store : RecordStore) (stamp : Nat) :
    CompiledQuery × SearchQuery :=
  let compiled := (q.current? store).getD (q.compile store stamp)
  (compiled, { q with compiled := some compiled })

/-- The first stamp after the given one that is not that of what the query was compiled to. -/
def nextStamp (q : SearchQuery) (stamp : Nat) : Nat :=
  match q.compiled with
  | none => stamp
  | some c => max stamp (c.stamp + 1)

def countEvaluation (q : SearchQuery) : SearchQuery :=
  { q with evaluations := q.evaluations + 1 }

/--
Whether the query matches a record of a store, with the query and the record's
cache as they are afterwards.  The values are taken from the vocabulary of
`store`, for which the query is compiled under the given stamp if need be.
-/
def matchEntry (q : SearchQuery) (entry : Entry) (store : RecordStore) (stamp : Nat) :
    Bool × SearchQuery × Entry :=
  if q.isNull then (true, q, entry)
  else
    let (compiled, q) := q.refresh store stamp
    match compiled.cached? entry.cache with
    | some known => (known, q, entry)
    | none =>
      let matched := compiled.evaluate entry.record
      (matched, q.countEvaluation,
        { entry with cache := compiled.remember entry.cache matched })

/-- Whether the query matches a record without a cache. -/
def matchBare (q : SearchQuery) (record : Record) (store : RecordStore) (stamp : Nat) :
    Bool × SearchQuery :=
  if q.isNull then (true, q)
  else
    let (compiled, q) := q.refresh store stamp
    (compiled.evaluate record, q.countEvaluation)

def matchEach (q : SearchQuery) (store : RecordStore) (stamp : Nat) :
    List Entry → List Bool × SearchQuery × List Entry
  | [] => ([], q, [])
  | entry :: entries =>
    let (matched, q, entry) := q.matchEntry entry store stamp
    let (verdicts, q, entries) := q.matchEach store stamp entries
    (matched :: verdicts, q, entry :: entries)

end SearchQuery

end TagQuery
