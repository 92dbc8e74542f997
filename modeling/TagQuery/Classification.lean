import TagQuery.Query

/-!
# Classification

For every value of a category, how many of the matched records carry it: the
numbers that a category browser shows.  Beside the plain values there is a
bucket for records with no other value than those already asked for, under the
reserved marker, and a group counts every record that has it or anything it
holds.
-/

namespace TagQuery

/-- How many records were counted, and a range that covers their dates. -/
structure Bucket where
  count : Nat
  dateRange : DateRange
  deriving DecidableEq

namespace Bucket

def empty : Bucket :=
  ⟨0, .unbounded⟩

def add (b : Bucket) (date : DateRange) : Bucket :=
  ⟨b.count + 1, b.dateRange.extendTo date⟩

end Bucket

abbrev Buckets := Std.ExtTreeMap String Bucket

/-! ## Counting groups -/

/-- The counters of the groups of a category. -/
structure GroupCounter where
  /-- For every member, the groups that hold it. -/
  holders : TagTable
  /-- One bucket for each group. -/
  buckets : Buckets

namespace GroupCounter

/-- For every member of a table, the groups that hold it. -/
def holdersOf (groups : TagTable) : TagTable :=
  groups.foldl (fun holders group members =>
    members.foldl (fun holders member => TagTable.addAll holders member {group}) holders) ∅

/-- Counters for groups and all that they hold, with nothing counted. -/
def new (groups : TagTable) : GroupCounter :=
  ⟨holdersOf groups, groups.map fun _ _ => .empty⟩

/-- The groups that a record with the given values counts for. -/
def groupsHit (counter : GroupCounter) (items : TagSet) : TagSet :=
  .ofList (items.toList.flatMap fun item =>
    (counter.holders.valuesOf item).toList ++
      if item ∈ counter.buckets then [item] else [])

/-- Counts a record once for each group that it has or that holds something it has. -/
def count (counter : GroupCounter) (items : TagSet) (date : DateRange) : GroupCounter :=
  let hit := counter.groupsHit items
  { counter with
    buckets := counter.buckets.map fun group bucket =>
      if group ∈ hit then bucket.add date else bucket }

/-- The buckets of the groups for which something was counted. -/
def result (counter : GroupCounter) : Buckets :=
  counter.buckets.filter fun _ bucket => 0 < bucket.count

end GroupCounter

/-! ## Counting values -/

/-- By what records are classified, and which of them. -/
structure Classifier where
  category : String
  media : MediaMask := .any
  /-- The count stops once two buckets hold something. -/
  stopEarly : Bool := false
  /-- Only records in a window count; those that only overlap it count if that is set. -/
  window : Option (DateRange × Bool) := none

/-- Places of records in a store, in the order in which the records are looked at. -/
abbrev Places := List Nat

/-- The counts on the way through the records. -/
structure Tally where
  buckets : Buckets
  groups : GroupCounter
  /-- How many value buckets hold something. -/
  populated : Nat

namespace Tally

/-- Nothing counted; the bucket of the marker is always there. -/
def start (groups : TagTable) : Tally :=
  { buckets := (∅ : Buckets).insert noneMarker .empty
    groups := .new groups
    populated := 0 }

def bump (t : Tally) (date : DateRange) (value : String) : Tally :=
  let bucket := t.buckets.getD value .empty
  { t with
    buckets := t.buckets.insert value (bucket.add date)
    populated := if bucket.count = 0 then t.populated + 1 else t.populated }

/-- The buckets of values, and over them those of groups. -/
def result (t : Tally) : Buckets :=
  t.buckets ∪ t.groups.result

end Tally

namespace Classifier

/-- Restricts the count to a window; one without a start restricts nothing. -/
def within (job : Classifier) (window : DateRange) (overlapping : Bool) : Classifier :=
  { job with window := window.start.map fun _ => (window, overlapping) }

def inWindow (job : Classifier) (r : Record) : Bool :=
  match job.window with
  | none => true
  | some (window, overlapping) =>
    match r.date.fit window with
    | .contained => true
    | .partly => overlapping
    | .apart => false

/-- The match text of a query that also asks for no other value in the category. -/
def noOtherText (job : Classifier) (q : SearchQuery) : String :=
  match q.texts[job.category]? with
  | some text => text ++ String.ofList MatchText.andSeparator ++ noneMarker
  | none => noneMarker

/-- The query for the matches without any other value in the category. -/
def noOtherQuery (job : Classifier) (q : SearchQuery) (generation : Nat) : SearchQuery :=
  { q with texts := SearchQuery.setText q.texts job.category (job.noOtherText q), generation }

/-- What the count through the records looks at. -/
structure Setup where
  job : Classifier
  base : CompiledQuery
  noOther : CompiledQuery
  /-- Values that every match carries, which are not counted. -/
  known : TagSet

/-- Compiles what the count needs, which takes a generation and two stamps. -/
def setup (job : Classifier) (q : SearchQuery) (store : RecordStore) (generation stamp : Nat) :
    Setup :=
  { job
    base := q.compile store stamp
    noOther := (job.noOtherQuery q generation).compile store (stamp + 1)
    known := q.alreadyMatched job.category }

/-- The record is one that may count, as far as the query is not asked. -/
def admits (job : Classifier) (r : Record) : Bool :=
  !r.locked && job.media.accepts r.media && job.inWindow r

namespace Setup

/-- Counts a record for its values and groups. -/
def countValues (s : Setup) (t : Tally) (r : Record) : Tally :=
  let items := r.tagsOf s.job.category
  let t := { t with groups := t.groups.count items r.date }
  (items.toList.filter (· ∉ s.known)).foldl (·.bump r.date) t

/-- Looks at one record, and leaves the record's cache as matching does. -/
def visit (s : Setup) (t : Tally) (entry : Entry) : Tally × Entry :=
  if !s.job.admits entry.record then (t, entry)
  else
    match s.base.matchEntry entry with
    | (false, entry) => (t, entry)
    | (true, entry) =>
      let t := s.countValues t entry.record
      let (alone, entry) := s.noOther.matchEntry entry
      (if alone then t.bump entry.record.date noneMarker else t, entry)

/--
Goes through the records at the given places, up to the one that makes the count
stop early.  A record may come up more than once.
-/
def visitEach (s : Setup) (t : Tally) (entries : List Entry) : Places → Tally × List Entry
  | [] => (t, entries)
  | place :: places =>
    match entries[place]? with
    | none => s.visitEach t entries places
    | some entry =>
      let (t, entry) := s.visit t entry
      let entries := entries.set place entry
      if s.job.stopEarly && 1 < t.populated then (t, entries)
      else s.visitEach t entries places

end Setup

/--
The buckets for those of the records at the given places that a query matches, and
all records with their caches as they are afterwards.  It takes a generation for the
query without other values, and two stamps from the given one on.
-/
def run (job : Classifier) (q : SearchQuery) (store : RecordStore) (generation stamp : Nat)
    (entries : List Entry) (places : Places) : Buckets × List Entry :=
  let (t, entries) :=
    (job.setup q store generation stamp).visitEach
      (.start (store.hierarchy.groupMap job.category)) entries places
  (t.result, entries)

end Classifier

/-! ## Both kinds of files -/

/-- The buckets of images and those of videos. -/
structure Overview where
  images : Buckets
  videos : Buckets

namespace Overview

/--
The overview of a category for the records of a store that a query matches.  It
takes two generations and four stamps from the given ones on.
-/
def ofStore (q : SearchQuery) (category : String) (store : RecordStore)
    (generation stamp : Nat) : Overview × List Entry :=
  let images : Classifier := { category, media := .images }
  let videos : Classifier := { category, media := .videos }
  let places := List.range store.entries.length
  let (images, entries) := images.run q store generation stamp store.entries places
  let (videos, entries) := videos.run q store (generation + 1) (stamp + 2) entries places
  (⟨images, videos⟩, entries)

end Overview

end TagQuery
