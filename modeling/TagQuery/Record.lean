import TagQuery.DateRange
import TagQuery.MatchCache
import TagQuery.Tags

/-!
# Records

A record describes a photo or a video: its tags by category, its date range and
the few attributes that filters look at.  In a store every record has a match
cache beside it, which edits of the tags empty and other edits leave alone.
-/

namespace TagQuery

/-- A place on the globe, in degrees. -/
structure Coordinates where
  lat : Float
  lon : Float

/-- What kind of file a record stands for. -/
inductive MediaType where
  | image
  | video
  deriving DecidableEq, Repr

/-- Which kinds of files are wanted. -/
structure MediaMask where
  image : Bool
  video : Bool
  deriving DecidableEq, Repr

namespace MediaMask

def any : MediaMask := ⟨true, true⟩

def images : MediaMask := ⟨true, false⟩

def videos : MediaMask := ⟨false, true⟩

def none : MediaMask := ⟨false, false⟩

/-- The mask whose lowest bit stands for images and the next one for videos. -/
def ofBits (bits : Nat) : MediaMask :=
  ⟨bits.testBit 0, bits.testBit 1⟩

def accepts (mask : MediaMask) : MediaType → Bool
  | .image => mask.image
  | .video => mask.video

end MediaMask

/-- What is known about a photo or a video. -/
structure Record where
  fileName : String
  label : String := ""
  description : String := ""
  date : DateRange := .unbounded
  media : MediaType := .image
  rating : UInt8 := 0
  width : UInt32 := 0
  height : UInt32 := 0
  coordinates : Option Coordinates := none
  locked : Bool := false
  tags : TagTable := ∅

namespace Record

def tagsOf (r : Record) (category : String) : TagSet :=
  r.tags.valuesOf category

def hasTag (r : Record) (category value : String) : Bool :=
  (r.tagsOf category).contains value

/-- The record has one of the values; the smaller of the two sets is gone through. -/
def hasAnyTag (r : Record) (category : String) (values : TagSet) : Bool :=
  let tags := r.tagsOf category
  if tags.size ≤ values.size then tags.toList.any values.contains
  else values.toList.any tags.contains

def addTag (r : Record) (category value : String) : Record :=
  { r with tags := r.tags.insert category ((r.tagsOf category).insert value) }

/-- The record without a tag; the category stays, even without tags. -/
def removeTag (r : Record) (category value : String) : Record :=
  { r with tags := r.tags.modify category (·.erase value) }

/-- The record with one tag in place of another, if it has that one. -/
def renameTag (r : Record) (category old new : String) : Record :=
  if r.hasTag category old then (r.removeTag category old).addTag category new else r

/-- The record with the tags of one category moved to another. -/
def renameCategory (r : Record) (old new : String) : Record :=
  match r.tags[old]? with
  | some values => { r with tags := TagTable.addAll (r.tags.erase old) new values }
  | none => r

end Record

/-- A record in a store, with its match cache. -/
structure Entry where
  record : Record
  cache : MatchCache

/-- A change to one record in a store. -/
inductive RecordEdit where
  | addTag (category value : String)
  | removeTag (category value : String)
  | renameTag (category old new : String)
  | renameCategory (old new : String)
  /-- Writes any fields of the record; the cache is not told. -/
  | overwrite (change : Record → Record)
  /-- Puts another record there, about which nothing is remembered. -/
  | replace (record : Record)

namespace RecordEdit

/-- The change to the record itself. -/
def apply (change : RecordEdit) (r : Record) : Record :=
  match change with
  | .addTag category value => r.addTag category value
  | .removeTag category value => r.removeTag category value
  | .renameTag category old new => r.renameTag category old new
  | .renameCategory old new => r.renameCategory old new
  | .overwrite change => change r
  | .replace record => record

/-- The change empties the cache. -/
def clearsCache : RecordEdit → Bool
  | .overwrite _ => false
  | _ => true

/-- Whether adding or removing a tag changed the record; other edits do not tell. -/
def outcome? (change : RecordEdit) (r : Record) : Option Bool :=
  match change with
  | .addTag category value => some (!r.hasTag category value)
  | .removeTag category value => some (r.hasTag category value)
  | _ => none

end RecordEdit

namespace Entry

/-- A record about which nothing is remembered. -/
def fresh (record : Record) : Entry :=
  ⟨record, .empty⟩

def edit (entry : Entry) (change : RecordEdit) : Entry :=
  { record := change.apply entry.record
    cache := if change.clearsCache then .empty else entry.cache }

end Entry

end TagQuery
