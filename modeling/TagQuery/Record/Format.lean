import TagQuery.Json
import TagQuery.Json.Reader
import TagQuery.Store
import TagQuery.Timestamp.Format

/-!
# Records in JSON

Records, date ranges, groups and whole stores as JSON.  Every value with known
fields can also be written as an array of the fields in their order.
-/

namespace TagQuery

open Json.Reader (Field)

/-! ## Reading -/

namespace Json.Reader

/-- A set of strings, as an array. -/
def tagSet : Reader TagSet :=
  (list string).map (.ofList ·)

/-- An object with any keys, as a map; of two entries with one key the later holds. -/
def table (reader : Reader α) : Reader (Std.ExtTreeMap String α) :=
  (dictionary reader).map (.ofList ·)

def timestamp : Reader Timestamp :=
  string.check fun s =>
    match Timestamp.read? s with
    | some t => .ok t
    | none => .error .unsuitable

/-- A date range, taken as it is written. -/
def dateRange : Reader DateRange :=
  record
    [.of "start" (nullable timestamp) fun r t => { r with start := t },
      .of "end" (nullable timestamp) fun r t => { r with stop := t }]
    true .unbounded

/-- Numbers that all have to be there, by the names of the fields. -/
def floats (names : List String) : Reader (List Float) :=
  (record
    (names.map fun name => .of name float fun (values : List (String × Float)) x =>
      values ++ [(name, x)])
    true []).check fun values =>
      match names.mapM fun name => values.lookup name with
      | some xs => .ok xs
      | none => .error .unsuitable

def coordinates : Reader Coordinates :=
  (floats ["lat", "lon"]).check fun
    | [lat, lon] => .ok ⟨lat, lon⟩
    | _ => .error .unsuitable

def mediaType : Reader MediaType :=
  choice fun
    | "image" => some .image
    | "video" => some .video
    | _ => none

def word : Reader UInt32 :=
  (natBelow UInt32.size).map UInt32.ofNat

def rating : Reader UInt8 :=
  (natBelow UInt8.size).map UInt8.ofNat

/-- A record; a field that is missing has its default. -/
def photoRecord : Reader Record :=
  record
    [.of "file_name" string fun r x => { r with fileName := x },
      .of "label" string fun r x => { r with label := x },
      .of "description" string fun r x => { r with description := x },
      .of "date" dateRange fun r x => { r with date := x },
      .of "media_type" mediaType fun r x => { r with media := x },
      .of "rating" rating fun r x => { r with rating := x },
      .of "width" word fun r x => { r with width := x },
      .of "height" word fun r x => { r with height := x },
      .of "coordinates" (nullable coordinates) fun r x => { r with coordinates := x },
      .of "locked" bool fun r x => { r with locked := x },
      .of "categories" (table tagSet) fun r x => { r with tags := x }]
    false { fileName := "" }

end Json.Reader

/-- The contents of a store, as they are kept in a file. -/
structure Fixture where
  records : List Record
  groups : GroupTables

namespace Fixture

/-- The reader of fixtures; a field that is missing is empty. -/
def reader : Json.Reader Fixture :=
  Json.Reader.record
    [.of "records" (.list .photoRecord) fun f x => { f with records := x },
      .of "groups" (.table (.table .tagSet)) fun f x => { f with groups := x }]
    false ⟨[], ∅⟩

def ofJson (text : String) : Except Json.Problem Fixture :=
  reader.whole text

/-- The store with the contents of a fixture, which takes stamps from the given one on. -/
def store (fixture : Fixture) (stamp : Nat) : RecordStore :=
  .ofRecords fixture.records fixture.groups stamp

end Fixture

/-! ## Writing -/

def TagSet.toJson (values : TagSet) : Json :=
  .arr (values.toList.map .str)

def TagTable.toJson (table : TagTable) : Json :=
  .obj (table.toList.map fun (name, values) => (name, TagSet.toJson values))

def GroupTables.toJson (tables : GroupTables) : Json :=
  .obj (tables.toList.map fun (category, table) => (category, TagTable.toJson table))

/-- A value, or `null`. -/
def Json.ofOption (f : α → Json) : Option α → Json
  | none => .null
  | some x => f x

def Timestamp.toJson (t : Timestamp) : Json :=
  .str t.text

def DateRange.toJson (r : DateRange) : Json :=
  .obj [("start", .ofOption Timestamp.toJson r.start), ("end", .ofOption Timestamp.toJson r.stop)]

def Coordinates.toJson (place : Coordinates) : Json :=
  .obj [("lat", .float place.lat), ("lon", .float place.lon)]

def MediaType.name : MediaType → String
  | .image => "image"
  | .video => "video"

def Record.toJson (r : Record) : Json :=
  .obj [
    ("file_name", .str r.fileName),
    ("label", .str r.label),
    ("description", .str r.description),
    ("date", r.date.toJson),
    ("media_type", .str r.media.name),
    ("rating", .nat r.rating.toNat),
    ("width", .nat r.width.toNat),
    ("height", .nat r.height.toNat),
    ("coordinates", .ofOption Coordinates.toJson r.coordinates),
    ("locked", .bool r.locked),
    ("categories", TagTable.toJson r.tags)]

end TagQuery
