import TagQuery.Pattern
import TagQuery.Record
import TagQuery.Text.Blank
import TagQuery.Text.Lowercase
import TagQuery.Text.Pieces

/-!
# Filters

The conditions of a query that do not look at categories: rating, resolution,
date, label, description, raw files, region, file name, a predicate on the data
inside the file, and free text.
-/

namespace TagQuery

/-- How the rating of a record is compared with the wanted one. -/
inductive RatingMode where
  | exact
  | atLeast
  | lessThan
  | notEqual
  deriving DecidableEq, Repr

def RatingMode.accepts (mode : RatingMode) (wanted actual : UInt8) : Bool :=
  match mode with
  | .exact => actual == wanted
  | .atLeast => actual ≥ wanted
  | .lessThan => actual < wanted
  | .notEqual => actual != wanted

/-- Bounds on the number of pixels in millions; zero is no bound. -/
structure Resolution where
  minMegapixel : UInt32
  maxMegapixel : UInt32
  deriving DecidableEq, Repr

namespace Resolution

def isUnbounded (bounds : Resolution) : Bool :=
  bounds.minMegapixel == 0 && bounds.maxMegapixel == 0

def accepts (bounds : Resolution) (width height : UInt32) : Bool :=
  let pixels := width.toNat * height.toNat
  let tooFew := bounds.minMegapixel > 0 && pixels < bounds.minMegapixel.toNat * 1000000
  let tooMany := bounds.maxMegapixel > 0 && pixels > bounds.maxMegapixel.toNat * 1000000
  !tooFew && !tooMany

end Resolution

/-- A part of the globe between two parallels and two meridians. -/
structure GeoBox where
  north : Float
  south : Float
  east : Float
  west : Float

/-- The place lies in the box, which may reach over the antimeridian. -/
def GeoBox.contains (box : GeoBox) (place : Coordinates) : Bool :=
  if place.lat < box.south || place.lat > box.north then false
  else if box.west ≤ box.east then place.lon ≥ box.west && place.lon ≤ box.east
  else place.lon ≥ box.west || place.lon ≤ box.east

def rawExtensions : List String :=
  ["crw", "cr2", "nef", "bay", "mos", "mrw", "orf", "cs1", "dc2", "kdc", "raf", "rdc",
    "x3f", "arw", "dng", "rw2", "pef", "srw"]

/-- What follows the last dot of a file name. -/
def extension? (fileName : String) : Option String :=
  let reversed := fileName.toList.reverse
  if reversed.contains '.' then some (String.ofList (reversed.takeWhile (· != '.')).reverse)
  else none

/-- The name is that of a raw file; the case of ASCII letters does not matter. -/
def isRawFileName (fileName : String) : Bool :=
  match extension? fileName with
  | none => false
  | some extension => rawExtensions.contains (String.ofList (extension.toList.map Char.toLower))

/-- The filters of a query. -/
structure Filters where
  date : DateRange := .unbounded
  rating : Option UInt8 := none
  ratingMode : RatingMode := .exact
  resolution : Resolution := ⟨0, 0⟩
  label : String := ""
  description : String := ""
  rawOnly : Bool := false
  region : Option GeoBox := none
  fileNamePattern : Option Pattern := none
  /-- What is asked of the data inside a file, given by the name of the file. -/
  exif : Option (String → Bool) := none
  freeform : Option Pattern := none

namespace Filters

/-- No filter asks anything; the rating mode alone asks nothing. -/
def isEmpty (f : Filters) : Bool :=
  f.date.isNull && f.rating.isNone && f.resolution.isUnbounded && f.label.isEmpty &&
    f.description.isEmpty && !f.rawOnly && f.region.isNone && f.fileNamePattern.isNone &&
    f.exif.isNone && f.freeform.isNone

/-- The date range of the record has some time in common with the wanted one. -/
def acceptsDate (f : Filters) (r : Record) : Bool :=
  f.date.isNull || !(r.date.upper < f.date.lower || r.date.lower > f.date.upper)

/-- The record passes the filters that are cheap to look at. -/
def acceptsBefore (f : Filters) (r : Record) : Bool :=
  f.rating.all (f.ratingMode.accepts · r.rating) &&
    f.resolution.accepts r.width r.height &&
    f.acceptsDate r &&
    (f.label.isEmpty || Text.occursIn f.label.toList r.label.toList) &&
    (!f.rawOnly || isRawFileName r.fileName) &&
    f.region.all (fun box => r.coordinates.any box.contains) &&
    f.fileNamePattern.all (·.occursIn r.fileName)

/-- Every word is found in the description; case does not matter. -/
def acceptsDescription (f : Filters) (r : Record) : Bool :=
  let text := Text.lower r.description.toList
  (Text.words f.description.toList).all fun word => Text.occursIn (Text.lower word) text

/-- The record passes the filters that are looked at after the categories. -/
def acceptsAfter (f : Filters) (r : Record) : Bool :=
  f.acceptsDescription r && f.exif.all (· r.fileName)

/-- The free text is found in the label, the file name or the description. -/
def freeformHits (f : Filters) (r : Record) : Bool :=
  f.freeform.all fun pattern =>
    pattern.occursIn r.label || pattern.occursIn r.fileName || pattern.occursIn r.description

end Filters

end TagQuery
