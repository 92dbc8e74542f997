import TagQuery.Classification
import TagQuery.DateIndex
import TagQuery.Record.Format

/-!
# Reports in JSON

How the answers about a store are written.
-/

namespace TagQuery

def Bucket.toJson (b : Bucket) : Json :=
  .obj [("count", .nat b.count), ("date_range", b.dateRange.toJson)]

def Buckets.toJson (buckets : Buckets) : Json :=
  .obj (buckets.toList.map fun (value, bucket) => (value, bucket.toJson))

def DateCount.toJson (count : DateCount) : Json :=
  .obj [("exact", .nat count.exact), ("overlapping", .nat count.overlapping)]

end TagQuery
