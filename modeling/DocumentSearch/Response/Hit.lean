import DocumentSearch.Json.Record

/-!
The records of a search response: hits and buckets. Members without a field of their own are kept
in their order, so a record written again says what the response said.
-/

namespace DocumentSearch

/-- The member, unless its value is missing or null. -/
def memberIfPresent (name : String) : Option Json → Entries Json
  | none => []
  | some .null => []
  | some value => [(name, value)]

/-- A matching document. Its four known members may all be absent. -/
structure Hit where
  index : Option String := none
  id : Option String := none
  score : Option Binary64 := none
  source : Json := .null
  extra : Entries Json := []

namespace Hit

def record : Record Hit where
  name := "Hit"
  defaults := {}
  fields := [
    { name := "_index"
      store := fun hit value => return { hit with index := ← value.asOption Json.asString } },
    { name := "_id"
      store := fun hit value => return { hit with id := ← value.asOption Json.asString } },
    { name := "_score"
      store := fun hit value => return { hit with score := ← value.asOption Json.asFloat } },
    { name := "_source"
      store := fun hit value => return { hit with source := value } }]

def keep (hit : Hit) (entry : String × Json) : Hit :=
  { hit with extra := hit.extra.put entry.1 entry.2 }

def read : Json → Except RecordError Hit := record.readKeeping keep

def document (hit : Hit) : Json :=
  .object (memberIfPresent "_index" (hit.index.map .string) ++
    memberIfPresent "_id" (hit.id.map .string) ++
    memberIfPresent "_score" (hit.score.map .float) ++
    memberIfPresent "_source" (some hit.source) ++ hit.extra)

end Hit

/-- The documents that share a key, counted. -/
structure Bucket where
  key : Json
  count : UInt64
  extra : Entries Json

namespace Bucket

def record : Record Bucket where
  name := "Bucket"
  defaults := ⟨.null, 0, []⟩
  fields := [
    { name := "key"
      required := true
      store := fun bucket value => return { bucket with key := value } },
    { name := "doc_count"
      required := true
      store := fun bucket value => return { bucket with count := ← value.asNatural } }]

def keep (bucket : Bucket) (entry : String × Json) : Bucket :=
  { bucket with extra := bucket.extra.put entry.1 entry.2 }

def read : Json → Except RecordError Bucket := record.readKeeping keep

def document (bucket : Bucket) : Json :=
  .object (("key", bucket.key) :: ("doc_count", .natural bucket.count) :: bucket.extra)

end Bucket

end DocumentSearch
