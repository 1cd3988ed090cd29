import InfoFlow.Sandbox.Awk.Value

namespace InfoFlow.Awk

/-- A table of values under keys that are texts. The entries are in buckets, by a number that is
    computed from the key, and are gone through bucket by bucket; of those in one bucket the one
    that was looked for last comes first. -/
structure Table where
  buckets : Array (List (String × Value)) := Array.replicate 64 []
  size : Nat := 0

namespace Table

/-- The number of a key: each byte is mixed in and the sum multiplied. -/
def hash (key : String) : UInt32 :=
  key.toList.foldl (fun h c => (h ^^^ UInt32.ofNat c.toNat) * 16777619) 2166136261

/-- The bucket that a key belongs to. -/
def bucketOf (table : Table) (key : String) : Nat :=
  (hash key).toNat % max table.buckets.size 1

def get? (table : Table) (key : String) : Option Value :=
  (table.buckets[table.bucketOf key]?.getD []).lookup key

def contains (table : Table) (key : String) : Bool :=
  (table.get? key).isSome

/-- The average number of entries in a bucket that is not exceeded. -/
def fullness : Nat := 12

/-- A table with twice the buckets. -/
def grown (table : Table) : Table :=
  let count := 2 * table.buckets.size
  let empty : Table := { buckets := Array.replicate count [], size := table.size }
  table.buckets.toList.flatten.reverse.foldl (fun grown (key, value) =>
    let n := grown.bucketOf key
    { grown with buckets := grown.buckets.modify n ((key, value) :: ·) }) empty

/-- Puts a value at a key. -/
def put (table : Table) (key : String) (value : Value) : Table :=
  let n := table.bucketOf key
  let bucket := table.buckets[n]?.getD []
  let isNew := (bucket.lookup key).isNone
  let bucket := (key, value) :: if isNew then bucket else bucket.filter (·.1 != key)
  let table : Table := {
    buckets := table.buckets.setIfInBounds n bucket
    size := if isNew then table.size + 1 else table.size }
  if table.size > fullness * table.buckets.size then table.grown else table

def remove (table : Table) (key : String) : Table :=
  let n := table.bucketOf key
  if table.contains key then
    { buckets := table.buckets.modify n fun bucket => bucket.filter (·.1 != key)
      size := table.size - 1 }
  else table

/-- The keys, in the order in which they are gone through. -/
def keys (table : Table) : List String :=
  table.buckets.toList.flatten.map Prod.fst

def ofList (entries : List (String × Value)) : Table :=
  entries.foldl (fun table (key, value) => table.put key value) {}

end Table

end InfoFlow.Awk
