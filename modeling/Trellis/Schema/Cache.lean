import Trellis.Schema.Compile
/-!
A cache of checkers. Schemas are shared under identities, and the cache is keyed by identity: equal schemas
with different identities have their own checkers. Every checker that is made has an identity of its own. A
schema that has no checker leaves no entry.
-/

namespace Trellis

/-- A schema with its identity: schemas of one identity are equal. -/
structure SharedSchema where
  id : Nat
  schema : Schema

/-- A checker with its identity: checkers that are made apart have different ones, even if they are equal. -/
structure SharedChecker where
  id : Nat
  checker : Checker

/-- A checker, with the schema that it was made of. The schema stays in use with the entry, so that no other
schema gets its identity. -/
structure CacheEntry where
  shared : SharedSchema
  kept : SharedChecker

/-- The entries, the latest last, and the identity of the checker that is made next. -/
structure SchemaCache where
  entries : List CacheEntry
  next : Nat

namespace SchemaCache

def empty : SchemaCache := ⟨[], 0⟩

/-- The checker kept for a schema. -/
def find? (cache : SchemaCache) (s : SharedSchema) : Option SharedChecker :=
  (cache.entries.find? fun entry => entry.shared.id = s.id).map (·.kept)

def contains (cache : SchemaCache) (s : SharedSchema) : Bool := (cache.find? s).isSome

/-- Make a checker of a schema. It is not kept yet. -/
def make (cache : SchemaCache) (s : SharedSchema) :
    Except SchemaError (SharedChecker × SchemaCache) :=
  s.schema.compile.map fun checker =>
    (⟨cache.next, checker⟩, { cache with next := cache.next + 1 })

/-- Keep a checker that was made of a schema. If there is one by now, that one stands and the new one is
dropped. -/
def keep (cache : SchemaCache) (s : SharedSchema) (made : SharedChecker) :
    SharedChecker × SchemaCache :=
  match cache.find? s with
  | some kept => (kept, cache)
  | none => (made, { cache with entries := cache.entries ++ [⟨s, made⟩] })

/-- The checker of a schema, made on first use, and the cache after that. -/
def getOrCompile (cache : SchemaCache) (s : SharedSchema) :
    Except SchemaError SharedChecker × SchemaCache :=
  match cache.find? s with
  | some kept => (.ok kept, cache)
  | none => match cache.make s with
    | .ok (made, cache) =>
      let (kept, cache) := cache.keep s made
      (.ok kept, cache)
    | .error e => (.error e, cache)

def size (cache : SchemaCache) : Nat := cache.entries.length

def isEmpty (cache : SchemaCache) : Bool := cache.entries.isEmpty

end SchemaCache

end Trellis
