import ClusterClient.Http

/-!
The response cache. An entry is a payload with the validator that came with it; it is served only
while it is younger than the age limit, and sent along as a condition so that the server can say
that it still holds. Expired entries go when they are looked up, in a sweep before a later entry
is stored, or when they are evicted.
-/

namespace ClusterClient.Cache

structure Key where
  database : Option String
  method : Method
  route : String
deriving DecidableEq, Repr, Inhabited

structure Entry where
  validator : String
  payload : Bytes
  storedAt : Nat
deriving DecidableEq, Repr, Inhabited

end Cache

open Cache in
structure Cache where
  maxAge : Nat
  entries : List (Key × Entry) := []
  lastSweep : Nat := 0
  hits : Nat := 0
  misses : Nat := 0
deriving DecidableEq, Repr, Inhabited

namespace Cache

def Entry.isFresh (e : Entry) (maxAge now : Nat) : Bool := now - e.storedAt < maxAge

def find? (c : Cache) (key : Key) : Option Entry :=
  (c.entries.find? (·.1 = key)).map (·.2)

def size (c : Cache) : Nat := c.entries.length

def keep (c : Cache) (p : Key × Entry → Bool) : Cache :=
  { c with entries := c.entries.filter p }

def erase (c : Cache) (key : Key) : Cache := c.keep (·.1 ≠ key)

def insert (c : Cache) (key : Key) (entry : Entry) : Cache :=
  { c.erase key with entries := (c.erase key).entries ++ [(key, entry)] }

def sweep (c : Cache) (now : Nat) : Cache :=
  { c.keep (·.2.isFresh c.maxAge now) with lastSweep := now }

/-- Looks an entry up; an expired one is dropped and counts as absent. -/
def get (c : Cache) (now : Nat) (key : Key) : Cache × Option Entry :=
  match c.find? key with
  | none => ({ c with misses := c.misses + 1 }, none)
  | some entry =>
    if entry.isFresh c.maxAge now then ({ c with hits := c.hits + 1 }, some entry)
    else ({ c.erase key with misses := c.misses + 1 }, none)

def put (c : Cache) (now : Nat) (key : Key) (validator : String) (payload : Bytes) : Cache :=
  let swept := if now - c.lastSweep < c.maxAge then c else c.sweep now
  swept.insert key ⟨validator, payload, now⟩

def remove (c : Cache) (key : Key) : Cache × Bool := (c.erase key, (c.find? key).isSome)

def Key.isUnder (key : Key) (database : Option String) (stem : String) : Bool :=
  key.database == database && stem.toList.isPrefixOf key.route.toList

def counting (before after : Cache) : Cache × Nat := (after, before.size - after.size)

def invalidate (c : Cache) (database : Option String) (stem : String) : Cache × Nat :=
  c.counting (c.keep fun e => !e.1.isUnder database stem)

def evictExpired (c : Cache) (now : Nat) : Cache × Nat := c.counting (c.sweep now)

def clear (c : Cache) : Cache := { c with entries := [] }

end Cache

end ClusterClient
