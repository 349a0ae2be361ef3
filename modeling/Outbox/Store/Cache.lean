import Outbox.Store.Queue

/-!
# Cached values in the database

A cached value may end; after that it counts as absent. It is removed when someone asks for it, or
with all others whose time is over.
-/
namespace Outbox

open Table Time

namespace CacheEntry

def toRow (e : CacheEntry) : List Cell :=
  [.text e.key, .text e.value.text, .integer e.storedAt.toMillis,
    .ofOption (fun t => .integer t.toMillis) e.expiresAt]

def ofRow (r : Row) : Except Error CacheEntry := do
  let key ← Error.ofTable (Place.text ⟨0, "key"⟩ (r.cell 0))
  let value ← Error.ofTable (Place.text ⟨1, "data"⟩ (r.cell 1))
  let storedAt ← Error.ofTable (Place.integer ⟨2, "stored_at"⟩ (r.cell 2))
  let expiresAt ← Error.ofTable (Place.integer? ⟨3, "expires_at"⟩ (r.cell 3))
  let value ← parsePayload value
  pure ⟨key, value, .ofMillis storedAt, expiresAt.map .ofMillis⟩

/-- An entry stored now, for a span or for ever. -/
def fresh (key : String) (value : Json) (now : Instant) (ttl : Option Instant.Span) :
    Except Error CacheEntry :=
  match ttl with
  | none => .ok ⟨key, value, now, none⟩
  | some span =>
    if !span.isCountable then
      .error (.invalidArgument
        "TTL 超出范围: Source duration value is out of range for the target type")
    else
      match now.add? span with
      | some last => .ok ⟨key, value, now, some last⟩
      | none =>
        .error (.invalidArgument ("TTL 超出可表示的时间范围: TimeDelta \x7b secs: "
          ++ toString span.seconds ++ ", nanos: " ++ toString span.nanos ++ " \x7d"))

end CacheEntry

namespace Database

/-- Stores an entry in the place of any other with its key. -/
def putCacheEntry (db : Database) (e : CacheEntry) : Except Error Database :=
  Error.ofTable (db.upsert .cache e.toRow [1, 2, 3])

def cacheEntryOf? (db : Database) (key : String) : Except Error (Option CacheEntry) := do
  match ← Error.ofTable (db.row? .cache key) with
  | some r => (CacheEntry.ofRow r).map some
  | none => pure none

def deleteCacheEntry (db : Database) (key : String) : Except Error (Database × Bool) :=
  Error.ofTable (db.deleteKey .cache key)

/-- The value of a key at an instant. An entry whose time is over is removed. -/
def cached (db : Database) (key : String) (now : Instant) :
    Except Error (Database × Option Json) := do
  match ← db.cacheEntryOf? key with
  | none => pure (db, none)
  | some e =>
    if e.isExpiredAt now then do
      -- Whoever looks first cleans up; if that is refused, so is the look-up.
      let (db, _) ← db.deleteCacheEntry key
      pure (db, none)
    else pure (db, some e.value)

def clearCache (db : Database) : Except Error (Database × Nat) :=
  Error.ofTable (db.delete .cache fun _ => true)

/-- Removes all entries that end before a time in milliseconds. -/
def deleteExpired (db : Database) (millis : Int) : Except Error (Database × Nat) :=
  Error.ofTable (db.delete .cache fun r =>
    r.cell 3 != .null && (r.cell 3).compareTo (.integer millis) == .lt)

def countCache (db : Database) : Except Error Nat := Error.ofTable (db.count .cache)

end Database

end Outbox
