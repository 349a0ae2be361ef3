import Outbox.Engine.Basic
import Outbox.Json.Decode
import Outbox.Store.Cache
import Outbox.Store.Settings
import Outbox.Store.Uploads

/-!
# Cached values, local copies and uploads of an engine

Everything here works on the store alone: no event is broadcast and no pass is asked for. Settings
need nothing but the statements on their table, and likewise most look-ups of the others.
-/
namespace Outbox

open Time

namespace Engine

/-- Caches a value for a span or for ever. That is done as well as possible: trouble is logged
and nothing else. -/
def cacheValue (e : Engine) (key : String) (value : Json) (ttl : Option Instant.Span)
    (now : Instant) : Engine :=
  let (e, result) : Engine × Except Error Unit := match CacheEntry.fresh key value now ttl with
    | .error fault => (e, .error fault)
    | .ok entry => e.change now fun db => (db.putCacheEntry entry).map fun db => (db, ())
  match result with
  | .ok () => e
  | .error fault => e.log (.warn ("⚠️ 写入缓存失败 key=" ++ key ++ ": " ++ fault.message))

/-- The cached value of a key. -/
def cached (e : Engine) (key : String) (now : Instant) : Engine × Except Error (Option Json) :=
  e.change now fun db => db.cached key now

/-- The cached value of a key as data of one kind. -/
def cachedAs (e : Engine) (key : String) (decode : Json.Decoder) (now : Instant) :
    Engine × Except Error (Option Json) :=
  match e.cached key now with
  | (e, .ok (some v)) =>
    match decode v with
    | .ok v => (e, .ok (some v))
    | .error fault => (e, .error (.serialization fault))
  | other => other

/-- Removes all cached values whose time is over. -/
def purgeCache (e : Engine) (now : Instant) : Engine × Except Error Nat :=
  e.change now fun db => db.deleteExpired now.toMillis

/-- Stores the local copy of an entity. -/
def saveEntity (e : Engine) (kind : EntityKind) (id : String) (value : Json) (now : Instant) :
    Engine × Except Error EntityRecord :=
  let r : EntityRecord := ⟨id, value, now⟩
  e.change now fun db => (db.putEntity kind r).map fun db => (db, r)

/-- Stores several local copies with one common time, all or none; without any the store is left
alone. -/
def saveEntities (e : Engine) (kind : EntityKind) (items : List (String × Json))
    (now : Instant) : Engine × Except Error Nat :=
  if items.isEmpty then (e, .ok 0)
  else
    match e.access now fun db => db.putBatch kind (items.map fun (id, v) => ⟨id, v, now⟩) with
    | (e, .error fault) => (e, .error fault)
    | (e, .ok ()) =>
      (e.log (.info ("✅ 批量保存 " ++ toString items.length ++ " 条 " ++ kind.name ++ " 实体")),
        .ok items.length)

/-- Puts a file where it waits to be uploaded. -/
def addUpload (e : Engine) (u : PendingUpload) (now : Instant) : Engine × Except Error String :=
  match e.change now fun db => (db.insertUpload u).map fun db => (db, ()) with
  | (e, .error fault) => (e, .error fault)
  | (e, .ok ()) =>
    (e.log (.info ("📦 待上传入队: id=" ++ u.id ++ ", size=" ++ toString u.bytes.length ++ " bytes")),
      .ok u.id)

end Engine

end Outbox
