import Outbox.Config
import Outbox.Store.Disk
import Outbox.Store.Migration

/-!
# The local store

The store opens its database on first use: it makes the directory, opens the file and runs the
migrations. A failure leaves the store closed, so the next use tries again. Once open it stays
open.
-/
namespace Outbox

open Time

/-- Where the database is. -/
inductive Location where
  | memory
  | file (path : String)
  deriving DecidableEq

namespace Location

def ofConfig (c : Config) : Location := if c.inMemory then .memory else .file c.databasePath

end Location

/-- An open database: its content in memory, or the full path of its file. -/
inductive Connection where
  | memory (db : Database)
  | file (path : List String)

structure Storage where
  disk : Disk
  location : Location
  connection : Option Connection

namespace Storage

/-- A store that is still closed. -/
def closed (disk : Disk) (location : Location) : Storage := ⟨disk, location, none⟩

def isOpen (s : Storage) : Bool := s.connection.isSome

/-- The content of the open database. -/
def database? (s : Storage) : Option Database :=
  match s.connection with
  | some (.memory db) => some db
  | some (.file path) => some ((s.disk.database? path).getD .empty)
  | none => none

/-- Replaces the content of the open database. -/
def setDatabase (s : Storage) (db : Database) : Storage :=
  match s.connection with
  | some (.memory _) => { s with connection := some (.memory db) }
  | some (.file path) => { s with disk := s.disk.putDatabase path db }
  | none => s

/-- Connects to the database before it is prepared. -/
def connect (s : Storage) : Storage × Except Error Connection :=
  match s.location with
  | .memory => (s, .ok (.memory .empty))
  | .file path =>
    let parent := Disk.parent path
    match s.disk.makeDirectories (Disk.parts parent) with
    | .error fault =>
      (s, .error (.storeUnavailable ("创建数据目录失败 (" ++ parent ++ "): " ++ fault.message)))
    | .ok disk =>
      let s := { s with disk := disk }
      match disk.openDatabase path with
      | .error () =>
        (s, .error (.storeUnavailable ("打开数据库失败 (" ++ path ++ "): "
          ++ (Table.Fault.cannotOpen path).message)))
      | .ok (disk, full, readable) =>
        let s := { s with disk := disk }
        if readable then (s, .ok (.file full))
        else (s, .error (.database ("设置 PRAGMA 失败: " ++ Table.Fault.notADatabase.message)))

/-- Connects and prepares the database. -/
def openFresh (s : Storage) (now : Instant)
    (checksum : Migration → UInt64 := Migration.checksum) :
    Storage × Except Error (List LogLine) :=
  match s.connect with
  | (s, .error e) => (s, .error e)
  | (s, .ok connection) =>
    let linked := { s with connection := some connection }
    let (db, result) := ((linked.database?).getD .empty).prepare now checksum
    match result with
    -- What the preparation did before it failed stays in the file.
    | .error e => ({ linked.setDatabase db with connection := none }, .error e)
    | .ok lines =>
      let place := match s.location with
        | .memory => "✅ 本地存储已打开 (内存)"
        | .file path => "✅ 本地存储已打开: " ++ path
      (linked.setDatabase db, .ok (lines ++ [.info place]))

/-- Opens the store, unless it is open. -/
def ensureOpen (s : Storage) (now : Instant)
    (checksum : Migration → UInt64 := Migration.checksum) :
    Storage × List LogLine × Except Error Unit :=
  if s.isOpen then (s, [], .ok ())
  else
    match s.openFresh now checksum with
    | (s, .ok lines) => (s, lines, .ok ())
    | (s, .error e) => (s, [.error ("❌ 打开本地存储失败: " ++ e.message)], .error e)

/-- The schema version of the database. -/
def schemaVersion (s : Storage) (now : Instant) :
    Storage × List LogLine × Except Error (Option Int) :=
  let (s, lines, result) := s.ensureOpen now
  (s, lines, result.bind fun _ => ((s.database?).getD .empty).schemaVersion)

end Storage

end Outbox
