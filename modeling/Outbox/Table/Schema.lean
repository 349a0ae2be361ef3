import Outbox.Kind
import Outbox.Table.Cell

/-!
# The tables of the database

Every table has a fixed list of columns, of which one identifies its rows. Indexes exist exactly
as long as their table does.
-/
namespace Outbox

open Table

/-- A column: its name, the type it is declared with, whether it refuses to be empty, the value it
takes when a row does not give one, and whether it identifies the row. -/
structure Column where
  name : String
  type : String
  affinity : Affinity
  notNull : Bool
  default : Option (String × Cell)
  isKey : Bool

namespace Column

def text (name : String) : Column := ⟨name, "TEXT", .text, true, none, false⟩

def textKey (name : String) : Column := ⟨name, "TEXT", .text, true, none, true⟩

def optionalText (name : String) : Column := ⟨name, "TEXT", .text, false, none, false⟩

def integer (name : String) : Column := ⟨name, "INTEGER", .integer, true, none, false⟩

def optionalInteger (name : String) : Column := ⟨name, "INTEGER", .integer, false, none, false⟩

def blob (name : String) : Column := ⟨name, "BLOB", .none, true, none, false⟩

def withDefault (c : Column) (written : String) (value : Cell) : Column :=
  { c with default := some (written, value) }

/-- The cell of a row that does not name the column. -/
def absent (c : Column) : Cell :=
  match c.default with
  | some (_, value) => value
  | none => .null

end Column

/-- The tables of the database. -/
inductive TableName where
  | queue
  | deadLetters
  | cache
  | collection (kind : EntityKind)
  | settings
  | uploads
  /-- The record of the migrations that were applied. -/
  | history
  deriving DecidableEq, Repr

namespace TableName

def all : List TableName :=
  [queue, deadLetters, cache] ++ EntityKind.all.map collection ++ [settings, uploads, history]

def name : TableName → String
  | queue => "sync_queue"
  | deadLetters => "dead_letters"
  | cache => "cache"
  | collection kind => kind.name
  | settings => "user_settings"
  | uploads => "pending_uploads"
  | history => "refinery_schema_history"

def ofName? (s : String) : Option TableName := all.find? (·.name == s)

/-- The columns of a mutation, which the queue and the dead letters begin with. -/
def mutationColumns : List Column :=
  [.textKey "id", .text "operation", .text "entity_type", .text "entity_id", .text "data",
    .integer "enqueued_at"]

def columns : TableName → List Column
  | queue => mutationColumns ++
    [(Column.integer "retry_count").withDefault "0" (.integer 0), .optionalText "last_error",
      (Column.text "status").withDefault "'pending'" (.text "pending")]
  | deadLetters => mutationColumns ++
    [.integer "retry_count", .optionalText "last_error", .integer "failed_at"]
  | cache => [.textKey "key", .text "data", .integer "stored_at", .optionalInteger "expires_at"]
  | collection _ => [.textKey "id", .text "data", .integer "updated_at"]
  | settings => [.textKey "key", .text "value"]
  | uploads => [.textKey "id", .blob "blob", .text "metadata", .integer "enqueued_at"]
  | history =>
    [⟨"version", "int8", .integer, false, none, true⟩,
      ⟨"name", "varchar(255)", .text, false, none, false⟩,
      ⟨"applied_on", "varchar(255)", .text, false, none, false⟩,
      ⟨"checksum", "varchar(255)", .text, false, none, false⟩]

/-- The indexes of a table, by what they order. -/
def indexes : TableName → List String
  | queue => ["enqueued_at", "entity", "status"]
  | deadLetters => ["failed_at", "entity"]
  | cache => ["expires_at"]
  | collection _ => ["updated_at"]
  | settings => []
  | uploads => ["enqueued_at"]
  | history => []

end TableName

end Outbox
