import Outbox.Text.Quoted

/-!
# Settings of a connection

A connection starts with the settings of its database engine. The store changes two of them: a
commit no longer waits for the disk each time, and temporary tables are held in memory. The other
two that it asks for are in force already in a database in memory, whose journal cannot be written
to a disk and whose foreign keys are checked.
-/
namespace Outbox

/-- How often a connection waits until the disk has what was written. -/
inductive Synchronous where
  | off
  | normal
  | full
  deriving DecidableEq, Repr

namespace Synchronous

def code : Synchronous → Nat
  | off => 0
  | normal => 1
  | full => 2

end Synchronous

/-- Where a connection holds temporary tables. -/
inductive TemporaryStore where
  | byDefault
  | file
  | memory
  deriving DecidableEq, Repr

namespace TemporaryStore

def code : TemporaryStore → Nat
  | byDefault => 0
  | file => 1
  | memory => 2

end TemporaryStore

/-- The settings of a connection to a database in memory that can change. -/
structure Pragmas where
  synchronous : Synchronous
  temporaryStore : TemporaryStore
  deriving DecidableEq, Repr

namespace Pragmas

/-- The settings that a connection starts with. -/
def initial : Pragmas := ⟨.full, .byDefault⟩

/-- The settings of the store. -/
def store : Pragmas := ⟨.normal, .memory⟩

/-- The value of a setting, a number or a word. -/
inductive Value where
  | number (n : Nat)
  | word (s : String)
  deriving DecidableEq, Repr

namespace Value

/-- The value as diagnostics show it. -/
def describe : Value → String
  | number n => "Integer(" ++ toString n ++ ")"
  | word s => "Text(" ++ Text.quoted s ++ ")"

end Value

/-- The value of a setting by its name. -/
def value? (p : Pragmas) : String → Option Value
  | "journal_mode" => some (.word "memory")
  | "synchronous" => some (.number p.synchronous.code)
  | "foreign_keys" => some (.number 1)
  | "temp_store" => some (.number p.temporaryStore.code)
  | "busy_timeout" => some (.number 5000)
  | "user_version" => some (.number 0)
  | "encoding" => some (.word "UTF-8")
  | _ => none

end Pragmas

end Outbox
