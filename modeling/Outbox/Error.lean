import Outbox.Json.Fault
import Outbox.Table.Fault
import Outbox.Kind

/-!
# Errors

What an operation reports when it does not succeed. Errors of the local store are told apart from
all others: they say that the device is in trouble and not the data or the remote side.
-/
namespace Outbox

inductive Error where
  | sqlite (fault : Table.Fault)
  | database (reason : String)
  | migration (reason : String)
  /-- The store cannot be opened at all. -/
  | storeUnavailable (reason : String)
  | serialization (fault : Json.Fault)
  | io (reason : String)
  | transport (reason : String)
  | http (status : Nat) (reason : String)
  | auth (reason : String)
  | notFound (what : String)
  | unknownKind (name : String)
  | invalidArgument (reason : String)
  | config (reason : String)
  | runtime (reason : String)
  deriving DecidableEq

namespace Error

/-- The text that is shown. -/
def message : Error → String
  | .sqlite fault => "SQLite error: " ++ fault.message
  | .database s => "Database error: " ++ s
  | .migration s => "Migration error: " ++ s
  | .storeUnavailable s => "Store unavailable: " ++ s
  | .serialization fault => "Serialization error: " ++ fault.message
  | .io s => "IO error: " ++ s
  | .transport s => "Transport error: " ++ s
  | .http status s => "HTTP error [" ++ toString status ++ "]: " ++ s
  | .auth s => "Authentication error: " ++ s
  | .notFound s => "Not found: " ++ s
  | .unknownKind s => "Unknown entity type: " ++ s
  | .invalidArgument s => "Invalid argument: " ++ s
  | .config s => "Config error: " ++ s
  | .runtime s => "Runtime error: " ++ s

/-- The name of an error's class. -/
def className : Error → String
  | .sqlite _ => "Sqlite"
  | .database _ => "Database"
  | .migration _ => "Migration"
  | .storeUnavailable _ => "StoreUnavailable"
  | .serialization _ => "Serialization"
  | .io _ => "IO"
  | .transport _ => "Transport"
  | .http _ _ => "Http"
  | .auth _ => "Auth"
  | .notFound _ => "NotFound"
  | .unknownKind _ => "UnknownEntityType"
  | .invalidArgument _ => "InvalidArgument"
  | .config _ => "Config"
  | .runtime _ => "Runtime"

/-- Whether the local store is to blame. -/
def isStorage : Error → Bool
  | .sqlite _ | .database _ | .migration _ | .storeUnavailable _ => true
  | _ => false

/-- The status of an HTTP error. -/
def httpStatus? : Error → Option Nat
  | .http status _ => some status
  | _ => none

/-- A failed statement as an error. -/
def ofTable {α : Type} : Except Table.Fault α → Except Error α
  | .ok x => .ok x
  | .error e => .error (.sqlite e)

end Error

/-! ## Names read from texts -/

namespace EntityKind

def parse (s : String) : Except Error EntityKind :=
  match ofName? s with
  | some k => .ok k
  | none => .error (.unknownKind s)

end EntityKind

namespace Operation

def parse (s : String) : Except Error Operation :=
  match ofName? s with
  | some o => .ok o
  | none => .error (.invalidArgument ("未知同步操作: " ++ s))

end Operation

namespace DeliveryState

def parse (s : String) : Except Error DeliveryState :=
  match ofName? s with
  | some st => .ok st
  | none => .error (.invalidArgument ("未知同步项状态: " ++ s))

end DeliveryState

end Outbox
