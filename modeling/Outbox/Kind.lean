/-!
# Entity kinds, operations and states

The fixed vocabularies of the library. Each value has one name, which stands in the database, in
JSON and in messages, and a name is read back exactly as it is written.
-/
namespace Outbox

/-- The kinds of entity that have a local collection. -/
inductive EntityKind where
  | incidents
  | audits
  | risks
  | documents
  | complianceItems
  deriving DecidableEq, Repr

namespace EntityKind

def all : List EntityKind := [incidents, audits, risks, documents, complianceItems]

/-- The name, which is also the collection's path segment at the remote side. -/
def name : EntityKind → String
  | incidents => "incidents"
  | audits => "audits"
  | risks => "risks"
  | documents => "documents"
  | complianceItems => "compliance_items"

def ofName? (s : String) : Option EntityKind := all.find? (·.name == s)

theorem ofName?_name (k : EntityKind) : ofName? k.name = some k := by
  cases k <;> decide

end EntityKind

/-- What a mutation does to its entity. -/
inductive Operation where
  | create
  | update
  | delete
  deriving DecidableEq, Repr

namespace Operation

def all : List Operation := [create, update, delete]

def name : Operation → String
  | create => "create"
  | update => "update"
  | delete => "delete"

def ofName? (s : String) : Option Operation := all.find? (·.name == s)

theorem ofName?_name (o : Operation) : ofName? o.name = some o := by
  cases o <;> decide

end Operation

/-- The state of a queued mutation: still tried without remark, or at the limit of its retries and
waiting for someone to look at it. -/
inductive DeliveryState where
  | pending
  | exhausted
  deriving DecidableEq, Repr

namespace DeliveryState

def all : List DeliveryState := [pending, exhausted]

def name : DeliveryState → String
  | pending => "pending"
  | exhausted => "exhausted"

def ofName? (s : String) : Option DeliveryState := all.find? (·.name == s)

theorem ofName?_name (s : DeliveryState) : ofName? s.name = some s := by
  cases s <;> decide

end DeliveryState

/-- What the library shows of itself at any time. -/
inductive Status where
  | online
  | offline
  | syncing
  | synced
  | error
  deriving DecidableEq, Repr

namespace Status

def all : List Status := [online, offline, syncing, synced, error]

def name : Status → String
  | online => "online"
  | offline => "offline"
  | syncing => "syncing"
  | synced => "synced"
  | error => "error"

def ofName? (s : String) : Option Status := all.find? (·.name == s)

/-- The name as diagnostics show it. -/
def title : Status → String
  | online => "Online"
  | offline => "Offline"
  | syncing => "Syncing"
  | synced => "Synced"
  | error => "Error"

end Status

/-- What the platform says about the network. -/
inductive NetworkStatus where
  | online
  | offline
  | connecting
  | limited
  deriving DecidableEq, Repr

namespace NetworkStatus

def all : List NetworkStatus := [online, offline, connecting, limited]

def name : NetworkStatus → String
  | online => "Online"
  | offline => "Offline"
  | connecting => "Connecting"
  | limited => "Limited"

def ofName? (s : String) : Option NetworkStatus := all.find? (·.name == s)

/-- Whether the remote side can be reached: also over a limited connection. -/
def isReachable : NetworkStatus → Bool
  | online | limited => true
  | offline | connecting => false

end NetworkStatus

end Outbox
