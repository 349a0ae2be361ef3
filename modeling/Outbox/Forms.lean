import Outbox.Event
import Outbox.Failure
import Outbox.Json.Record
import Outbox.Mutation
import Outbox.Time.Rfc3339

/-!
# The JSON forms of the records

Each record is written with its fields in a fixed order, and read from an object or a list. A
vocabulary is written by its names, an instant as its date and time, bytes as a list of numbers.
-/
namespace Outbox

open Json Time

/-- How the values of a type are written and read. -/
structure Form (α : Type) where
  render : α → List Char
  read : Reader α

namespace Form

/-- The text of a value. -/
def write {α : Type} (f : Form α) (x : α) : String := String.ofList (f.render x)

/-- Reads a text. -/
def parse {α : Type} (f : Form α) (s : String) : Except Error α :=
  match readAll f.read s with
  | .ok x => .ok x
  | .error e => .error (.serialization e)

/-! ## Values of one kind -/

def text : Form String := ⟨renderString, readText⟩

def bool : Form Bool := ⟨fun b => Json.render (.bool b), readBool⟩

def natBelow (reader : Reader Nat) : Form Nat := ⟨Nat.toDigits 10, reader⟩

def nat16 : Form Nat := natBelow readNat16
def nat32 : Form Nat := natBelow readNat32
def nat64 : Form Nat := natBelow readNat64
def size : Form Nat := natBelow readSize

def value : Form Json := ⟨Json.render, readValue⟩

def option {α : Type} (f : Form α) : Form (Option α) where
  render
    | none => "null".toList
    | some x => f.render x
  read := readOption f.read

def list {α : Type} (f : Form α) : Form (List α) where
  render xs := '[' :: joinWith [','] (xs.map f.render) ++ [']']
  read := readList f.read

def byte : Form UInt8 where
  render b := Nat.toDigits 10 b.toNat
  read depth cs := (readByte depth cs).map fun (n, rest) => (n.toUInt8, rest)

def instant : Form Instant where
  render t := '"' :: Rfc3339.render t ++ ['"']
  read depth cs := do
    let (s, rest) ← readTextAs "an RFC 3339 formatted date and time string" depth cs
    match Rfc3339.read s with
    | .ok t => pure (t, rest)
    | .error e => .error (.malformed e.message)

/-- A vocabulary, written by its names. -/
def named {α : Type} (values : List α) (name : α → String) : Form α where
  render x := renderString (name x)
  read := readVariant (values.map fun x => ⟨name x, .unit x⟩)

def entityKind : Form EntityKind := named EntityKind.all EntityKind.name
def operation : Form Operation := named Operation.all Operation.name
def deliveryState : Form DeliveryState := named DeliveryState.all DeliveryState.name
def status : Form Status := named Status.all Status.name
def networkStatus : Form NetworkStatus := named NetworkStatus.all NetworkStatus.name

/-! ## Records -/

/-- Writes a record by the fields of its shape. -/
def record {α : Type} (shape : Shape α) (fields : α → List (String × List Char)) : Form α where
  render x := renderRecord (fields x)
  read := shape.read

def mutation : Form Mutation :=
  record
    { title := "struct SyncItem"
      fields :=
        [.required "id" text.read fun x m => { m with id := x },
          .required "operation" operation.read fun x m => { m with operation := x },
          .required "entity_type" entityKind.read fun x m => { m with kind := x },
          .required "entity_id" text.read fun x m => { m with entityId := x },
          .required "data" value.read fun x m => { m with payload := x },
          .required "enqueued_at" instant.read fun x m => { m with enqueuedAt := x },
          .required "retry_count" nat32.read fun x m => { m with retries := x },
          .optionally "last_error" text.read fun x m => { m with lastError := x },
          .required "status" deliveryState.read fun x m => { m with state := x }]
      draft := .fresh "" .create .incidents "" .null .epoch }
    fun m =>
      [("id", text.render m.id), ("operation", operation.render m.operation),
        ("entity_type", entityKind.render m.kind), ("entity_id", text.render m.entityId),
        ("data", value.render m.payload), ("enqueued_at", instant.render m.enqueuedAt),
        ("retry_count", nat32.render m.retries), ("last_error", (option text).render m.lastError),
        ("status", deliveryState.render m.state)]

def deadLetter : Form DeadLetter :=
  record
    { title := "struct DeadLetter"
      fields :=
        [.required "item" mutation.read fun x l => { l with mutation := x },
          .required "failed_at" instant.read fun x l => { l with failedAt := x }]
      draft := ⟨.fresh "" .create .incidents "" .null .epoch, .epoch⟩ }
    fun l => [("item", mutation.render l.mutation), ("failed_at", instant.render l.failedAt)]

def cacheEntry : Form CacheEntry :=
  record
    { title := "struct CacheItem"
      fields :=
        [.required "key" text.read fun x e => { e with key := x },
          .required "data" value.read fun x e => { e with value := x },
          .required "stored_at" instant.read fun x e => { e with storedAt := x },
          .optionally "expires_at" instant.read fun x e => { e with expiresAt := x }]
      draft := ⟨"", .null, .epoch, none⟩ }
    fun e =>
      [("key", text.render e.key), ("data", value.render e.value),
        ("stored_at", instant.render e.storedAt),
        ("expires_at", (option instant).render e.expiresAt)]

def entityRecord : Form EntityRecord :=
  record
    { title := "struct EntityRecord"
      fields :=
        [.required "id" text.read fun x r => { r with id := x },
          .required "data" value.read fun x r => { r with value := x },
          .required "updated_at" instant.read fun x r => { r with updatedAt := x }]
      draft := ⟨"", .null, .epoch⟩ }
    fun r =>
      [("id", text.render r.id), ("data", value.render r.value),
        ("updated_at", instant.render r.updatedAt)]

def pendingUpload : Form PendingUpload :=
  record
    { title := "struct PendingUpload"
      fields :=
        [.required "id" text.read fun x u => { u with id := x },
          .required "blob" (list byte).read fun x u => { u with bytes := x },
          .required "metadata" value.read fun x u => { u with metadata := x },
          .required "enqueued_at" instant.read fun x u => { u with enqueuedAt := x }]
      draft := ⟨"", [], .null, .epoch⟩ }
    fun u =>
      [("id", text.render u.id), ("blob", (list byte).render u.bytes),
        ("metadata", value.render u.metadata), ("enqueued_at", instant.render u.enqueuedAt)]

def setting : Form Setting :=
  record
    { title := "struct UserSetting"
      fields :=
        [.required "key" text.read fun x s => { s with key := x },
          .required "value" value.read fun x s => { s with value := x }]
      draft := ⟨"", .null⟩ }
    fun s => [("key", text.render s.key), ("value", value.render s.value)]

def retryPolicy : Form RetryPolicy :=
  record
    { title := "struct RetryPolicy"
      fields := [.required "max_retries" nat32.read fun x p => { p with maxRetries := x }]
      draft := ⟨0⟩ }
    fun p => [("max_retries", nat32.render p.maxRetries)]

/-! ## Variants with content -/

/-- One variant with its content, as an object with one member. -/
def renderTagged (name : String) (content : List Char) : List Char := renderRecord [(name, content)]

def failure : Form Failure where
  render
    | .transient reason => renderTagged "Transient" (text.render reason)
    | .permanent status reason =>
      renderTagged "Permanent"
        (renderRecord [("status", (option nat16).render status), ("message", text.render reason)])
  read := readVariant
    [⟨"Transient", .single (mapRead .transient text.read)⟩,
      ⟨"Permanent", .fields (mapRead (fun (status, reason) => .permanent status reason)
        (Shape.read
          { title := "struct variant RemoteFailure::Permanent"
            fields :=
              [.optionally "status" nat16.read fun x (_, m) => (x, m),
                .required "message" text.read fun x (s, _) => (s, x)]
            draft := (none, "") }))⟩]

/-- An event with its fields, gathered in a tuple. -/
def eventOf {α : Type} (name : String) (fields : List (Member α)) (draft : α) (event : α → Event) :
    Variant Event :=
  ⟨name, .fields (mapRead event (Shape.read ⟨"struct variant SyncEvent::" ++ name, fields, draft⟩))⟩

def event : Form Event where
  render
    | .statusChanged status t =>
      renderTagged "StatusChanged"
        (renderRecord [("status", Form.status.render status), ("timestamp", instant.render t)])
    | .itemSynced id kind entityId =>
      renderTagged "ItemSynced"
        (renderRecord [("id", text.render id), ("entity_type", text.render kind),
          ("entity_id", text.render entityId)])
    | .itemFailed id retries error =>
      renderTagged "ItemFailed"
        (renderRecord [("id", text.render id), ("retry_count", nat32.render retries),
          ("error", text.render error)])
    | .itemExhausted id retries lastError =>
      renderTagged "ItemExhausted"
        (renderRecord [("id", text.render id), ("retry_count", nat32.render retries),
          ("last_error", (option text).render lastError)])
    | .itemDeadLettered id status error =>
      renderTagged "ItemDeadLettered"
        (renderRecord [("id", text.render id), ("status", (option nat16).render status),
          ("error", text.render error)])
    | .queueChanged pending =>
      renderTagged "QueueChanged" (renderRecord [("pending", size.render pending)])
  read := readVariant
    [eventOf "StatusChanged"
        [.required "status" Form.status.read fun x (_, t) => (x, t),
          .required "timestamp" instant.read fun x (s, _) => (s, x)]
        (.online, .epoch) fun (s, t) => .statusChanged s t,
      eventOf "ItemSynced"
        [.required "id" text.read fun x (_, k, e) => (x, k, e),
          .required "entity_type" text.read fun x (i, _, e) => (i, x, e),
          .required "entity_id" text.read fun x (i, k, _) => (i, k, x)]
        ("", "", "") fun (i, k, e) => .itemSynced i k e,
      eventOf "ItemFailed"
        [.required "id" text.read fun x (_, n, e) => (x, n, e),
          .required "retry_count" nat32.read fun x (i, _, e) => (i, x, e),
          .required "error" text.read fun x (i, n, _) => (i, n, x)]
        ("", 0, "") fun (i, n, e) => .itemFailed i n e,
      eventOf "ItemExhausted"
        [.required "id" text.read fun x (_, n, e) => (x, n, e),
          .required "retry_count" nat32.read fun x (i, _, e) => (i, x, e),
          .optionally "last_error" text.read fun x (i, n, _) => (i, n, x)]
        ("", 0, none) fun (i, n, e) => .itemExhausted i n e,
      eventOf "ItemDeadLettered"
        [.required "id" text.read fun x (_, s, e) => (x, s, e),
          .optionally "status" nat16.read fun x (i, _, e) => (i, x, e),
          .required "error" text.read fun x (i, s, _) => (i, s, x)]
        ("", none, "") fun (i, s, e) => .itemDeadLettered i s e,
      eventOf "QueueChanged" [.required "pending" size.read fun x _ => x] 0 .queueChanged]

end Form

end Outbox
