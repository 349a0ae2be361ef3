import Outbox.Proofs.WrittenForms

/-!
# Documents are read as they were written

Each public record is read back from its text as the same record: the fields are taken one by one,
and each overwrites its part of the draft, so at the end nothing of the draft is left. The same goes
for the events and the failures, whose content is a record under the name of the variant.

Of a record no more is asked than that clocks and counters hold such values and that its payload has
no doubles. The brackets of the record are one level of nesting, a dead letter has two.
-/
namespace Outbox

open Json Time

/-! ## What can be written -/

/-- A mutation with a time of a clock, a count that counting reaches and a payload without
doubles. -/
structure Mutation.Proper (m : Mutation) : Prop where
  payload : m.payload.IsPlain
  enqueuedAt : m.enqueuedAt.Regular
  retries : m.retries ≤ maxRetryCount

structure DeadLetter.Proper (l : DeadLetter) : Prop where
  mutation : l.mutation.Proper
  failedAt : l.failedAt.Regular

structure CacheEntry.Proper (e : CacheEntry) : Prop where
  value : e.value.IsPlain
  storedAt : e.storedAt.Regular
  expiresAt : ∀ t ∈ e.expiresAt, t.Regular

structure EntityRecord.Proper (r : EntityRecord) : Prop where
  value : r.value.IsPlain
  updatedAt : r.updatedAt.Regular

structure PendingUpload.Proper (u : PendingUpload) : Prop where
  metadata : u.metadata.IsPlain
  enqueuedAt : u.enqueuedAt.Regular

/-- An event whose numbers are of the size of their fields. -/
def Event.Proper : Event → Prop
  | .statusChanged _ time => time.Regular
  | .itemSynced .. => True
  | .itemFailed _ retries _ => retries ≤ maxRetryCount
  | .itemExhausted _ retries _ => retries ≤ maxRetryCount
  | .itemDeadLettered _ status _ => ∀ n ∈ status, n < UInt16.size
  | .queueChanged pending => pending < UInt64.size

def Failure.Proper (f : Failure) : Prop := ∀ n ∈ f.status?, n < UInt16.size

/-! ## Nesting -/

def Mutation.depth (m : Mutation) : Nat := m.payload.depth + 1

def DeadLetter.depth (l : DeadLetter) : Nat := l.mutation.depth + 1

def CacheEntry.depth (e : CacheEntry) : Nat := e.value.depth + 1

def EntityRecord.depth (r : EntityRecord) : Nat := r.value.depth + 1

/-- The bytes are a list, so there are two levels in any case. -/
def PendingUpload.depth (u : PendingUpload) : Nat := max 1 u.metadata.depth + 1

def Setting.depth (s : Setting) : Nat := s.value.depth + 1

namespace Form

/-! ## Records -/

variable {k : Nat}

theorem takes_text (s : String) (k : Nat) : Takes text.read k (text.render s) s :=
  takes_readTextAs _ s k

theorem takes_nat32 {n : Nat} (bound : n ≤ maxRetryCount) (k : Nat) :
    Takes nat32.read k (nat32.render n) n :=
  takes_readNat (Nat.lt_succ_of_le bound) (by decide) "u32" k

theorem takes_mutation {m : Mutation} (proper : m.Proper) :
    Takes mutation.read m.depth (mutation.render m) m := by
  apply Shape.takes (k := m.payload.depth)
  · -- Each field sets its part of the draft, and all parts together are the mutation.
    exact
      .cons ((takes_text m.id _).required _ _) <|
      .cons ((takes_operation m.operation _).required _ _) <|
      .cons ((takes_entityKind m.kind _).required _ _) <|
      .cons ((takes_text m.entityId _).required _ _) <|
      .cons ((takes_readValue proper.payload).required _ _) <|
      .cons ((takes_instant proper.enqueuedAt _).required _ _) <|
      .cons ((takes_nat32 proper.retries _).required _ _) <|
      .cons ((takes_optionText m.lastError _).optionally _ _) <|
      .cons ((takes_deliveryState m.state _).required _ _) <|
      .nil _
  · decide

theorem takes_deadLetter {l : DeadLetter} (proper : l.Proper) :
    Takes deadLetter.read l.depth (deadLetter.render l) l := by
  apply Shape.takes (k := l.mutation.depth)
  · exact
      .cons ((takes_mutation proper.mutation).required _ _) <|
      .cons ((takes_instant proper.failedAt _).required _ _) <|
      .nil _
  · decide

theorem takes_cacheEntry {e : CacheEntry} (proper : e.Proper) :
    Takes cacheEntry.read e.depth (cacheEntry.render e) e := by
  apply Shape.takes (k := e.value.depth)
  · exact
      .cons ((takes_text e.key _).required _ _) <|
      .cons ((takes_readValue proper.value).required _ _) <|
      .cons ((takes_instant proper.storedAt _).required _ _) <|
      .cons ((takes_optionInstant proper.expiresAt _).optionally _ _) <|
      .nil _
  · decide

theorem takes_entityRecord {r : EntityRecord} (proper : r.Proper) :
    Takes entityRecord.read r.depth (entityRecord.render r) r := by
  apply Shape.takes (k := r.value.depth)
  · exact
      .cons ((takes_text r.id _).required _ _) <|
      .cons ((takes_readValue proper.value).required _ _) <|
      .cons ((takes_instant proper.updatedAt _).required _ _) <|
      .nil _
  · decide

theorem takes_pendingUpload {u : PendingUpload} (proper : u.Proper) :
    Takes pendingUpload.read u.depth (pendingUpload.render u) u := by
  -- The bytes and the metadata stand side by side, so the deeper one counts.
  have bytes := (takes_bytes u.bytes 0).mono (Nat.le_max_left 1 u.metadata.depth)
  have metadata := (takes_readValue proper.metadata).mono (Nat.le_max_right 1 u.metadata.depth)
  apply Shape.takes (k := max 1 u.metadata.depth)
  · exact
      .cons ((takes_text u.id _).required _ _) <|
      .cons (bytes.required _ _) <|
      .cons (metadata.required _ _) <|
      .cons ((takes_instant proper.enqueuedAt _).required _ _) <|
      .nil _
  · decide

theorem takes_setting {s : Setting} (plain : s.value.IsPlain) :
    Takes setting.read s.depth (setting.render s) s := by
  apply Shape.takes (k := s.value.depth)
  · exact
      .cons ((takes_text s.key _).required _ _) <|
      .cons ((takes_readValue plain).required _ _) <|
      .nil _
  · decide

/-! ## Variants -/

/-- A record under the name of its variant. -/
theorem takes_tagged {α β : Type} {variants : List (Variant β)} {name title : String}
    {fields : List (Member α)} {draft x : α} {parts : List (String × List Char)} {f : α → β} {y : β}
    (found : variantNamed variants name =
      .ok (.fields (mapRead f (Shape.read ⟨title, fields, draft⟩))))
    (distinct : (fields.map (·.name)).Nodup) (written : Written k fields parts draft x)
    (made : f x = y) :
    Takes (readVariant variants) (k + 2) (renderTagged name (renderRecord parts)) y := by
  subst made
  exact takes_readVariant_tagged ((Shape.takes written distinct).mapRead f) found (.inr rfl)

theorem takes_failure {f : Failure} (proper : f.Proper) :
    Takes failure.read 2 (failure.render f) f := by
  cases f with
  | transient reason =>
    have content := (takes_text reason 1).mapRead Failure.transient
    exact takes_readVariant_tagged content rfl (.inl rfl)
  | permanent status reason =>
    refine takes_tagged (k := 0) (x := (status, reason)) rfl (by decide) ?_ rfl
    exact
      .cons ((takes_optionNat16 proper 0).optionally _ _) <|
      .cons ((takes_text reason 0).required _ _) <|
      .nil _

theorem takes_event {e : Event} (proper : e.Proper) :
    Takes event.read 2 (event.render e) e := by
  cases e with
  | statusChanged status time =>
    refine takes_tagged (k := 0) (x := (status, time)) rfl (by decide) ?_ rfl
    exact
      .cons ((takes_status status 0).required _ _) <|
      .cons ((takes_instant proper 0).required _ _) <|
      .nil _
  | itemSynced id kind entityId =>
    refine takes_tagged (k := 0) (x := (id, kind, entityId)) rfl (by decide) ?_ rfl
    exact
      .cons ((takes_text id 0).required _ _) <|
      .cons ((takes_text kind 0).required _ _) <|
      .cons ((takes_text entityId 0).required _ _) <|
      .nil _
  | itemFailed id retries error =>
    refine takes_tagged (k := 0) (x := (id, retries, error)) rfl (by decide) ?_ rfl
    exact
      .cons ((takes_text id 0).required _ _) <|
      .cons ((takes_nat32 proper 0).required _ _) <|
      .cons ((takes_text error 0).required _ _) <|
      .nil _
  | itemExhausted id retries lastError =>
    refine takes_tagged (k := 0) (x := (id, retries, lastError)) rfl (by decide) ?_ rfl
    exact
      .cons ((takes_text id 0).required _ _) <|
      .cons ((takes_nat32 proper 0).required _ _) <|
      .cons ((takes_optionText lastError 0).optionally _ _) <|
      .nil _
  | itemDeadLettered id status error =>
    refine takes_tagged (k := 0) (x := (id, status, error)) rfl (by decide) ?_ rfl
    exact
      .cons ((takes_text id 0).required _ _) <|
      .cons ((takes_optionNat16 proper 0).optionally _ _) <|
      .cons ((takes_text error 0).required _ _) <|
      .nil _
  | queueChanged pending =>
    have counted : Takes size.read 0 (size.render pending) pending :=
      takes_readNat proper le_rfl "usize" 0
    refine takes_tagged (k := 0) (x := pending) rfl (by decide) ?_ rfl
    exact .cons (counted.required _ _) (.nil _)

/-! ## Whole texts -/

/-- What is read back of a text, and what is written for that. -/
def RoundTrips {α : Type} (f : Form α) (x : α) : Prop :=
  f.parse (f.write x) = .ok x ∧ (f.parse (f.write x)).map f.write = .ok (f.write x)

theorem roundTrips_of_takes {α : Type} {f : Form α} {x : α} (takes : Takes f.read k (f.render x) x)
    (fits : k < nestingLimit) : f.RoundTrips x := by
  have ends : Ends [] := by
    intro c head
    cases head
  have read := takes nestingLimit fits [] ends
  rw [List.append_nil] at read
  have parsed : f.parse (f.write x) = .ok x := by
    rw [parse, write, readAll, String.toList_ofList, read]
    rfl
  constructor
  · exact parsed
  · rw [parsed]
    rfl

/-- The public data types are read back from their text, and written again they give that text: the
records as long as the document nests less than the limit, events and failures in any case. -/
theorem documents_round_trip :
    (∀ m : Mutation, m.Proper → m.depth < nestingLimit → mutation.RoundTrips m) ∧
    (∀ l : DeadLetter, l.Proper → l.depth < nestingLimit → deadLetter.RoundTrips l) ∧
    (∀ e : CacheEntry, e.Proper → e.depth < nestingLimit → cacheEntry.RoundTrips e) ∧
    (∀ r : EntityRecord, r.Proper → r.depth < nestingLimit → entityRecord.RoundTrips r) ∧
    (∀ u : PendingUpload, u.Proper → u.depth < nestingLimit → pendingUpload.RoundTrips u) ∧
    (∀ s : Setting, s.value.IsPlain → s.depth < nestingLimit → setting.RoundTrips s) ∧
    (∀ e : Event, e.Proper → event.RoundTrips e) ∧
    ∀ f : Failure, f.Proper → failure.RoundTrips f := by
  have flat : 2 < nestingLimit := by decide
  refine ⟨?_, ?_, ?_, ?_, ?_, ?_, ?_, ?_⟩
  · intro m proper fits
    exact roundTrips_of_takes (takes_mutation proper) fits
  · intro l proper fits
    exact roundTrips_of_takes (takes_deadLetter proper) fits
  · intro e proper fits
    exact roundTrips_of_takes (takes_cacheEntry proper) fits
  · intro r proper fits
    exact roundTrips_of_takes (takes_entityRecord proper) fits
  · intro u proper fits
    exact roundTrips_of_takes (takes_pendingUpload proper) fits
  · intro s plain fits
    exact roundTrips_of_takes (takes_setting plain) fits
  · intro e proper
    exact roundTrips_of_takes (takes_event proper) flat
  · intro f proper
    exact roundTrips_of_takes (takes_failure proper) flat

/-- A value with the least and the greatest integer, and with texts that are escaped. -/
def sampleValue : Json :=
  .obj [("", .arr [.num (.negSucc ⟨2 ^ 63 - 1, by decide⟩), .num (.nat ⟨2 ^ 64 - 1, by decide⟩)]),
    ("\u0000\\\"", .obj [("é", .str "\x7f\n"), ("𝄞", .null)])]

/-- A mutation of the year -262143, which is written with a sign. -/
def sampleLetter : DeadLetter where
  mutation :=
    { id := "\t\"\u001f"
      operation := .delete
      kind := .complianceItems
      entityId := ""
      payload := sampleValue
      enqueuedAt := ⟨Instant.firstSecond, 1⟩
      retries := maxRetryCount
      lastError := some "null"
      state := .exhausted }
  failedAt := ⟨Instant.lastSecond, 999999999⟩

theorem sample_documents_round_trip :
    deadLetter.RoundTrips sampleLetter ∧
      cacheEntry.RoundTrips ⟨"k", sampleValue, ⟨-1, 500000000⟩, some ⟨0, 120000⟩⟩ ∧
      pendingUpload.RoundTrips ⟨"", [0, 255, 17], .null, .epoch⟩ ∧
      event.RoundTrips (.itemDeadLettered "i" (some 65535) "") ∧
      failure.RoundTrips (.permanent none "\"") := by
  have plain : sampleValue.IsPlain := by decide
  have proper : sampleLetter.mutation.Proper := ⟨plain, by decide, le_rfl⟩
  obtain ⟨-, letters, entries, -, uploads, -, events, failures⟩ := documents_round_trip
  refine ⟨?_, ?_, ?_, ?_, ?_⟩
  · exact letters _ ⟨proper, by decide⟩ (by decide)
  · exact entries _ ⟨plain, by decide, by decide⟩ (by decide)
  · exact uploads _ ⟨by decide, by decide⟩ (by decide)
  · apply events
    rintro n ⟨⟩
    decide
  · apply failures
    rintro n ⟨⟩

end Form

end Outbox
