import Outbox.Proofs.Tables
import Outbox.Store.DeadLetters

/-!
# What a row says

Reading a row succeeds for exactly one mutation, the one that the row carries: its names are
spelled out in the cells, its payload is what one cell parses to, its time is kept in
milliseconds. So the rest of the library can argue with what a row carries and never runs the
reader. Replacing the last three cells of a row leaves the change that it stands for alone.
-/
namespace Outbox

open Table Time

theorem Except.bind_eq_ok {ε α β : Type} {x : Except ε α} {f : α → Except ε β} {b : β}
    (h : x >>= f = .ok b) : ∃ a, x = .ok a ∧ f a = .ok b := by
  cases x with
  | error fault => cases h
  | ok a => exact ⟨a, rfl, h⟩

/-! ## Payloads -/

/-- A payload that is read back as it was written. -/
def Json.Faithful (v : Json) : Prop := Json.parse v.text = .ok v

instance (v : Json) : Decidable v.Faithful :=
  match read : Json.parse v.text with
  | .ok w => decidable_of_iff (w = v) (by rw [Json.Faithful, read, Except.ok.injEq])
  | .error _ => .isFalse (by rw [Json.Faithful, read]; exact nofun)

theorem parsePayload_eq_ok_iff {s : String} {v : Json} :
    parsePayload s = .ok v ↔ Json.parse s = .ok v := by
  unfold parsePayload
  cases h : Json.parse s <;> simp

/-! ## Names -/

/-- What is looked up by a name has that name. -/
theorem eq_name_of_found {α : Type} {values : List α} {name : α → String} {s : String} {x : α}
    (found : values.find? (name · == s) = some x) : s = name x := by
  have named := List.find?_some found
  exact (beq_iff_eq.mp named).symm

theorem Operation.parse_eq_ok_iff {s : String} {o : Operation} :
    Operation.parse s = .ok o ↔ s = o.name := by
  constructor
  · intro h
    simp only [Operation.parse] at h
    split at h
    next o' found =>
      cases h
      exact eq_name_of_found found
    · cases h
  · rintro rfl
    simp only [Operation.parse, Operation.ofName?_name]

theorem EntityKind.parse_eq_ok_iff {s : String} {k : EntityKind} :
    EntityKind.parse s = .ok k ↔ s = k.name := by
  constructor
  · intro h
    simp only [EntityKind.parse] at h
    split at h
    next k' found =>
      cases h
      exact eq_name_of_found found
    · cases h
  · rintro rfl
    simp only [EntityKind.parse, EntityKind.ofName?_name]

theorem DeliveryState.parse_eq_ok_iff {s : String} {d : DeliveryState} :
    DeliveryState.parse s = .ok d ↔ s = d.name := by
  constructor
  · intro h
    simp only [DeliveryState.parse] at h
    split at h
    next d' found =>
      cases h
      exact eq_name_of_found found
    · cases h
  · rintro rfl
    simp only [DeliveryState.parse, DeliveryState.ofName?_name]

/-! ## Cells -/

namespace Table.Place

theorem text_eq_ok_iff {p : Place} {c : Cell} {s : String} :
    p.text c = .ok s ↔ c = .text s := by
  cases c <;> simp [Place.text, Place.wrongKind]

theorem text?_eq_ok_iff {p : Place} {c : Cell} {s : Option String} :
    p.text? c = .ok s ↔ c = .ofOption .text s := by
  cases c <;> cases s <;> simp [Place.text?, Place.text, Place.wrongKind, Except.map, Cell.ofOption]

theorem integer_eq_ok_iff {p : Place} {c : Cell} {n : Int} :
    p.integer c = .ok n ↔ c = .integer n := by
  cases c <;> simp [Place.integer, Place.wrongKind]

theorem nat32_eq_ok_iff {p : Place} {c : Cell} {n : Nat} :
    p.nat32 c = .ok n ↔ c = .integer n ∧ n ≤ maxRetryCount := by
  cases c with
  | integer k =>
    simp only [Place.nat32, Cell.integer.injEq, maxRetryCount, UInt32.size]
    split
    next inside => simp only [Except.ok.injEq]; omega
    next outside => simp only [reduceCtorEq, false_iff]; omega
  | _ => simp [Place.nat32, Place.wrongKind]

end Table.Place

theorem Error.ofTable_eq_ok_iff {α : Type} {x : Except Table.Fault α} {a : α} :
    Error.ofTable x = .ok a ↔ x = .ok a := by
  cases x <;> simp [Error.ofTable]

/-! ## Rows -/

namespace Table.Row

/-- The row holds the mutation, whose state is told apart. -/
structure Carries (r : Row) (m : Mutation) : Prop where
  id : r.cell 0 = .text m.id
  operation : r.cell 1 = .text m.operation.name
  kind : r.cell 2 = .text m.kind.name
  entityId : r.cell 3 = .text m.entityId
  payload : ∃ s, r.cell 4 = .text s ∧ Json.parse s = .ok m.payload
  enqueuedAt : ∃ ms, r.cell 5 = .integer ms ∧ m.enqueuedAt = .ofMillis ms
  retries : r.cell 6 = .integer m.retries
  retries_le : m.retries ≤ maxRetryCount
  lastError : r.cell 7 = .ofOption .text m.lastError

end Table.Row

theorem StoredMutation.ofRow_eq_ok_iff {r : Row} {s : StoredMutation} :
    StoredMutation.ofRow r = .ok s ↔
      r.cell 0 = .text s.id ∧ r.cell 1 = .text s.operation ∧ r.cell 2 = .text s.kind ∧
      r.cell 3 = .text s.entityId ∧ r.cell 4 = .text s.payload ∧
      r.cell 5 = .integer s.enqueuedAt ∧ r.cell 6 = .integer s.retries ∧
      s.retries ≤ maxRetryCount ∧ r.cell 7 = .ofOption .text s.lastError := by
  constructor
  · intro h
    -- The reader goes from column to column, and each of them must have been read.
    obtain ⟨id, hid, h⟩ := Except.bind_eq_ok h
    obtain ⟨operation, hop, h⟩ := Except.bind_eq_ok h
    obtain ⟨kind, hkind, h⟩ := Except.bind_eq_ok h
    obtain ⟨entityId, hent, h⟩ := Except.bind_eq_ok h
    obtain ⟨payload, hpay, h⟩ := Except.bind_eq_ok h
    obtain ⟨enqueuedAt, hat, h⟩ := Except.bind_eq_ok h
    obtain ⟨retries, hret, h⟩ := Except.bind_eq_ok h
    obtain ⟨lastError, herr, h⟩ := Except.bind_eq_ok h
    cases h
    obtain ⟨hret, bound⟩ := Place.nat32_eq_ok_iff.mp hret
    exact ⟨Place.text_eq_ok_iff.mp hid, Place.text_eq_ok_iff.mp hop, Place.text_eq_ok_iff.mp hkind,
      Place.text_eq_ok_iff.mp hent, Place.text_eq_ok_iff.mp hpay, Place.integer_eq_ok_iff.mp hat,
      hret, bound, Place.text?_eq_ok_iff.mp herr⟩
  · rintro ⟨hid, hop, hkind, hent, hpay, hat, hret, bound, herr⟩
    simp only [StoredMutation.ofRow, Place.text_eq_ok_iff.mpr hid, Place.text_eq_ok_iff.mpr hop,
      Place.text_eq_ok_iff.mpr hkind, Place.text_eq_ok_iff.mpr hent, Place.text_eq_ok_iff.mpr hpay,
      Place.integer_eq_ok_iff.mpr hat, Place.nat32_eq_ok_iff.mpr ⟨hret, bound⟩,
      Place.text?_eq_ok_iff.mpr herr]
    rfl

theorem StoredMutation.toMutation_eq_ok_iff {s : StoredMutation}
    {readState : Except Error DeliveryState} {m : Mutation} :
    s.toMutation readState = .ok m ↔
      s.id = m.id ∧ s.operation = m.operation.name ∧ s.kind = m.kind.name ∧
      s.entityId = m.entityId ∧ Json.parse s.payload = .ok m.payload ∧
      m.enqueuedAt = .ofMillis s.enqueuedAt ∧ s.retries = m.retries ∧
      s.lastError = m.lastError ∧ readState = .ok m.state := by
  constructor
  · intro h
    obtain ⟨operation, hop, h⟩ := Except.bind_eq_ok h
    obtain ⟨kind, hkind, h⟩ := Except.bind_eq_ok h
    obtain ⟨payload, hpay, h⟩ := Except.bind_eq_ok h
    obtain ⟨state, hstate, h⟩ := Except.bind_eq_ok h
    cases h
    exact ⟨rfl, Operation.parse_eq_ok_iff.mp hop, EntityKind.parse_eq_ok_iff.mp hkind, rfl,
      parsePayload_eq_ok_iff.mp hpay, rfl, rfl, rfl, hstate⟩
  · rintro ⟨hid, hop, hkind, hent, hpay, hat, hret, herr, hstate⟩
    simp only [StoredMutation.toMutation, Operation.parse_eq_ok_iff.mpr hop,
      EntityKind.parse_eq_ok_iff.mpr hkind, parsePayload_eq_ok_iff.mpr hpay, hstate, hid, hent,
      ← hat, hret, herr]
    rfl

/-- What a row of the queue is read as. -/
theorem Mutation.ofRow_eq_ok_iff {r : Row} {m : Mutation} :
    Mutation.ofRow r = .ok m ↔ r.Carries m ∧ r.cell 8 = .text m.state.name := by
  constructor
  · intro h
    -- First the cells are read as texts and numbers, then the texts as names and a payload.
    obtain ⟨s, stored, h⟩ := Except.bind_eq_ok h
    obtain ⟨state, hstate, h⟩ := Except.bind_eq_ok h
    obtain ⟨c0, c1, c2, c3, c4, c5, c6, bound, c7⟩ :=
      StoredMutation.ofRow_eq_ok_iff.mp (Error.ofTable_eq_ok_iff.mp stored)
    obtain ⟨hid, hop, hkind, hent, hpay, hat, hret, herr, named⟩ :=
      StoredMutation.toMutation_eq_ok_iff.mp h
    have c8 := Place.text_eq_ok_iff.mp (Error.ofTable_eq_ok_iff.mp hstate)
    refine ⟨⟨hid ▸ c0, hop ▸ c1, hkind ▸ c2, hent ▸ c3, ⟨_, c4, hpay⟩, ⟨_, c5, hat⟩, hret ▸ c6,
      hret ▸ bound, herr ▸ c7⟩, ?_⟩
    rw [c8, DeliveryState.parse_eq_ok_iff.mp named]
  · rintro ⟨carries, c8⟩
    obtain ⟨s, c4, hpay⟩ := carries.payload
    obtain ⟨ms, c5, hat⟩ := carries.enqueuedAt
    have stored : StoredMutation.ofRow r = .ok ⟨m.id, m.operation.name, m.kind.name, m.entityId, s,
        ms, m.retries, m.lastError⟩ :=
      StoredMutation.ofRow_eq_ok_iff.mpr ⟨carries.id, carries.operation, carries.kind,
        carries.entityId, c4, c5, carries.retries, carries.retries_le, carries.lastError⟩
    have named : DeliveryState.parse m.state.name = .ok m.state :=
      DeliveryState.parse_eq_ok_iff.mpr rfl
    simp only [Mutation.ofRow, stored, Place.text_eq_ok_iff.mpr c8, Error.ofTable]
    exact StoredMutation.toMutation_eq_ok_iff.mpr ⟨rfl, rfl, rfl, rfl, hpay, hat, rfl, rfl, named⟩

/-- What a row of the dead letters is read as. -/
theorem DeadLetter.ofRow_eq_ok_iff {r : Row} {l : DeadLetter} :
    DeadLetter.ofRow r = .ok l ↔
      r.Carries l.mutation ∧ l.mutation.state = .pending ∧
      ∃ ms, r.cell 8 = .integer ms ∧ l.failedAt = .ofMillis ms := by
  constructor
  · intro h
    obtain ⟨s, stored, h⟩ := Except.bind_eq_ok h
    obtain ⟨failedAt, hfailed, h⟩ := Except.bind_eq_ok h
    obtain ⟨m, hm, h⟩ := Except.bind_eq_ok h
    cases h
    obtain ⟨c0, c1, c2, c3, c4, c5, c6, bound, c7⟩ :=
      StoredMutation.ofRow_eq_ok_iff.mp (Error.ofTable_eq_ok_iff.mp stored)
    obtain ⟨hid, hop, hkind, hent, hpay, hat, hret, herr, named⟩ :=
      StoredMutation.toMutation_eq_ok_iff.mp hm
    have c8 := Place.integer_eq_ok_iff.mp (Error.ofTable_eq_ok_iff.mp hfailed)
    exact ⟨⟨hid ▸ c0, hop ▸ c1, hkind ▸ c2, hent ▸ c3, ⟨_, c4, hpay⟩, ⟨_, c5, hat⟩, hret ▸ c6,
      hret ▸ bound, herr ▸ c7⟩, (Except.ok.inj named).symm, _, c8, rfl⟩
  · rintro ⟨carries, pending, failed, c8, hfailed⟩
    rcases l with ⟨m, failedAt⟩
    obtain ⟨s, c4, hpay⟩ := carries.payload
    obtain ⟨ms, c5, hat⟩ := carries.enqueuedAt
    have stored : StoredMutation.ofRow r = .ok ⟨m.id, m.operation.name, m.kind.name, m.entityId, s,
        ms, m.retries, m.lastError⟩ :=
      StoredMutation.ofRow_eq_ok_iff.mpr ⟨carries.id, carries.operation, carries.kind,
        carries.entityId, c4, c5, carries.retries, carries.retries_le, carries.lastError⟩
    have read : (StoredMutation.mk m.id m.operation.name m.kind.name m.entityId s ms m.retries
        m.lastError).toMutation (.ok .pending) = .ok m :=
      StoredMutation.toMutation_eq_ok_iff.mpr
        ⟨rfl, rfl, rfl, rfl, hpay, hat, rfl, rfl, congrArg Except.ok pending.symm⟩
    simp only at hfailed
    subst hfailed
    simp only [DeadLetter.ofRow, stored, Place.integer_eq_ok_iff.mpr c8, Error.ofTable]
    exact congrArg (· >>= fun m => pure (DeadLetter.mk m (.ofMillis failed))) read

/-- A row carries nothing but what has its key. -/
theorem Table.Row.Carries.id_eq {r : Row} {m : Mutation} {id : String} (carries : r.Carries m)
    (key : r.cell 0 = .text id) : m.id = id := by
  simpa [carries.id] using key

theorem DeadLetter.id_of_found {rows : List Row} {id : String} {r : Row} {l : DeadLetter}
    (found : rows.find? (·.hasKey id) = some r) (read : DeadLetter.ofRow r = .ok l) :
    l.mutation.id = id :=
  (DeadLetter.ofRow_eq_ok_iff.mp read).1.id_eq (Row.hasKey_iff.mp (List.find?_some found))

/-! ## Written rows -/

/-- A row that was written reads back: only the time loses what is below a millisecond, and the
payload is what its text parses to. -/
theorem Mutation.carries_cells {m : Mutation} {v : Json} (number : Nat) (tail : List Cell)
    (parsed : Json.parse m.payload.text = .ok v) (bound : m.retries ≤ maxRetryCount) :
    (Row.mk number (m.cells ++ tail)).Carries
      { m with payload := v, enqueuedAt := .ofMillis m.enqueuedAt.toMillis } where
  id := rfl
  operation := rfl
  kind := rfl
  entityId := rfl
  payload := ⟨_, rfl, parsed⟩
  enqueuedAt := ⟨_, rfl, rfl⟩
  retries := rfl
  retries_le := bound
  lastError := rfl

theorem Mutation.ofRow_toRow {m : Mutation} {v : Json} (number : Nat)
    (parsed : Json.parse m.payload.text = .ok v) (bound : m.retries ≤ maxRetryCount) :
    Mutation.ofRow ⟨number, m.toRow⟩ =
      .ok { m with payload := v, enqueuedAt := .ofMillis m.enqueuedAt.toMillis } :=
  Mutation.ofRow_eq_ok_iff.mpr ⟨Mutation.carries_cells number _ parsed bound, rfl⟩

theorem DeadLetter.ofRow_toRow {l : DeadLetter} {v : Json} (number : Nat)
    (parsed : Json.parse l.mutation.payload.text = .ok v)
    (bound : l.mutation.retries ≤ maxRetryCount) :
    DeadLetter.ofRow ⟨number, l.toRow⟩ =
      .ok ⟨{ l.mutation with
              payload := v
              enqueuedAt := .ofMillis l.mutation.enqueuedAt.toMillis
              state := .pending }, .ofMillis l.failedAt.toMillis⟩ := by
  have carries := Mutation.carries_cells number [.integer l.failedAt.toMillis] parsed bound
  refine DeadLetter.ofRow_eq_ok_iff.mpr ⟨?_, rfl, _, rfl, rfl⟩
  exact ⟨carries.id, carries.operation, carries.kind, carries.entityId, carries.payload,
    carries.enqueuedAt, carries.retries, carries.retries_le, carries.lastError⟩

/-- The last three cells of a row hold its count, its error, and its state or its time; the
others stay when these are replaced. -/
theorem Mutation.cell_overwrite (m : Mutation) (r : Row) (last : Cell) {i : Nat} (first : i < 6) :
    (r.overwrite [6, 7, 8] (m.cells ++ [last])).cell i = r.cell i := by
  refine Row.cell_overwrite_of_kept ?_ ?_
  · simp only [List.contains_cons, List.contains_nil, Bool.or_false, Bool.or_eq_false_iff,
      beq_eq_false_iff_ne]
    omega
  · simp only [Mutation.cells, List.length_append, List.length_cons, List.length_nil]
    omega

theorem Table.Row.Carries.overwrite {r : Row} {q m : Mutation} (carries : r.Carries q)
    (last : Cell) (bound : m.retries ≤ maxRetryCount) (full : r.cell 8 ≠ .null) :
    (r.overwrite [6, 7, 8] (m.cells ++ [last])).Carries
      { q with retries := m.retries, lastError := m.lastError } := by
  have kept (i : Nat) (first : i < 6) := m.cell_overwrite r last first
  have long := Row.length_of_cell full
  exact {
    id := (kept 0 (by decide)).trans carries.id
    operation := (kept 1 (by decide)).trans carries.operation
    kind := (kept 2 (by decide)).trans carries.kind
    entityId := (kept 3 (by decide)).trans carries.entityId
    payload := by rw [kept 4 (by decide)]; exact carries.payload
    enqueuedAt := by rw [kept 5 (by decide)]; exact carries.enqueuedAt
    retries := Row.cell_overwrite_of_new rfl (by omega)
    retries_le := bound
    lastError := Row.cell_overwrite_of_new rfl (by omega) }

theorem Table.Row.cell_overwrite_last {r : Row} {m : Mutation} {last : Cell}
    (full : r.cell 8 ≠ .null) : (r.overwrite [6, 7, 8] (m.cells ++ [last])).cell 8 = last :=
  Row.cell_overwrite_of_new rfl (Row.length_of_cell full)

theorem Mutation.time_overwrite (m : Mutation) (r : Row) :
    (r.overwrite [6, 7, 8] m.toRow).time = r.time := by
  rw [Row.time, toRow, m.cell_overwrite r _ (by decide)]
  rfl

/-- Writing a retry state back keeps every row under its key. -/
theorem Mutation.keysOf_replaced (m : Mutation) (id : String) (rows : List Row) :
    keysOf (replaced [6, 7, 8] id m.toRow rows) = keysOf rows := by
  refine Table.keysOf_replaced rfl ?_ rows
  simp [Mutation.toRow, Mutation.cells]

/-- Writing a retry state back changes the count, the error and the state of what the row is read
as, and nothing else. -/
theorem Mutation.ofRow_overwrite {r : Row} {q m : Mutation} (read : Mutation.ofRow r = .ok q)
    (bound : m.retries ≤ maxRetryCount) :
    Mutation.ofRow (r.overwrite [6, 7, 8] m.toRow) =
      .ok { q with retries := m.retries, lastError := m.lastError, state := m.state } := by
  obtain ⟨carries, state⟩ := Mutation.ofRow_eq_ok_iff.mp read
  -- The row is complete, so what is written over its last three cells is found there.
  have full : r.cell 8 ≠ .null := by simp [state]
  have written := carries.overwrite (.text m.state.name) bound full
  refine Mutation.ofRow_eq_ok_iff.mpr ⟨?_, Row.cell_overwrite_last full⟩
  exact ⟨written.id, written.operation, written.kind, written.entityId, written.payload,
    written.enqueuedAt, written.retries, written.retries_le, written.lastError⟩

/-- A second letter renews the count, the error and the time of the first one. -/
theorem DeadLetter.ofRow_overwrite {r : Row} {k l : DeadLetter} (read : DeadLetter.ofRow r = .ok k)
    (bound : l.mutation.retries ≤ maxRetryCount) :
    DeadLetter.ofRow (r.overwrite [6, 7, 8] l.toRow) =
      .ok ⟨{ k.mutation with retries := l.mutation.retries, lastError := l.mutation.lastError },
        .ofMillis l.failedAt.toMillis⟩ := by
  obtain ⟨carries, pending, failed, c8, _⟩ := DeadLetter.ofRow_eq_ok_iff.mp read
  have full : r.cell 8 ≠ .null := by simp [c8]
  exact DeadLetter.ofRow_eq_ok_iff.mpr
    ⟨carries.overwrite _ bound full, pending, _, Row.cell_overwrite_last full, rfl⟩

end Outbox
