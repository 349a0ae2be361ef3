import Outbox.Proofs.JsonText
import Outbox.Proofs.Launch
import Outbox.Proofs.Stock

/-!
# Payloads that nest too deeply

A payload is written without any limit on its nesting, and read with one. So a change may be queued
whose row cannot be read, and the queue is listed as a whole: as long as such a row is there nothing
is listed, and no pass can be made. This is the only way in which the queue gets stuck. Any row that
was written for a change nesting below the limit is read, whatever its texts and numbers are, and
what was read once nests below the limit, so it can be written and read again.
-/
namespace Outbox

open Table Time

/-! ## What is read nests below the limit -/

namespace Json

theorem mem_setMember {key : String} {v : Json} {ms : List (String × Json)} {m : String × Json}
    (member : m ∈ setMember key v ms) : m = (key, v) ∨ m ∈ ms := by
  induction ms with
  | nil => exact .inl (List.mem_singleton.mp member)
  | cons first ms ih =>
    rw [setMember] at member
    split_ifs at member with same before
    · rcases List.mem_cons.mp member with new | old
      · exact .inl new
      · exact .inr (List.mem_cons_of_mem _ old)
    · rcases List.mem_cons.mp member with new | old
      · exact .inl new
      · exact .inr old
    · rcases List.mem_cons.mp member with rfl | behind
      · exact .inr List.mem_cons_self
      · exact (ih behind).imp_right (List.mem_cons_of_mem _)

/-- An object has no members but those that were read. -/
theorem depth_ofMembers_le {ms : List (String × Json)} {k : Nat} (each : ∀ m ∈ ms, m.2.depth ≤ k) :
    (ofMembers ms).depth ≤ k + 1 := by
  have sorted (kept : List (String × Json)) (below : ∀ m ∈ kept, m.2.depth ≤ k) :
      ∀ m ∈ ms.foldl (fun sorted m => setMember m.1 m.2 sorted) kept, m.2.depth ≤ k := by
    induction ms generalizing kept with
    | nil => exact below
    | cons first ms ih =>
      refine ih (fun m member => each m (List.mem_cons_of_mem _ member)) _ fun m member => ?_
      rcases mem_setMember member with rfl | old
      · exact each first List.mem_cons_self
      · exact below m old
  rw [ofMembers, depth, Nat.succ_le_succ_iff, depthMembers_le_iff]
  exact sorted [] fun _ none => by cases none

section Sequences

variable {α : Type} {reader : List Char → Except Fault (α × List Char)} {good : α → Prop}
  (sound : ∀ cs x rest, reader cs = .ok (x, rest) → good x)

include sound

theorem of_readElements {fuel : Nat} {first : Bool} {cs rest : List Char} {xs : List α}
    (read : readElements reader fuel first cs = .ok (xs, rest)) : ∀ x ∈ xs, good x := by
  induction fuel generalizing first cs xs with
  | zero => cases read
  | succ fuel ih =>
    obtain ⟨⟨more, cs'⟩, -, read⟩ := Except.bind_eq_ok read
    cases more with
    | false =>
      cases read
      exact fun _ none => by cases none
    | true =>
      obtain ⟨⟨x, behind⟩, head, read⟩ := Except.bind_eq_ok read
      obtain ⟨⟨tail, end_⟩, others, read⟩ := Except.bind_eq_ok read
      cases read
      exact List.forall_mem_cons.mpr ⟨sound _ _ _ head, ih others⟩

theorem of_readMembers {fuel : Nat} {first : Bool} {cs rest : List Char}
    {ms : List (String × α)} (read : readMembers reader fuel first cs = .ok (ms, rest)) :
    ∀ m ∈ ms, good m.2 := by
  induction fuel generalizing first cs ms with
  | zero => cases read
  | succ fuel ih =>
    obtain ⟨⟨more, cs'⟩, -, read⟩ := Except.bind_eq_ok read
    cases more with
    | false =>
      cases read
      exact fun _ none => by cases none
    | true =>
      obtain ⟨⟨key, colon⟩, -, read⟩ := Except.bind_eq_ok read
      obtain ⟨start, -, read⟩ := Except.bind_eq_ok read
      obtain ⟨⟨x, behind⟩, head, read⟩ := Except.bind_eq_ok read
      obtain ⟨⟨tail, end_⟩, others, read⟩ := Except.bind_eq_ok read
      cases read
      exact List.forall_mem_cons.mpr ⟨sound _ _ _ head, ih others⟩

end Sequences

theorem exists_of_map_eq_ok {ε α β : Type} {x : Except ε α} {f : α → β} {b : β}
    (done : x.map f = .ok b) : ∃ a, x = .ok a ∧ f a = b := by
  cases x with
  | error fault => cases done
  | ok a => exact ⟨a, rfl, Except.ok.inj done⟩

/-- A value that is read is flat, or its parts are read with one level less. -/
theorem readValue_cases {k : Nat} {cs rest : List Char} {w : Json}
    (read : readValue (k + 1) cs = .ok (w, rest)) :
    w.depth = 0 ∨ k ≠ 0 ∧
      ((∃ xs fuel cs' rest', w = .arr xs ∧
          readElements (readValue k) fuel true cs' = .ok (xs, rest')) ∨
        ∃ ms fuel cs' rest', w = ofMembers ms ∧
          readMembers (readValue k) fuel true cs' = .ok (ms, rest')) := by
  rw [readValue] at read
  split at read
  · cases read
  · split_ifs at read with null true_ false_ minus digit quote list deep object deep
    -- Words, numbers and texts.
    iterate 6
      obtain ⟨_, -, same⟩ := exists_of_map_eq_ok read
      cases same
      exact .inl rfl
    · obtain ⟨⟨xs, behind⟩, elements, read⟩ := Except.bind_eq_ok read
      obtain ⟨_, -, same⟩ := Except.bind_eq_ok read
      cases same
      exact .inr ⟨deep, .inl ⟨xs, _, _, _, rfl, elements⟩⟩
    · obtain ⟨⟨ms, behind⟩, members, read⟩ := Except.bind_eq_ok read
      obtain ⟨_, -, same⟩ := Except.bind_eq_ok read
      cases same
      exact .inr ⟨deep, .inr ⟨ms, _, _, _, rfl, members⟩⟩

/-- Whatever the text, what is read from it nests no deeper than is allowed. -/
theorem depth_le_of_readValue {k : Nat} {cs rest : List Char} {w : Json}
    (read : readValue (k + 1) cs = .ok (w, rest)) : w.depth ≤ k := by
  induction k generalizing cs rest w with
  | zero =>
    rcases readValue_cases read with flat | ⟨nested, -⟩
    · exact Nat.le_of_eq flat
    · exact absurd rfl nested
  | succ k ih =>
    rcases readValue_cases read with flat | ⟨-, list | object⟩
    · omega
    · obtain ⟨xs, fuel, cs', rest', rfl, elements⟩ := list
      rw [depth, Nat.succ_le_succ_iff, depthElements_le_iff]
      exact of_readElements (fun _ _ _ read => ih read) elements
    · obtain ⟨ms, fuel, cs', rest', rfl, members⟩ := object
      exact depth_ofMembers_le (of_readMembers (fun _ _ _ read => ih read) members)

/-! ## Payloads -/

theorem depth_lt_of_parse {s : String} {w : Json} (read : parse s = .ok w) :
    w.depth < nestingLimit := by
  obtain ⟨⟨w', rest⟩, value, done⟩ := Except.bind_eq_ok read
  simp only at done
  split at done
  · cases done
    exact Nat.lt_succ_of_le (depth_le_of_readValue value)
  · cases done

/-- A payload below the limit is read from its text, as it was if it has no doubles. -/
theorem exists_parse_text {v : Json} (shallow : v.depth < nestingLimit) :
    ∃ w, (v.IsPlain → w = v) ∧ parse v.text = .ok w := by
  have fares := readValue_render (nestingLimit - 1) v [] fun c none => by cases none
  obtain ⟨w, same, read⟩ := fares.1 (Nat.le_sub_one_of_lt shallow)
  rw [List.append_nil] at read
  refine ⟨w, same, ?_⟩
  rw [parse, readAll, text, String.toList_ofList]
  change (readValue (nestingLimit - 1 + 1) v.render >>= _) = _
  rw [read]
  rfl

/-- What storage asks of a payload holds of every plain one below the limit. -/
theorem IsPlain.faithful {v : Json} (plain : v.IsPlain) (shallow : v.depth < nestingLimit) :
    v.Faithful := by
  obtain ⟨w, same, read⟩ := exists_parse_text shallow
  rwa [same plain] at read

/-- A payload that nests too deep is not read. -/
theorem parse_text_of_deep {v : Json} (deep : nestingLimit ≤ v.depth) :
    parse v.text = .error .tooDeep := by
  have fares := readValue_render (nestingLimit - 1) v [] fun c none => by cases none
  have limit : 1 ≤ nestingLimit := by decide
  have refused := fares.2 (by omega)
  rw [List.append_nil] at refused
  rw [parse, readAll, text, String.toList_ofList]
  change (readValue (nestingLimit - 1 + 1) v.render >>= _) = _
  rw [refused]
  rfl

end Json

/-! ## Rows -/

namespace Table.Row

/-- The row was written for a mutation with an id and a payload; its last cells may have been
changed since. -/
structure Inscribed (r : Row) (id : String) (payload : Json) : Prop where
  stored : ∃ s : StoredMutation, StoredMutation.ofRow r = .ok s ∧ s.id = id ∧
    s.payload = payload.text ∧ (∃ o : Operation, s.operation = o.name) ∧
      ∃ k : EntityKind, s.kind = k.name
  state : ∃ d : DeliveryState, r.cell 8 = .text d.name

theorem inscribed_toRow (number : Nat) {m : Mutation} (bound : m.retries ≤ maxRetryCount) :
    (Row.mk number m.toRow).Inscribed m.id m.payload where
  stored := ⟨⟨m.id, m.operation.name, m.kind.name, m.entityId, m.payload.text,
      m.enqueuedAt.toMillis, m.retries, m.lastError⟩,
    StoredMutation.ofRow_eq_ok_iff.mpr ⟨rfl, rfl, rfl, rfl, rfl, rfl, rfl, bound, rfl⟩,
    rfl, rfl, ⟨m.operation, rfl⟩, m.kind, rfl⟩
  state := ⟨m.state, rfl⟩

namespace Inscribed

variable {r : Row} {id : String} {payload : Json} (inscribed : r.Inscribed id payload)

include inscribed

theorem key : r.cell 0 = .text id := by
  obtain ⟨s, stored, rfl, -⟩ := inscribed.stored
  exact (StoredMutation.ofRow_eq_ok_iff.mp stored).1

/-- A retry state is written over the last cells only. -/
theorem overwrite {m : Mutation} (bound : m.retries ≤ maxRetryCount) :
    (r.overwrite [6, 7, 8] m.toRow).Inscribed id payload := by
  obtain ⟨s, stored, same, text, operation, kind⟩ := inscribed.stored
  obtain ⟨c0, c1, c2, c3, c4, c5, -⟩ := StoredMutation.ofRow_eq_ok_iff.mp stored
  obtain ⟨d, state⟩ := inscribed.state
  have full : r.cell 8 ≠ .null := by simp [state]
  have long := Row.length_of_cell full
  have kept (i : Nat) (first : i < 6) := m.cell_overwrite r (.text m.state.name) first
  refine ⟨⟨{ s with retries := m.retries, lastError := m.lastError }, ?_, same, text, operation,
    kind⟩, m.state, Row.cell_overwrite_last full⟩
  refine StoredMutation.ofRow_eq_ok_iff.mpr ⟨(kept 0 (by decide)).trans c0,
    (kept 1 (by decide)).trans c1, (kept 2 (by decide)).trans c2, (kept 3 (by decide)).trans c3,
    (kept 4 (by decide)).trans c4, (kept 5 (by decide)).trans c5, ?_, bound, ?_⟩
  · exact Row.cell_overwrite_of_new rfl (by omega)
  · exact Row.cell_overwrite_of_new rfl (by omega)

/-- The payload alone decides how the row is read. -/
theorem ofRow_eq : ∃ f : Json → Mutation, (∀ v, (f v).id = id) ∧
    Mutation.ofRow r = (parsePayload payload.text).map f := by
  obtain ⟨s, stored, same, text, ⟨o, operation⟩, k, kind⟩ := inscribed.stored
  obtain ⟨d, state⟩ := inscribed.state
  refine ⟨fun v => ⟨s.id, o, k, s.entityId, v, .ofMillis s.enqueuedAt, s.retries, s.lastError, d⟩,
    fun _ => same, ?_⟩
  have operation' : Operation.parse s.operation = .ok o := Operation.parse_eq_ok_iff.mpr operation
  have kind' : EntityKind.parse s.kind = .ok k := EntityKind.parse_eq_ok_iff.mpr kind
  have state' : DeliveryState.parse d.name = .ok d := DeliveryState.parse_eq_ok_iff.mpr rfl
  simp only [Mutation.ofRow, stored, Place.text_eq_ok_iff.mpr state, Error.ofTable]
  change s.toMutation (DeliveryState.parse d.name) = _
  simp only [StoredMutation.toMutation, operation', kind', state', text]
  cases parsePayload payload.text <;> rfl

theorem read (shallow : payload.depth < Json.nestingLimit) : ∃ m, Mutation.ofRow r = .ok m := by
  obtain ⟨f, -, same⟩ := inscribed.ofRow_eq
  obtain ⟨w, -, read⟩ := Json.exists_parse_text shallow
  exact ⟨f w, by rw [same, parsePayload_eq_ok_iff.mpr read]; rfl⟩

theorem refused (deep : Json.nestingLimit ≤ payload.depth) :
    Mutation.ofRow r = .error (.serialization .tooDeep) := by
  obtain ⟨f, -, same⟩ := inscribed.ofRow_eq
  rw [same, parsePayload, Json.parse_text_of_deep deep]
  rfl

end Inscribed

end Table.Row

/-! ## The invariant -/

/-- A change with this id was queued that nests too deeply to be read back. -/
def QueuedTooDeep (past : List Occurrence) (id : String) : Prop :=
  ∃ c, .queued c ∈ past ∧ c.id = id ∧ Json.nestingLimit ≤ c.payload.depth

theorem QueuedTooDeep.append_iff {done past : List Occurrence} (silent : ∀ c, .queued c ∉ done)
    {id : String} : QueuedTooDeep (done ++ past) id ↔ QueuedTooDeep past id := by
  constructor
  · rintro ⟨c, queued, same, deep⟩
    rcases List.mem_append.mp queued with now | before
    · exact absurd now (silent c)
    · exact ⟨c, before, same, deep⟩
  · rintro ⟨c, queued, same, deep⟩
    exact ⟨c, List.mem_append_right done queued, same, deep⟩

/-- Queueing a change says nothing about other ids. -/
theorem QueuedTooDeep.cons_iff_of_ne {past : List Occurrence} {c : Change} {id : String}
    (other : id ≠ c.id) : QueuedTooDeep (.queued c :: past) id ↔ QueuedTooDeep past id := by
  constructor
  · rintro ⟨c', queued, rfl, deep⟩
    rcases List.mem_cons.mp queued with same | before
    · cases same
      exact absurd rfl other
    · exact ⟨c', before, rfl, deep⟩
  · rintro ⟨c', queued, same, deep⟩
    exact ⟨c', List.mem_cons_of_mem _ queued, same, deep⟩

/-- Under a new id there is only the change that is queued now. -/
theorem QueuedTooDeep.cons_self_iff {past : List Occurrence} {c : Change}
    (first : ∀ c', .queued c' ∈ past → c'.id ≠ c.id) :
    QueuedTooDeep (.queued c :: past) c.id ↔ Json.nestingLimit ≤ c.payload.depth := by
  constructor
  · rintro ⟨c', queued, same, deep⟩
    rcases List.mem_cons.mp queued with now | before
    · cases now
      exact deep
    · exact absurd same (first c' before)
  · exact fun deep => ⟨c, List.mem_cons_self, rfl, deep⟩

/-- Exactly the rows of changes that were queued too deep cannot be read, and what was read is in
the dead letters and in the pass. -/
structure Legible (past : List Occurrence) (s : Stock) : Prop where
  rows : ∀ r ∈ s.queue, ∃ id payload, r.Inscribed id payload ∧
    (QueuedTooDeep past id ↔ Json.nestingLimit ≤ payload.depth)
  letters : ∀ id, .text id ∈ keysOf s.letters → ¬ QueuedTooDeep past id
  copies : ∀ p, s.pass = some p → ∀ id ∈ p.ids, ¬ QueuedTooDeep past id

namespace Legible

variable {past done : List Occurrence} {s : Stock}

/-- What queues nothing leaves the invariant as it is. -/
theorem grow (legible : Legible past s) (silent : ∀ c, .queued c ∉ done) :
    Legible (done ++ past) s := by
  constructor
  · intro r member
    obtain ⟨id, payload, inscribed, deep⟩ := legible.rows r member
    exact ⟨id, payload, inscribed, (QueuedTooDeep.append_iff silent).trans deep⟩
  · intro id member deep
    exact legible.letters id member ((QueuedTooDeep.append_iff silent).mp deep)
  · intro p waits id member deep
    exact legible.copies p waits id member ((QueuedTooDeep.append_iff silent).mp deep)

/-- A row that is read is of no change that was queued too deep. -/
theorem of_read (legible : Legible past s) {r : Row} (member : r ∈ s.queue) {m : Mutation}
    (read : Mutation.ofRow r = .ok m) : ¬ QueuedTooDeep past m.id := by
  obtain ⟨id, payload, inscribed, deep⟩ := legible.rows r member
  have same : m.id = id := (Mutation.ofRow_eq_ok_iff.mp read).1.id_eq inscribed.key
  rw [same, deep]
  intro deep
  rw [inscribed.refused deep] at read
  cases read

theorem fewer (legible : Legible past s) {rows letters : List Row}
    (part : ∀ r ∈ rows, r ∈ s.queue) (known : ∀ id, .text id ∈ keysOf letters →
      ¬ QueuedTooDeep past id) :
    Legible past { s with queue := rows, letters := letters } :=
  ⟨fun r member => legible.rows r (part r member), known, legible.copies⟩

/-- A mutation becomes a dead letter that is none of a change that was queued too deep. -/
theorem buried (legible : Legible past s) {l : DeadLetter}
    (known : ¬ QueuedTooDeep past l.mutation.id) : Legible past (s.buried l) := by
  refine legible.fewer (fun r => List.mem_of_mem_filter) fun id member => ?_
  rcases (mem_keysOf_upserted rfl rfl).mp member with before | same
  · exact legible.letters id before
  · rw [Cell.text.inj same]
    exact known

theorem continued {rest : List Mutation} (legible : Legible past { s with pass := none })
    (copies : ∀ id ∈ rest.map (·.id), ¬ QueuedTooDeep past id) (report : Report) :
    Legible past (s.continued rest report) := by
  constructor
  · rw [Stock.continued_queue]
    exact legible.rows
  · rw [Stock.continued_letters]
    exact legible.letters
  · intro p waits
    rw [Pass.ids, Stock.continued_pass waits]
    exact copies

/-- A change is queued under an id that nothing else has. -/
theorem queue (legible : Legible past s) {c : Change} (now : Instant)
    (fresh : .text c.id ∉ keysOf s.queue) (letters : .text c.id ∉ keysOf s.letters)
    (pass : ∀ p, s.pass = some p → c.id ∉ p.ids)
    (first : ∀ c', .queued c' ∈ past → c'.id ≠ c.id) :
    Legible (.queued c :: past) { s with queue := added s.queue (c.fresh now).toRow } := by
  have known {id : String} (before : ¬ QueuedTooDeep past id) (other : id ≠ c.id) :
      ¬ QueuedTooDeep (.queued c :: past) id :=
    (QueuedTooDeep.cons_iff_of_ne other).not.mpr before
  constructor
  · refine forall_added (fun r member => ?_) fun number => ?_
    · obtain ⟨id, payload, inscribed, deep⟩ := legible.rows r member
      refine ⟨id, payload, inscribed, (QueuedTooDeep.cons_iff_of_ne ?_).trans deep⟩
      rintro rfl
      exact fresh (mem_keysOf.mpr ⟨r, member, inscribed.key⟩)
    · exact ⟨c.id, c.payload, Row.inscribed_toRow (m := c.fresh now) number (Nat.zero_le _),
        QueuedTooDeep.cons_self_iff first⟩
  · intro id member
    refine known (legible.letters id member) ?_
    rintro rfl
    exact letters member
  · intro p waits id member
    refine known (legible.copies p waits id member) ?_
    rintro rfl
    exact pass p waits member

/-- What was read nests below the limit, so it is read again when it is queued anew. -/
theorem revive (legible : Legible past s) {id : String} {r : Row} {l : DeadLetter} (now : Instant)
    (found : s.letters.find? (·.hasKey id) = some r) (read : DeadLetter.ofRow r = .ok l) :
    Legible past
      { s with
        queue := added s.queue (l.mutation.renewed now).toRow
        letters := without id s.letters } := by
  have same : l.mutation.id = id := DeadLetter.id_of_found found read
  have known : ¬ QueuedTooDeep past l.mutation.id := by
    rw [same]
    have key := Row.hasKey_iff.mp (List.find?_some found)
    exact legible.letters id (mem_keysOf.mpr ⟨r, List.mem_of_find?_eq_some found, key⟩)
  -- The letter was read, and so was its payload.
  obtain ⟨s', -, parsed⟩ := (DeadLetter.ofRow_eq_ok_iff.mp read).1.payload
  have shallow := Json.depth_lt_of_parse parsed
  constructor
  · refine forall_added legible.rows fun number => ?_
    refine ⟨l.mutation.id, l.mutation.payload,
      Row.inscribed_toRow (m := l.mutation.renewed now) number (Nat.zero_le _), ?_⟩
    exact iff_of_false known (Nat.not_le.mpr shallow)
  · exact fun id' member => legible.letters id' (mem_keysOf_without.mp member).1
  · exact legible.copies

/-- An answer changes the last cells of a row, or takes it out. -/
theorem settled (legible : Legible past s) {p : Pass} (waits : s.pass = some p)
    (policy : RetryPolicy) (now : Instant) {a : Answer} (orderly : a ≠ .panicked) :
    Legible past (s.settled policy p.current now a) := by
  rcases a with _ | ⟨reason | ⟨status, reason⟩⟩ | _
  · exact legible.fewer (fun r => List.mem_of_mem_filter) legible.letters
  · -- The retry state is written over a row, whose payload stays.
    refine ⟨fun r member => ?_, legible.letters, legible.copies⟩
    obtain ⟨before, present, rfl⟩ := List.mem_map.mp member
    obtain ⟨id, payload, inscribed, deep⟩ := legible.rows before present
    split
    · have bound := p.current.retained_retries_le policy (Failure.transient reason).message
      exact ⟨id, payload, inscribed.overwrite bound, deep⟩
    · exact ⟨id, payload, inscribed, deep⟩
  · exact legible.buried (legible.copies p waits p.current.id List.mem_cons_self)
  · exact absurd rfl orderly

end Legible

/-- Every move keeps the rows as legible as they were written, as long as no id is given twice. -/
theorem Shift.legible {policy : RetryPolicy} {now : Instant} {past done : List Occurrence}
    {s t : Stock}
    (shift : Shift policy now s done t)
    (letters : ∀ c, .queued c ∈ done → .text c.id ∉ keysOf s.letters)
    (pass : ∀ c, .queued c ∈ done → ∀ p, s.pass = some p → c.id ∉ p.ids)
    (first : ∀ c, .queued c ∈ done → ∀ c', .queued c' ∈ past → c'.id ≠ c.id)
    (legible : Legible past s) : Legible (done ++ past) t := by
  -- Only a queued change brings a new text; every other move keeps, drops or copies what was read.
  rcases shift.queued_cases with ⟨c, rfl, fresh, rfl⟩ | silent
  · exact legible.queue now fresh (letters c List.mem_cons_self) (pass c List.mem_cons_self)
      (first c List.mem_cons_self)
  have grown : Legible (done ++ past) s := legible.grow silent
  cases shift with
  | quiet talk => exact grown
  | @queue c fresh => exact absurd List.mem_cons_self (silent c)
  | remove present => exact grown.fewer (fun _ => List.mem_of_mem_filter) grown.letters
  | clear => exact grown.fewer (fun _ none => by cases none) grown.letters
  | bury found read => exact grown.buried (grown.of_read (List.mem_of_find?_eq_some found) read)
  | revive found read fresh => exact grown.revive now found read
  | discard present =>
    exact grown.fewer (fun _ member => member) fun id member =>
      grown.letters id (mem_keysOf_without.mp member).1
  | start idle listed =>
    refine Legible.continued ⟨grown.rows, grown.letters, fun p none => by cases none⟩ ?_ .empty
    intro id member
    obtain ⟨m, copied, rfl⟩ := List.mem_map.mp member
    obtain ⟨r, present, read⟩ := exists_of_mem_mapM listed copied
    exact grown.of_read ((sortRows_perm _ _).mem_iff.mp present) read
  | @settle p a report waits orderly =>
    have settled := grown.settled waits policy now orderly
    refine Legible.continued ⟨settled.rows, settled.letters, fun p none => by cases none⟩ ?_ report
    exact fun id behind => grown.copies p waits id (List.mem_cons_of_mem _ behind)
  | panic waits => exact ⟨grown.rows, grown.letters, fun p none => by cases none⟩

/-! ## Listing the queue -/

/-- Some change that was queued and is still in the queue nests too deeply to be read back. -/
def Clogged (past : List Occurrence) (rows : List Row) : Prop :=
  ∃ c, .queued c ∈ past ∧ .text c.id ∈ keysOf rows ∧ Json.nestingLimit ≤ c.payload.depth

namespace Legible

variable {past : List Occurrence} {s : Stock} (legible : Legible past s)

include legible

theorem listed (free : ¬ Clogged past s.queue) :
    ∃ queued, (sortRows (rowLE [5]) s.queue).mapM Mutation.ofRow = .ok queued := by
  apply exists_mapM_eq_ok
  intro r member
  have present := (sortRows_perm _ _).mem_iff.mp member
  obtain ⟨id, payload, inscribed, deep⟩ := legible.rows r present
  refine inscribed.read (Nat.lt_of_not_le ?_)
  intro tooDeep
  apply free
  obtain ⟨c, queued, rfl, nested⟩ := deep.mpr tooDeep
  exact ⟨c, queued, mem_keysOf.mpr ⟨r, present, inscribed.key⟩, nested⟩

theorem unlisted (clogged : Clogged past s.queue) :
    (sortRows (rowLE [5]) s.queue).mapM Mutation.ofRow =
      .error (.serialization .tooDeep) := by
  obtain ⟨c, queued, present, nested⟩ := clogged
  apply mapM_eq_error
  · -- Every row is read or refused for this very reason, so it does not matter which comes first.
    intro r member
    obtain ⟨id, payload, inscribed, -⟩ := legible.rows r ((sortRows_perm _ _).mem_iff.mp member)
    rcases Nat.lt_or_ge payload.depth Json.nestingLimit with shallow | deep
    · exact .inl (inscribed.read shallow)
    · exact .inr (inscribed.refused deep)
  · obtain ⟨r, member, key⟩ := mem_keysOf.mp present
    obtain ⟨id, payload, inscribed, deep⟩ := legible.rows r member
    obtain rfl : id = c.id := Cell.text.inj (inscribed.key.symm.trans key)
    exact ⟨r, (sortRows_perm _ _).mem_iff.mpr member,
      inscribed.refused (deep.mp ⟨c, queued, rfl, nested⟩)⟩

end Legible

/-! ## Runs -/

namespace Session

/-- A session whose rows are as legible as they were written. -/
structure Readable (s : Session) : Prop where
  sound : s.engine.view.Sound
  legible : Legible s.past s.engine.view.stock

theorem Readable.after {s : Session} (readable : s.Readable) (now : Instant) {move : Move}
    (new : s.NewId move) : (s.after now move).Readable := by
  have moved := after_moved readable.sound now new.isFresh
  constructor
  · exact moved.sound readable.sound
  · -- An id that is given is not in the dead letters, not in the pass, and was not given before.
    refine moved.shift.legible ?_ ?_ ?_ readable.legible
    · intro c queued taken
      exact new c (Engine.change_of_queued queued) (taken_of_letters taken)
    · intro c queued p waits taken
      exact new c (Engine.change_of_queued queued) (taken_of_pass waits taken)
    · intro c queued c' before same
      exact new c (Engine.change_of_queued queued) (same ▸ taken_of_queued before)

theorem Readable.of_run {s t : Session} (readable : s.Readable)
    (run : Run (fun s _ move => s.NewId move) s t) : t.Readable := by
  induction run with
  | refl => exact readable
  | step _ ok ih => exact ih.after _ ok

theorem Readable.start {e : Engine} (sound : e.view.Sound) (empty : e.view.queueRows = [])
    (idle : e.isProcessing = false) (clock : Instant) : (⟨e, [], clock⟩ : Session).Readable := by
  have pass : e.view.stock.pass = none := Engine.isProcessing_eq_false_iff.mp idle
  have queue : e.view.stock.queue = [] := empty
  refine ⟨sound, ?_, ?_, ?_⟩
  · intro r member
    rw [queue] at member
    cases member
  · -- The dead letters may hold anything, since no change was queued yet.
    rintro id - ⟨c, queued, -⟩
    cases queued
  · intro p waits
    rw [pass] at waits
    cases waits

variable {s : Session}

/-- A queue that is not clogged is listed completely, and a pass that begins has all of it to do. -/
theorem Readable.tried (readable : s.Readable)
    (free : ¬ Clogged s.past s.engine.view.queueRows) (now : Instant) :
    ∃ queued, (s.engine.query now Database.mutations).2 = .ok queued ∧
      (queued.map (·.id)).Perm (idsOf s.engine.view.queueRows) ∧
      (s.engine.isOnline = true → s.engine.isProcessing = false →
        (s.engine.startPass now).2 = outcomeAfter queued .empty ∧
          ((s.engine.startPass now).1.pass.map Pass.ids).getD [] = queued.map (·.id)) := by
  obtain ⟨queued, rows⟩ := readable.legible.listed free
  have listed : s.engine.view.database.mutations = .ok queued :=
    readable.sound.healthy.mutations.trans rows
  obtain ⟨e', run, -⟩ := Engine.query_yields readable.sound now Database.mutations
  refine ⟨queued, by rw [run, listed], ?_, ?_⟩
  · rw [← idsOf_of_listed rows]
    exact idsOf_perm (sortRows_perm _ _)
  · intro online idle
    have still := Engine.isProcessing_eq_false_iff.mp idle
    obtain ⟨e₁, began, view⟩ := Engine.startPass_yields readable.sound online still listed now
    have pass : e₁.pass = (s.engine.view.continued queued .empty).pass := congrArg View.pass view
    rw [began]
    refine ⟨rfl, ?_⟩
    rw [pass]
    cases queued <;> rfl

/-- A clogged queue is not listed, and no pass begins. -/
theorem Readable.blocked (readable : s.Readable)
    (clogged : Clogged s.past s.engine.view.queueRows) (now : Instant) :
    (s.engine.query now Database.mutations).2 = .error (.serialization .tooDeep) ∧
      (s.engine.isOnline = true → s.engine.isProcessing = false →
        (s.engine.startPass now).2 = some (.failed (.serialization .tooDeep))) := by
  have unlisted : s.engine.view.database.mutations = .error (.serialization .tooDeep) :=
    readable.sound.healthy.mutations.trans (readable.legible.unlisted clogged)
  obtain ⟨e', run, -⟩ := Engine.query_yields readable.sound now Database.mutations
  refine ⟨by rw [run, unlisted], ?_⟩
  intro online idle
  have still := Engine.isProcessing_eq_false_iff.mp idle
  obtain ⟨e₁, failed, -⟩ := Engine.startPass_of_unlisted readable.sound online still unlisted now
  rw [failed]

end Session

/-- In every state of every run that starts with an empty queue, nothing but a change that nests too
deeply blocks the queue. While none is in it, the queue is listed completely, and every pass that is
made has all of it to do; while one is, nothing is listed and every pass fails. -/
theorem blocked_by_deep_payloads_only {e : Engine} (sound : e.view.Sound)
    (empty : e.view.queueRows = []) (idle : e.isProcessing = false) {clock : Instant}
    {s : Session} (run : Session.Run (fun s _ move => s.NewId move) ⟨e, [], clock⟩ s)
    (now : Instant) :
    (¬ Clogged s.past s.engine.view.queueRows →
      ∃ queued, (s.engine.query now Database.mutations).2 = .ok queued ∧
        (queued.map (·.id)).Perm (idsOf s.engine.view.queueRows) ∧
        (s.engine.isOnline = true → s.engine.isProcessing = false →
          (s.engine.startPass now).2 = outcomeAfter queued .empty ∧
            ((s.engine.startPass now).1.pass.map Pass.ids).getD [] = queued.map (·.id))) ∧
    (Clogged s.past s.engine.view.queueRows →
      (s.engine.query now Database.mutations).2 = .error (.serialization .tooDeep) ∧
        (s.engine.isOnline = true → s.engine.isProcessing = false →
          (s.engine.startPass now).2 = some (.failed (.serialization .tooDeep)))) := by
  have readable := (Session.Readable.start sound empty idle clock).of_run run
  exact ⟨fun free => readable.tried free now, fun clogged => readable.blocked clogged now⟩

namespace Json

/-- Lists in lists around an empty one. -/
def tower : Nat → Json
  | 0 => .arr []
  | height + 1 => .arr [tower height]

theorem depth_tower (height : Nat) : (tower height).depth = height + 1 := by
  induction height with
  | zero => rfl
  | succ height ih => simp [tower, depth, depthElements, ih]

end Json

namespace Session

def sampleFlat : Change := ⟨"m1", .create, .incidents, "i1", .obj [("open", .bool true)]⟩

def sampleTower (height : Nat) : Change := ⟨"m2", .create, .incidents, "i2", Json.tower height⟩

/-- Two changes wait for a pass. -/
def sampleWaiting (height : Nat) : Session :=
  (⟨Engine.inMemory .default true, [], .epoch⟩ : Session).through
    [.enqueue sampleFlat, .enqueue (sampleTower height)]

theorem sample_waits :
    Run (fun s _ move => s.NewId move) ⟨Engine.inMemory .default true, [], .epoch⟩
      (sampleWaiting 127) :=
  .through .refl (by decide +kernel)

theorem sample_clogged :
    Clogged (sampleWaiting 127).past (sampleWaiting 127).engine.view.queueRows := by
  refine ⟨sampleTower 127, ?_, ?_, ?_⟩
  · decide +kernel
  · decide +kernel
  · rw [sampleTower, Json.depth_tower]
    decide

end Session

/-- The theorem at a payload that nests as deeply as it may, and at one that nests deeper by one. -/
theorem deepest_payload_tried_deeper_one_blocks :
    (∃ queued, ((Session.sampleWaiting 126).engine.query .epoch Database.mutations).2 = .ok queued ∧
      (queued.map (·.id)).Perm ["m1", "m2"] ∧
        (((Session.sampleWaiting 126).engine.startPass .epoch).1.pass.map Pass.ids).getD [] =
          queued.map (·.id)) ∧
    ((Session.sampleWaiting 127).engine.startPass .epoch).2 =
      some (.failed (.serialization .tooDeep)) := by
  have sound := Engine.inMemory_sound .default true
  have empty : (Engine.inMemory .default true).view.queueRows = [] := by decide +kernel
  have idle : (Engine.inMemory .default true).isProcessing = false := by decide +kernel
  have past : (Session.sampleWaiting 126).past =
      [.queued (Session.sampleTower 126), .queued Session.sampleFlat] := by decide +kernel
  have free : ¬ Clogged (Session.sampleWaiting 126).past
      (Session.sampleWaiting 126).engine.view.queueRows := by
    rw [past]
    rintro ⟨c, queued, -, nested⟩
    rcases List.mem_cons.mp queued with same | last
    · cases same
      rw [Session.sampleTower, Json.depth_tower] at nested
      exact absurd nested (by decide)
    · cases List.mem_singleton.mp last
      exact absurd nested (by decide)
  constructor
  · obtain ⟨queued, listed, ids, tried⟩ := (blocked_by_deep_payloads_only sound empty idle
      (s := Session.sampleWaiting 126) (.through .refl (by decide +kernel)) .epoch).1 free
    have waiting : idsOf (Session.sampleWaiting 126).engine.view.queueRows = ["m1", "m2"] := by
      decide +kernel
    exact ⟨queued, listed, waiting ▸ ids, (tried (by decide +kernel) (by decide +kernel)).2⟩
  · exact ((blocked_by_deep_payloads_only sound empty idle Session.sample_waits .epoch).2
      Session.sample_clogged).2 (by decide +kernel) (by decide +kernel)

/-- A change that was accepted can keep itself and all others from being listed. -/
theorem accepted_change_not_listed :
    ¬ ∀ (e : Engine), e.view.Sound → e.view.queueRows = [] → e.isProcessing = false →
      ∀ (clock : Instant) (s : Session),
        Session.Run (fun s _ move => s.NewId move) ⟨e, [], clock⟩ s →
        ∀ c, .queued c ∈ s.past → .text c.id ∈ keysOf s.engine.view.queueRows → ∀ now,
          ∃ queued, (s.engine.query now Database.mutations).2 = .ok queued ∧
            c.id ∈ queued.map (·.id) := by
  intro listed
  have sound := Engine.inMemory_sound .default true
  have empty : (Engine.inMemory .default true).view.queueRows = [] := by decide +kernel
  have idle : (Engine.inMemory .default true).isProcessing = false := by decide +kernel
  obtain ⟨queued, done, -⟩ := listed _ sound empty idle _ _ Session.sample_waits Session.sampleFlat
    (by decide +kernel) (by decide +kernel) .epoch
  have readable := (Session.Readable.start sound empty idle .epoch).of_run Session.sample_waits
  rw [(readable.blocked Session.sample_clogged .epoch).1] at done
  cases done

end Outbox
