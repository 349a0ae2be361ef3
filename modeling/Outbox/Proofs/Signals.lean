import Outbox.Proofs.SinglePass
import Outbox.Proofs.Steps
import Outbox.Proofs.Transactions

/-!
# What an operation shows

Every effect is about one of a few topics, and every operation shows effects of its own topics only,
whatever the store does. So what others conclude from the effects of one topic has to be argued for
the few operations that show any: item events come from answers alone, and the state of the network
is published by the connectivity task alone. Whatever does not belong to the network leaves the
monitor as it is and loses no task that is ready.

The length of the queue is announced by whoever changes it. An operation takes the length from the
store after its own change and announces it before it returns, and an operation that fails has
changed nothing.
-/
namespace Outbox

open Table Time

/-! ## Topics -/

/-- What an effect is about. -/
inductive Topic where
  /-- The log and the callbacks. -/
  | note
  /-- A pass that is asked for. -/
  | request
  /-- The length of the queue. -/
  | length
  /-- Where a pass is. -/
  | pass
  /-- What became of a mutation. -/
  | fate
  /-- Whether the remote side can be reached. -/
  | network
  deriving DecidableEq

namespace Effect

def topic : Effect → Topic
  | .logged _ | .called _ => .note
  | .drainRequested => .request
  | .sent _ | .answered _ _ => .pass
  | .emitted (.statusChanged .online _) | .emitted (.statusChanged .offline _) => .network
  | .emitted (.statusChanged _ _) => .pass
  | .emitted (.queueChanged _) => .length
  | .emitted (.itemSynced ..) | .emitted (.itemFailed ..) | .emitted (.itemExhausted ..)
  | .emitted (.itemDeadLettered ..) => .fate

/-- The length of the queue that an effect announces. -/
def length? : Effect → Option Nat
  | .emitted (.queueChanged pending) => some pending
  | _ => none

end Effect

/-- The latest length of the queue that some effects announce. -/
def badge (told : List Effect) : Option Nat := (told.filterMap Effect.length?).head?

theorem badge_append (later told : List Effect) :
    badge (later ++ told) = (badge later).or (badge told) := by
  rw [badge, List.filterMap_append, List.head?_append, badge, badge]

theorem badge_of_other {told : List Effect} (other : ∀ x ∈ told, x.topic ≠ .length) :
    badge told = none := by
  have none : told.filterMap Effect.length? = [] := by
    refine List.filterMap_eq_nil_iff.mpr fun x member => ?_
    cases x with
    | emitted event =>
      cases event with
      | queueChanged pending => exact absurd rfl (other _ member)
      | _ => rfl
    | _ => rfl
  rw [badge, none, List.head?_nil]

namespace Engine

/-- How many mutations are queued in the store of an engine, whether it is open or not. -/
def pending (e : Engine) : Nat := e.storage.content.pending

/-! ## What happens between two engines -/

/-- Apart from notes, all that was shown between the two engines is about some topics. -/
def Shows (topics : List Topic) (e e' : Engine) : Prop :=
  ∃ told, e'.trace = told ++ e.trace ∧ ∀ x ∈ told, x.topic ∈ .note :: topics

namespace Shows

variable {topics more : List Topic} {e e' e'' : Engine}

theorem refl (e : Engine) : Shows topics e e := ⟨[], rfl, fun _ none => by cases none⟩

theorem trans (first : Shows topics e e') (second : Shows topics e' e'') : Shows topics e e'' := by
  obtain ⟨told, trace, about⟩ := first
  obtain ⟨later, trace', about'⟩ := second
  refine ⟨later ++ told, by rw [trace', trace, List.append_assoc], fun x member => ?_⟩
  exact (List.mem_append.mp member).elim (about' x) (about x)

theorem mono (said : Shows topics e e') (sub : topics ⊆ more) : Shows more e e' := by
  obtain ⟨told, trace, about⟩ := said
  exact ⟨told, trace, fun x member => List.cons_subset_cons _ sub (about x member)⟩

/-- Of another topic nothing was shown. -/
theorem apart (said : Shows topics e e') {t : Topic} (other : t ∉ .note :: topics) :
    ∃ told, e'.trace = told ++ e.trace ∧ ∀ x ∈ told, x.topic ≠ t := by
  obtain ⟨told, trace, about⟩ := said
  exact ⟨told, trace, fun x member same => other (same ▸ about x member)⟩

end Shows

/-- What was shown between the two engines is about some topics, and the store has gone through
steps of its own. If its rows may be counted, the queue has got the length that is owed, that is, a
length that is yet to be announced. If none is owed, the queue is as long as was announced last, or
as long as before where nothing was announced. -/
structure Recounts (owed : Option Nat) (topics : List Topic) (e e' : Engine) : Prop where
  told : Shows topics e e'
  content : e.storage.content.Steps e'.storage.content
  counted : e.storage.content.Countable →
    ∃ told, e'.trace = told ++ e.trace ∧ e'.pending = (owed.or (badge told)).getD e.pending

namespace Recounts

variable {owed : Option Nat} {topics more : List Topic} {e e' e'' : Engine}

theorem trans (first : Recounts none topics e e') (second : Recounts owed topics e' e'') :
    Recounts owed topics e e'' where
  told := first.told.trans second.told
  content := first.content.trans second.content
  counted countable := by
    obtain ⟨told, trace, pending⟩ := first.counted countable
    -- No guard has come up meanwhile, so the rows may still be counted.
    obtain ⟨later, trace', pending'⟩ := second.counted (countable.steps first.content)
    refine ⟨later ++ told, by rw [trace', trace, List.append_assoc], ?_⟩
    rw [pending', pending, badge_append]
    cases owed <;> cases badge later <;> rfl

theorem mono (recounts : Recounts owed topics e e') (sub : topics ⊆ more) :
    Recounts owed more e e' :=
  ⟨recounts.told.mono sub, recounts.content, recounts.counted⟩

/-- What is neither shown nor stored is of no concern. -/
theorem still (trace : e'.trace = e.trace) (storage : e'.storage = e.storage) :
    Recounts none topics e e' where
  told := ⟨[], trace, fun _ none => by cases none⟩
  content := storage ▸ .refl
  counted _ := ⟨[], trace, congrArg (·.content.pending) storage⟩

theorem refl (e : Engine) : Recounts none topics e e := still rfl rfl

theorem foldl {α : Type} {f : Engine → α → Engine} (step : ∀ e a, Recounts none topics e (f e a))
    (e : Engine) (xs : List α) : Recounts none topics e (xs.foldl f e) := by
  induction xs generalizing e with
  | nil => exact refl e
  | cons x xs ih => exact (step e x).trans (ih (f e x))

end Recounts

/-- Beyond that nothing happened that concerns the network, and no task that is ready was lost. -/
structure Owes (owed : Option Nat) (topics : List Topic) (e e' : Engine) : Prop
    extends Recounts owed topics e e' where
  monitor : e'.monitor = e.monitor
  connectivity : e'.connectivity = e.connectivity
  tasks : e.tasks ⊆ e'.tasks

/-- Nothing is owed. -/
abbrev Adds : List Topic → Engine → Engine → Prop := Owes none

namespace Owes

variable {owed : Option Nat} {topics more : List Topic} {e e' e'' : Engine}

theorem trans (first : Adds topics e e') (second : Owes owed topics e' e'') :
    Owes owed topics e e'' where
  toRecounts := first.toRecounts.trans second.toRecounts
  monitor := second.monitor.trans first.monitor
  connectivity := second.connectivity.trans first.connectivity
  tasks := List.Subset.trans first.tasks second.tasks

theorem mono (owes : Owes owed topics e e') (sub : topics ⊆ more) : Owes owed more e e' :=
  ⟨owes.toRecounts.mono sub, owes.monitor, owes.connectivity, owes.tasks⟩

theorem still (trace : e'.trace = e.trace) (storage : e'.storage = e.storage)
    (monitor : e'.monitor = e.monitor) (connectivity : e'.connectivity = e.connectivity)
    (tasks : e.tasks ⊆ e'.tasks) : Adds topics e e' :=
  ⟨.still trace storage, monitor, connectivity, tasks⟩

theorem refl (e : Engine) : Adds topics e e := still rfl rfl rfl rfl (List.Subset.refl _)

/-- It is of no concern which pass is under way. -/
theorem withPass (owes : Owes owed topics e e') (p : Option Pass) :
    Owes owed topics e { e' with pass := p } :=
  ⟨⟨owes.told, owes.content, owes.counted⟩, owes.monitor, owes.connectivity, owes.tasks⟩

theorem foldl {α : Type} {f : Engine → α → Engine} (step : ∀ e a, Adds topics e (f e a))
    (e : Engine) (xs : List α) : Adds topics e (xs.foldl f e) := by
  induction xs generalizing e with
  | nil => exact refl e
  | cons x xs ih => exact (step e x).trans (ih (f e x))

theorem of_run {α : Type} {r : Engine × α} {x : α} (owes : Owes owed topics e r.1)
    (run : r = (e', x)) : Owes owed topics e e' := by
  rw [run] at owes
  exact owes

end Owes

section Operations

variable {topics : List Topic} (e : Engine)

/-! ## Talk -/

theorem adds_record {x : Effect} (about : x.topic ∈ .note :: topics ∧ x.topic ≠ .length) :
    Adds topics e (e.record x) where
  told := ⟨[x], rfl, List.forall_mem_singleton.mpr about.1⟩
  content := .refl
  counted _ := by
    refine ⟨[x], rfl, ?_⟩
    rw [badge_of_other (List.forall_mem_singleton.mpr about.2)]
    rfl
  monitor := rfl
  connectivity := rfl
  tasks := List.Subset.refl _

theorem adds_log (line : LogLine) : Adds topics e (e.log line) :=
  e.adds_record (by simp [Effect.topic])

theorem adds_logAll (lines : List LogLine) : Adds topics e (e.logAll lines) :=
  .foldl (fun e line => e.adds_log line) e lines

theorem adds_withNotifier (n : UnownedNotifier) : Adds topics e { e with notifier := n } :=
  .still rfl rfl rfl rfl (List.Subset.refl _)

theorem adds_emit {event : Event}
    (about : (Effect.emitted event).topic ∈ .note :: topics ∧
      (Effect.emitted event).topic ≠ .length) : Adds topics e (e.emit event) :=
  (e.adds_withNotifier _).trans (adds_record _ about)

/-- A status is published after it was told to the callbacks, which makes notes only. -/
theorem publish_eq (status : Status) (now : Instant) : ∃ told : Engine,
    (∀ topics, Adds topics e told) ∧
      e.publish status now = told.record (.emitted (.statusChanged status now)) := by
  have called {topics : List Topic} (e : Engine) (calls : List Call) :
      Adds topics e (calls.foldl (fun e call => e.record (.called call)) e) :=
    .foldl (fun e _ => e.adds_record (by simp [Effect.topic])) e calls
  exact ⟨_, fun _ => ((e.adds_withNotifier _).trans (called _ _)).trans (adds_logAll _ _), rfl⟩

theorem adds_publish {status : Status} {now : Instant}
    (about : (Effect.emitted (.statusChanged status now)).topic ∈ .note :: topics) :
    Adds topics e (e.publish status now) := by
  obtain ⟨told, adds, publish⟩ := e.publish_eq status now
  have other : (Effect.emitted (.statusChanged status now)).topic ≠ .length := by
    cases status <;> simp [Effect.topic]
  exact publish ▸ (adds topics).trans (told.adds_record ⟨about, other⟩)

theorem adds_requestDrain (about : .request ∈ topics) : Adds topics e e.requestDrain := by
  have ready : Adds topics e { e with tasks := e.tasks ++ [Task.drain] } :=
    .still rfl rfl rfl rfl (List.subset_append_left _ _)
  exact ready.trans (adds_record _ (by simp [Effect.topic, about]))

theorem adds_tellRequester (about : .request ∈ topics) : Adds topics e e.tellRequester := by
  unfold tellRequester
  split
  · exact .refl e
  · exact .refl e
  · exact e.adds_requestDrain about
  next requests _ =>
    have counted : Adds topics e { e with requester := .counter (requests + 1) } :=
      .still rfl rfl rfl rfl (List.Subset.refl _)
    exact counted.trans (adds_record _ (by simp [Effect.topic, about]))

theorem adds_send (m : Mutation) : Adds [.pass] e (e.send m) := by
  have logged (line : LogLine) : Adds [.pass] e (e.log line) := e.adds_log line
  have sent (e : Engine) : Adds [.pass] e (e.record (.sent m)) :=
    e.adds_record (by simp [Effect.topic])
  unfold send
  simp only
  split
  · exact (logged _).trans (sent _)
  · exact sent e

/-! ## Announcements -/

namespace Owes

variable {e e' : Engine} {n : Nat}

/-- What is owed can still be announced after something was noted. -/
theorem log (owes : Owes (some n) topics e e') (line : LogLine) :
    Owes (some n) topics e (e'.log line) where
  told := owes.told.trans (e'.adds_log line).told
  content := owes.content
  counted countable := by
    obtain ⟨told, trace, pending⟩ := owes.counted countable
    exact ⟨.logged line :: told, congrArg _ trace, pending⟩
  monitor := owes.monitor
  connectivity := owes.connectivity
  tasks := owes.tasks

/-- Once the length that is owed is announced, nothing is owed any more. -/
theorem emit (owes : Owes (some n) topics e e') (about : .length ∈ topics) :
    Adds topics e (e'.emit (.queueChanged n)) where
  told := by
    obtain ⟨told, trace, talk⟩ := owes.told
    refine ⟨.emitted (.queueChanged n) :: told, congrArg _ trace, ?_⟩
    exact List.forall_mem_cons.mpr ⟨List.mem_cons_of_mem _ about, talk⟩
  content := owes.content
  counted countable := by
    obtain ⟨told, trace, pending⟩ := owes.counted countable
    exact ⟨.emitted (.queueChanged n) :: told, congrArg _ trace, pending⟩
  monitor := owes.monitor
  connectivity := owes.connectivity
  tasks := owes.tasks

/-- A pass may be asked for after the length is announced. -/
theorem afterEnqueue (owes : Owes (some n) [.length, .request] e e') :
    Adds [.length, .request] e (e'.afterEnqueue n) := by
  have told := owes.emit (by simp)
  unfold Engine.afterEnqueue
  simp only
  split
  · exact told.trans (adds_tellRequester _ (by simp))
  · exact told

end Owes

/-! ## The store -/

theorem adds_opened (now : Instant) : Adds topics e (e.opened now) := by
  have stored : Adds topics e { e with storage := (e.storage.ensureOpen now).1 } := by
    refine ⟨⟨.refl e, ?_, fun _ => ⟨[], rfl, ?_⟩⟩, rfl, rfl, List.Subset.refl _⟩
    · rcases e.storage.content_ensureOpen_cases now with same | prepared
      · exact same ▸ .refl
      · exact prepared ▸ .single (.prepare now)
    · exact congrArg List.length ((e.storage.content_ensureOpen now).rows .queue rfl)
  exact stored.trans (adds_logAll _ _)

section Access

variable {α : Type} {f : Database → Database × Except Error α} {length : α → Option Nat}
  {e e' : Engine} {now : Instant} {result : Except Error α}

/-- What statements tell of the length of the queue is owed by the engine that runs them. -/
theorem owes_of_access (steps : ∀ db : Database, db.Steps (f db).1)
    (tells : ∀ db : Database, db.Countable → db.Tells (f db) length)
    (run : e.access now f = (e', result)) : Owes (result.toOption.bind length) topics e e' := by
  refine Owes.trans (e.adds_opened now) ?_
  cases opens : (e.storage.ensureOpen now).2.2 with
  | error fault =>
    rw [access_of_unopened opens] at run
    cases run
    exact .refl _
  | ok =>
    have isOpen := isOpen_opened opens
    have there : (e.opened now).storage.content = (e.opened now).database :=
      Storage.content_of_isOpen isOpen
    rw [access_of_opened opens] at run
    cases run
    -- The statements run on the database that was opened, and they change nothing else.
    refine ⟨⟨⟨[], rfl, by simp⟩, ?_, fun countable => ⟨[], rfl, ?_⟩⟩, rfl, rfl, List.Subset.refl _⟩
    · rw [content_setDatabase isOpen, there]
      exact steps _
    · rw [pending, pending, content_setDatabase isOpen, there, badge_of_other (by simp),
        Option.or_none]
      exact tells _ (there ▸ countable)

/-- Statements that leave the length of the queue alone owe nothing. -/
theorem adds_access (steps : ∀ db : Database, db.Steps (f db).1)
    (tells : ∀ db : Database, db.Countable → db.Tells (f db) fun _ => none) :
    Adds topics e (e.access now f).1 := by
  have stored : Owes ((e.access now f).2.toOption.bind fun _ => none) topics e
      (e.access now f).1 := owes_of_access steps tells rfl
  rwa [Option.bind_fun_none] at stored

end Access

theorem adds_query {α : Type} (now : Instant) (f : Database → Except Error α) :
    Adds topics e (e.query now f).1 :=
  adds_access (fun _ => .refl) fun db _ => .query db (f db)

/-! ## The queue -/

theorem adds_enqueue (m : Mutation) (now : Instant) :
    Adds [.length, .request] e (e.enqueue m now).1 := by
  have stored {e₁ : Engine} {result : Except Error Nat}
      (run : e.access now (fun db => db.enqueue m) = (e₁, result)) :
      Owes (result.toOption.bind some) [.length, .request] e e₁ :=
    owes_of_access (fun _ => .single (.enqueue m)) (fun _ countable => .enqueue countable m) run
  unfold enqueue
  split
  next run => exact stored run
  next run => exact ((stored run).log _).afterEnqueue

theorem adds_mutate (m : Mutation) (now : Instant) :
    Adds [.length, .request] e (e.mutate m now).1 := by
  have stored {e₁ : Engine} {result : Except Error Nat}
      (run : e.access now (fun db => db.mutate m now) = (e₁, result)) :
      Owes (result.toOption.bind some) [.length, .request] e e₁ :=
    owes_of_access (fun _ => .single (.mutate m now)) (fun db _ => .mutate db m now) run
  unfold mutate
  split
  next run => exact stored run
  next run => exact ((stored run).log _).afterEnqueue

theorem adds_dequeue (id : String) (now : Instant) : Adds [.length] e (e.dequeue id now).1 := by
  have stored {e₁ : Engine} {result : Except Error (Bool × Nat)}
      (run : e.access now (fun db => db.dequeue id) = (e₁, result)) :
      Owes (result.toOption.bind fun found => if found.1 then some found.2 else none) [.length]
        e e₁ :=
    owes_of_access (fun _ => .single (.dequeue id)) (fun _ countable => .dequeue countable id) run
  unfold dequeue
  split
  next run => exact stored run
  next removed pending run =>
    cases removed with
    | true =>
      have owes : Owes (some pending) [.length] e _ := stored run
      exact owes.emit (by simp)
    | false =>
      -- Nothing was removed, so nothing is owed.
      exact stored run

theorem adds_purge (id : String) (now : Instant) : Adds [.length] e (e.purge id now).1 := by
  have removed := e.adds_dequeue id now
  unfold purge
  split
  next run => exact (removed.of_run run).trans (adds_log _ _)
  · exact removed

theorem adds_clear (now : Instant) : Adds [.length] e (e.clear now).1 := by
  have stored {e₁ : Engine} {result : Except Error Nat}
      (run : e.change now Database.clearMutations = (e₁, result)) :
      Owes (result.toOption.bind fun _ => some 0) [.length] e e₁ :=
    owes_of_access (fun _ => .single .clear) (fun db _ => .clear db) run
  unfold clear
  split
  next run => exact stored run
  next run => exact ((stored run).log _).emit (by simp)

theorem adds_update (m : Mutation) (now : Instant) : Adds topics e (e.update m now).1 :=
  adds_access (fun _ => .single (.update m)) fun db _ => .update db m

theorem adds_moveToDeadLetters (m : Mutation) (now : Instant) :
    Adds [.length] e (e.moveToDeadLetters m now).1 := by
  have stored {e₁ : Engine} {result : Except Error Nat}
      (run : e.access now (fun db => db.bury ⟨m, now⟩) = (e₁, result)) :
      Owes (result.toOption.bind some) [.length] e e₁ :=
    owes_of_access (fun _ => .single (.bury ⟨m, now⟩)) (fun db _ => .bury db ⟨m, now⟩) run
  unfold moveToDeadLetters
  simp only
  split
  next run => exact stored run
  next run => exact ((stored run).log _).emit (by simp)

theorem adds_deadLetter (id : String) (now : Instant) :
    Adds [.length] e (e.deadLetter id now).1 := by
  have found : Adds [.length] e (e.query now fun db => db.mutation? id).1 := e.adds_query now _
  unfold deadLetter
  split
  next run => exact found.of_run run
  next run => exact found.of_run run
  next run => exact (found.of_run run).trans (adds_moveToDeadLetters _ _ _)

theorem adds_requeue (id : String) (now : Instant) :
    Adds [.length, .request] e (e.requeue id now).1 := by
  have stored {e₁ : Engine} {result : Except Error (Option (Mutation × Nat))}
      (run : e.access now (fun db => db.revive id now) = (e₁, result)) :
      Owes (result.toOption.bind fun revived => revived.map (·.2)) [.length, .request] e e₁ :=
    owes_of_access (fun _ => .single (.revive id now)) (fun db _ => .revive db id now) run
  unfold requeue
  split
  next run => exact stored run
  next run => exact stored run
  next run => exact ((stored run).log _).afterEnqueue

theorem adds_purgeDeadLetter (id : String) (now : Instant) :
    Adds topics e (e.purgeDeadLetter id now).1 := by
  have removed : Adds topics e (e.change now fun db => db.deleteDeadLetter id).1 :=
    adds_access (fun _ => .single (.discard id)) fun db _ => .deleteDeadLetter db id
  unfold purgeDeadLetter
  split
  next run => exact (removed.of_run run).trans (adds_log _ _)
  · exact removed

/-! ## Passes -/

theorem adds_logStats (now : Instant) : Adds topics e (e.logStats now) := by
  have looked : Adds topics e (e.query now Database.queueStats).1 := e.adds_query now _
  unfold logStats
  split
  next run => exact (looked.of_run run).trans (adds_log _ _)
  next run => exact (looked.of_run run).trans (adds_log _ _)

theorem adds_finishPass (report : Report) (now : Instant) :
    Adds [.pass] e (e.finishPass report now).1 := by
  have published : Adds [.pass] e
      ((e.log (.info ("✅ 同步队列处理完成: " ++ report.summary))).publish .synced now) :=
    (e.adds_log _).trans (adds_publish _ (by simp [Effect.topic]))
  unfold finishPass
  refine Owes.withPass ?_ none
  split
  · exact published.trans (adds_logStats _ now)
  · exact published

theorem adds_continuePass (rest : List Mutation) (report : Report) (now : Instant) :
    Adds [.pass] e (e.continuePass rest report now).1 := by
  cases rest with
  | nil => exact e.adds_finishPass report now
  | cons m rest => exact (e.adds_send m).withPass _

theorem adds_startPass (now : Instant) : Adds [.pass] e (e.startPass now).1 := by
  have begun : Adds [.pass] e ((e.log (.info "🔄 开始处理同步队列")).publish .syncing now) :=
    (e.adds_log _).trans (adds_publish _ (by simp [Effect.topic]))
  have listed := begun.trans (adds_query _ now Database.mutations)
  unfold startPass
  split
  · exact .refl e
  · split
    · exact .refl e
    · simp only
      split
      next run => exact (listed.of_run run).trans (adds_continuePass _ _ _ now)
      next run =>
        exact (listed.of_run run).trans
          ((adds_log _ _).trans (adds_publish _ (by simp [Effect.topic])))

/-! ## Answers -/

theorem adds_confirm (m : Mutation) (report : Report) (now : Instant) :
    Adds [.length, .fate] e (e.confirm m report now).1 := by
  have removed : Adds [.length, .fate] e (e.dequeue m.id now).1 :=
    (e.adds_dequeue m.id now).mono (by simp)
  unfold confirm
  split
  next run => exact removed.of_run run
  next run =>
    exact (removed.of_run run).trans ((adds_log _ _).trans (adds_emit _ (by simp [Effect.topic])))

theorem adds_retryLater (m : Mutation) (error : String) (report : Report) (now : Instant) :
    Adds [.length, .fate] e (e.retryLater m error report now).1 := by
  have written : Adds [.length, .fate] e (e.update m now).1 := e.adds_update m now
  unfold retryLater
  split
  next run => exact written.of_run run
  next run =>
    exact (written.of_run run).trans ((adds_log _ _).trans (adds_emit _ (by simp [Effect.topic])))

theorem adds_exhaust (m : Mutation) (error : String) (report : Report) (now : Instant) :
    Adds [.length, .fate] e (e.exhaust m error report now).1 := by
  have written : Adds [.length, .fate] e (e.update { m with state := .exhausted } now).1 :=
    e.adds_update _ now
  unfold exhaust
  simp only
  split
  next run => exact written.of_run run
  next run =>
    refine (written.of_run run).trans
      (Owes.trans ?_ (adds_emit _ (by simp [Effect.topic])))
    split
    · exact .refl _
    · exact (adds_log _ _).trans (adds_emit _ (by simp [Effect.topic]))

theorem adds_giveUp (m : Mutation) (failure : Failure) (report : Report) (now : Instant) :
    Adds [.length, .fate] e (e.giveUp m failure report now).1 := by
  have moved : Adds [.length, .fate] e (e.moveToDeadLetters m now).1 :=
    (e.adds_moveToDeadLetters m now).mono (by simp)
  unfold giveUp
  split
  next run => exact moved.of_run run
  next run =>
    exact (moved.of_run run).trans ((adds_log _ _).trans (adds_emit _ (by simp [Effect.topic])))

theorem adds_settleFailure (m : Mutation) (failure : Failure) (report : Report) (now : Instant) :
    Adds [.length, .fate] e (e.settleFailure m failure report now).1 := by
  unfold settleFailure
  simp only
  split
  · exact adds_retryLater _ _ _ _ _
  · exact adds_exhaust _ _ _ _ _
  · exact adds_giveUp _ _ _ _ _

variable {e}

theorem adds_contain {m : Mutation} {report : Report} {r : Engine × Except Error Report}
    (adds : Adds topics e r.1) : Adds topics e (contain m report r).1 := by
  rcases r with ⟨e', fault | report'⟩
  · exact adds.trans (adds_log _ _)
  · exact adds

variable (e)

theorem adds_answer (a : Answer) (now : Instant) :
    Adds [.length, .fate, .pass] e (e.answer a now).1 := by
  have heard (m : Mutation) : Adds [.length, .fate, .pass] e (e.record (.answered m a)) :=
    e.adds_record (by simp [Effect.topic])
  unfold answer
  split
  · exact .refl e
  next p _ =>
    simp only
    split
    · exact (heard p.current).withPass none
    · refine (heard p.current).trans (Owes.trans (adds_contain ?_)
        ((adds_continuePass _ _ _ now).mono (by simp)))
      exact (adds_confirm _ _ _ now).mono (by simp)
    · refine (heard p.current).trans (Owes.trans (adds_contain ?_)
        ((adds_continuePass _ _ _ now).mono (by simp)))
      exact (adds_settleFailure _ _ _ _ now).mono (by simp)

/-! ## The network -/

theorem adds_wake (t : Task) : Adds topics e (e.wake t) := by
  unfold wake
  split
  · exact .refl e
  · exact .still rfl rfl rfl rfl (List.subset_append_left _ _)

theorem adds_push (status : NetworkStatus) : Adds topics e (e.push status) := by
  have heard : Adds topics e { e with listener := e.listener.map fun l => l.push status } :=
    .still rfl rfl rfl rfl (List.Subset.refl _)
  unfold push
  simp only
  split
  · exact heard.trans (adds_wake _ _)
  · exact heard

theorem recounts_setOnline (online : Bool) : Recounts none topics e (e.setOnline online).1 := by
  have turned : Recounts none topics e { e with monitor := (e.monitor.setOnline online).1 } :=
    .still rfl rfl
  have logged := turned.trans (adds_logAll _ (e.monitor.setOnline online).2.2).toRecounts
  unfold setOnline
  simp only
  split
  · exact logged.trans (adds_wake _ _).toRecounts
  · exact logged

theorem adds_announce (now : Instant) (change : Received Bool) :
    Adds [.network, .request] e (announce now e change) := by
  rcases change with (_ | _) | missed
  · exact e.adds_publish (by simp [Effect.topic])
  · exact (e.adds_publish (by simp [Effect.topic])).trans (adds_requestDrain _ (by simp))
  · exact e.adds_log _

theorem recounts_runConnectivity (now : Instant) :
    Recounts none [.network, .request] e (e.runConnectivity now) := by
  have read : Recounts none [.network, .request] e
      { e with connectivity := some e.monitor.changes.sent } := .still rfl rfl
  unfold runConnectivity
  split
  · exact .refl e
  · exact read.trans (Owes.foldl (fun e change => e.adds_announce now change) _ _).toRecounts

theorem recounts_carryOver (report : Received NetworkStatus) :
    Recounts none topics e (e.carryOver report) := by
  cases report with
  | message status => exact e.recounts_setOnline _
  | lagged missed => exact (e.adds_log _).toRecounts

theorem recounts_runWatch : Recounts none topics e e.runWatch := by
  unfold runWatch
  split
  next listener _ _ =>
    have read : Recounts none topics e { e with watch := some listener.reports.sent } :=
      .still rfl rfl
    exact read.trans (.foldl (fun e report => e.recounts_carryOver report) _ _)
  · exact .refl e

/-! ## Moves -/

/-- A pass in the background notes at most one thing more. -/
theorem adds_drain (now : Instant) : Adds [.pass] e (e.runTask now .drain).1 := by
  have started := e.adds_startPass now
  simp only [runTask]
  split
  next run => exact (started.of_run run).trans (adds_log _ _)
  next run => exact started.of_run run
  next run => exact started.of_run run

/-- What is neither an answer nor concerns the network says nothing of either. -/
theorem adds_perform (now : Instant) {move : Move} (direct : move.IsDirect)
    (unanswered : ∀ a, move ≠ .answer a) :
    Adds [.length, .request, .pass] e (e.perform now move).1 := by
  cases move with
  | enqueue c =>
    rw [perform, tell_fst]
    exact (e.adds_enqueue _ now).mono (by simp)
  | mutate c =>
    rw [perform, tell_fst]
    exact (e.adds_mutate _ now).mono (by simp)
  | purge id =>
    rw [perform, tell_fst]
    exact (e.adds_purge id now).mono (by simp)
  | clear =>
    rw [perform, tell_fst]
    exact (e.adds_clear now).mono (by simp)
  | deadLetter id =>
    rw [perform, tell_fst]
    exact (e.adds_deadLetter id now).mono (by simp)
  | requeue id =>
    rw [perform, tell_fst]
    exact (e.adds_requeue id now).mono (by simp)
  | purgeDeadLetter id =>
    rw [perform, tell_fst]
    exact e.adds_purgeDeadLetter id now
  | push status => exact e.adds_push status
  | process => exact (e.adds_startPass now).mono (by simp)
  | answer a => exact absurd rfl (unanswered a)
  | setOnline _ | run _ => cases direct

theorem adds_perform_answer (a : Answer) (now : Instant) :
    Adds [.length, .fate, .pass] e (e.perform now (.answer a)).1 := by
  simp only [perform]
  split
  · exact .refl e
  · exact e.adds_answer a now

theorem recounts_runTask (now : Instant) (t : Task) :
    Recounts none [.request, .pass, .network] e (e.runTask now t).1 := by
  cases t with
  | drain => exact (e.adds_drain now).toRecounts.mono (by simp)
  | connectivity => exact (e.recounts_runConnectivity now).mono (by simp)
  | watch => exact e.recounts_runWatch

/-- Nothing but an answer says what became of a mutation. -/
theorem recounts_unanswered (now : Instant) {move : Move} (unanswered : ∀ a, move ≠ .answer a) :
    Recounts none [.length, .request, .pass, .network] e (e.perform now move).1 := by
  cases move with
  | setOnline online => exact e.recounts_setOnline online
  | run position =>
    simp only [perform]
    split
    · exact .refl e
    next t _ =>
      -- The task leaves the ready ones first, which neither the store nor the trace shows.
      have left : Recounts none [.length, .request, .pass, .network] e
          { e with tasks := e.tasks.eraseIdx position } := .still rfl rfl
      exact left.trans ((recounts_runTask _ now t).mono (by simp))
  | _ => exact (adds_perform e now (by trivial) unanswered).toRecounts.mono (by simp)

end Operations

end Engine

/-! ## Sequences of operations -/

/-- A move, or what only someone who holds the queue itself can do. -/
inductive Act where
  | move (m : Move)
  | dequeue (id : String)
  | update (m : Mutation)
  | moveToDeadLetters (m : Mutation)

namespace Engine

def act (e : Engine) (now : Instant) : Act → Engine
  | .move m => (e.perform now m).1
  | .dequeue id => (e.dequeue id now).1
  | .update m => (e.update m now).1
  | .moveToDeadLetters m => (e.moveToDeadLetters m now).1

/-- An engine after some acts, each at its time. -/
def afterActs (e : Engine) (acts : List (Instant × Act)) : Engine :=
  acts.foldl (fun e a => e.act a.1 a.2) e

theorem recounts_act_of_unanswered (e : Engine) (now : Instant) {a : Act}
    (unanswered : ∀ answer, a ≠ .move (.answer answer)) :
    Recounts none [.length, .request, .pass, .network] e (e.act now a) := by
  cases a with
  | move m =>
    exact e.recounts_unanswered now fun answer same => unanswered answer (congrArg _ same)
  | dequeue id => exact (e.adds_dequeue id now).toRecounts.mono (by simp)
  | update m => exact (e.adds_update m now).toRecounts
  | moveToDeadLetters m => exact (e.adds_moveToDeadLetters m now).toRecounts.mono (by simp)

/-- Every act takes the store through steps of its own and announces the length of the queue if it
changes it. -/
theorem recounts_act (e : Engine) (now : Instant) (a : Act) :
    Recounts none [.length, .request, .fate, .pass, .network] e (e.act now a) := by
  by_cases answered : ∃ answer, a = .move (.answer answer)
  · obtain ⟨answer, rfl⟩ := answered
    exact (e.adds_perform_answer answer now).toRecounts.mono (by simp)
  · have unanswered (answer : Answer) : a ≠ .move (.answer answer) :=
      fun same => answered ⟨answer, same⟩
    exact (e.recounts_act_of_unanswered now unanswered).mono (by simp)

theorem recounts_afterActs (e : Engine) (acts : List (Instant × Act)) :
    Recounts none [.length, .request, .fate, .pass, .network] e (e.afterActs acts) :=
  Recounts.foldl (fun (e : Engine) (a : Instant × Act) => e.recounts_act a.1 a.2) e acts

end Engine

end Outbox
