import Mathlib.Data.List.Basic
import Outbox.Notifier.Unowned

/-!
# What a publication does

A publication runs over the callbacks that were registered when it began. What one of them does to
the registrations is done to the notifier at once and to that run not at all; so the calls can be
read off the list at the beginning, and so can those who are registered on the way. Numbers are
given out in order, and while they last a number keeps its callback until its handle is dropped.

All of this is about publications that return. One that drops a handle whose callback owns another
may wait forever; where callbacks own none, every publication returns.
-/
namespace Outbox

open Time

namespace Reaction

/-- What a callback sees in a reaction, while a status is the current one. -/
def sight? (label : String) (status : Status) : Reaction → Option Call
  | .readCurrent => some (.sawCurrent label (some status))
  | .unsubscribe _ | .subscribe .. => none

/-- The registrations that reactions make, of which the first has a number. -/
def made : Nat → List Reaction → List (Nat × Callback)
  | _, [] => []
  | next, .subscribe label reactions panics _ _ :: rest =>
    (next, ⟨label, reactions, panics⟩) :: made (next + 1) rest
  | next, .unsubscribe _ :: rest | next, .readCurrent :: rest => made next rest

/-- The registration that a reaction drops. -/
def dropped? : Reaction → Option Nat
  | .unsubscribe serial => some serial
  | .subscribe .. | .readCurrent => none

/-- The registrations that reactions drop. -/
def dropped (reactions : List Reaction) : List Nat := reactions.filterMap dropped?

/-- The registrations that reactions make, less those that a later one of them drops again. -/
def registered : Nat → List Reaction → List (Nat × Callback)
  | _, [] => []
  | next, .subscribe label reactions panics _ _ :: rest =>
    (if next ∈ dropped rest then [] else [(next, ⟨label, reactions, panics⟩)]) ++
      registered (next + 1) rest
  | next, .unsubscribe _ :: rest | next, .readCurrent :: rest => registered next rest

theorem dropped_unsubscribe (serial : Nat) (rest : List Reaction) :
    dropped (.unsubscribe serial :: rest) = serial :: dropped rest := rfl

/-- The first reaction makes its registrations before the others. -/
theorem made_cons (next : Nat) (r : Reaction) (rest : List Reaction) :
    made next (r :: rest) = made next [r] ++ made (next + (made next [r]).length) rest := by
  cases r <;> rfl

theorem made_append (next : Nat) (first second : List Reaction) :
    made next (first ++ second) =
      made next first ++ made (next + (made next first).length) second := by
  induction first generalizing next with
  | nil => rfl
  | cons r rest ih =>
    rw [List.cons_append, made_cons, ih, made_cons next r rest, List.length_append,
      Nat.add_assoc, List.append_assoc]

theorem map_fst_made (next : Nat) (reactions : List Reaction) :
    (made next reactions).map (·.1) = List.range' next (made next reactions).length := by
  induction reactions generalizing next with
  | nil => rfl
  | cons r rest ih =>
    cases r with
    | unsubscribe => exact ih next
    | readCurrent => exact ih next
    | subscribe => simp only [made, List.map_cons, List.length_cons, List.range'_succ, ih]

theorem mem_made {next : Nat} {reactions : List Reaction} {entry : Nat × Callback}
    (member : entry ∈ made next reactions) :
    next ≤ entry.1 ∧ entry.1 < next + (made next reactions).length := by
  have number : entry.1 ∈ (made next reactions).map (·.1) := List.mem_map_of_mem member
  rw [map_fst_made, List.mem_range'_1] at number
  exact number

end Reaction

namespace Notifier

variable {n n' n'' : Notifier} {p p' p'' : Publication} {status : Status} {inUse later : List Nat}
  {made made' : List (Nat × Callback)} {seen seen' : List Call}

/-! ## The numbers of registrations -/

theorem idOf_toNat {serial : Nat} (few : serial < UInt64.size) : (idOf serial).toNat = serial :=
  UInt64.toNat_ofNat_of_lt' few

theorem idOf_inj {serial other : Nat} (few : serial < UInt64.size) (few' : other < UInt64.size) :
    idOf serial = idOf other ↔ serial = other := by
  rw [← UInt64.toNat_inj, idOf_toNat few, idOf_toNat few']

/-- The serial numbers grow in the order of registration, and the next one is greater still. -/
structure Numbered (n : Notifier) : Prop where
  ascending : (n.subscribers.map (·.1)).Pairwise (· < ·)
  below : ∀ entry ∈ n.subscribers, entry.1 < n.nextSerial
  given : ∀ h ∈ n.handles, h.serial < n.nextSerial
  /-- While the numbers last, those who have a handle are registered, and nobody else. -/
  held : n.nextSerial ≤ UInt64.size → n.handles.map (·.serial) = n.subscribers.map (·.1)

theorem numbered_ofEvents (events : Channel Event) : (ofEvents events).Numbered :=
  ⟨.nil, nofun, nofun, fun _ => rfl⟩

/-- Nothing counts but the serial numbers. -/
theorem Numbered.of_eq (numbered : n.Numbered)
    (serials : n'.subscribers.map (·.1) = n.subscribers.map (·.1))
    (handles : n'.handles.map (·.serial) = n.handles.map (·.serial))
    (nextSerial : n'.nextSerial = n.nextSerial) : n'.Numbered where
  ascending := serials ▸ numbered.ascending
  below entry member := by
    have there : entry.1 ∈ n.subscribers.map (·.1) := serials ▸ List.mem_map_of_mem member
    obtain ⟨old, present, number⟩ := List.mem_map.mp there
    rw [nextSerial, ← number]
    exact numbered.below old present
  given h member := by
    have there : h.serial ∈ n.handles.map (·.serial) := handles ▸ List.mem_map_of_mem member
    obtain ⟨old, present, number⟩ := List.mem_map.mp there
    rw [nextSerial, ← number]
    exact numbered.given old present
  held few := by
    rw [handles, serials]
    exact numbered.held (nextSerial ▸ few)

/-! ## What becomes of a notifier -/

/-- What a notifier becomes while some registrations are made and any of them may end. -/
structure Becomes (n : Notifier) (made : List (Nat × Callback)) (n' : Notifier) : Prop where
  subscribers : n'.subscribers.Sublist (n.subscribers ++ made)
  nextSerial : n'.nextSerial = n.nextSerial + made.length
  current : n'.current = n.current
  events : n'.events = n.events
  numbered : n'.Numbered

theorem Becomes.trans (first : n.Becomes made n') (second : n'.Becomes made' n'') :
    n.Becomes (made ++ made') n'' where
  subscribers := by
    rw [← List.append_assoc]
    exact second.subscribers.trans (first.subscribers.append_right made')
  nextSerial := by
    rw [second.nextSerial, first.nextSerial, List.length_append, Nat.add_assoc]
  current := second.current.trans first.current
  events := second.events.trans first.events
  numbered := second.numbered

theorem Numbered.refl (numbered : n.Numbered) : n.Becomes [] n :=
  ⟨(List.append_nil n.subscribers).symm ▸ .refl _, rfl, rfl, rfl, numbered⟩

theorem Numbered.subscribe (numbered : n.Numbered) (holder : Option Nat) (callback : Callback)
    (owns : List Nat) (keeps : Bool) :
    n.Becomes [(n.nextSerial, callback)] (n.subscribe holder callback owns keeps).1 where
  subscribers := .refl _
  nextSerial := rfl
  current := rfl
  events := rfl
  numbered := by
    -- Handles that change hands keep their serial numbers.
    have handles : (n.subscribe holder callback owns keeps).1.handles.map (·.serial) =
        n.handles.map (·.serial) ++ [n.nextSerial] := by
      simp only [Notifier.subscribe, List.map_append, List.map_map, List.map_cons, List.map_nil]
      congr 1
      refine List.map_congr_left fun h _ => ?_
      simp only [Function.comp_apply]
      split <;> rfl
    constructor
    · simp only [Notifier.subscribe, List.map_append, List.pairwise_append, List.map_cons,
        List.map_nil, List.mem_singleton, List.mem_map]
      refine ⟨numbered.ascending, List.pairwise_singleton .., ?_⟩
      rintro serial ⟨entry, member, rfl⟩ _ rfl
      exact numbered.below entry member
    · intro entry member
      rcases List.mem_append.mp member with old | new
      · exact Nat.lt_succ_of_lt (numbered.below entry old)
      · obtain rfl := List.mem_singleton.mp new
        exact Nat.lt_succ_self n.nextSerial
    · intro h member
      have there := List.mem_map_of_mem (f := (·.serial)) member
      rw [handles] at there
      rcases List.mem_append.mp there with old | new
      · obtain ⟨h', present, number⟩ := List.mem_map.mp old
        rw [← number]
        exact Nat.lt_succ_of_lt (numbered.given h' present)
      · rw [List.mem_singleton.mp new]
        exact Nat.lt_succ_self n.nextSerial
    · intro few
      rw [handles, numbered.held (Nat.le_of_succ_le few)]
      simp only [Notifier.subscribe, List.map_append, List.map_cons, List.map_nil]

/-- While the numbers last, only one registration goes by a number. -/
theorem Numbered.subscribers_without (numbered : n.Numbered) (few : n.nextSerial ≤ UInt64.size)
    {serial : Nat} (given : serial < n.nextSerial) :
    (n.without serial).subscribers = n.subscribers.filter (·.1 != serial) := by
  refine List.filter_congr fun entry member => Bool.eq_iff_iff.mpr ?_
  have below := Nat.lt_of_lt_of_le (numbered.below entry member) few
  simp only [bne_iff_ne, ne_eq, idOf_inj below (Nat.lt_of_lt_of_le given few)]

theorem Numbered.without (numbered : n.Numbered) {serial : Nat} (given : serial < n.nextSerial) :
    n.Becomes [] (n.without serial) where
  subscribers := (List.append_nil n.subscribers).symm ▸ List.filter_sublist
  nextSerial := rfl
  current := rfl
  events := rfl
  numbered := by
    constructor
    · exact numbered.ascending.sublist (List.filter_sublist.map _)
    · exact fun entry member => numbered.below entry (List.mem_of_mem_filter member)
    · exact fun h member => numbered.given h (List.mem_of_mem_filter member)
    · intro few
      calc (n.handles.filter (·.serial != serial)).map (·.serial)
          = (n.handles.map (·.serial)).filter (· != serial) := by rw [List.filter_map]; rfl
        _ = (n.subscribers.map (·.1)).filter (· != serial) := by rw [numbered.held few]
        _ = (n.subscribers.filter (·.1 != serial)).map (·.1) := List.filter_map
        _ = (n.without serial).subscribers.map (·.1) := by
          rw [numbered.subscribers_without few given]

theorem Numbered.drop? (numbered : n.Numbered) {serial : Nat} (given : serial < n.nextSerial)
    (dropped : n.drop? inUse serial = some n') : n.Becomes [] n' :=
  Option.some.inj (Option.ite_none_left_eq_some.mp dropped).2 ▸ numbered.without given

theorem Numbered.given_of_isAtHand (numbered : n.Numbered) {holder : Option Nat} {serial : Nat}
    (there : n.isAtHand holder serial = true) : serial < n.nextSerial := by
  obtain ⟨h, member, both⟩ := List.any_eq_true.mp there
  rw [← beq_iff_eq.mp (Bool.and_eq_true_iff.mp both).1]
  exact numbered.given h member

/-! ## The run of a publication -/

/-- What a publication comes to while some registrations are made and some calls are seen. -/
structure Follows (p : Publication) (made : List (Nat × Callback)) (seen : List Call)
    (p' : Publication) : Prop where
  becomes : p.notifier.Becomes made p'.notifier
  calls : p'.calls = p.calls ++ seen

theorem Follows.trans (first : Follows p made seen p') (second : Follows p' made' seen' p'') :
    Follows p (made ++ made') (seen ++ seen') p'' :=
  ⟨first.becomes.trans second.becomes, by
    rw [second.calls, first.calls, List.append_assoc]⟩

theorem Numbered.follows_refl (numbered : p.notifier.Numbered) : Follows p [] [] p :=
  ⟨numbered.refl, (List.append_nil p.calls).symm⟩

theorem Numbered.follows_drop? (numbered : p.notifier.Numbered) {serial : Nat}
    (given : serial < p.notifier.nextSerial) (dropped : p.drop? inUse serial = some p') :
    Follows p [] [] p' := by
  obtain ⟨n', ended, rfl⟩ := Option.map_eq_some_iff.mp dropped
  exact ⟨numbered.drop? given ended, (List.append_nil p.calls).symm⟩

theorem Numbered.react? (numbered : p.notifier.Numbered)
    (current : p.notifier.current = some status)
    {serial : Nat} {label : String} {r : Reaction}
    (reacted : react? serial label inUse p r = some p') :
    Follows p (Reaction.made p.notifier.nextSerial [r])
      ([r].filterMap (Reaction.sight? label status)) p' := by
  cases r with
  | unsubscribe target =>
    simp only [Notifier.react?] at reacted
    split at reacted
    -- Only a handle that there is can be dropped, so its number was given out.
    case isTrue there => exact numbered.follows_drop? (numbered.given_of_isAtHand there) reacted
    case isFalse =>
      obtain rfl := Option.some.inj reacted
      exact numbered.follows_refl
  | subscribe label reactions panics owns keeps =>
    obtain rfl := Option.some.inj reacted
    exact ⟨numbered.subscribe .., (List.append_nil p.calls).symm⟩
  | readCurrent =>
    obtain rfl := Option.some.inj reacted
    refine ⟨numbered.refl, ?_⟩
    rw [current]
    rfl

theorem Numbered.reactAll? (numbered : p.notifier.Numbered)
    (current : p.notifier.current = some status) {serial : Nat} {label : String}
    {reactions : List Reaction}
    (run : reactions.foldlM (Notifier.react? serial label inUse) p = some p') :
    Follows p (Reaction.made p.notifier.nextSerial reactions)
      (reactions.filterMap (Reaction.sight? label status)) p' := by
  induction reactions generalizing p with
  | nil =>
    obtain rfl := Option.some.inj run
    exact numbered.follows_refl
  | cons r rest ih =>
    rw [List.foldlM_cons] at run
    obtain ⟨q, reacted, run⟩ := Option.bind_eq_some_iff.mp run
    have first := numbered.react? current reacted
    -- The other reactions register from the number on at which the first one left off.
    have second := ih first.becomes.numbered (first.becomes.current.trans current) run
    rw [first.becomes.nextSerial] at second
    have seen : (r :: rest).filterMap (Reaction.sight? label status) =
        [r].filterMap (Reaction.sight? label status) ++
          rest.filterMap (Reaction.sight? label status) := List.filterMap_append (l := [r])
    rw [Reaction.made_cons, seen]
    exact first.trans second

theorem Numbered.follows_dropAll? (numbered : p.notifier.Numbered) {handles : List Handle}
    (given : ∀ h ∈ handles, h.serial < p.notifier.nextSerial)
    (run : handles.foldlM (fun p h => p.drop? inUse h.serial) p = some p') :
    Follows p [] [] p' := by
  induction handles generalizing p with
  | nil =>
    obtain rfl := Option.some.inj run
    exact numbered.follows_refl
  | cons h rest ih =>
    rw [List.foldlM_cons] at run
    obtain ⟨q, dropped, run⟩ := Option.bind_eq_some_iff.mp run
    have first := numbered.follows_drop? (given h List.mem_cons_self) dropped
    refine first.trans (ih first.becomes.numbered (fun h member => ?_) run)
    rw [first.becomes.nextSerial]
    exact given h (List.mem_cons_of_mem _ member)

theorem Numbered.release? (numbered : p.notifier.Numbered) {serial : Nat}
    (released : Notifier.release? inUse p serial = some p') : Follows p [] [] p' := by
  unfold Notifier.release? at released
  split at released
  · obtain rfl := Option.some.inj released
    exact numbered.follows_refl
  · exact numbered.follows_dropAll?
      (fun h member => numbered.given h (List.mem_of_mem_filter member)) released

/-- What a callback is seen to do when it is told a status. -/
def account (status : Status) (callback : Callback) : List Call :=
  .told callback.label status ::
    callback.reactions.filterMap (Reaction.sight? callback.label status)

/-- A callback that is told reacts and is let go of. A panic is a line in the log and nothing
else. -/
theorem tell?_eq_some {entry : Nat × Callback}
    (told : Notifier.tell? status later p entry = some p') :
    ∃ q lines,
      entry.2.reactions.foldlM (Notifier.react? entry.1 entry.2.label (entry.1 :: later))
        { p with calls := p.calls ++ [.told entry.2.label status] } = some q ∧
      Notifier.release? later { q with log := lines } entry.1 = some p' := by
  obtain ⟨serial, callback⟩ := entry
  obtain ⟨q, run, released⟩ := Option.bind_eq_some_iff.mp told
  dsimp only at released
  split at released
  · exact ⟨q, _, run, released⟩
  · exact ⟨q, q.log, run, released⟩

theorem Numbered.tell? (numbered : p.notifier.Numbered) (current : p.notifier.current = some status)
    {entry : Nat × Callback} (told : Notifier.tell? status later p entry = some p') :
    Follows p (Reaction.made p.notifier.nextSerial entry.2.reactions) (account status entry.2)
      p' := by
  obtain ⟨q, lines, run, released⟩ := tell?_eq_some told
  have ran := numbered.reactAll?
    (p := { p with calls := p.calls ++ [.told entry.2.label status] }) current run
  have last := Numbered.release? (p := { q with log := lines }) ran.becomes.numbered released
  have both := ran.becomes.trans last.becomes
  rw [List.append_nil] at both
  have calls : q.calls = p.calls ++ account status entry.2 :=
    ran.calls.trans (List.append_assoc ..)
  exact ⟨both, last.calls.trans (by rw [List.append_nil, calls])⟩

/-- The reactions of some callbacks, one after the other. -/
def reactionsOf (entries : List (Nat × Callback)) : List Reaction :=
  entries.flatMap (·.2.reactions)

theorem reactionsOf_cons (entry : Nat × Callback) (rest : List (Nat × Callback)) :
    reactionsOf (entry :: rest) = entry.2.reactions ++ reactionsOf rest := List.flatMap_cons

theorem Numbered.tellAll? (numbered : p.notifier.Numbered)
    (current : p.notifier.current = some status) {entries : List (Nat × Callback)}
    (run : Notifier.tellAll? status later entries p = some p') :
    Follows p (Reaction.made p.notifier.nextSerial (reactionsOf entries))
      (entries.flatMap (account status ·.2)) p' := by
  induction entries generalizing p with
  | nil =>
    obtain rfl := Option.some.inj run
    exact numbered.follows_refl
  | cons entry rest ih =>
    obtain ⟨q, told, run⟩ := Option.bind_eq_some_iff.mp run
    have first := numbered.tell? current told
    have second := ih first.becomes.numbered (first.becomes.current.trans current) run
    rw [first.becomes.nextSerial] at second
    rw [reactionsOf_cons, Reaction.made_append, List.flatMap_cons]
    exact first.trans second

/-- A run over some callbacks is one over the first of them and then one over the others. -/
theorem tellAll?_append (first rest : List (Nat × Callback)) (p : Publication) :
    tellAll? status later (first ++ rest) p =
      (tellAll? status (rest.map (·.1) ++ later) first p).bind (tellAll? status later rest) := by
  induction first generalizing p with
  | nil => rfl
  | cons entry first ih =>
    simp only [List.cons_append, tellAll?, List.map_append, List.append_assoc, Option.bind_assoc]
    exact congrArg _ (funext ih)

/-! ## The history of a notifier -/

/-- The callback of a registration comes to do something else when it is told a status. -/
def alter (n : Notifier) (serial : Nat) (reactions : List Reaction) (panics : Bool) : Notifier :=
  { n with subscribers := n.subscribers.map fun (other, callback) =>
      (other, if other = serial then ⟨callback.label, reactions, panics⟩ else callback) }

/-- A handle changes hands: a callback that is registered comes to own it, or it is kept outside. -/
def hand (n : Notifier) (serial : Nat) (owner : Option Nat) : Notifier :=
  { n with handles := n.handles.map fun h =>
      if h.serial = serial ∧ owner.all n.isSubscribed = true then { h with owner := owner } else h }

/-- What happens to a notifier. -/
inductive Change where
  | subscribe (callback : Callback) (owns : List Nat)
  | unsubscribe (serial : Nat)
  | alter (serial : Nat) (reactions : List Reaction) (panics : Bool)
  | hand (serial : Nat) (owner : Option Nat)
  | publish (status : Status) (now : Instant)
  | emit (e : Event)
  /-- One more receiver of events. -/
  | listen
  /-- One receiver of events less. -/
  | leave

/-- One change, unless it waits forever. -/
def change? (n : Notifier) : Change → Option Notifier
  | .subscribe callback owns => some (n.subscribe none callback owns false).1
  | .unsubscribe serial => n.unsubscribe? serial
  | .alter serial reactions panics => some (n.alter serial reactions panics)
  | .hand serial owner => some (n.hand serial owner)
  | .publish status now => (n.publish? status now).map (·.notifier)
  | .emit e => some (n.emit e)
  | .listen => some { n with events := n.events.subscribe.1 }
  | .leave => some { n with events := n.events.unsubscribe }

def after? (n : Notifier) (changes : List Change) : Option Notifier := changes.foldlM change? n

/-- The registrations by number and label. -/
def labelled (n : Notifier) : List (UInt64 × String) :=
  n.subscribers.map fun entry => (idOf entry.1, entry.2.label)

/-- What a later state of a notifier has in common with an earlier one: a registration that was made
by then was there then, with the same callback. -/
structure Continues (n n' : Notifier) : Prop where
  numbered : n'.Numbered
  nextSerial_le : n.nextSerial ≤ n'.nextSerial
  kept : ∀ entry ∈ n'.subscribers, entry.1 < n.nextSerial →
    ∃ old ∈ n.subscribers, old.1 = entry.1 ∧ old.2.label = entry.2.label

theorem Continues.trans (first : n.Continues n') (second : n'.Continues n'') : n.Continues n'' where
  numbered := second.numbered
  nextSerial_le := Nat.le_trans first.nextSerial_le second.nextSerial_le
  kept entry member early := by
    obtain ⟨mid, there, number, label⟩ :=
      second.kept entry member (Nat.lt_of_lt_of_le early first.nextSerial_le)
    obtain ⟨old, present, number', label'⟩ := first.kept mid there (number ▸ early)
    exact ⟨old, present, number'.trans number, label'.trans label⟩

/-- While the numbers last, a number that was given out belongs to the callback that it was given
to, if to any. -/
theorem Continues.labelled (continues : n.Continues n') (few : n'.nextSerial ≤ UInt64.size)
    {x : UInt64 × String} (member : x ∈ n'.labelled) (early : x.1.toNat < n.nextSerial) :
    x ∈ n.labelled := by
  obtain ⟨entry, there, rfl⟩ := List.mem_map.mp member
  have below := Nat.lt_of_lt_of_le (continues.numbered.below entry there) few
  obtain ⟨old, present, number, label⟩ := continues.kept entry there (idOf_toNat below ▸ early)
  exact List.mem_map.mpr ⟨old, present, by rw [number, label]⟩

/-- Who is registered anew has a new number. -/
theorem Becomes.continues (reactions : List Reaction)
    (becomes : n.Becomes (Reaction.made n.nextSerial reactions) n') : n.Continues n' where
  numbered := becomes.numbered
  nextSerial_le := Nat.le.intro becomes.nextSerial.symm
  kept entry member early := by
    rcases List.mem_append.mp (becomes.subscribers.subset member) with old | new
    · exact ⟨entry, old, rfl, rfl⟩
    · exact absurd early (Nat.not_lt.mpr (Reaction.mem_made new).1)

theorem Numbered.publish? (numbered : n.Numbered) {now : Instant}
    (published : n.publish? status now = some p) :
    Follows (n.begun status) (Reaction.made n.nextSerial (reactionsOf n.subscribers))
      (n.subscribers.flatMap (account status ·.2))
      { p with notifier := { p.notifier with events := n.events } } ∧
    p.notifier.events = n.events.send (.statusChanged status now) := by
  obtain ⟨q, run, rfl⟩ := Option.map_eq_some_iff.mp published
  have begins : (n.begun status).notifier.Numbered := numbered.of_eq rfl rfl rfl
  obtain ⟨becomes, calls⟩ := begins.tellAll? rfl run
  refine ⟨⟨⟨becomes.subscribers, becomes.nextSerial, becomes.current, rfl,
    becomes.numbered.of_eq rfl rfl rfl⟩, calls⟩, ?_⟩
  exact congrArg (Channel.send · _) becomes.events

/-- A change that leaves the registrations and their handles alone. -/
theorem Numbered.continues (numbered : n.Numbered) (subscribers : n'.subscribers = n.subscribers)
    (handles : n'.handles.map (·.serial) = n.handles.map (·.serial))
    (nextSerial : n'.nextSerial = n.nextSerial) : n.Continues n' where
  numbered := numbered.of_eq (subscribers ▸ rfl) handles nextSerial
  nextSerial_le := Nat.le_of_eq nextSerial.symm
  kept entry member _ := ⟨entry, subscribers ▸ member, rfl, rfl⟩

theorem Numbered.alter (numbered : n.Numbered) (serial : Nat) (reactions : List Reaction)
    (panics : Bool) : n.Continues (n.alter serial reactions panics) where
  numbered := by
    refine numbered.of_eq ?_ rfl rfl
    simp only [Notifier.alter, List.map_map]
    rfl
  nextSerial_le := Nat.le_refl n.nextSerial
  kept entry member _ := by
    obtain ⟨old, present, rfl⟩ := List.mem_map.mp member
    refine ⟨old, present, rfl, ?_⟩
    dsimp only
    split <;> rfl

theorem Numbered.hand (numbered : n.Numbered) (serial : Nat) (owner : Option Nat) :
    n.Continues (n.hand serial owner) := by
  refine numbered.continues rfl ?_ rfl
  simp only [Notifier.hand, List.map_map]
  refine List.map_congr_left fun h _ => ?_
  simp only [Function.comp_apply]
  split <;> rfl

theorem Numbered.change? (numbered : n.Numbered) {c : Change} (changed : n.change? c = some n') :
    n.Continues n' := by
  cases c with
  | subscribe callback owns =>
    -- Registering from outside is like a reaction that registers.
    obtain rfl := Option.some.inj changed
    exact Becomes.continues
      [.subscribe callback.label callback.reactions callback.panics owns false]
      (numbered.subscribe none callback owns false)
  | unsubscribe serial =>
    simp only [Notifier.change?, unsubscribe?] at changed
    split at changed
    case isTrue there =>
      exact Becomes.continues [] (numbered.drop? (numbered.given_of_isAtHand there) changed)
    case isFalse =>
      obtain rfl := Option.some.inj changed
      exact numbered.continues rfl rfl rfl
  | alter serial reactions panics =>
    obtain rfl := Option.some.inj changed
    exact numbered.alter serial reactions panics
  | hand serial owner =>
    obtain rfl := Option.some.inj changed
    exact numbered.hand serial owner
  | publish status now =>
    obtain ⟨p, published, rfl⟩ := Option.map_eq_some_iff.mp changed
    have continues := Becomes.continues _ (numbered.publish? published).1.becomes
    exact ⟨continues.numbered.of_eq rfl rfl rfl, continues.nextSerial_le, continues.kept⟩
  | emit | listen | leave =>
    obtain rfl := Option.some.inj changed
    exact numbered.continues rfl rfl rfl

theorem Numbered.after? (numbered : n.Numbered) {changes : List Change}
    (run : n.after? changes = some n') : n.Continues n' := by
  induction changes generalizing n with
  | nil =>
    obtain rfl := Option.some.inj run
    exact numbered.continues rfl rfl rfl
  | cons c rest ih =>
    rw [Notifier.after?, List.foldlM_cons] at run
    obtain ⟨mid, changed, run⟩ := Option.bind_eq_some_iff.mp run
    have first := numbered.change? changed
    exact first.trans (ih first.numbered run)

/-! ## Publications that return -/

/-- Whether the handle of a registration was not dropped yet. -/
def isHeld (n : Notifier) (serial : Nat) : Bool := n.handles.any (·.serial == serial)

/-- What a publication is to the callbacks and to those who receive events. -/
structure Publishes (n : Notifier) (status : Status) (now : Instant) (p : Publication) : Prop where
  /-- Those who were registered when it began are called, each once, in the order of registration.
  Who looks sees the new status. -/
  calls : p.calls = n.subscribers.flatMap (account status ·.2)
  /-- However many of them were called, no event was broadcast yet. -/
  pending : ∀ told rest, n.subscribers = told ++ rest →
    ∃ q, tellAll? status (rest.map (·.1)) told (n.begun status) = some q ∧
      q.calls = told.flatMap (account status ·.2) ∧ q.notifier.current = some status ∧
      q.notifier.events = n.events
  /-- Then one is. -/
  event : p.notifier.events = n.events.send (.statusChanged status now)
  current : p.notifier.current = some status
  /-- The old registrations are left and then those that were made, without those whose handles were
  dropped. -/
  subscribers : p.notifier.subscribers =
    (n.subscribers ++ Reaction.made n.nextSerial (reactionsOf n.subscribers)).filter
      (p.notifier.isHeld ·.1)
  ascending : (p.notifier.subscribers.map (idOf ·.1)).Pairwise (· < ·)
  /-- No number that was given out before is among those of the new ones. -/
  fresh : ∀ entry ∈ Reaction.made n.nextSerial (reactionsOf n.subscribers),
    n.nextSerial ≤ (idOf entry.1).toNat

/-- A list without repeated keys is cut down to the keys of a part of it. -/
theorem eq_filter_of_sublist {α : Type} {part whole : List (Nat × α)} (sub : part.Sublist whole)
    (nodup : (whole.map (·.1)).Nodup) : part = whole.filter (·.1 ∈ part.map (·.1)) := by
  induction sub with
  | slnil => rfl
  | @cons part whole entry sub ih =>
    -- An entry that is left out has a key of its own, so the filter leaves it out too.
    obtain ⟨fresh, nodup⟩ := List.nodup_cons.mp nodup
    have other : entry.1 ∉ part.map (·.1) := fun there => fresh ((sub.map _).subset there)
    rw [List.filter_cons_of_neg (by simpa only [decide_eq_true_iff] using other)]
    exact ih nodup
  | @cons_cons part whole entry sub ih =>
    obtain ⟨fresh, nodup⟩ := List.nodup_cons.mp nodup
    have rest : part = whole.filter (·.1 ∈ (entry :: part).map (·.1)) := by
      refine (ih nodup).trans (List.filter_congr fun other member => ?_)
      have apart : other.1 ≠ entry.1 :=
        fun same => fresh (List.mem_map.mpr ⟨other, member, same⟩)
      rw [List.map_cons, decide_eq_decide, List.mem_cons, or_iff_right apart]
    refine (congrArg (entry :: ·) rest).trans (List.filter_cons_of_pos ?_).symm
    exact decide_eq_true List.mem_cons_self

theorem Numbered.nodup_made (numbered : n.Numbered) (reactions : List Reaction) :
    ((n.subscribers ++ Reaction.made n.nextSerial reactions).map (·.1)).Nodup := by
  rw [List.map_append, List.nodup_append]
  refine ⟨numbered.ascending.imp Nat.ne_of_lt, ?_, ?_⟩
  · rw [Reaction.map_fst_made]
    exact List.nodup_range'
  · rintro serial old _ new rfl
    obtain ⟨entry, member, rfl⟩ := List.mem_map.mp old
    obtain ⟨entry', member', same⟩ := List.mem_map.mp new
    exact absurd (numbered.below entry member)
      (Nat.not_lt.mpr (same ▸ (Reaction.mem_made member').1))

/-- While the numbers last, those are left whose handles are. -/
theorem Numbered.subscribers_eq (numbered : n.Numbered) (reactions : List Reaction)
    (becomes : n.Becomes (Reaction.made n.nextSerial reactions) n')
    (few : n'.nextSerial ≤ UInt64.size) :
    n'.subscribers =
      (n.subscribers ++ Reaction.made n.nextSerial reactions).filter (n'.isHeld ·.1) := by
  -- What is left is a part of a list without repeated numbers, so its numbers determine it.
  refine (eq_filter_of_sublist becomes.subscribers (numbered.nodup_made reactions)).trans ?_
  refine List.filter_congr fun entry _ => ?_
  rw [← becomes.numbered.held few, Bool.eq_iff_iff, decide_eq_true_iff]
  simp only [isHeld, List.any_eq_true, List.mem_map, beq_iff_eq]

theorem Numbered.ascending_ids (numbered : n.Numbered) (few : n.nextSerial ≤ UInt64.size) :
    (n.subscribers.map (idOf ·.1)).Pairwise (· < ·) := by
  have serials := List.pairwise_map.mp numbered.ascending
  refine List.pairwise_map.mpr (serials.imp_of_mem fun {a b} first second less => ?_)
  have below {entry : Nat × Callback} (member : entry ∈ n.subscribers) : entry.1 < UInt64.size :=
    Nat.lt_of_lt_of_le (numbered.below entry member) few
  rw [UInt64.lt_iff_toNat_lt, idOf_toNat (below first), idOf_toNat (below second)]
  exact less

theorem Numbered.publishes (numbered : n.Numbered) {now : Instant}
    (published : n.publish? status now = some p) (few : p.notifier.nextSerial ≤ UInt64.size) :
    n.Publishes status now p := by
  obtain ⟨follows, event⟩ := numbered.publish? published
  have begins : (n.begun status).notifier.Numbered := numbered.of_eq rfl rfl rfl
  have ends : p.notifier.Numbered := follows.becomes.numbered.of_eq rfl rfl rfl
  have subscribers := begins.subscribers_eq _ follows.becomes few
  exact {
    calls := follows.calls
    pending := by
      intro told rest whole
      -- The run over all callbacks passes through the state after the first of them.
      obtain ⟨last, run, -⟩ := Option.map_eq_some_iff.mp published
      rw [whole, tellAll?_append, List.append_nil] at run
      obtain ⟨q, first, -⟩ := Option.bind_eq_some_iff.mp run
      have along := begins.tellAll? rfl first
      exact ⟨q, first, along.calls, along.becomes.current, along.becomes.events⟩
    event := event
    current := follows.becomes.current
    subscribers := subscribers
    ascending := ends.ascending_ids few
    fresh := by
      intro entry member
      obtain ⟨least, below⟩ := Reaction.mem_made member
      have last : entry.1 < p.notifier.nextSerial :=
        Nat.lt_of_lt_of_eq below follows.becomes.nextSerial.symm
      rw [idOf_toNat (Nat.lt_of_lt_of_le last few)]
      exact least }

/-! ## Publications where no callback owns a handle -/

/-- The registrations and the number of the next one. -/
def registrations (n : Notifier) : List (Nat × Callback) × Nat := (n.subscribers, n.nextSerial)

/-- What a reaction does to the registrations where all handles are kept outside. -/
def altered (registrations : List (Nat × Callback) × Nat) :
    Reaction → List (Nat × Callback) × Nat
  | .unsubscribe serial => (registrations.1.filter (·.1 != serial), registrations.2)
  | .subscribe label reactions panics _ _ =>
    (registrations.1 ++ [(registrations.2, ⟨label, reactions, panics⟩)], registrations.2 + 1)
  | .readCurrent => registrations

/-- The registrations after some reactions. A number that is dropped before it is given out is
dropped for nothing, which is why the numbers matter. -/
theorem foldl_altered (subscribers : List (Nat × Callback)) (next : Nat)
    (reactions : List Reaction) :
    (reactions.foldl altered (subscribers, next)).1 =
      subscribers.filter (·.1 ∉ Reaction.dropped reactions) ++
        Reaction.registered next reactions := by
  induction reactions generalizing subscribers next with
  | nil => simp [Reaction.dropped, Reaction.registered]
  | cons reaction rest ih =>
    cases reaction with
    | readCurrent => exact ih subscribers next
    | unsubscribe serial =>
      simp only [List.foldl_cons, altered, ih, List.filter_filter]
      congr 1
      refine List.filter_congr fun entry _ => ?_
      rw [Reaction.dropped_unsubscribe, Bool.eq_iff_iff]
      simp only [List.mem_cons, not_or, Bool.and_eq_true, decide_eq_true_iff, bne_iff_ne]
      exact and_comm
    | subscribe label reactions panics owns keeps =>
      -- The new registration ends the list, and it is what the filter leaves of a list of one.
      simp only [List.foldl_cons, altered, ih, List.filter_append, List.append_assoc,
        Reaction.registered]
      congr 2
      by_cases dropped : next ∈ Reaction.dropped rest <;> simp [dropped]

/-- A registration that nobody has a handle of is none. -/
theorem Unowned.subscribers_of_not_isAtHand (unowned : n.Unowned) (numbered : n.Numbered)
    (few : n.nextSerial ≤ UInt64.size) {holder : Option Nat} {serial : Nat}
    (absent : ¬ n.isAtHand holder serial = true) :
    n.subscribers.filter (·.1 != serial) = n.subscribers := by
  refine List.filter_eq_self.mpr fun entry member => bne_iff_ne.mpr ?_
  rintro rfl
  have number : entry.1 ∈ n.handles.map (·.serial) :=
    numbered.held few ▸ List.mem_map_of_mem member
  obtain ⟨h, there, same⟩ := List.mem_map.mp number
  refine absent (List.any_eq_true.mpr ⟨h, there, ?_⟩)
  rw [Handle.isAt, unowned.handles h there, same]
  simp only [beq_self_eq_true, Option.isNone_none, Bool.true_or, Bool.and_self]

theorem Unowned.registrations_react? (unowned : p.notifier.Unowned)
    (numbered : p.notifier.Numbered) (few : p.notifier.nextSerial ≤ UInt64.size) {serial : Nat}
    {label : String} {r : Reaction} (reacted : Notifier.react? serial label inUse p r = some p') :
    p'.notifier.registrations = altered p.notifier.registrations r := by
  cases r with
  | unsubscribe target =>
    simp only [Notifier.react?] at reacted
    split at reacted
    case isTrue there =>
      obtain ⟨n', dropped, rfl⟩ := Option.map_eq_some_iff.mp reacted
      obtain rfl := Option.some.inj (Option.ite_none_left_eq_some.mp dropped).2
      exact congrArg (·, p.notifier.nextSerial)
        (numbered.subscribers_without few (numbered.given_of_isAtHand there))
    case isFalse absent =>
      obtain rfl := Option.some.inj reacted
      exact congrArg (·, p.notifier.nextSerial)
        (unowned.subscribers_of_not_isAtHand numbered few absent).symm
  | subscribe label reactions panics owns keeps =>
    obtain rfl := Option.some.inj reacted
    rfl
  | readCurrent =>
    obtain rfl := Option.some.inj reacted
    rfl

theorem Unowned.registrations_reactAll? (unowned : p.notifier.Unowned)
    (numbered : p.notifier.Numbered) (current : p.notifier.current = some status)
    {serial : Nat} {label : String} {reactions : List Reaction}
    (free : ∀ r ∈ reactions, r.Unowned)
    (run : reactions.foldlM (Notifier.react? serial label inUse) p = some p')
    (few : p'.notifier.nextSerial ≤ UInt64.size) :
    p'.notifier.registrations = reactions.foldl altered p.notifier.registrations := by
  induction reactions generalizing p with
  | nil =>
    obtain rfl := Option.some.inj run
    rfl
  | cons r rest ih =>
    rw [List.foldlM_cons] at run
    obtain ⟨q, reacted, run⟩ := Option.bind_eq_some_iff.mp run
    obtain ⟨q', reacted', unowned'⟩ := unowned.react? inUse serial label (free r List.mem_cons_self)
    obtain rfl := Option.some.inj (reacted.symm.trans reacted')
    have first := (numbered.react? current reacted).becomes
    have second := (first.numbered.reactAll? (first.current.trans current) run).becomes
    -- The next number only grows, so the numbers last from the beginning if they do at the end.
    have few' : p.notifier.nextSerial ≤ UInt64.size :=
      Nat.le_trans (Nat.le_trans (Nat.le.intro first.nextSerial.symm)
        (Nat.le.intro second.nextSerial.symm)) few
    rw [ih unowned' first.numbered (first.current.trans current)
      (fun r member => free r (List.mem_cons_of_mem _ member)) run,
      unowned.registrations_react? numbered few' reacted, List.foldl_cons]

theorem Unowned.registrations_tell? (unowned : p.notifier.Unowned)
    (numbered : p.notifier.Numbered) (current : p.notifier.current = some status)
    {entry : Nat × Callback} (free : entry.2.Unowned)
    (told : Notifier.tell? status later p entry = some p')
    (few : p'.notifier.nextSerial ≤ UInt64.size) :
    p'.notifier.registrations = entry.2.reactions.foldl altered p.notifier.registrations := by
  obtain ⟨q, lines, run, released⟩ := tell?_eq_some told
  let begun : Publication := { p with calls := p.calls ++ [.told entry.2.label status] }
  obtain ⟨q', run', unowned'⟩ :=
    Unowned.reactAll? (p := begun) unowned (entry.1 :: later) entry.1 entry.2.label free
  obtain rfl := Option.some.inj (run.symm.trans run')
  -- Nobody is destroyed with a handle, so what the reactions left is left.
  rw [Unowned.release? (p := { q with log := lines }) unowned'] at released
  obtain rfl := Option.some.inj released
  have reacted :=
    Unowned.registrations_reactAll? (p := begun) unowned numbered current free run few
  exact reacted

theorem Unowned.registrations_tellAll? (unowned : p.notifier.Unowned)
    (numbered : p.notifier.Numbered) (current : p.notifier.current = some status)
    {entries : List (Nat × Callback)} (free : ∀ entry ∈ entries, entry.2.Unowned)
    (run : Notifier.tellAll? status later entries p = some p')
    (few : p'.notifier.nextSerial ≤ UInt64.size) :
    p'.notifier.registrations = (reactionsOf entries).foldl altered p.notifier.registrations := by
  induction entries generalizing p with
  | nil =>
    obtain rfl := Option.some.inj run
    rfl
  | cons entry rest ih =>
    obtain ⟨q, told, run⟩ := Option.bind_eq_some_iff.mp run
    obtain ⟨q', told', unowned'⟩ :=
      unowned.tell? status (rest.map (·.1) ++ later) (free entry List.mem_cons_self)
    obtain rfl := Option.some.inj (told.symm.trans told')
    have first := (numbered.tell? current told).becomes
    have second := (first.numbered.tellAll? (first.current.trans current) run).becomes
    have few' : q.notifier.nextSerial ≤ UInt64.size :=
      Nat.le_trans (Nat.le.intro second.nextSerial.symm) few
    rw [ih unowned' first.numbered (first.current.trans current)
      (fun entry member => free entry (List.mem_cons_of_mem _ member)) run,
      unowned.registrations_tell? numbered current (free entry List.mem_cons_self) told few',
      reactionsOf_cons, List.foldl_append]

/-- What a publication does where no callback owns a handle: the old registrations that were not
dropped are left, and then those that were made and not dropped again. -/
theorem Unowned.subscribers_publish? (unowned : n.Unowned) (numbered : n.Numbered) {now : Instant}
    (published : n.publish? status now = some p) (few : p.notifier.nextSerial ≤ UInt64.size) :
    p.notifier.subscribers =
      n.subscribers.filter (·.1 ∉ Reaction.dropped (reactionsOf n.subscribers)) ++
        Reaction.registered n.nextSerial (reactionsOf n.subscribers) := by
  obtain ⟨q, run, rfl⟩ := Option.map_eq_some_iff.mp published
  have begins : (n.begun status).notifier.Unowned := ⟨unowned.handles, unowned.callbacks⟩
  have numbered : (n.begun status).notifier.Numbered := numbered.of_eq rfl rfl rfl
  have registrations := begins.registrations_tellAll? numbered rfl unowned.callbacks run few
  exact (congrArg Prod.fst registrations).trans (foldl_altered ..)

/-- A change by which no callback comes to own a handle. -/
def Change.Unowned : Change → Prop
  | .subscribe callback owns => callback.Unowned ∧ owns = []
  | .alter _ reactions _ => ∀ r ∈ reactions, r.Unowned
  | .hand _ owner => owner = none
  | .unsubscribe _ | .publish .. | .emit _ | .listen | .leave => True

theorem Unowned.alter (unowned : n.Unowned) (serial : Nat) {reactions : List Reaction}
    (free : ∀ r ∈ reactions, r.Unowned) (panics : Bool) :
    (n.alter serial reactions panics).Unowned where
  handles := unowned.handles
  callbacks entry member := by
    obtain ⟨old, present, rfl⟩ := List.mem_map.mp member
    dsimp only
    split
    · exact free
    · exact unowned.callbacks old present

theorem Unowned.hand (unowned : n.Unowned) (serial : Nat) : (n.hand serial none).Unowned where
  handles h member := by
    obtain ⟨old, present, rfl⟩ := List.mem_map.mp member
    split
    · rfl
    · exact unowned.handles old present
  callbacks := unowned.callbacks

theorem Unowned.change? (unowned : n.Unowned) {c : Change} (free : c.Unowned) :
    ∃ n', n.change? c = some n' ∧ n'.Unowned := by
  cases c with
  | subscribe callback owns =>
    obtain ⟨free, rfl⟩ := free
    exact ⟨_, rfl, unowned.subscribe none free⟩
  | unsubscribe serial => exact unowned.unsubscribe? serial
  | alter serial reactions panics => exact ⟨_, rfl, unowned.alter serial free panics⟩
  | hand serial owner =>
    obtain rfl := free
    exact ⟨_, rfl, unowned.hand serial⟩
  | publish status now =>
    obtain ⟨p, published, unowned'⟩ := unowned.publish? status now
    exact ⟨p.notifier, by rw [Notifier.change?, published]; rfl, unowned'⟩
  | emit | listen | leave => exact ⟨_, rfl, unowned.withEvents _⟩

theorem Unowned.after? (unowned : n.Unowned) {changes : List Change}
    (free : ∀ c ∈ changes, c.Unowned) : ∃ n', n.after? changes = some n' ∧ n'.Unowned :=
  exists_foldlM_eq_some (fun _ unowned c member => unowned.change? (free c member)) unowned

end Notifier

/-- At every moment in the history of a notifier, whatever the callbacks do and own by then: a
publication that returns calls those who are registered, once and in order, and broadcasts its event
behind them; what they did to the registrations is there for the next publication. However the
history goes on, a number that was given out belongs to the callback that it was given to, or to
none. Where no callback ever owns a handle, every history comes to its end, and every publication
does. -/
theorem publication_calls_registered {capacity : Nat} {start : Notifier}
    (made : Notifier.ofCapacity? capacity = some start) (changes : List Notifier.Change)
    (status : Status) (now : Instant) :
    (∀ n p, start.after? changes = some n → n.publish? status now = some p →
      p.notifier.nextSerial ≤ UInt64.size →
        n.Publishes status now p ∧
        (∀ next later q, p.notifier.publish? next later = some q →
          q.calls = p.notifier.subscribers.flatMap (Notifier.account next ·.2)) ∧
        ∀ more n', n.after? more = some n' → n'.nextSerial ≤ UInt64.size →
          ∀ x ∈ n'.labelled, x.1.toNat < n.nextSerial → x ∈ n.labelled) ∧
    ((∀ c ∈ changes, c.Unowned) →
      ∃ n p, start.after? changes = some n ∧ n.publish? status now = some p ∧
        (p.notifier.nextSerial ≤ UInt64.size → p.notifier.subscribers =
          n.subscribers.filter
              (·.1 ∉ Reaction.dropped (Notifier.reactionsOf n.subscribers)) ++
            Reaction.registered n.nextSerial (Notifier.reactionsOf n.subscribers))) := by
  obtain ⟨-, new⟩ := Option.ite_none_right_eq_some.mp made
  obtain rfl := Option.some.inj new
  have begins := Notifier.numbered_ofEvents (.ofCapacity capacity)
  constructor
  · -- All of it follows from the order of serial numbers, which every history keeps.
    intro n p reached published few
    have numbered := (begins.after? reached).numbered
    refine ⟨numbered.publishes published few, fun next later q published' => ?_, ?_⟩
    · have numbered' : p.notifier.Numbered :=
        (numbered.publish? published).1.becomes.numbered.of_eq rfl rfl rfl
      exact (numbered'.publish? published').1.calls
    · exact fun more n' run few' x member early =>
        (numbered.after? run).labelled few' member early
  · intro free
    obtain ⟨n, reached, unowned⟩ :=
      (Notifier.Unowned.ofEvents (.ofCapacity capacity)).after? free
    obtain ⟨p, published, -⟩ := unowned.publish? status now
    exact ⟨n, p, reached, published,
      unowned.subscribers_publish? (begins.after? reached).numbered published⟩

namespace Notifier

/-- The first of three callbacks drops itself and the second, registers another and panics; the
second one registers one more, and the third drops the first of the new ones. -/
def sampleChanges : List Change :=
  [.listen,
    .subscribe ⟨"first", [.readCurrent, .unsubscribe 1, .unsubscribe 2,
      .subscribe "fourth" [.unsubscribe 3] true [] false], true⟩ [],
    .subscribe ⟨"second", [.subscribe "fifth" [.readCurrent] false [] false], false⟩ [],
    .subscribe ⟨"third", [.unsubscribe 4, .readCurrent], false⟩ []]

/-- The first of two callbacks registers another and keeps the handle, and the second one drops the
first. -/
def tangledChanges : List Change :=
  [.subscribe ⟨"first", [.subscribe "third" [] false [] true], false⟩ [],
    .subscribe ⟨"second", [.unsubscribe 1], false⟩ []]

end Notifier

/-- The theorem at callbacks that drop, register and panic. -/
theorem panicking_callback_passed_over :
    let start := Notifier.ofEvents (.ofCapacity 16)
    Notifier.ofCapacity? 16 = some start ∧
    ∃ n p, start.after? Notifier.sampleChanges = some n ∧ n.publish? .online .epoch = some p ∧
      p.calls =
        [.told "first" .online, .sawCurrent "first" (some .online), .told "second" .online,
          .told "third" .online, .sawCurrent "third" (some .online)] ∧
      p.notifier.labelled = [(3, "third"), (5, "fifth")] ∧
      p.notifier.events = n.events.send (.statusChanged .online .epoch) ∧
      (∀ q, p.notifier.publish? .synced .epoch = some q → q.calls =
        [.told "third" .synced, .sawCurrent "third" (some .synced), .told "fifth" .synced,
          .sawCurrent "fifth" (some .synced)]) ∧
      ∀ more n', n.after? more = some n' → n'.nextSerial ≤ UInt64.size →
        ∀ x ∈ n'.labelled, x.1.toNat < 4 →
          x = (1, "first") ∨ x = (2, "second") ∨ x = (3, "third") := by
  intro start
  have made : Notifier.ofCapacity? 16 = some start := if_pos (by decide)
  obtain ⟨n, p, reached, published, few, four, labels, calls, left, calls'⟩ :
      ∃ n p, start.after? Notifier.sampleChanges = some n ∧ n.publish? .online .epoch = some p ∧
        p.notifier.nextSerial ≤ UInt64.size ∧ n.nextSerial = 4 ∧
        n.labelled = [(1, "first"), (2, "second"), (3, "third")] ∧
        n.subscribers.flatMap (Notifier.account .online ·.2) = _ ∧
        p.notifier.labelled = [(3, "third"), (5, "fifth")] ∧
        p.notifier.subscribers.flatMap (Notifier.account .synced ·.2) = _ :=
    ⟨_, _, rfl, rfl, by decide, rfl, rfl, rfl, rfl, rfl⟩
  obtain ⟨publishes, next, apart⟩ :=
    (publication_calls_registered made Notifier.sampleChanges .online .epoch).1 n p reached
      published few
  refine ⟨made, n, p, reached, published, publishes.calls.trans calls, left, publishes.event,
    fun q again => (next .synced .epoch q again).trans calls', ?_⟩
  intro more n' run few x member early
  have present := apart more n' run few x member (four ▸ early)
  simpa only [labels, List.mem_cons, List.not_mem_nil, or_false] using present

/-- A callback is destroyed under the lock, with a handle that has to wait for the lock, and so the
publication never returns. -/
theorem publication_waits_forever :
    ∃ start n, Notifier.ofCapacity? 16 = some start ∧
      start.after? Notifier.tangledChanges = some n ∧
      n.labelled = [(1, "first"), (2, "second")] ∧ n.publish? .online .epoch = none :=
  ⟨.ofEvents (.ofCapacity 16), _, if_pos (by decide), rfl, rfl, rfl⟩

end Outbox
