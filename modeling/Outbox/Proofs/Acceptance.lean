import Outbox.Engine.Lifecycle
import Outbox.Proofs.Launch
import Outbox.Proofs.Segments
import Outbox.Remote.Endpoint

/-!
# Accepted configurations

A configuration that passes its checks serves all who use it, with two exceptions. The check of the
remote address asks only whether it can be read, while an endpoint needs room for paths below it:
the address of a mailbox has none. And the check of the event buffer knows a least size and no
largest one. (That there is memory for a buffer is taken for granted.)

Whether an address has room can be told from its text: the scheme is one of the web or that of local
files, or a slash follows the colon after it. Any other address is kept in one piece from there on.

Nothing else is found wrong with a configuration later on. An engine that does not start blames the
store or the listener of the platform, and every error of these is of another class.
-/
namespace Outbox

open Time

/-! ## Addresses with room for paths -/

namespace Url

/-- Whether the text of an address leaves room for paths below it. -/
def hasRoom (text : String) : Bool :=
  match readScheme? (significant text) with
  | some (scheme, rest) => (SchemeKind.ofScheme scheme).isSpecial || rest.head? == some '/'
  | none => false

theorem parseAuthority_canBeBase {scheme cs : List Char} {kind : SchemeKind} {u : Url}
    (read : parseAuthority scheme kind cs = .ok u) : u.canBeBase = true := by
  unfold parseAuthority at read
  obtain ⟨⟨⟨username, password⟩, afterUser⟩, -, read⟩ := Except.bind_eq_ok read
  obtain ⟨⟨⟨host, port⟩, afterHost⟩, -, read⟩ := Except.bind_eq_ok read
  dsimp only at read
  split at read
  · cases read
  · cases read
    rfl

theorem parseFileHost_canBeBase {scheme cs : List Char} {u : Url}
    (read : parseFileHost scheme cs = .ok u) : u.canBeBase = true := by
  unfold parseFileHost at read
  dsimp only at read
  split at read
  · cases read
    rfl
  · split at read
    · cases read
      rfl
    · obtain ⟨host, -, read⟩ := Except.bind_eq_ok read
      split at read <;> cases read <;> rfl

theorem parseFile_canBeBase {scheme cs : List Char} {u : Url}
    (read : parseFile scheme cs = .ok u) : u.canBeBase = true := by
  unfold parseFile at read
  dsimp only at read
  split at read
  · split at read
    · exact parseFileHost_canBeBase read
    · cases read
      rfl
  · cases read
    rfl

/-- A percent-encoded text starts with a slash only if the text does. -/
theorem head?_encode {set : EncodeSet} {cs : List Char} (head : (encode set cs).head? = some '/') :
    cs.head? = some '/' := by
  cases cs with
  | nil => cases head
  | cons c rest =>
    rw [encode, List.flatMap_cons] at head
    unfold encodeChar at head
    split at head
    case isTrue => exact head
    case isFalse =>
      -- Every character has a first byte, which is written with a percent sign.
      cases bytes : utf8 c with
      | nil =>
        have size := String.length_utf8EncodeChar c
        rw [← utf8_eq, bytes] at size
        exact absurd size.symm (Nat.pos_iff_ne_zero.mp c.utf8Size_pos)
      | cons b more =>
        rw [bytes, List.flatMap_cons] at head
        cases head

/-- What is kept in one piece starts with a slash only if it was written so. -/
theorem head?_piece {set : EncodeSet} {p : Char → Bool} {cs : List Char}
    (head : (encode set (cs.takeWhile p)).head? = some '/') : cs.head? = some '/' := by
  have kept := head?_encode head
  rw [List.head?_takeWhile] at kept
  exact (Option.filter_eq_some_iff.mp kept).1

theorem assemble_path {scheme : List Char} (elsewhere : SchemeKind.ofScheme scheme ≠ .file)
    (authority : Option Authority) (path : PathState × List Char) :
    (assemble scheme authority path).path = path.1.done := by
  show path.1.path (.ofScheme scheme) = _
  rw [PathState.path, if_neg (mt beq_iff_eq.mp elsewhere)]

/-- An address that was read can have others below it if its text leaves room, and only then. -/
theorem parse_canBeBase {s : String} {u : Url} (read : parse s = .ok u) :
    u.canBeBase = hasRoom s := by
  unfold parse at read
  unfold hasRoom
  split at read
  case h_1 => cases read
  case h_2 scheme cs scanned =>
    rw [scanned]
    dsimp only
    split at read
    case h_1 file => rw [parseFile_canBeBase read, file]; rfl
    case h_2 web => rw [parseAuthority_canBeBase read, web]; rfl
    case h_3 other =>
      have elsewhere : SchemeKind.ofScheme scheme ≠ .file := by rw [other]; decide
      rw [other]
      split at read
      case h_1 => rw [parseAuthority_canBeBase read]; rfl
      case h_2 rest _ =>
        cases read
        -- Without an authority, a path that was read from the root still starts there.
        have starts : (readPathFrom .other (.start ['/']) rest).1.done.head? = some '/' :=
          readPathFrom_starts (by decide) rest rfl
        rw [canBeBase, assemble_path elsewhere, readPath, starts]
        rfl
      case h_3 opened =>
        cases read
        have unrooted : cs.head? ≠ some '/' := fun head => by
          obtain ⟨rest, rfl⟩ := List.head?_eq_some_iff.mp head
          exact opened rest rfl
        rw [canBeBase, assemble_path elsewhere]
        show (_ == some '/') = (cs.head? == some '/')
        rw [beq_eq_false_iff_ne.mpr unrooted, beq_eq_false_iff_ne]
        exact fun head => unrooted (head?_piece head)

example : hasRoom "https:grc.example.com" = true ∧ hasRoom "app:/api" = true ∧
    hasRoom "mailto:ops@example.com" = false := by decide

end Url

/-! ## Endpoints -/

namespace Endpoint

/-- The error of an address without room for paths. -/
def noRoom (base : Url) : Error := .config ("api_base_url 不能作为 base: " ++ base.text)

/-- The method and the address of a mutation below any address, which may have no room for it. -/
def targetBelow (base : Url) (m : Mutation) : Except Error (Method × Url) :=
  if h : base.canBeBase = true then .ok (target ⟨base, h⟩ m) else .error (noRoom base)

theorem targetBelow_base (e : Endpoint) (m : Mutation) :
    targetBelow e.base m = .ok (e.target m) := by
  rw [targetBelow, dif_pos e.base_canBeBase]

/-- What becomes of an address that can be read. -/
theorem ofText_eq {url : String} {base : Url} (read : Url.parse url = .ok base) :
    ofText url =
      if h : base.canBeBase = true then .ok ⟨base, h⟩ else .error (noRoom base) := by
  rw [ofText, read]
  rfl

end Endpoint

/-! ## The store, the listener and the notifier -/

namespace Database

theorem isStorage_of_schemaVersion {db : Database} {fault : Error}
    (failed : db.schemaVersion = .error fault) : fault.isStorage = true := by
  unfold schemaVersion at failed
  split at failed
  · cases failed
  · dsimp only at failed
    split at failed <;> cases failed
    rfl

theorem isStorage_of_checkVersion {db : Database} {fault : Error}
    (refused : db.checkVersion = .error fault) : fault.isStorage = true := by
  unfold checkVersion at refused
  cases read : db.schemaVersion with
  | error reason =>
    rw [read] at refused
    cases refused
    exact isStorage_of_schemaVersion read
  | ok version =>
    rw [read] at refused
    cases version with
    | none => cases refused
    | some v =>
      dsimp only [bind, Except.bind] at refused
      split at refused <;> cases refused
      rfl

theorem isStorage_of_prepare {db : Database} {now : Instant} {fault : Error}
    (failed : (db.prepare now).2 = .error fault) : fault.isStorage = true := by
  unfold prepare at failed
  split at failed
  next refused =>
    cases failed
    exact isStorage_of_checkVersion refused
  · unfold migrate at failed
    dsimp only at failed
    split at failed <;> cases failed
    rfl

end Database

namespace Storage

theorem isStorage_of_connect {s : Storage} {fault : Error} (failed : s.connect.2 = .error fault) :
    fault.isStorage = true := by
  unfold connect at failed
  split at failed
  · cases failed
  · dsimp only at failed
    split at failed
    · cases failed
      rfl
    · split at failed
      · cases failed
        rfl
      · split at failed <;> cases failed
        rfl

/-- A store that cannot be opened blames the store. -/
theorem isStorage_of_ensureOpen {s : Storage} {now : Instant} {fault : Error}
    (failed : (s.ensureOpen now).2.2 = .error fault) : fault.isStorage = true := by
  unfold ensureOpen at failed
  split at failed
  · cases failed
  · split at failed
    · cases failed
    next unopened =>
      cases failed
      unfold openFresh at unopened
      split at unopened
      next unreached =>
        cases unopened
        exact isStorage_of_connect (congrArg Prod.snd unreached)
      · dsimp only at unopened
        split at unopened
        next refused =>
          cases unopened
          exact Database.isStorage_of_prepare refused
        · cases unopened

/-- A new database in memory can always be opened. -/
theorem ensureOpen_memory (disk : Disk) (now : Instant) :
    ((closed disk .memory).ensureOpen now).2.2 = .ok () := by
  obtain ⟨db, lines, prepared, -⟩ := Database.prepare_empty now
  simp only [ensureOpen, openFresh, connect, closed, isOpen, database?, Option.isSome_none,
    Bool.false_eq_true, if_false, Option.getD_some, prepared]

end Storage

theorem Listener.start_eq_error {l : Listener} {fault : Error} (refused : l.start = .error fault) :
    ∃ reason, fault = .runtime reason := by
  unfold start at refused
  split at refused <;> cases refused
  exact ⟨_, rfl⟩

theorem Notifier.ofCapacity?_eq_none {capacity : Nat} :
    ofCapacity? capacity = none ↔ Channel.largestCapacity < capacity := by
  unfold ofCapacity?
  split
  case isTrue fits => exact iff_of_false nofun (Nat.not_lt.mpr fits)
  case isFalse large => exact iff_of_true rfl (Nat.lt_of_not_le large)

/-! ## Configurations -/

namespace Config

/-- All who use a configuration can: the remote side has an address for every mutation, and the
events have a buffer. -/
structure Usable (c : Config) : Prop where
  endpoint : ∃ e, Endpoint.ofText c.remoteUrl = .ok e ∧
    ∀ m, Endpoint.targetBelow e.base m = .ok (e.target m)
  notifier : ∃ n, Notifier.ofCapacity? c.eventBuffer = some n

variable {c : Config}

/-- Whatever a check finds is a fault of the configuration. -/
theorem validate_eq_error {fault : Error} (rejected : c.validate = .error fault) :
    ∃ reason, fault = .config reason := by
  unfold validate at rejected
  split at rejected
  · cases rejected
    exact ⟨_, rfl⟩
  · split at rejected
    · cases rejected
      exact ⟨_, rfl⟩
    · split_ifs at rejected <;> cases rejected <;> exact ⟨_, rfl⟩

/-- The address of an accepted configuration can be read. -/
theorem parse_of_validate (accepted : c.validate = .ok ()) :
    ∃ base, Url.parse c.remoteUrl = .ok base := by
  unfold validate at accepted
  split at accepted
  · cases accepted
  · split at accepted
    · cases accepted
    · exact ⟨_, ‹_›⟩

theorem validate_of_build {draft : Config} (built : draft.build = .ok c) :
    c.validate = .ok () := by
  obtain ⟨_, accepted, same⟩ := Except.bind_eq_ok built
  cases same
  exact accepted

/-- What an endpoint makes of the address of an accepted configuration. -/
theorem ofText_of_validate (accepted : c.validate = .ok ()) :
    (∃ e, Url.hasRoom c.remoteUrl = true ∧ Endpoint.ofText c.remoteUrl = .ok e) ∨
      ∃ base, Url.parse c.remoteUrl = .ok base ∧ Url.hasRoom c.remoteUrl = false ∧
        Endpoint.ofText c.remoteUrl = .error (Endpoint.noRoom base) := by
  obtain ⟨base, read⟩ := parse_of_validate accepted
  have room := Url.parse_canBeBase read
  rw [Endpoint.ofText_eq read]
  split
  case isTrue there => exact .inl ⟨_, room.symm.trans there, rfl⟩
  case isFalse none =>
    exact .inr ⟨base, read, room.symm.trans (Bool.eq_false_iff.mpr none), rfl⟩

end Config

/-! ## Starting an engine -/

namespace Engine

variable {c : Config} {disk : Disk} {listener : Option Listener} {history : List LogLine}
  {revision : String} {now : Instant}

theorem attach_eq_error {e : Engine} {fault : Error} (refused : e.attach listener = .error fault) :
    ∃ reason, fault = .runtime reason := by
  cases listener with
  | none => cases refused
  | some l =>
    cases started : l.start with
    | ok watched =>
      simp only [attach, started] at refused
      cases refused
    | error reason =>
      simp only [attach, started] at refused
      cases refused
      exact Listener.start_eq_error started

/-- A start with an accepted configuration by its cases. -/
theorem start_cases (accepted : c.validate = .ok ()) (disk : Disk) (listener : Option Listener)
    (history : List LogLine) (revision : String) (now : Instant) :
    let opened := ((Storage.closed disk (.ofConfig c)).ensureOpen now).2.2
    let launch := start c disk listener history revision now
    (∃ fault, opened = .error fault ∧ launch = .refused fault) ∨
      (opened = .ok () ∧ Notifier.ofCapacity? c.eventBuffer = none ∧ launch = .panicked) ∨
      (opened = .ok () ∧ Notifier.ofCapacity? c.eventBuffer ≠ none ∧
        ((∃ reason, launch = .refused (.runtime reason)) ∨ ∃ e, launch = .ready e)) := by
  dsimp only
  unfold start
  rw [accepted]
  -- The store is opened first, then the buffer is made, and the listener is started last.
  rcases (Storage.closed disk (.ofConfig c)).ensureOpen now with ⟨storage, lines, opened⟩
  dsimp only
  split
  case h_1 fault => exact .inl ⟨fault, rfl, rfl⟩
  case h_2 small =>
    exact .inr (.inl ⟨rfl, UnownedNotifier.ofCapacity?_eq_none.mp small, rfl⟩)
  case h_3 notifier made =>
    refine .inr (.inr ⟨rfl, ?_, ?_⟩)
    · rw [Ne, ← UnownedNotifier.ofCapacity?_eq_none, made]
      nofun
    split
    case h_1 fault refused =>
      obtain ⟨reason, rfl⟩ := attach_eq_error refused
      exact .inl ⟨reason, rfl⟩
    case h_2 e _ => exact .inr ⟨_, rfl⟩

/-- No start with an accepted configuration is refused over the configuration. -/
theorem start_ne_config (accepted : c.validate = .ok ()) (reason : String) :
    start c disk listener history revision now ≠ .refused (.config reason) := by
  intro refused
  rcases start_cases accepted disk listener history revision now with
    ⟨fault, unopened, launch⟩ | ⟨-, -, launch⟩ | ⟨-, -, ⟨other, launch⟩ | ⟨e, launch⟩⟩
  · rw [launch] at refused
    cases refused
    -- The store blames itself, and this is no error of a store.
    cases Storage.isStorage_of_ensureOpen unopened
  all_goals
    rw [launch] at refused
    cases refused

theorem start_eq_panicked (accepted : c.validate = .ok ()) :
    start c disk listener history revision now = .panicked ↔
      ((Storage.closed disk (.ofConfig c)).ensureOpen now).2.2 = .ok () ∧
        Notifier.ofCapacity? c.eventBuffer = none := by
  rcases start_cases accepted disk listener history revision now with
    ⟨fault, unopened, launch⟩ | ⟨opened, large, launch⟩ | ⟨-, fits, ⟨other, launch⟩ | ⟨e, launch⟩⟩
  · rw [launch, unopened]
    exact iff_of_false nofun nofun
  · exact iff_of_true launch ⟨opened, large⟩
  all_goals
    rw [launch]
    exact iff_of_false nofun fun both => fits both.2

end Engine

namespace Config

variable {c : Config}

theorem usable_iff (accepted : c.validate = .ok ()) :
    c.Usable ↔ Url.hasRoom c.remoteUrl = true ∧ c.eventBuffer ≤ Channel.largestCapacity := by
  constructor
  · rintro ⟨⟨e, endpoint, -⟩, n, notifier⟩
    constructor
    · rcases ofText_of_validate accepted with ⟨-, room, -⟩ | ⟨base, -, -, refused⟩
      · exact room
      · rw [refused] at endpoint
        cases endpoint
    · refine Nat.not_lt.mp fun large => ?_
      rw [Notifier.ofCapacity?_eq_none.mpr large] at notifier
      cases notifier
  · rintro ⟨room, fits⟩
    constructor
    · rcases ofText_of_validate accepted with ⟨e, -, endpoint⟩ | ⟨base, -, none, -⟩
      · exact ⟨e, endpoint, e.targetBelow_base⟩
      · rw [none] at room
        cases room
    · exact Option.ne_none_iff_exists'.mp fun large =>
        Nat.not_lt.mpr fits (Notifier.ofCapacity?_eq_none.mp large)

theorem ofText_eq_error (accepted : c.validate = .ok ()) {fault : Error} :
    Endpoint.ofText c.remoteUrl = .error fault ↔
      ∃ base, Url.parse c.remoteUrl = .ok base ∧ Url.hasRoom c.remoteUrl = false ∧
        fault = Endpoint.noRoom base := by
  rcases ofText_of_validate accepted with ⟨e, room, endpoint⟩ | ⟨base, read, none, refused⟩
  · rw [endpoint, room]
    exact iff_of_false nofun fun ⟨_, _, without, _⟩ => by cases without
  · rw [refused]
    constructor
    · intro same
      cases same
      exact ⟨base, read, none, rfl⟩
    · rintro ⟨other, read', -, rfl⟩
      cases read.symm.trans read'
      rfl

/-- What comes of a configuration where it is used. -/
structure Served (c : Config) : Prop where
  usable : c.Usable ↔ Url.hasRoom c.remoteUrl = true ∧ c.eventBuffer ≤ Channel.largestCapacity
  endpoint : ∀ fault, Endpoint.ofText c.remoteUrl = .error fault ↔
    ∃ base, Url.parse c.remoteUrl = .ok base ∧ Url.hasRoom c.remoteUrl = false ∧
      fault = Endpoint.noRoom base
  notifier : Notifier.ofCapacity? c.eventBuffer = none ↔ Channel.largestCapacity < c.eventBuffer
  /-- An engine that does not start has another reason. -/
  launch : ∀ disk listener history revision now reason,
    Engine.start c disk listener history revision now ≠ .refused (.config reason)
  /-- Where the store can be opened, an engine panics over a buffer that is too large. -/
  panic : ∀ disk listener history revision now,
    Engine.start c disk listener history revision now = .panicked ↔
      ((Storage.closed disk (.ofConfig c)).ensureOpen now).2.2 = .ok () ∧
        Channel.largestCapacity < c.eventBuffer

/-- A configuration is rejected as one or accepted. If it is accepted, or was built, it is usable
unless its address has no room or its buffer is too large. -/
theorem rejected_or_served (c : Config) :
    (c.validate = .ok () ∨ ∃ reason, c.validate = .error (.config reason)) ∧
      ((c.validate = .ok () ∨ ∃ draft : Config, draft.build = .ok c) → c.Served) := by
  constructor
  · cases checked : c.validate with
    | ok => exact .inl rfl
    | error fault =>
      obtain ⟨reason, rfl⟩ := validate_eq_error checked
      exact .inr ⟨reason, rfl⟩
  · intro accepted
    have accepted : c.validate = .ok () :=
      accepted.elim id fun ⟨_, built⟩ => validate_of_build built
    exact
      { usable := usable_iff accepted
        endpoint := fun _ => ofText_eq_error accepted
        notifier := Notifier.ofCapacity?_eq_none
        launch := fun _ _ _ _ _ => Engine.start_ne_config accepted
        panic := fun _ _ _ _ _ => by
          rw [Engine.start_eq_panicked accepted, Notifier.ofCapacity?_eq_none] }

/-- A configuration for a service on this machine, without a file. -/
def sample : Config :=
  { Config.default "" with inMemory := true, remoteUrl := "http://[::1]:8080/api" }

theorem sample_usable : sample.validate = .ok () ∧ sample.Usable := by
  have accepted : sample.validate = .ok () := by rfl
  exact ⟨accepted, ((rejected_or_served sample).2 (.inl accepted)).usable.mpr (by decide)⟩

/-- The address of a mailbox is accepted, and no endpoint can be made of it. -/
def mailbox : Config := { sample with remoteUrl := "mailto:ops@example.com" }

def oversized : Config := { sample with eventBuffer := UInt64.size / 2 }

theorem accepted_yet_unusable :
    (mailbox.validate = .ok () ∧ ¬ mailbox.Usable ∧ Endpoint.ofText mailbox.remoteUrl =
        .error (.config "api_base_url 不能作为 base: mailto:ops@example.com")) ∧
      (oversized.validate = .ok () ∧ ¬ oversized.Usable ∧
        Notifier.ofCapacity? oversized.eventBuffer = none ∧
        ∀ disk listener history revision now,
          Engine.start oversized disk listener history revision now = .panicked) := by
  have letter : mailbox.validate = .ok () := by rfl
  have large : oversized.validate = .ok () := by rfl
  have none : Notifier.ofCapacity? oversized.eventBuffer = none := by decide
  refine ⟨⟨letter, fun usable => ?_, by rfl⟩, large, fun usable => ?_, none, ?_⟩
  · exact absurd ((usable_iff letter).mp usable).1 (by decide)
  · exact absurd ((usable_iff large).mp usable).2 (by decide)
  · intro disk listener history revision now
    exact (Engine.start_eq_panicked large).mpr ⟨Storage.ensureOpen_memory disk now, none⟩

end Config

end Outbox
