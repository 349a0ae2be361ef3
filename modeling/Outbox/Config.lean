import Outbox.Forms
import Outbox.Text.Blank
import Outbox.Url.Parser

/-!
# Configuration

Every setting has a default. A configuration is checked before it is used: the remote address can
be read, the limits are not zero, and a database on disk has a file name.
-/
namespace Outbox

/-- Time limits of the connection to the remote side, in seconds. -/
structure HttpConfig where
  connectTimeout : Option Nat
  requestTimeout : Option Nat
  deriving DecidableEq

structure Config where
  dataDir : String
  fileName : String
  inMemory : Bool
  remoteUrl : String
  http : HttpConfig
  maxRetries : Nat
  /-- How many events wait for a listener that does not keep up. -/
  eventBuffer : Nat
  startOnline : Bool
  debug : Bool
  deriving DecidableEq

namespace Config

/-- Appends a file name to a directory; an absolute name stands for itself. -/
def joinPath (dir file : String) : String :=
  if file.startsWith "/" then file
  else if dir.isEmpty || dir.endsWith "/" then dir ++ file
  else dir ++ "/" ++ file

/-- The directory of the database when none is given: below the user's home, if it is known. -/
def defaultDataDir (home profile : Option String) : String :=
  match home, profile with
  | some dir, _ => joinPath dir ".offline_sync"
  | none, some dir => joinPath dir ".offline_sync"
  | none, none => "./offline_sync_data"

/-- The configuration without any choice made. -/
def default (dataDir : String) : Config where
  dataDir := dataDir
  fileName := "offline_sync.db"
  inMemory := false
  remoteUrl := "http://localhost:8080/api"
  http := ⟨none, none⟩
  maxRetries := 3
  eventBuffer := 256
  startOnline := true
  debug := false

/-- The path of the database file. -/
def databasePath (c : Config) : String := joinPath c.dataDir c.fileName

/-- The error of an address that cannot be read. -/
def invalidUrl (url : String) (fault : Url.Fault) : Error :=
  .config ("api_base_url 无效 (" ++ url ++ "): " ++ fault.message)

/-- Checks a configuration; the first fault counts. -/
def validate (c : Config) : Except Error Unit :=
  if Text.allBlank c.remoteUrl then .error (.config "api_base_url 不能为空")
  else
    match Url.parse c.remoteUrl with
    | .error fault => .error (invalidUrl c.remoteUrl fault)
    | .ok _ =>
      if c.maxRetries = 0 then .error (.config "max_retries 至少为 1")
      else if c.eventBuffer = 0 then .error (.config "event buffer_size 至少为 1")
      else if !c.inMemory && Text.allBlank c.fileName then
        .error (.config "db_file_name 不能为空")
      else .ok ()

/-- A configuration that passed its checks. -/
def build (c : Config) : Except Error Config := do
  validate c
  pure c

def policy (c : Config) : RetryPolicy := ⟨c.maxRetries⟩

end Config

/-! ## JSON forms -/

namespace Form

open Json

def httpConfig : Form HttpConfig :=
  record
    { title := "struct HttpClientConfig"
      fields :=
        [.optionally "connect_timeout_secs" nat64.read fun x c => { c with connectTimeout := x },
          .optionally "request_timeout_secs" nat64.read fun x c => { c with requestTimeout := x }]
      draft := ⟨none, none⟩ }
    fun c =>
      [("connect_timeout_secs", (option nat64).render c.connectTimeout),
        ("request_timeout_secs", (option nat64).render c.requestTimeout)]

/-- A record with one field. -/
def single (title field : String) (f : Form Nat) : Form Nat :=
  record { title := title, fields := [.required field f.read fun x _ => x], draft := 0 }
    fun n => [(field, f.render n)]

def retryConfig : Form Nat := single "struct RetryConfig" "max_retries" nat32

def eventConfig : Form Nat := single "struct EventConfig" "buffer_size" size

def config : Form Config :=
  record
    { title := "struct OfflineSyncConfig"
      fields :=
        [.required "data_dir" (readTextAs "path string") fun x c => { c with dataDir := x },
          .required "db_file_name" text.read fun x c => { c with fileName := x },
          .required "in_memory" bool.read fun x c => { c with inMemory := x },
          .required "api_base_url" text.read fun x c => { c with remoteUrl := x },
          .required "http_client_config" httpConfig.read fun x c => { c with http := x },
          .required "retry_config" retryConfig.read fun x c => { c with maxRetries := x },
          .required "event_config" eventConfig.read fun x c => { c with eventBuffer := x },
          .required "start_online" bool.read fun x c => { c with startOnline := x },
          .required "debug_mode" bool.read fun x c => { c with debug := x }]
      draft := .default "" }
    fun c =>
      [("data_dir", text.render c.dataDir), ("db_file_name", text.render c.fileName),
        ("in_memory", bool.render c.inMemory), ("api_base_url", text.render c.remoteUrl),
        ("http_client_config", httpConfig.render c.http),
        ("retry_config", retryConfig.render c.maxRetries),
        ("event_config", eventConfig.render c.eventBuffer),
        ("start_online", bool.render c.startOnline), ("debug_mode", bool.render c.debug)]

end Form

end Outbox
