import Outbox.Config
import Outbox.Log
import Outbox.Mutation
import Outbox.Text.Quoted

/-!
# Where a mutation is sent

Below the base address every kind has a collection. A new entity is posted to its collection; an
update and a removal go to the entity, which is one segment further down.
-/
namespace Outbox

inductive Method where
  | post
  | patch
  | delete
  deriving DecidableEq, Repr

namespace Method

def name : Method → String
  | post => "POST"
  | patch => "PATCH"
  | delete => "DELETE"

def ofOperation : Operation → Method
  | .create => post
  | .update => patch
  | .delete => delete

end Method

/-- A base address that has room for paths below it. -/
structure Endpoint where
  base : Url
  base_canBeBase : base.canBeBase = true

namespace Endpoint

/-- Reads the base address. -/
def ofText (url : String) : Except Error Endpoint :=
  match Url.parse url with
  | .error fault => .error (Config.invalidUrl url fault)
  | .ok base =>
    if h : base.canBeBase = true then .ok ⟨base, h⟩
    else .error (.config ("api_base_url 不能作为 base: " ++ base.text))

/-- The method and the address of a mutation. -/
def target (e : Endpoint) (m : Mutation) : Method × Url :=
  let collection := e.base.withoutEmptyEnd.child m.kind.name
  let url := match m.operation with
    | .create => collection
    | _ => collection.child m.entityId
  (.ofOperation m.operation, url)

/-- The endpoint in diagnostics. -/
def describe (e : Endpoint) : String :=
  "HttpRemoteApi \x7b base_url: " ++ Text.quoted e.base.text ++ " \x7d"

/-- The log line of a connection that was made ready. -/
def created (e : Endpoint) : LogLine :=
  .info ("✅ HTTP 客户端已创建 (base_url: " ++ e.base.text ++ ")")

end Endpoint

end Outbox
