import Outbox.Failure
import Outbox.Json.Printer
import Outbox.Log
import Outbox.Remote.Endpoint
import Outbox.Text.Base64

/-!
# Delivery over HTTP

A delivery asks for a token, makes one request and judges the answer by its status. The exchange
itself is a function from the request to what came back, so that the judgement can be stated for
every behaviour of a server.

A user and a password in the address are taken out of it, and the request is authorized with them,
whether there is a token or not.
-/
namespace Outbox.Remote

structure Request where
  method : Method
  url : Url
  /-- The values of the headers that authorize the request. -/
  authorization : List String
  /-- The payload as JSON; a removal has none. -/
  body : Option String

/-- What came back. -/
inductive Reply where
  | unreachable
  /-- A status and the text of the body, as far as it could be read. -/
  | answered (status : Nat) (body : String)

/-- The outcome of a delivery: the verdict, the request if one was made, and log lines. -/
structure Delivery where
  verdict : Except Failure Unit
  request : Option Request
  log : List LogLine

/-- The customary words for a status. -/
def reasonPhrase? (status : Nat) : Option String :=
  [(100, "Continue"), (101, "Switching Protocols"), (102, "Processing"), (200, "OK"),
    (201, "Created"), (202, "Accepted"), (203, "Non Authoritative Information"),
    (204, "No Content"), (205, "Reset Content"), (206, "Partial Content"), (207, "Multi-Status"),
    (208, "Already Reported"), (226, "IM Used"), (300, "Multiple Choices"),
    (301, "Moved Permanently"), (302, "Found"), (303, "See Other"), (304, "Not Modified"),
    (305, "Use Proxy"), (307, "Temporary Redirect"), (308, "Permanent Redirect"),
    (400, "Bad Request"), (401, "Unauthorized"), (402, "Payment Required"), (403, "Forbidden"),
    (404, "Not Found"), (405, "Method Not Allowed"), (406, "Not Acceptable"),
    (407, "Proxy Authentication Required"), (408, "Request Timeout"), (409, "Conflict"),
    (410, "Gone"), (411, "Length Required"), (412, "Precondition Failed"),
    (413, "Payload Too Large"), (414, "URI Too Long"), (415, "Unsupported Media Type"),
    (416, "Range Not Satisfiable"), (417, "Expectation Failed"), (418, "I'm a teapot"),
    (421, "Misdirected Request"), (422, "Unprocessable Entity"), (423, "Locked"),
    (424, "Failed Dependency"), (426, "Upgrade Required"), (428, "Precondition Required"),
    (429, "Too Many Requests"), (431, "Request Header Fields Too Large"),
    (451, "Unavailable For Legal Reasons"), (500, "Internal Server Error"),
    (501, "Not Implemented"), (502, "Bad Gateway"), (503, "Service Unavailable"),
    (504, "Gateway Timeout"), (505, "HTTP Version Not Supported"),
    (506, "Variant Also Negotiates"), (507, "Insufficient Storage"), (508, "Loop Detected"),
    (510, "Not Extended"), (511, "Network Authentication Required")].lookup status

def isSuccess (status : Nat) : Bool := 200 ≤ status && status < 300

/-- Of control characters, only the tab can stand in a header. -/
def isHeaderChar (c : Char) : Bool := (0x20 ≤ c.toNat && c.toNat != 0x7f) || c == '\t'

def isHeaderText (text : String) : Bool := text.toList.all isHeaderChar

/-- The address without the user. -/
def withoutUser (u : Url) : Url :=
  { u with authority := u.authority.map fun a => { a with username := [], password := none } }

def isText (bytes : List UInt8) : Bool := (Url.ofUtf8? bytes).isSome

/-- The user and the password of an address, with a colon between them. A user that is no text is
left where it is; a password that is none counts as missing. -/
def credentials? (u : Url) : Option (List UInt8) :=
  u.authority.bind fun a =>
    let user := Url.decode a.username
    let password := (a.password.map Url.decode).filter isText
    if !isText user || (user.isEmpty && password.isNone) then none
    else some (user ++ 0x3a :: password.getD [])

/-- The header for a user and a password. -/
def basic (credentials : List UInt8) : String :=
  "Basic " ++ String.ofList (Text.Base64.encode credentials)

/-- The header for a token. -/
def bearer (token : String) : String := "Bearer " ++ token

/-- The longest address that a request can be made for. -/
def longestAddress : Nat := 65534

/-- Whether the address can stand in a request: it is not too long, and its host has none of the
characters that are no part of a host there. -/
def isRequestable (u : Url) : Bool :=
  let host := ((u.authority.bind (·.host)).map (·.render)).getD []
  u.render.length ≤ longestAddress &&
    host.all fun c => !(['"', '\x60', '\x7b', '\x7d'].contains c)

/-- Why a request cannot even be made. -/
def requestFault? (r : Request) : Option String :=
  let scheme := String.ofList r.url.scheme
  if r.authorization.all isHeaderText then
    if (scheme == "http" || scheme == "https") && isRequestable r.url then none
    else some ("builder error for url (" ++ r.url.text ++ ")")
  else some "builder error"

/-- The request of a mutation. -/
def requestOf (e : Endpoint) (token : Option String) (m : Mutation) : Request :=
  let (method, url) := e.target m
  let body := if m.operation == .delete then none else some m.payload.text
  let authorization := token.toList.map bearer
  -- A header is added, not replaced, so with a user and a token there are two.
  match credentials? url with
  | some credentials => ⟨method, withoutUser url, basic credentials :: authorization, body⟩
  | none => ⟨method, url, authorization, body⟩

/-- Delivers a mutation: `token` is what the provider of tokens answers. -/
def deliver (e : Endpoint) (token : Except Error (Option String)) (exchange : Request → Reply)
    (m : Mutation) : Delivery :=
  match token with
  | .error fault => ⟨.error (.transient ("获取访问凭证失败: " ++ fault.message)), none, []⟩
  | .ok token =>
    let request := requestOf e token m
    let line := (e.target m).1.name ++ " " ++ (e.target m).2.text
    let failed (reason : String) (request : Option Request) : Delivery :=
      ⟨.error (.transient ("请求失败: " ++ reason)), request,
        [.error ("❌ 请求失败 " ++ line ++ ": " ++ reason)]⟩
    match requestFault? request with
    | some reason => failed reason none
    | none =>
      match exchange request with
      | .unreachable =>
        failed ("error sending request for url (" ++ request.url.text ++ ")") (some request)
      | .answered status body =>
        if isSuccess status then ⟨.ok (), some request, []⟩
        else
          let reason := if body.isEmpty then (reasonPhrase? status).getD "unknown" else body
          ⟨.error (.ofStatus status reason), some request,
            [.error ("❌ " ++ line ++ " -> HTTP " ++ toString status ++ ": " ++ reason)]⟩

end Outbox.Remote
