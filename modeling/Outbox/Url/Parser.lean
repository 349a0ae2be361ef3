import Outbox.Text.Blank
import Outbox.Url.Domain
import Outbox.Url.Path

/-!
# Reading addresses

Control characters and spaces at the ends are dropped, and so are tabs and line ends anywhere. An
address of the web may leave out or double the slashes before its host.
-/
namespace Outbox.Url

/-- The characters that count. -/
def significant (s : String) : List Char :=
  (Text.trimBy (fun c => c.toNat ≤ 0x20) s.toList).filter fun c => !isStripped c

def isSchemeChar (c : Char) : Bool := isLetter c || isDigit c || c == '+' || c == '-' || c == '.'

/-- The scheme in lower case, and what follows its colon. -/
def readScheme? (cs : List Char) : Option (List Char × List Char) :=
  if (cs.head?.map isLetter).getD false then
    match cs.dropWhile isSchemeChar with
    | ':' :: rest => some ((cs.takeWhile isSchemeChar).map Char.toLower, rest)
    | _ => none
  else none

/-- The end of the authority: a slash, a query or a fragment. -/
def endsAuthority (kind : SchemeKind) (c : Char) : Bool :=
  c == '/' || c == '?' || c == '#' || (c == '\\' && kind.isSpecial)

/-- The user before the last `@` of the authority. An empty user right before the end of the
authority leaves no host. -/
def readUser (kind : SchemeKind) (cs : List Char) :
    Except Fault ((List Char × Option (List Char)) × List Char) :=
  let authority := cs.takeWhile fun c => !endsAuthority kind c
  if !authority.contains '@' then .ok (([], none), cs)
  else
    let host := (authority.reverse.takeWhile (· ≠ '@')).length
    let user := authority.take (authority.length - host - 1)
    let rest := cs.drop (user.length + 1)
    if user.isEmpty then
      match rest with
      | c :: _ => if endsAuthority kind c then .error .emptyHost else .ok (([], none), rest)
      | [] => .ok (([], none), rest)
    else
      let name := encode userinfoSet (user.takeWhile (· ≠ ':'))
      let password := match user.dropWhile (· ≠ ':') with
        | _ :: p => if p.isEmpty then none else some (encode userinfoSet p)
        | [] => none
      .ok ((name, password), rest)

/-- The text of the host: it ends with the authority or at a colon outside brackets. -/
def hostLength (kind : SchemeKind) : Bool → List Char → Nat
  | _, [] => 0
  | bracketed, c :: rest =>
    if (c = ':' ∧ !bracketed) ∨ endsAuthority kind c then 0
    else
      let bracketed := if c = '[' then true else if c = ']' then false else bracketed
      1 + hostLength kind bracketed rest

/-- The number in brackets. -/
def parseBracketed (cs : List Char) : Except Fault Host :=
  if cs.getLast? == some ']' then (parseIpv6 (cs.tail.dropLast)).map .ipv6
  else .error .invalidIpv6

/-- A host of the web: a number if its last part is one, and a domain otherwise. -/
def parseHost (cs : List Char) : Except Fault Host :=
  if cs.head? == some '[' then parseBracketed cs
  else
    match domainToAscii? (decode cs) with
    | none => .error .invalidDomain
    | some domain =>
      if domain.isEmpty then .error .emptyHost
      else if endsInNumber domain then (parseIpv4 domain).map .ipv4
      else .ok (.domain domain)

def isForbiddenInHost (c : Char) : Bool :=
  [Char.ofNat 0, '\t', '\n', '\r', ' ', '#', '/', ':', '<', '>', '?', '@', '[', '\\', ']', '^',
    '|'].contains c

/-- A host of any other scheme is kept as it is written. -/
def parsePlainHost (cs : List Char) : Except Fault Host :=
  if cs.head? == some '[' then parseBracketed cs
  else if cs.any isForbiddenInHost then .error .invalidCharacter
  else .ok (.domain (encode controls cs))

/-- The digits of a port, up to the end of the authority. -/
def readPortDigits (port : Nat) (any : Bool) : List Char → Except Fault ((Nat × Bool) × List Char)
  | [] => .ok ((port, any), [])
  | c :: rest =>
    if isDigit c then
      let port := 10 * port + (c.toNat - '0'.toNat)
      if 65535 < port then .error .invalidPort else readPortDigits port true rest
    else if c = '/' ∨ c = '\\' ∨ c = '?' ∨ c = '#' then .ok ((port, any), c :: rest)
    else .error .invalidPort

/-- A port; no digits and the default of the scheme mean none. -/
def readPort (scheme : List Char) (cs : List Char) : Except Fault (Option Nat × List Char) := do
  let ((port, any), rest) ← readPortDigits 0 false cs
  pure (if !any || defaultPort? scheme == some port then none else some port, rest)

/-- Host and port. -/
def readHostAndPort (scheme : List Char) (kind : SchemeKind) (cs : List Char) :
    Except Fault ((Host × Option Nat) × List Char) := do
  let n := hostLength kind false cs
  let text := cs.take n
  let rest := cs.drop n
  if kind.isSpecial && text.isEmpty then .error .emptyHost
  else
    let host ← if kind.isSpecial then parseHost text else parsePlainHost text
    match rest with
    | ':' :: rest =>
      if host = .domain [] then .error .emptyHost
      else
        let (port, rest) ← readPort scheme rest
        pure ((host, port), rest)
    | _ => pure ((host, none), rest)

/-- The path after an authority. -/
def readRootPath (kind : SchemeKind) (cs : List Char) : PathState × List Char :=
  if kind.isSpecial then
    match cs with
    | c :: rest => if c = '/' ∨ c = '\\' then readPath kind ['/'] rest else readPath kind ['/'] cs
    | [] => readPath kind ['/'] []
  else
    match cs with
    | [] => readPath kind [] []
    | c :: _ =>
      if c = '?' ∨ c = '#' then (.start [], cs)
      else if c = '/' then readPath kind [] cs
      else readPath kind ['/'] cs

/-- Query and fragment. -/
def readTails (kind : SchemeKind) (cs : List Char) : Option (List Char) × Option (List Char) :=
  let fragment? (cs : List Char) : Option (List Char) :=
    match cs with
    | '#' :: rest => some (encode fragmentSet rest)
    | _ => none
  match cs with
  | '?' :: rest =>
    let set := if kind.isSpecial then specialQuerySet else querySet
    (some (encode set (rest.takeWhile (· ≠ '#'))), fragment? (rest.dropWhile (· ≠ '#')))
  | cs => (none, fragment? cs)

/-- The address of its parts; the path is given with what follows it. -/
def assemble (scheme : List Char) (authority : Option Authority) (path : PathState × List Char) :
    Url :=
  let kind := SchemeKind.ofScheme scheme
  let (query, fragment) := readTails kind path.2
  ⟨scheme, authority, path.1.path kind, query, fragment⟩

/-- What follows the two slashes before an authority. -/
def parseAuthority (scheme : List Char) (kind : SchemeKind) (cs : List Char) :
    Except Fault Url := do
  let ((username, password), cs) ← readUser kind cs
  let ((host, port), cs) ← readHostAndPort scheme kind cs
  if host = .domain [] ∧ (!username.isEmpty || password.isSome) then .error .emptyHost
  else
    pure (assemble scheme (some ⟨username, password, some host, port⟩) (readRootPath kind cs))

/-- The host of a local file and its path. The machine itself has no name here, and a drive
letter at the root leaves no room for a host. -/
def parseFileHost (scheme : List Char) (cs : List Char) : Except Fault Url := do
  let text := cs.takeWhile fun c => !endsAuthority .file c
  let afterHost := cs.drop text.length
  let here (rest : List Char) : Url :=
    assemble scheme (some ⟨[], none, none, none⟩) (readPath .file ['/'] rest)
  if isDrive text then pure (here cs)
  else if text.isEmpty then pure (here afterHost)
  else
    let host ← parseHost text
    if host = .domain "localhost".toList then pure (here afterHost)
    else
      let path := readRootPath .file afterHost
      let host := if path.1.drive then none else some host
      pure (assemble scheme (some ⟨[], none, host, none⟩) path)

/-- What follows the scheme of a local file. -/
def parseFile (scheme : List Char) (cs : List Char) : Except Fault Url :=
  let isSlash (c : Char) : Bool := c == '/' || c == '\\'
  let nowhere : Option Authority := some ⟨[], none, none, none⟩
  match cs with
  | a :: b :: rest =>
    if isSlash a && isSlash b then parseFileHost scheme rest
    else .ok (assemble scheme nowhere (readPath .file (if isSlash a then [] else ['/']) cs))
  | _ => .ok (assemble scheme nowhere (readPath .file ['/'] cs))

/-- Reads an address. -/
def parse (s : String) : Except Fault Url :=
  match readScheme? (significant s) with
  | none => .error .noBase
  | some (scheme, cs) =>
    match SchemeKind.ofScheme scheme with
    | .file => parseFile scheme cs
    | .web => parseAuthority scheme .web (cs.dropWhile fun c => c == '/' || c == '\\')
    | .other =>
      match cs with
      | '/' :: '/' :: rest => parseAuthority scheme .other rest
      | '/' :: rest =>
        .ok (assemble scheme none (readPath .other ['/'] rest))
      | cs =>
        let path := encode controls (cs.takeWhile fun c => c ≠ '?' && c ≠ '#')
        let rest := cs.dropWhile fun c => c ≠ '?' && c ≠ '#'
        .ok (assemble scheme none (.start path, rest))

end Outbox.Url
