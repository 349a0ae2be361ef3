import Outbox.Url.Basic

/-!
# Paths

A path grows segment by segment. A segment of one dot names the place where it stands and a
segment of two dots the place above, also when the dots are percent-encoded. Local files keep a
drive letter at the start of the path.
-/
namespace Outbox.Url

def isLetter (c : Char) : Bool := ('a' ≤ c && c ≤ 'z') || ('A' ≤ c && c ≤ 'Z')

/-- Whether a text starts with a drive letter that is a segment of its own. -/
def startsWithDrive : List Char → Bool
  | a :: b :: rest =>
    isLetter a && (b == ':' || b == '|')
      && (match rest with
        | [] => true
        | c :: _ => c == '/' || c == '\\' || c == '?' || c == '#')
  | _ => false

def isDrive (cs : List Char) : Bool := cs.length == 2 && startsWithDrive cs

def isNormalDrive (cs : List Char) : Bool := isDrive cs && cs[1]? == some ':'

/-- Whether a segment stands for the place where it is. -/
def isSingleDot (segment : List Char) : Bool :=
  [".", "%2e"].contains (String.ofList (segment.map Char.toLower))

/-- Whether a segment stands for the place above. -/
def isDoubleDot (segment : List Char) : Bool :=
  ["..", ".%2e", "%2e.", "%2e%2e"].contains (String.ofList (segment.map Char.toLower))

/-- Everything up to the last slash, that slash included. -/
def upToLastSlash (path : List Char) : List Char :=
  (path.reverse.dropWhile (· ≠ '/')).reverse

/-- Everything after the last slash. -/
def afterLastSlash (path : List Char) : List Char :=
  (path.reverse.takeWhile (· ≠ '/')).reverse

/-- Whether the slash at the end follows a segment that may go: not the root, not a drive. -/
def lastSlashCanGo (path : List Char) : Bool :=
  let before := path.dropLast
  before.contains '/' && !startsWithDrive (afterLastSlash before ++ ['/'])

/-- Drops the last segment. -/
def shorten (kind : SchemeKind) (path : List Char) : List Char :=
  if path.isEmpty then path
  else if kind == .file && isNormalDrive path then path
  else if kind == .file && isNormalDrive (afterLastSlash path) then path
  else upToLastSlash path

/-- Ends a segment: `before` is the path up to it, `slash` says that a slash follows. -/
def closeSegment (kind : SchemeKind) (before segment : List Char) (slash : Bool) : List Char :=
  let endsWithSlash (p : List Char) : Bool := p.getLast? == some '/'
  if isDoubleDot segment then
    let above := if endsWithSlash before && lastSlashCanGo before then before.dropLast else before
    let above := shorten kind above
    if slash && !endsWithSlash above then above ++ ['/'] else above
  else if isSingleDot segment then
    if endsWithSlash before then before else before ++ ['/']
  else
    let segment := if kind == .file && before.length == 1 && isDrive segment then
        segment.take 1 ++ [':'] else segment
    before ++ segment ++ (if slash then ['/'] else [])

/-- A path under construction: what is finished, the segment that is being read, and whether a
drive letter was met at the root. -/
structure PathState where
  done : List Char
  segment : List Char
  drive : Bool

namespace PathState

def start (path : List Char) : PathState := ⟨path, [], false⟩

/-- One character of a segment. After a local file's drive letter a slash is put in; the segment
then counts from one character further on. -/
def push (s : PathState) (kind : SchemeKind) (set : EncodeSet) (c : Char) : PathState :=
  let path := s.done ++ s.segment
  if kind == .file && isNormalDrive path.tail then
    let path := path ++ ['/']
    { s with
      done := path.take (s.done.length + 1)
      segment := path.drop (s.done.length + 1) ++ encodeChar set c }
  else { s with segment := s.segment ++ encodeChar set c }

def close (s : PathState) (kind : SchemeKind) (slash : Bool) : PathState where
  done := closeSegment kind s.done s.segment slash
  segment := []
  drive := s.drive || (kind == .file && s.done.length == 1 && isDrive s.segment)

/-- The finished path. Local files start with one slash only. -/
def path (s : PathState) (kind : SchemeKind) : List Char :=
  if kind == .file then '/' :: s.done.dropWhile (· == '/') else s.done

end PathState

/-- Reads a path up to a query or a fragment, and gives what is left. -/
def readPathFrom (kind : SchemeKind) : PathState → List Char → PathState × List Char
  | s, [] => (s.close kind false, [])
  | s, c :: rest =>
    if c = '/' ∨ (c = '\\' ∧ kind.isSpecial) then readPathFrom kind (s.close kind true) rest
    else if c = '?' ∨ c = '#' then (s.close kind false, c :: rest)
    else readPathFrom kind (s.push kind pathSet c) rest

/-- Reads a path that starts as given. -/
def readPath (kind : SchemeKind) (start : List Char) (cs : List Char) : PathState × List Char :=
  readPathFrom kind (.start start) cs

/-! ## Adding segments -/

/-- Line ends and tabs have no place in an address. -/
def isStripped (c : Char) : Bool := c == '\t' || c == '\n' || c == '\r'

/-- Drops an empty segment at the end. -/
def dropEmptyEnd (path : List Char) : List Char :=
  if 1 < path.length && path.getLast? == some '/' then path.dropLast else path

/-- Adds one segment. A segment that is one or two dots as it stands is passed over. -/
def pushSegment (kind : SchemeKind) (path : List Char) (segment : List Char) : List Char :=
  if segment = ['.'] ∨ segment = ['.', '.'] then path
  else
    let start := if path.length = 1 then path else path ++ ['/']
    let set := if kind.isSpecial then specialSegmentSet else segmentSet
    let s := (segment.filter fun c => !isStripped c).foldl (fun s c => PathState.push s kind set c)
      (.start start)
    (s.close kind false).path kind

/-- The address one segment further down. -/
def child (u : Url) (segment : String) : Url :=
  { u with path := pushSegment u.kind u.path segment.toList }

/-- The address without an empty segment at the end. -/
def withoutEmptyEnd (u : Url) : Url := { u with path := dropEmptyEnd u.path }

end Outbox.Url
