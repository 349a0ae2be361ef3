import Outbox.Text.Normal
import Outbox.Url.Domain.Direction
import Outbox.Url.Domain.Mapping
import Outbox.Url.Domain.Marks
import Outbox.Url.Percent
import Outbox.Url.Punycode

/-!
# Domains

A domain is read in any spelling and kept in ASCII. Its characters are mapped and composed, then
each of its labels is checked, one that is written in ASCII already by what it stands for, and last
the labels beyond ASCII are written in ASCII.
-/
namespace Outbox.Url

open Text

/-- The characters of ASCII that no domain may hold. -/
def isForbiddenInDomain (c : Char) : Bool :=
  c.toNat ≤ 0x20 || c.toNat == 0x7f
    || ['%', '#', '/', ':', '<', '>', '?', '@', '[', '\\', ']', '^', '|'].contains c

/-- A label as it is read and as it is written in ASCII. -/
structure Label where
  plain : List Char
  ascii : List Char

namespace Label

/-- What labels beyond ASCII begin with in ASCII. -/
def mark : List Char := ['x', 'n', '-', '-']

/-- The checks of a label that is mapped and composed. -/
def isValid (cs : List Char) : Bool :=
  !cs.any isForbiddenInDomain && !(cs.head?.map isMark).getD false && joinersFit [] cs

/-- Whether mapping and composing leave a label as it is. -/
def isStable (cs : List Char) : Bool :=
  match cs.mapM mapChar? with
  | some mapped => mapped.flatten == cs && normalize cs == cs
  | none => false

def isAscii (cs : List Char) : Bool := cs.all fun c => c.toNat < 0x80

/-- Reads a label that is mapped and composed. -/
def read? (cs : List Char) : Option Label :=
  if mark.isPrefixOf cs then
    match Punycode.decode? (cs.drop mark.length) with
    | none => none
    | some plain =>
      if isAscii plain || !isStable plain || !isValid plain then none else some ⟨plain, cs⟩
  else if !isValid cs then none
  else if isAscii cs then some ⟨cs, cs⟩
  else some ⟨cs, mark ++ Punycode.encode cs⟩

end Label

/-- The domain of a text in ASCII. -/
def domainToAscii? (bytes : List UInt8) : Option (List Char) := do
  let cs ← ofUtf8? bytes
  let mapped ← cs.mapM mapChar?
  let labels ← (splitOn '.' (normalize mapped.flatten)).mapM Label.read?
  let isMixed := labels.any fun l => l.plain.any Direction.isMixing
  if isMixed && !labels.all fun l => Direction.isUniform l.plain then none
  else some (joinWith '.' (labels.map (·.ascii)))

end Outbox.Url
