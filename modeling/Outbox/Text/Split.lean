/-!
# Parts of a text
-/
namespace Outbox.Text

/-- Splits a text at a character; there is one part more than there are separators. -/
def splitOn (separator : Char) (cs : List Char) : List (List Char) :=
  cs.foldr (fun c parts => match parts with
    | [] => [[c]]
    | part :: rest => if c = separator then [] :: part :: rest else (c :: part) :: rest) [[]]

/-- Joins parts with a character between them. -/
def joinWith (separator : Char) : List (List Char) → List Char
  | [] => []
  | [part] => part
  | part :: rest => part ++ separator :: joinWith separator rest

end Outbox.Text
