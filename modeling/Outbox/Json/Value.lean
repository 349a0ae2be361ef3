import Outbox.Number.Shortest

/-!
# JSON values

A payload is any JSON value. A number keeps its kind: a natural number or a negative integer of
machine size, or else a double. The members of an object are sorted by key, each key once, so two
values are equal exactly when they are written the same way.
-/
namespace Outbox

open Number

namespace Json

/-- A JSON number: `0 ≤ n < 2 ^ 64`, `-(n + 1)` with `n < 2 ^ 63`, or a finite double. -/
inductive Number where
  | nat (n : Fin UInt64.size)
  | negSucc (n : Fin (UInt64.size / 2))
  | real (x : Binary64)
  deriving DecidableEq

namespace Number

/-- The number of an integer of machine size. -/
def ofInt? (n : Int) : Option Number :=
  match n with
  | .ofNat m => if h : m < UInt64.size then some (.nat ⟨m, h⟩) else none
  | .negSucc m => if h : m < UInt64.size / 2 then some (.negSucc ⟨m, h⟩) else none

def toInt? : Number → Option Int
  | .nat n => some (.ofNat n.val)
  | .negSucc n => some (.negSucc n.val)
  | .real _ => none

end Number

end Json

inductive Json where
  | null
  | bool (value : Bool)
  | num (value : Json.Number)
  | str (value : String)
  | arr (elements : List Json)
  | obj (members : List (String × Json))

namespace Json

instance : Inhabited Json := ⟨.null⟩

/-- Sets a member, at the place that its key has in the order of code points. -/
def setMember (key : String) (value : Json) : List (String × Json) → List (String × Json)
  | [] => [(key, value)]
  | (k, v) :: rest =>
    if key = k then (key, value) :: rest
    else if key < k then (key, value) :: (k, v) :: rest
    else (k, v) :: setMember key value rest

/-- The object of a list of members; of a repeated key the last one counts. -/
def ofMembers (members : List (String × Json)) : Json :=
  .obj (members.foldl (fun sorted (k, v) => setMember k v sorted) [])

/-- The natural number, when it has machine size; `null` otherwise. -/
def ofNat (n : Nat) : Json :=
  if h : n < UInt64.size then .num (.nat ⟨n, h⟩) else .null

/-! ## Equality -/

mutual

/-- Whether two values are the same. -/
def same : Json → Json → Bool
  | .null, .null => true
  | .bool x, .bool y => x == y
  | .num x, .num y => x == y
  | .str x, .str y => x == y
  | .arr xs, .arr ys => sameElements xs ys
  | .obj xs, .obj ys => sameMembers xs ys
  | _, _ => false

def sameElements : List Json → List Json → Bool
  | [], [] => true
  | x :: xs, y :: ys => same x y && sameElements xs ys
  | _, _ => false

def sameMembers : List (String × Json) → List (String × Json) → Bool
  | [], [] => true
  | (k, x) :: xs, (l, y) :: ys => k == l && same x y && sameMembers xs ys
  | _, _ => false

end

mutual

theorem same_iff (v w : Json) : same v w = true ↔ v = w := by
  cases v <;> cases w <;> simp [same, sameElements_iff, sameMembers_iff]

theorem sameElements_iff (xs ys : List Json) : sameElements xs ys = true ↔ xs = ys := by
  cases xs <;> cases ys <;> simp [sameElements, same_iff, sameElements_iff]

theorem sameMembers_iff (xs ys : List (String × Json)) : sameMembers xs ys = true ↔ xs = ys := by
  rcases xs with _ | ⟨⟨k, x⟩, xs⟩ <;> rcases ys with _ | ⟨⟨l, y⟩, ys⟩ <;>
    simp [sameMembers, same_iff, sameMembers_iff, and_assoc]

end

instance : DecidableEq Json := fun v w => decidable_of_iff _ (same_iff v w)

end Json

end Outbox
