import Mathlib.Data.String.Basic
import Outbox.Json.Reader

/-!
# Plain values

A value without doubles is the kind that is read back as it is. What it takes besides is that the
members of an object stand in the order of their keys: as every object has them so, putting them
into it one by one moves none.
-/
namespace Outbox.Json

mutual

/-- Whether something holds of a value and of all values in it. -/
def all (p : Json → Bool) : Json → Bool
  | .arr xs => p (.arr xs) && allElements p xs
  | .obj ms => p (.obj ms) && allMembers p ms
  | v => p v

def allElements (p : Json → Bool) : List Json → Bool
  | [] => true
  | x :: rest => all p x && allElements p rest

def allMembers (p : Json → Bool) : List (String × Json) → Bool
  | [] => true
  | (_, v) :: rest => all p v && allMembers p rest

end

theorem allElements_iff {p : Json → Bool} {xs : List Json} :
    allElements p xs = true ↔ ∀ x ∈ xs, x.all p = true := by
  induction xs with
  | nil => simp [allElements]
  | cons x xs ih => rw [allElements, Bool.and_eq_true, ih, List.forall_mem_cons]

theorem allMembers_iff {p : Json → Bool} {ms : List (String × Json)} :
    allMembers p ms = true ↔ ∀ m ∈ ms, m.2.all p = true := by
  induction ms with
  | nil => simp [allMembers]
  | cons m ms ih =>
    obtain ⟨key, v⟩ := m
    rw [allMembers, Bool.and_eq_true, ih, List.forall_mem_cons]

/-- A number that is kept as a double and not as an integer. -/
def isDouble : Json → Bool
  | .num (.real _) => true
  | _ => false

/-- The members of an object by their keys, each key once, as every object has them. -/
def isSorted : Json → Bool
  | .obj ms => decide (ms.Pairwise fun a b => a.1 < b.1)
  | _ => true

/-- A value without doubles. -/
structure IsPlain (v : Json) : Prop where
  integers : v.all (!·.isDouble) = true
  sorted : v.all isSorted = true

instance (v : Json) : Decidable v.IsPlain :=
  decidable_of_iff (v.all (!·.isDouble) = true ∧ v.all isSorted = true)
    ⟨fun ⟨integers, sorted⟩ => ⟨integers, sorted⟩, fun plain => ⟨plain.integers, plain.sorted⟩⟩

theorem IsPlain.element {xs : List Json} (plain : (Json.arr xs).IsPlain) {x : Json}
    (member : x ∈ xs) : x.IsPlain := by
  obtain ⟨integers, sorted⟩ := plain
  rw [all, Bool.and_eq_true, allElements_iff] at integers sorted
  exact ⟨integers.2 x member, sorted.2 x member⟩

theorem IsPlain.member {ms : List (String × Json)} (plain : (Json.obj ms).IsPlain)
    {m : String × Json} (member : m ∈ ms) : m.2.IsPlain := by
  obtain ⟨integers, sorted⟩ := plain
  rw [all, Bool.and_eq_true, allMembers_iff] at integers sorted
  exact ⟨integers.2 m member, sorted.2 m member⟩

theorem IsPlain.pairwise {ms : List (String × Json)} (plain : (Json.obj ms).IsPlain) :
    ms.Pairwise fun a b => a.1 < b.1 := by
  have sorted := plain.sorted
  rw [all, Bool.and_eq_true] at sorted
  exact of_decide_eq_true sorted.1

/-! ## Members in their places -/

/-- A member whose key is above all others goes to the end. -/
theorem setMember_of_greater {key : String} {ms : List (String × Json)}
    (above : ∀ m ∈ ms, m.1 < key) (v : Json) : setMember key v ms = ms ++ [(key, v)] := by
  induction ms with
  | nil => rfl
  | cons m ms ih =>
    obtain ⟨k, w⟩ := m
    have less : k < key := above (k, w) List.mem_cons_self
    rw [setMember, if_neg less.ne', if_neg (lt_asymm less),
      ih fun m member => above m (List.mem_cons_of_mem _ member)]
    rfl

theorem ofMembers_of_sorted {ms : List (String × Json)}
    (sorted : ms.Pairwise fun a b => a.1 < b.1) : ofMembers ms = .obj ms := by
  have folded (rest before : List (String × Json))
      (sorted : (before ++ rest).Pairwise fun a b => a.1 < b.1) :
      rest.foldl (fun done m => setMember m.1 m.2 done) before = before ++ rest := by
    -- What was put in so far has smaller keys than what is to come.
    induction rest generalizing before with
    | nil => rw [List.foldl_nil, List.append_nil]
    | cons m rest ih =>
      obtain ⟨-, -, apart⟩ := List.pairwise_append.mp sorted
      have last := setMember_of_greater (fun b member => apart b member m List.mem_cons_self) m.2
      rw [List.foldl_cons, last, ih]
      · rw [List.append_assoc, List.singleton_append]
      · rwa [List.append_assoc, List.singleton_append]
  exact congrArg Json.obj (folded ms [] sorted)

end Outbox.Json
