import Outbox.Text.CombiningClass
import Outbox.Text.Composition

/-!
# The composed normal form

Two texts that differ only in the way in which marks are joined to letters have one normal form.
Every character is taken apart, the marks after a letter are sorted by their classes, and then all
that can be composed is composed from the left.
-/
namespace Outbox.Text

/-- Puts a mark in its place among those before it. The list is reversed: the latest character is
its head. -/
def insertMark (c : Char) : List Char → List Char
  | [] => [c]
  | d :: rest =>
    if combiningClass c ≠ 0 ∧ combiningClass c < combiningClass d then d :: insertMark c rest
    else c :: d :: rest

/-- Sorts the marks of a text by their classes. -/
def orderMarks (cs : List Char) : List Char :=
  (cs.foldl (fun reversed c => insertMark c reversed) []).reverse

/-- A text in the middle of its composition: what is finished, the letter to which marks may still
be joined, and the marks after it that were not, all reversed. -/
structure Composing where
  finished : List Char
  letter : Option Char
  marks : List Char

namespace Composing

/-- All that was read, reversed. -/
def all (s : Composing) : List Char := s.marks ++ s.letter.toList ++ s.finished

/-- Joins a character to the letter or sets it behind. A mark is kept from the letter by another
one whose class is not below its own. -/
def next (s : Composing) (c : Char) : Composing :=
  let separate : Composing :=
    if combiningClass c = 0 then ⟨s.all, some c, []⟩ else { s with marks := c :: s.marks }
  match s.letter with
  | none => separate
  | some letter =>
    let free := match s.marks with
      | [] => true
      | m :: _ => combiningClass m < combiningClass c
    match if free then compose? letter c else none with
    | some whole => { s with letter := some whole }
    | none => separate

end Composing

/-- Composes a text whose marks are sorted. -/
def compose (cs : List Char) : List Char := (cs.foldl Composing.next ⟨[], none, []⟩).all.reverse

/-- The composed normal form. -/
def normalize (cs : List Char) : List Char := compose (orderMarks (cs.flatMap decompose))

end Outbox.Text
