import Mathlib.Data.String.Basic

/-!
# Texts by their bytes

Texts are compared by code point, and a database compares their bytes. Both come to the same order:
of two characters the greater one has either more bytes, and then a greater first byte, or as many,
and then a greater one at the first place where they differ.
-/
namespace Outbox.Text

/-- The bytes of a text. -/
def bytes (s : String) : List UInt8 := s.toUTF8.data.toList

theorem bytes_eq (s : String) : bytes s = s.toList.flatMap String.utf8EncodeChar := by
  rw [bytes, String.toUTF8, ← String.utf8Encode_toList, List.utf8Encode, List.data_toByteArray]

theorem cons_byte_lt_iff {m n : Nat} {xs ys : List UInt8} :
    UInt8.ofNat m :: xs < UInt8.ofNat n :: ys ↔
      m % 256 < n % 256 ∨ m % 256 = n % 256 ∧ xs < ys := by
  rw [List.cons_lt_cons_iff, UInt8.lt_iff_toNat_lt, ← UInt8.toNat_inj, UInt8.toNat_ofNat',
    UInt8.toNat_ofNat']

/-- Two characters are told apart by their bytes, whatever follows them. -/
theorem encode_lt_encode {c d : Char} (lt : c < d) (xs ys : List UInt8) :
    String.utf8EncodeChar c ++ xs < String.utf8EncodeChar d ++ ys := by
  have below : c.val.toNat < d.val.toNat := lt
  have bound : d.val.toNat < 1114112 := by
    rcases d.valid with low | ⟨-, high⟩
    · exact lt_trans low (by decide)
    · exact high
  -- A byte that continues a character holds one digit of its number to base 64.
  have third (n : Nat) : n / 4096 = n / 64 / 64 := (Nat.div_div_eq_div_mul n 64 64).symm
  have fourth (n : Nat) : n / 262144 = n / 64 / 64 / 64 := by
    rw [← third, Nat.div_div_eq_div_mul]
  simp only [String.utf8EncodeChar, third, fourth]
  generalize c.val.toNat = m at *
  generalize d.val.toNat = n at *
  -- The numbers of bytes decide, and where they agree the digits do.
  split_ifs <;> simp only [List.cons_append, List.nil_append, cons_byte_lt_iff] <;> omega

theorem encode_all_lt_encode_all {cs ds : List Char} (lt : cs < ds) :
    cs.flatMap String.utf8EncodeChar < ds.flatMap String.utf8EncodeChar := by
  induction cs generalizing ds with
  | nil =>
    cases ds with
    | nil => cases lt
    | cons d ds =>
      rw [List.flatMap_nil, List.flatMap_cons]
      cases encoded : String.utf8EncodeChar d with
      | nil => exact absurd encoded String.utf8EncodeChar_ne_nil
      | cons x xs => exact List.nil_lt_cons x _
  | cons c cs ih =>
    cases ds with
    | nil => cases lt
    | cons d ds =>
      rw [List.flatMap_cons, List.flatMap_cons]
      rcases List.cons_lt_cons_iff.mp lt with less | ⟨rfl, less⟩
      · exact encode_lt_encode less _ _
      · exact List.append_left_lt (ih less)

theorem bytes_lt_bytes {s t : String} (lt : s < t) : bytes s < bytes t := by
  rw [bytes_eq, bytes_eq]
  exact encode_all_lt_encode_all (String.lt_iff_toList_lt.mp lt)

/-- The order of texts is the order of their bytes. -/
theorem bytes_lt_iff {s t : String} : bytes s < bytes t ↔ s < t := by
  refine ⟨fun lt => ?_, bytes_lt_bytes⟩
  -- The order is total and bytes keep it, so they can only have it from the texts.
  rcases lt_trichotomy s t with less | rfl | more
  · exact less
  · exact absurd lt (List.lt_irrefl _)
  · exact absurd lt (List.lt_asymm (bytes_lt_bytes more))

end Outbox.Text
