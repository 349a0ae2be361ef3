/-!
# Base64

Three bytes are written as four characters of an alphabet of 64. What is missing of the last three
bytes is made up for with equals signs.
-/
namespace Outbox.Text.Base64

/-- The character of six bits. -/
def digit (n : Nat) : Char :=
  if n < 26 then Char.ofNat ('A'.toNat + n)
  else if n < 52 then Char.ofNat ('a'.toNat + (n - 26))
  else if n < 62 then Char.ofNat ('0'.toNat + (n - 52))
  else if n = 62 then '+' else '/'

/-- The four characters of 24 bits. -/
def digits (n : Nat) : List Char :=
  [digit (n / 262144 % 64), digit (n / 4096 % 64), digit (n / 64 % 64), digit (n % 64)]

def encode : List UInt8 → List Char
  | [] => []
  | [a] => (digits (65536 * a.toNat)).take 2 ++ ['=', '=']
  | [a, b] => (digits (65536 * a.toNat + 256 * b.toNat)).take 3 ++ ['=']
  | a :: b :: c :: rest => digits (65536 * a.toNat + 256 * b.toNat + c.toNat) ++ encode rest

example : encode [0x66, 0x6f, 0x6f, 0x62, 0x61] = "Zm9vYmE=".toList := by decide

end Outbox.Text.Base64
