/-!
# Base64

Bytes as texts of 64 characters: three bytes become four characters, and equals signs fill the last
group.

## Main definitions

* `base64 bs`: the text of some bytes.
-/

namespace RemoteFlags.Text

/-- The character of a number below 64. -/
def base64Char (n : Nat) : Char :=
  if n < 26 then Char.ofNat (65 + n)
  else if n < 52 then Char.ofNat (71 + n)
  else if n < 62 then Char.ofNat (n - 4)
  else if n = 62 then '+'
  else '/'

/-- The first `count` of the four characters of 24 bits. -/
def base64Group (count bits : Nat) : List Char :=
  ([18, 12, 6, 0].take count).map fun shift => base64Char (bits / 2 ^ shift % 64)

/-- The characters of some bytes. -/
def base64Chars : List UInt8 → List Char
  | [] => []
  | [a] => base64Group 2 (a.toNat * 65536) ++ ['=', '=']
  | [a, b] => base64Group 3 (a.toNat * 65536 + b.toNat * 256) ++ ['=']
  | a :: b :: c :: bs =>
    base64Group 4 (a.toNat * 65536 + b.toNat * 256 + c.toNat) ++ base64Chars bs

/-- The text of some bytes. -/
def base64 (bs : List UInt8) : String := String.ofList (base64Chars bs)

end RemoteFlags.Text
