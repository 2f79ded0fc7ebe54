/-!
# `TenantSearch.Text.Base64`: bytes as text

Three bytes become four characters of an alphabet of 64. A last group of one or two bytes is
filled up with `=`.
-/

set_option autoImplicit false

namespace TenantSearch.Text.Base64

/-- The character for a number below 64. -/
def symbol (n : Nat) : Char :=
  if n < 26 then Char.ofNat ('A'.toNat + n)
  else if n < 52 then Char.ofNat ('a'.toNat + (n - 26))
  else if n < 62 then Char.ofNat ('0'.toNat + (n - 52))
  else if n = 62 then '+'
  else '/'

/-- The characters of the bytes. -/
def encodeBytes : List UInt8 → List Char
  | [] => []
  | [a] =>
    let n := a.toNat * 16
    [symbol (n / 64), symbol (n % 64), '=', '=']
  | [a, b] =>
    let n := (a.toNat * 256 + b.toNat) * 4
    [symbol (n / 4096), symbol (n / 64 % 64), symbol (n % 64), '=']
  | a :: b :: c :: rest =>
    let n := (a.toNat * 256 + b.toNat) * 256 + c.toNat
    symbol (n / 262144) :: symbol (n / 4096 % 64) :: symbol (n / 64 % 64) ::
      symbol (n % 64) :: encodeBytes rest

/-- The text in UTF-8, as characters of the alphabet. -/
def encode (s : String) : String := String.ofList (encodeBytes s.toUTF8.toList)

end TenantSearch.Text.Base64
