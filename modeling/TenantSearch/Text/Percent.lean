/-!
# `TenantSearch.Text.Percent`: percent encoding

In a URL a byte may be written as `%` and two hexadecimal digits. Decoding replaces each such
escape by its byte and leaves every other character, also a `%` that starts no escape. The
bytes are a text only if they are valid UTF-8.
-/

set_option autoImplicit false

namespace TenantSearch.Text.Percent

/-- The value of a hexadecimal digit of either case. -/
def hexDigit? (b : UInt8) : Option UInt8 :=
  if 0x30 ≤ b ∧ b ≤ 0x39 then some (b - 0x30)
  else if 0x41 ≤ b ∧ b ≤ 0x46 then some (b - 0x41 + 10)
  else if 0x61 ≤ b ∧ b ≤ 0x66 then some (b - 0x61 + 10)
  else none

/-- The byte of the escape at the front, when there is one. -/
def escape? : List UInt8 → Option UInt8
  | 0x25 :: high :: low :: _ =>
    match hexDigit? high, hexDigit? low with
    | some h, some l => some (h * 16 + l)
    | _, _ => none
  | _ => none

/-- The bytes with every escape replaced. The first argument counts the characters of an
escape that are still to be skipped. -/
def decodeFrom : Nat → List UInt8 → List UInt8
  | _, [] => []
  | skip + 1, _ :: rest => decodeFrom skip rest
  | 0, b :: rest =>
    match escape? (b :: rest) with
    | some value => value :: decodeFrom 2 rest
    | none => b :: decodeFrom 0 rest

/-- The text behind the escapes. None, when its bytes are not UTF-8. -/
def decode? (s : String) : Option String :=
  String.fromUTF8? ⟨(decodeFrom 0 s.toUTF8.toList).toArray⟩

end TenantSearch.Text.Percent
