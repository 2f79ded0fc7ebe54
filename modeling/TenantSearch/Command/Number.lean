import TenantSearch.Word.Saturating

/-!
# `TenantSearch.Command.Number`: numbers on the command line

A number is a run of digits with or without a sign. Zeros in front do not matter. A plus sign is
always allowed, a minus sign only where negative numbers are read.
-/

set_option autoImplicit false

namespace TenantSearch.Command

/-- The number with these digits. There has to be one digit. -/
def digits? (cs : List Char) : Option Nat :=
  if cs.isEmpty || !cs.all Char.isDigit then none
  else some (cs.foldl (fun n c => n * 10 + (c.toNat - '0'.toNat)) 0)

/-- Reads a signed number. -/
def integer? (text : String) : Option Int :=
  match text.toList with
  | '-' :: rest => (digits? rest).map fun n => -(n : Int)
  | '+' :: rest => (digits? rest).map Int.ofNat
  | cs => (digits? cs).map Int.ofNat

/-- Reads a number without a minus sign. -/
def natural? (text : String) : Option Nat :=
  match text.toList with
  | '+' :: rest => digits? rest
  | cs => digits? cs

/-- Reads a signed number of 64 bits. -/
def int64? (text : String) : Option Int64 := (integer? text).bind Word.ofInt?

/-- Reads a number of 64 bits. -/
def uint64? (text : String) : Option UInt64 :=
  (natural? text).bind fun n => if n ≤ Word.maxUnsigned then some n.toUInt64 else none

/-- Reads a signed number that lies between zero and `high`. -/
def upTo? (high : Nat) (text : String) : Option Nat :=
  (int64? text).bind fun n =>
    if 0 ≤ n.toInt && n.toInt ≤ high then some n.toInt.toNat else none

/-- Reads a number of 16 bits. -/
def uint16? (text : String) : Option UInt16 := (upTo? Word.maxUnsigned16 text).map Nat.toUInt16

/-- Reads a number of 32 bits. -/
def uint32? (text : String) : Option UInt32 := (upTo? Word.maxUnsigned32 text).map Nat.toUInt32

end TenantSearch.Command
