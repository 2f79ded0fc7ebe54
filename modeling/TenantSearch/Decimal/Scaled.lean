import TenantSearch.Decimal.Literal
import TenantSearch.Word.Saturating

/-!
# `TenantSearch.Decimal.Scaled`: the number of a literal

A whole literal that fits a 64-bit word is an integer. Any other literal is a float, found in
two steps. The digits are taken into a 64-bit significand for as long as they fit, and the
decimal exponent makes up for the digits that were left. Then the float of the significand is
multiplied or divided once by the float of the power of ten. Each of the two operations rounds,
so the result can be one unit away from the float nearest to the literal.
-/

set_option autoImplicit false

namespace TenantSearch.Decimal

/-- The number of a literal. -/
inductive Number where
  | integer (n : Int)
  | float (x : Float)
  /-- The literal is beyond the floats. -/
  | tooLarge

/-- The largest power of ten among the floats has this exponent. -/
def maxPower : Nat := 308

/-- The largest exponent that is still counted. -/
def maxExponent : Nat := 0x7fffffff

/-- The float nearest to `10 ^ k`. -/
def powerOfTen (k : Nat) : Float := Float.ofScientific 1 false k

/-- Appends digits to the significand for as long as it fits 64 bits. The second part is what
did not fit. -/
def takeDigits (significand : Nat) : List Nat → Nat × List Nat
  | [] => (significand, [])
  | d :: rest =>
    if significand * 10 + d ≤ Word.maxUnsigned then takeDigits (significand * 10 + d) rest
    else (significand, d :: rest)

/-- The float of `significand · 10 ^ exponent`. None, when it is beyond the floats. -/
def scale? (significand : Nat) (exponent : Int) : Option Float :=
  let x := significand.toUInt64.toFloat
  if 0 ≤ exponent then
    if exponent ≤ maxPower then
      let y := x * powerOfTen exponent.toNat
      if y.isInf then none else some y
    else if significand = 0 then some 0.0
    else none
  else
    let k := (-exponent).toNat
    if k ≤ maxPower then some (x / powerOfTen k)
    else if k ≤ 2 * maxPower then some (x / powerOfTen maxPower / powerOfTen (k - maxPower))
    else some 0.0

/-- The size of the number of the literal as a float. -/
def Literal.magnitude? (l : Literal) : Option Float :=
  let (significand, left) := takeDigits 0 l.whole
  let (significand, unused) := takeDigits significand l.fraction
  let start : Int := left.length - (l.fraction.length - unused.length : Nat)
  match l.exponent with
  | none => scale? significand start
  | some (negative, digits) =>
    let e := ofDigits digits
    if e ≤ maxExponent then
      scale? significand (if negative then start - e else start + e)
    else if significand = 0 || negative then some 0.0
    else none

/-- The number of the literal. Zero with a minus sign is the negative float zero. -/
def Literal.number (l : Literal) : Number :=
  let n := ofDigits l.whole
  if l.isWhole && !l.negative && n ≤ Word.maxUnsigned then .integer n
  else if l.isWhole && l.negative && 0 < n && n ≤ 0x8000000000000000 then .integer (-n)
  else
    match l.magnitude? with
    | some x => .float (if l.negative then -x else x)
    | none => .tooLarge

end TenantSearch.Decimal
