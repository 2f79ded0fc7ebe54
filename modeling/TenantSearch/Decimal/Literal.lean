/-!
# `TenantSearch.Decimal.Literal`: numbers as they are written

A literal is a sign, whole digits, digits after the point and an exponent. This module reads
one from its characters and loses nothing. What number it stands for is decided in
`TenantSearch.Decimal.Scaled`.
-/

set_option autoImplicit false

namespace TenantSearch.Decimal

/-- The value of a decimal digit. -/
def digit? (c : Char) : Option Nat :=
  if '0' ≤ c ∧ c ≤ '9' then some (c.toNat - '0'.toNat) else none

/-- The leading digits and what follows them. -/
def spanDigits : List Char → List Nat × List Char
  | [] => ([], [])
  | c :: rest =>
    match digit? c with
    | some d => (d :: (spanDigits rest).1, (spanDigits rest).2)
    | none => ([], c :: rest)

/-- The number that the digits spell. -/
def ofDigits (digits : List Nat) : Nat :=
  digits.foldl (fun n d => n * 10 + d) 0

/-- A written number. -/
structure Literal where
  negative : Bool
  /-- The digits before the point, at least one. -/
  whole : List Nat
  /-- The digits after the point. None, when there is no point. -/
  fraction : List Nat
  /-- The sign (true for minus) and the digits of the exponent. -/
  exponent : Option (Bool × List Nat)
deriving DecidableEq

namespace Literal

/-- Whether the literal has neither a point nor an exponent. -/
def isWhole (l : Literal) : Bool :=
  l.fraction.isEmpty && l.exponent.isNone

/-- Reads the exponent, which ends the literal. -/
def readExponent? : List Char → Option (Option (Bool × List Nat))
  | [] => some none
  | c :: rest =>
    if c = 'e' ∨ c = 'E' then
      let (negative, digits) :=
        match rest with
        | '-' :: digits => (true, digits)
        | '+' :: digits => (false, digits)
        | digits => (false, digits)
      match spanDigits digits with
      | ([], _) => none
      | (ds, []) => some (some (negative, ds))
      | (_, _ :: _) => none
    else none

/-- Reads a literal that takes up all of the characters. A whole part of several digits does
not start with zero, and a point stands between digits. -/
def read? (text : List Char) : Option Literal := do
  let (negative, rest) :=
    match text with
    | '-' :: rest => (true, rest)
    | rest => (false, rest)
  let (whole, rest) := spanDigits rest
  match whole with
  | [] => none
  | 0 :: _ :: _ => none
  | _ =>
    let (pointed, fraction, rest) :=
      match rest with
      | '.' :: rest => (true, spanDigits rest)
      | rest => (false, ([], rest))
    if pointed && fraction.isEmpty then none
    else
      let exponent ← readExponent? rest
      some { negative, whole, fraction, exponent }

end Literal

end TenantSearch.Decimal
