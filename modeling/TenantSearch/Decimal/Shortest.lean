/-!
# `TenantSearch.Decimal.Shortest`: the fewest digits that read back

A finite float stands for all the real numbers that round to it. Among the decimals of that
interval, `shortest` picks one with the fewest digits. Of several it takes the one nearest to
the float, and of two equally near ones the one with an even last digit.

The interval is found from the bits of the float, and all the comparisons are made on natural
numbers.
-/

set_option autoImplicit false

namespace TenantSearch.Decimal

/-- A positive float in quarters of its last place, with the interval of the real numbers that
round to it. All three numbers count `2 ^ exponent`. -/
structure Interval where
  lower : Nat
  value : Nat
  upper : Nat
  exponent : Int
  /-- Whether the two ends round to the float as well. -/
  closed : Bool

/-- The interval of a positive finite float with these bits. -/
def Interval.ofBits (bits : Nat) : Interval :=
  let fraction : Nat := bits % 0x10000000000000
  let biased : Nat := bits / 0x10000000000000 % 0x800
  let m : Nat := if biased = 0 then fraction else fraction + 0x10000000000000
  let q : Int := if biased = 0 then -1074 else (biased : Int) - 1075
  -- Below a power of two the floats lie twice as dense.
  let gap := if fraction = 0 ∧ 1 < biased then 1 else 2
  { lower := 4 * m - gap
    value := 4 * m
    upper := 4 * m + 2
    exponent := q - 2
    closed := m % 2 == 0 }

/-- The fraction `up / down` that turns a count of `2 ^ e` into a count of `10 ^ p`. -/
def gridRatio (e p : Int) : Nat × Nat :=
  (Nat.pow 2 e.toNat * Nat.pow 10 (-p).toNat, Nat.pow 2 (-e).toNat * Nat.pow 10 p.toNat)

/-- The multiple of `10 ^ p` that is nearest to the float, when one rounds to the float. -/
def Interval.nearest? (i : Interval) (p : Int) : Option Nat :=
  let (up, down) := gridRatio i.exponent p
  let inside (d : Nat) : Bool :=
    if i.closed then i.lower * up ≤ d * down && d * down ≤ i.upper * up
    else i.lower * up < d * down && d * down < i.upper * up
  let below := i.value * up / down
  let above := below + 1
  let toBelow := i.value * up - below * down
  let toAbove := above * down - i.value * up
  match inside below, inside above with
  | true, true =>
    if toBelow < toAbove then some below
    else if toAbove < toBelow then some above
    else some (if below % 2 = 0 then below else above)
  | true, false => some below
  | false, true => some above
  | false, false => none

/-- How many decimal digits a natural number has. -/
def digitCount (n : Nat) : Nat := (Nat.toDigits 10 n).length

/-- The exponent of the first digit of the float. -/
def Interval.magnitude (i : Interval) : Int :=
  let (up, down) := gridRatio i.exponent 0
  if down ≤ i.value * up then (digitCount (i.value * up / down) : Int) - 1
  else -(digitCount ((down - 1) / (i.value * up)) : Int)

/-- The shortest decimal `d · 10 ^ p` of a positive finite float with these bits. Seventeen
digits are always enough. -/
def shortest (bits : Nat) : Nat × Int :=
  let i := Interval.ofBits bits
  let top := i.magnitude
  ((List.range 18).findSome? fun (n : Nat) =>
    (i.nearest? (top - n)).map fun d => (d, top - (n : Int))).getD (0, 0)

/-- How a decimal is laid out: the exponents of the first digit for which it is written
without an exponent. -/
structure Layout where
  smallest : Int
  largest : Int

/-- The digits with a point after the first `point` of them, and at least one digit on each
side. -/
def positional (digits : List Char) (point : Int) : List Char :=
  if point ≤ 0 then
    ['0', '.'] ++ List.replicate (-point).toNat '0' ++ digits
  else if point < digits.length then
    digits.take point.toNat ++ ['.'] ++ digits.drop point.toNat
  else
    digits ++ List.replicate (point.toNat - digits.length) '0' ++ ['.', '0']

/-- The digits with a point after the first of them, and an exponent. -/
def scientific (digits : List Char) (exponent : Int) : List Char :=
  let mantissa :=
    match digits with
    | [] => []
    | [d] => [d]
    | d :: rest => d :: '.' :: rest
  let sign := if exponent < 0 then '-' else '+'
  mantissa ++ ['e', sign] ++ Nat.toDigits 10 exponent.natAbs

/-- The text of the decimal `d · 10 ^ p` with `0 < d`. -/
def Layout.text (layout : Layout) (d : Nat) (p : Int) : List Char :=
  let all := Nat.toDigits 10 d
  let digits := (all.reverse.dropWhile (· = '0')).reverse
  let exponent : Int := p + all.length - 1
  if layout.smallest ≤ exponent ∧ exponent ≤ layout.largest then
    positional digits (exponent + 1)
  else scientific digits exponent

/-- The text of a finite float. -/
def Layout.float (layout : Layout) (x : Float) : String :=
  let bits := x.toBits.toNat
  let sign := if bits / 0x8000000000000000 = 1 then ['-'] else []
  let size := bits % 0x8000000000000000
  if size = 0 then String.ofList (sign ++ ['0', '.', '0'])
  else
    let (d, p) := shortest size
    String.ofList (sign ++ layout.text d p)

end TenantSearch.Decimal
