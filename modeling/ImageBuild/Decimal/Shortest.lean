import ImageBuild.Decimal.Binary64
import ImageBuild.Decimal.Signed

/-!
# The shortest decimal that reads back

`shortest` gives, for a positive binary64 number, the fewest decimal digits
whose number lies among the reals that round to it, and of those the nearest.
`Layout` says how digits and a power of ten are written down.
-/
namespace ImageBuild.Decimal

/-- A positive number with its rounding interval, over one denominator. -/
structure Interval where
  low : Nat
  value : Nat
  high : Nat
  den : Nat
  /-- Whether the two ends belong to the interval. -/
  closed : Bool

/-- The reals that round to a positive number. Below the least number of a
binade the spacing is halved. -/
def Interval.of (m : Nat) (e : Int) : Interval :=
  let below := if m = Nat.pow 2 52 && e > Binary64.minExponent then 1 else 2
  if e ≥ 2 then
    let s := Nat.pow 2 (e - 2).toNat
    ⟨(4 * m - below) * s, 4 * m * s, (4 * m + 2) * s, 1, m % 2 == 0⟩
  else
    ⟨4 * m - below, 4 * m, 4 * m + 2, Nat.pow 2 (2 - e).toNat, m % 2 == 0⟩

/-- Whether `n * 10 ^ p` lies in the interval. -/
def Interval.contains (i : Interval) (n : Nat) (p : Int) : Bool :=
  let (x, d) :=
    if p ≥ 0 then (n * Nat.pow 10 p.toNat * i.den, 1) else (n * i.den, Nat.pow 10 (-p).toNat)
  if i.closed then i.low * d ≤ x && x ≤ i.high * d else i.low * d < x && x < i.high * d

/-- The integer part of the value divided by `10 ^ p`, and whether the next
integer is nearer to the quotient. -/
def Interval.cut (i : Interval) (p : Int) : Nat × Bool :=
  let (x, d) :=
    if p ≥ 0 then (i.value, i.den * Nat.pow 10 p.toNat)
    else (i.value * Nat.pow 10 (-p).toNat, i.den)
  let q := x / d
  let r := x % d
  (q, 2 * r > d || (2 * r == d && q % 2 == 1))

/-- The position of the decimal point: the value is below `10 ^ pointOf` and
not below a tenth of it. -/
def Interval.pointOf (i : Interval) : Int :=
  if i.den ≤ i.value then ((Nat.toDigits 10 (i.value / i.den)).length : Int)
  else
    let rec go : Nat → Nat → Int → Int
      | 0, _, p => p
      | fuel + 1, x, p => if i.den ≤ x * 10 then p else go fuel (x * 10) (p - 1)
    go 400 i.value 0

/-- On the grid of `10 ^ p`, the neighbour of the value that lies in the
interval; of two, the nearer. -/
def Interval.onGrid? (i : Interval) (p : Int) : Option Nat :=
  let (n, up) := i.cut p
  match i.contains n p && n != 0, i.contains (n + 1) p with
  | true, true => some (if up then n + 1 else n)
  | true, false => some n
  | false, true => some (n + 1)
  | false, false => none

/-- The first grid with a hit, from one digit on. -/
def Interval.search (i : Interval) (point : Int) : Nat → Nat → Nat × Int
  | 0, _ => (i.value / i.den, 0)
  | fuel + 1, n =>
    match i.onGrid? (point - n) with
    | some d => (d, point - n)
    | none => i.search point fuel (n + 1)

/-- Fewest digits and power of ten for a positive significand. -/
def shortest (m : Nat) (e : Int) : Nat × Int :=
  let i := Interval.of m e
  i.search i.pointOf 17 1

/-- How a finite number is written: where positional notation is used, and
whether a positive exponent carries a sign. -/
structure Layout where
  /-- Greatest position of the decimal point that is written out. -/
  pointMax : Int
  /-- Positions of the decimal point up to this one use an exponent. -/
  pointMin : Int
  plusSign : Bool

/-- The digits `d * 10 ^ p` of a positive number in a layout. An integer keeps
one zero after its point. -/
def Layout.write (l : Layout) (d : Nat) (p : Int) : List Char :=
  let ds := Nat.toDigits 10 d
  let n := ds.length
  let point : Int := n + p
  if l.pointMin < point && point ≤ l.pointMax then
    if p ≥ 0 then ds ++ List.replicate p.toNat '0' ++ ['.', '0']
    else if point > 0 then ds.take point.toNat ++ '.' :: ds.drop point.toNat
    else '0' :: '.' :: (List.replicate (-point).toNat '0' ++ ds)
  else
    let mantissa := match ds with
      | [] => []
      | [c] => [c]
      | c :: rest => c :: '.' :: rest
    let exponent := point - 1
    let sign := if l.plusSign && exponent ≥ 0 then ['+'] else []
    mantissa ++ 'e' :: (sign ++ (toString exponent).toList)

/-- Trailing zeros of the digits moved into the power. -/
def stripZeros : Nat → Nat → Int → Nat × Int
  | 0, d, p => (d, p)
  | fuel + 1, d, p => if d % 10 = 0 && d != 0 then stripZeros fuel (d / 10) (p + 1) else (d, p)

/-- A finite number in a layout. -/
def Binary64.render (l : Layout) (x : Binary64) : List Char :=
  let sign := if x.negative then ['-'] else []
  if x.significand = 0 then sign ++ ['0', '.', '0']
  else
    let (d, p) := shortest x.significand x.exponent
    let (d, p) := stripZeros 20 d p
    sign ++ l.write d p

end ImageBuild.Decimal
