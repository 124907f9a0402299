import WebDocs.Decimal.Basic

namespace WebDocs

/-- The binary64 number mantissa · 2 ^ exponent, with a mantissa below 2 ^ 53 and the least
exponent -1074. -/
structure Binary where
  mantissa : Nat
  exponent : Int
  deriving DecidableEq

namespace Binary

/-- The nearest integer of a quotient; a half goes to the even neighbour. -/
def roundDiv (num den : Nat) : Nat :=
  let q := num / den
  let twice := 2 * (num % den)
  if twice < den then q
  else if den < twice then q + 1
  else if q % 2 = 0 then q else q + 1

/-- num / (den · 2 ^ e) as a fraction of natural numbers. -/
def scale (num den : Nat) (e : Int) : Nat × Nat :=
  if 0 ≤ e then (num, den * Nat.pow 2 e.toNat) else (num * Nat.pow 2 (-e).toNat, den)

/-- The nearest binary64 number of a positive fraction, if it is below 2 ^ 1024. -/
def ofFraction? (num den : Nat) : Option Binary :=
  let bits : Int := Int.ofNat num.log2 - Int.ofNat den.log2
  let low : Int := max (-1074) (bits - 53)
  let (n, d) := scale num den low
  let e : Int := if Nat.pow 2 53 ≤ n / d then low + 1 else low
  let (n, d) := scale num den e
  let m := roundDiv n d
  let (m, e) := if m = Nat.pow 2 53 then (Nat.pow 2 52, e + 1) else (m, e)
  if 971 < e then none else some ⟨m, e⟩

/-- The exponent p with 10 ^ (p - 1) ≤ value < 10 ^ p, for a positive value. -/
def magnitude (b : Binary) : Int :=
  let (n, d) := scale (b.mantissa * Nat.pow 10 400) 1 (-b.exponent)
  Int.ofNat (Decimal.digitsOf (n / d)).length - 400

/-- The neighbours of a value on one decimal grid, and which of them read back as the value.
Amounts are in quarters of a unit in the last place of the mantissa. -/
def onGrid? (b : Binary) (k : Int) : Option Nat :=
  let unit := b.exponent - 2
  let up := Nat.pow 10 k.toNat * Nat.pow 2 (-unit).toNat
  let down := Nat.pow 2 unit.toNat * Nat.pow 10 (-k).toNat
  let below := if b.mantissa = Nat.pow 2 52 ∧ -1074 < b.exponent then 1 else 2
  let value := 4 * b.mantissa * down
  let low := (4 * b.mantissa - below) * down
  let high := (4 * b.mantissa + 2) * down
  let reads (c : Nat) : Bool :=
    let p := c * up
    if b.mantissa % 2 = 0 then low ≤ p && p ≤ high else low < p && p < high
  let c := value / up
  let fromFloor := value - c * up
  let fromCeil := (c + 1) * up - value
  match decide (0 < c) && reads c, reads (c + 1) with
  | true, true =>
    if fromFloor < fromCeil then some c
    else if fromCeil < fromFloor then some (c + 1)
    else if c % 2 = 0 then some c else some (c + 1)
  | true, false => some c
  | false, true => some (c + 1)
  | false, false => none

/-- The coarsest grid with a decimal that reads back, from the grid of `k` on. -/
def shortestFrom (b : Binary) (negative : Bool) (k : Int) : Nat → Decimal
  | 0 => .reduce negative (b.mantissa * Nat.pow 2 b.exponent.toNat) 0
  | more + 1 =>
    match b.onGrid? k with
    | some digits => .reduce negative digits k
    | none => b.shortestFrom negative (k - 1) more

/-- The shortest decimal that reads back, the nearest of those; seventeen digits always do. -/
def shortest (b : Binary) (negative : Bool) : Decimal :=
  if b.mantissa = 0 then .zero negative
  else b.shortestFrom negative (b.magnitude - 1) 18

end Binary

namespace Decimal

/-- The binary64 number nearest to digits · 10 ^ exponent, if it is finite. A number far outside
the range is recognised by its magnitude alone. -/
def binary? (digits : Nat) (exponent : Int) : Option Binary :=
  if digits = 0 then some ⟨0, -1074⟩
  else
    let magnitude := Int.ofNat (digitsOf digits).length + exponent
    if 310 < magnitude then none
    else if magnitude < -330 then some ⟨0, -1074⟩
    else Binary.ofFraction? (digits * Nat.pow 10 exponent.toNat) (Nat.pow 10 (-exponent).toNat)

def ofScientific (negative : Bool) (digits : Nat) (exponent : Int) : Decimal :=
  match binary? digits exponent with
  | some b => b.shortest negative
  | none => infinite negative

/-- The nearest binary64 number of an integer; none when it is too large. -/
def ofInt? (n : Int) : Option Decimal :=
  (binary? n.natAbs 0).map (·.shortest (n < 0))

/-- The integer part of a finite binary64 number. -/
def truncate? : Decimal → Option Int
  | finite negative digits exponent _ =>
    (binary? digits exponent).map fun b =>
      let n : Int := Int.ofNat
        (b.mantissa * Nat.pow 2 b.exponent.toNat / Nat.pow 2 (-b.exponent).toNat)
      if negative then -n else n
  | _ => none

end Decimal
end WebDocs
