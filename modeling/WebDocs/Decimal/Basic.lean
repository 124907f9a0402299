namespace WebDocs

/-- Digits without a trailing zero; zero has exponent zero. -/
def Reduced (digits : Nat) (exponent : Int) : Prop :=
  (digits = 0 ∧ exponent = 0) ∨ digits % 10 ≠ 0

instance (digits : Nat) (exponent : Int) : Decidable (Reduced digits exponent) :=
  inferInstanceAs (Decidable (_ ∨ _))

/-- `finite negative digits exponent` is ± digits · 10 ^ exponent. -/
inductive Decimal
  | nan
  | infinite (negative : Bool)
  | finite (negative : Bool) (digits : Nat) (exponent : Int) (reduced : Reduced digits exponent)
  deriving DecidableEq

namespace Decimal

def zero (negative : Bool) : Decimal := finite negative 0 0 (.inl ⟨rfl, rfl⟩)

instance : Inhabited Decimal := ⟨zero false⟩

/-- Moves the trailing zeros of the digits into the exponent. -/
def reduce (negative : Bool) (digits : Nat) (exponent : Int) : Decimal :=
  if h : digits = 0 then zero negative
  else if h' : digits % 10 = 0 then reduce negative (digits / 10) (exponent + 1)
  else finite negative digits exponent (.inr h')
  termination_by digits
  decreasing_by omega

/-- The decimal digits of a number, most significant first; zero has one digit. -/
def digitsOf (n : Nat) : List Char := Nat.toDigits 10 n

def signText (negative : Bool) : List Char := if negative then ['-'] else []

/-- A sign and at least two digits. -/
def exponentText (e : Int) : List Char :=
  let digits := digitsOf e.natAbs
  (if e < 0 then '-' else '+') :: (if digits.length < 2 then '0' :: digits else digits)

/-- The digits with the point after the first `point` of them: positional from 0.0001 up to
10 ^ 16, always with a point, and scientific outside. -/
def place (digits : List Char) (point : Int) : List Char :=
  if -4 < point ∧ point ≤ 16 then
    if point ≤ 0 then '0' :: '.' :: List.replicate (-point).toNat '0' ++ digits
    else
      let whole := point.toNat
      if digits.length ≤ whole then
        digits ++ List.replicate (whole - digits.length) '0' ++ ['.', '0']
      else digits.take whole ++ '.' :: digits.drop whole
  else
    match digits with
    | [] => []
    | [d] => d :: 'e' :: exponentText (point - 1)
    | d :: rest => d :: '.' :: rest ++ 'e' :: exponentText (point - 1)

/-- The digits and the point, without the sign; zero stands before its point. -/
def magnitudeText (digits : Nat) (exponent : Int) : List Char :=
  if digits = 0 then ['0', '.', '0']
  else place (digitsOf digits) ((digitsOf digits).length + exponent)

/-- The spellings of the numbers that are no number or no finite one. -/
structure Spelling where
  nan : List Char
  infinity : List Char

def textAs (spelling : Spelling) : Decimal → List Char
  | nan => spelling.nan
  | infinite negative => signText negative ++ spelling.infinity
  | finite negative digits exponent _ => signText negative ++ magnitudeText digits exponent

/-- `0.1`, `1e+16`, `-0.0`, `inf`, `nan`. -/
def text : Decimal → List Char := textAs ⟨"nan".toList, "inf".toList⟩

end Decimal
end WebDocs
