import WebDocs.Decimal.Rounding
import WebDocs.Text.Blank
import WebDocs.Text.Digit

namespace WebDocs.Text.Numeral

/-- The ASCII spelling of one character: a digit of another script is its digit, a blank of another
script a blank, and nothing else has one. -/
def plainChar? : CodePoint → Option Char
  | .scalar c =>
    if c.toNat < 0x7f then some c
    else if isBlank c then some ' '
    else (digitValue? c).map fun d => Char.ofNat ('0'.toNat + d)
  | .surrogate _ => none

def isPadding (c : Char) : Bool := c = ' ' || (9 ≤ c.toNat && c.toNat ≤ 13)

/-- The text without the blanks around it, in ASCII. -/
def plain? (s : List CodePoint) : Option (List Char) := (s.mapM plainChar?).map (trimBy isPadding)

def digitOf (c : Char) : Nat := c.toNat - '0'.toNat

/-- Digits behind a digit, each with at most one underscore before it, and what follows. -/
def moreDigits : List Char → List Nat × List Char
  | [] => ([], [])
  | [c] => if c.isDigit then ([digitOf c], []) else ([], [c])
  | c :: d :: rest =>
    if c.isDigit then
      let (found, tail) := moreDigits (d :: rest)
      (digitOf c :: found, tail)
    else if c = '_' && d.isDigit then
      let (found, tail) := moreDigits rest
      (digitOf d :: found, tail)
    else ([], c :: d :: rest)

/-- Digits, single underscores between them allowed, and what follows. -/
def digits : List Char → List Nat × List Char
  | [] => ([], [])
  | c :: rest => if c.isDigit then moreDigits (c :: rest) else ([], c :: rest)

def valueOf (ds : List Nat) : Nat := ds.foldl (fun n d => 10 * n + d) 0

/-- An optional sign; true for minus. -/
def sign : List Char → Bool × List Char
  | '-' :: rest => (true, rest)
  | '+' :: rest => (false, rest)
  | s => (false, s)

def signed (negative : Bool) (n : Nat) : Int := if negative then -(n : Int) else n

/-- A numeral of an integer has at most this many digits. -/
def maxDigits : Nat := 4300

def int? (s : List CodePoint) : Option Int := do
  let (negative, rest) := sign (← plain? s)
  match digits rest with
  | ([], _) => none
  | (ds, []) => if ds.length ≤ maxDigits then some (signed negative (valueOf ds)) else none
  | _ => none

/-- The exponent part: nothing, or `e`, a sign and digits. -/
def exponent? : List Char → Option Int
  | [] => some 0
  | c :: rest =>
    if c = 'e' || c = 'E' then
      let (negative, rest) := sign rest
      match digits rest with
      | ([], _) => none
      | (ds, []) => some (signed negative (valueOf ds))
      | _ => none
    else none

/-- Digits with a point before, among or behind them, and an exponent. -/
def unsigned? (negative : Bool) (s : List Char) : Option Decimal := do
  let (whole, rest) := digits s
  let (fraction, rest) := match rest with
    | '.' :: rest => digits rest
    | _ => ([], rest)
  if whole.isEmpty && fraction.isEmpty then none
  let e ← exponent? rest
  return .ofScientific negative (valueOf (whole ++ fraction)) (e - fraction.length)

def decimal? (s : List CodePoint) : Option Decimal := do
  let (negative, rest) := sign (← plain? s)
  let word := String.ofList (rest.map Char.toLower)
  if word = "inf" || word = "infinity" then some (.infinite negative)
  else if word = "nan" then some .nan
  else unsigned? negative rest

end WebDocs.Text.Numeral
