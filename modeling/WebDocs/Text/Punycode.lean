import WebDocs.Text.Basic

namespace WebDocs.Text.Punycode

def digit (n : Nat) : CodePoint :=
  if n < 26 then CodePoint.ofNat ('a'.toNat + n) else CodePoint.ofNat ('0'.toNat + (n - 26))

/-- How many values the digit at a place has before it must be followed by another one. -/
def threshold (place bias : Nat) : Nat := max 1 (min 26 (36 * (place + 1) - bias))

theorem one_le_threshold (place bias : Nat) : 1 ≤ threshold place bias := Nat.le_max_left 1 _

def digitsFrom (bias place n : Nat) : List CodePoint :=
  let t := threshold place bias
  if h : t ≤ n then
    digit (t + (n - t) % (36 - t)) :: digitsFrom bias (place + 1) ((n - t) / (36 - t))
  else [digit n]
termination_by n
decreasing_by
  have h1 := one_le_threshold place bias
  have h2 : (n - threshold place bias) / (36 - threshold place bias) ≤ n - threshold place bias :=
    Nat.div_le_self _ _
  simp only [t] at h
  omega

def settle (divisions delta : Nat) : Nat :=
  if 455 < delta then settle (divisions + 36) (delta / 35) else divisions + 36 * delta / (delta + 38)
termination_by delta
decreasing_by omega

/-- The bias after a number is written when so many characters are placed. -/
def adapt (delta placed : Nat) (first : Bool) : Nat :=
  let scaled := if first then delta / 700 else delta / 2
  settle 0 (scaled + scaled / placed)

structure State where
  delta : Nat
  bias : Nat
  placed : Nat
  first : Bool
  written : List CodePoint

/-- Goes over the label for one character: smaller ones are counted, its own places written. -/
def visit (target : Nat) (state : State) (c : CodePoint) : State :=
  if c.toNat < target then { state with delta := state.delta + 1 }
  else if c.toNat = target then
    { delta := 0
      bias := adapt state.delta (state.placed + 1) state.first
      placed := state.placed + 1
      first := false
      written := state.written ++ digitsFrom state.bias 0 state.delta }
  else state

/-- All places of one character, after those of the smaller characters up to `reached`. -/
def place (label : List CodePoint) (step : Nat × State) (target : Nat) : Nat × State :=
  let (reached, state) := step
  let ready := { state with delta := state.delta + (target - reached) * (state.placed + 1) }
  let done := label.foldl (visit target) ready
  (target + 1, { done with delta := done.delta + 1 })

def insertOnce (n : Nat) : List Nat → List Nat
  | [] => [n]
  | m :: rest => if n < m then n :: m :: rest else if n = m then m :: rest else m :: insertOnce n rest

def encode (label : List CodePoint) : List CodePoint :=
  let basic := label.filter (·.toNat < 0x80)
  let others := (label.filter (0x80 ≤ ·.toNat)).foldr (fun c found => insertOnce c.toNat found) []
  let start : State := ⟨0, 72, basic.length, true, []⟩
  let state := (others.foldl (place label) (0x80, start)).2
  basic ++ (if basic.isEmpty then [] else [.scalar '-']) ++ state.written

def encodeLabel (label : List CodePoint) : List CodePoint :=
  if label.any (0x7e < ·.toNat) then ("xn--" : Text).toList ++ encode label else label

def digitValue? (c : CodePoint) : Option Nat :=
  if 'a' ≤ c ∧ c ≤ 'z' then some (c.toNat - 'a'.toNat)
  else if c.isDigit then some (c.toNat - '0'.toNat + 26)
  else none

/-- The number at the front, whose first digits come to `sum` already; the next one counts `weight`. -/
def number? (bias : Nat) (place weight sum : Nat) : List CodePoint → Option (Nat × List CodePoint)
  | [] => none
  | c :: rest =>
    (digitValue? c).bind fun value =>
      let sum := sum + value * weight
      let t := threshold place bias
      if value < t then some (sum, rest) else number? bias (place + 1) (weight * (36 - t)) sum rest

/-- Puts the missing characters into a label. `next` is the place behind the character put in last, and
`code` its number; fuel is the length of the text. -/
def insertAll? (code next bias : Nat) (first : Bool) :
    Nat → List CodePoint → List CodePoint → Option (List CodePoint)
  | _, label, [] => some label
  | 0, _, _ => none
  | fuel + 1, label, text =>
    (number? bias 0 1 0 text).bind fun (delta, rest) =>
      let count := label.length + 1
      let code := code + (next + delta) / count
      let place := (next + delta) % count
      if code < 0x110000 then
        insertAll? code (place + 1) (adapt delta count first) false fuel
          (label.take place ++ CodePoint.ofNat code :: label.drop place) rest
      else none

/-- What stands before the last hyphen is in the label already. -/
def decode? (s : List CodePoint) : Option (List CodePoint) :=
  let text := (s.reverse.takeWhile (· ≠ CodePoint.scalar '-')).reverse
  let label := (s.take (s.length - text.length)).dropLast
  if label.all (·.toNat < 0x80) then insertAll? 0x80 0 72 true text.length label text else none

def decodeLabel? (label : List CodePoint) : Option (List CodePoint) :=
  if ("xn--" : Text).toList.isPrefixOf label then decode? ((label.drop 4).map CodePoint.toLower)
  else some label

end WebDocs.Text.Punycode
