import WebDocs.Json.Basic
import WebDocs.Text.Numeral

namespace WebDocs.Json

inductive Complaint
  | value
  | propertyName
  | colon
  | comma
  | extraData
  | unterminatedString
  | controlCharacter
  | escape
  | unicodeEscape
  | byteOrderMark
  deriving DecidableEq

/-- A place in a text: characters before it, and line and column from one. -/
structure Place where
  offset : Nat
  line : Nat
  column : Nat
  deriving DecidableEq

inductive ReadError
  | misread (complaint : Complaint) (place : Place)
  | tooManyDigits (count : Nat)
  deriving DecidableEq

namespace Complaint

def message : Complaint → String
  | value => "Expecting value"
  | propertyName => "Expecting property name enclosed in double quotes"
  | colon => "Expecting ':' delimiter"
  | comma => "Expecting ',' delimiter"
  | extraData => "Extra data"
  | unterminatedString => "Unterminated string starting at"
  | controlCharacter => "Invalid control character at"
  | escape => "Invalid \\escape"
  | unicodeEscape => "Invalid \\uXXXX escape"
  | byteOrderMark => "Unexpected UTF-8 BOM (decode using utf-8-sig)"

end Complaint

/-- The place behind the first `offset` characters. -/
def Place.behind (text : List CodePoint) (offset : Nat) : Place :=
  let before := text.take offset
  ⟨offset, before.count (.scalar '\n') + 1,
    (before.reverse.takeWhile (· ≠ CodePoint.scalar '\n')).length + 1⟩

def ReadError.message : ReadError → String
  | misread complaint place =>
    s!"{complaint.message}: line {place.line} column {place.column} (char {place.offset})"
  | tooManyDigits count =>
    s!"Exceeds the limit ({Text.Numeral.maxDigits} digits) for integer string conversion: " ++
      s!"value has {count} digits; use sys.set_int_max_str_digits() to increase the limit"

namespace Reader

/-- Why reading stops, and the text from there on. -/
inductive Stop
  | at (complaint : Complaint) (rest : List CodePoint)
  | digits (count : Nat)

def isSpace (c : CodePoint) : Bool := c = ' ' || c = '\t' || c = '\n' || c = '\r'

def skip (s : List CodePoint) : List CodePoint := s.dropWhile isSpace

/-- The rest of a text behind a word it begins with. -/
def word? (word s : List CodePoint) : Option (List CodePoint) :=
  if word.isPrefixOf s then some (s.drop word.length) else none

/-- Four hexadecimal digits with at least one more character behind them. -/
def unit? : List CodePoint → Option (Nat × List CodePoint)
  | a :: b :: c :: d :: e :: rest => do
    let high := 16 * (← Text.hexValue? a) + (← Text.hexValue? b)
    let low := 16 * (← Text.hexValue? c) + (← Text.hexValue? d)
    return (256 * high + low, e :: rest)
  | _ => none

/-- The code point of an escape `\uXXXX`, or of two that form a pair; half of a pair may stand alone.
`s` starts behind the `u`. -/
def unicode (s : List CodePoint) : Except Stop (CodePoint × List CodePoint) :=
  match unit? s with
  | none => .error (.at .unicodeEscape ('u' :: s))
  | some (n, rest) =>
    if 0xd800 ≤ n ∧ n < 0xdc00 then
      match rest with
      | .scalar '\\' :: .scalar 'u' :: more =>
        if more.length ≤ 4 then .ok (.ofNat n, rest)
        else match unit? more with
          | none => .error (.at .unicodeEscape ('u' :: more))
          | some (m, tail) =>
            if 0xdc00 ≤ m ∧ m < 0xe000 then
              .ok (CodePoint.ofNat (0x10000 + 0x400 * (n - 0xd800) + (m - 0xdc00)), tail)
            else .ok (.ofNat n, rest)
      | _ => .ok (.ofNat n, rest)
    else .ok (.ofNat n, rest)

/-- The character of an escape of one letter. -/
def escaped? : CodePoint → Option CodePoint
  | .scalar '"' => some '"'
  | .scalar '\\' => some '\\'
  | .scalar '/' => some '/'
  | .scalar 'b' => some '\x08'
  | .scalar 'f' => some '\x0c'
  | .scalar 'n' => some '\n'
  | .scalar 'r' => some '\r'
  | .scalar 't' => some '\t'
  | _ => none

/-- The characters of a string behind its first quote. `start` is the text from that quote on. -/
def chars (start : List CodePoint) :
    Nat → List CodePoint → List CodePoint → Except Stop (Text × List CodePoint)
  | 0, _, _ => .error (.at .unterminatedString start)
  | _ + 1, _, [] => .error (.at .unterminatedString start)
  | more + 1, found, c :: rest =>
    if c = '"' then .ok (Text.ofList found.reverse, rest)
    else if c = '\\' then
      match rest with
      | [] => .error (.at .unterminatedString start)
      | .scalar 'u' :: digits => do
        let (d, tail) ← unicode digits
        chars start more (d :: found) tail
      | e :: tail =>
        match escaped? e with
        | some d => chars start more (d :: found) tail
        | none => .error (.at .escape (c :: rest))
    else if c.toNat < 0x20 then .error (.at .controlCharacter (c :: rest))
    else chars start more (c :: found) rest

/-- A string; `s` starts behind its first quote. -/
def string (s : List CodePoint) : Except Stop (Text × List CodePoint) :=
  chars ('"' :: s) (s.length + 1) [] s

def span (s : List CodePoint) : List Nat × List CodePoint :=
  ((s.takeWhile CodePoint.isDigit).map fun c => c.toNat - '0'.toNat, s.dropWhile CodePoint.isDigit)

/-- An optional sign; true for minus. -/
def sign : List CodePoint → Bool × List CodePoint
  | .scalar '-' :: rest => (true, rest)
  | .scalar '+' :: rest => (false, rest)
  | s => (false, s)

/-- The digits behind a point; a point without a digit is not part of the number. -/
def fraction? : List CodePoint → Option (List Nat × List CodePoint)
  | .scalar '.' :: rest => if (span rest).1.isEmpty then none else some (span rest)
  | _ => none

/-- The exponent behind an `e`; without a digit it is not part of the number. -/
def exponent? : List CodePoint → Option (Int × List CodePoint)
  | c :: rest =>
    if c = 'e' ∨ c = 'E' then
      let (negative, digits) := sign rest
      let (ds, tail) := span digits
      if ds.isEmpty then none else some (Text.Numeral.signed negative (Text.Numeral.valueOf ds), tail)
    else none
  | [] => none

/-- The digits before the point: a zero alone, or digits that do not start with one. -/
def whole? : List CodePoint → Option (List Nat × List CodePoint)
  | .scalar '0' :: rest => some ([0], rest)
  | c :: rest => if c.isDigit then some (span (c :: rest)) else none
  | [] => none

/-- A number. It is whole exactly if it has neither fraction nor exponent. -/
def number (s : List CodePoint) : Except Stop (Json × List CodePoint) :=
  let (negative, unsigned) := match s with
    | .scalar '-' :: rest => (true, rest)
    | _ => (false, s)
  match whole? unsigned with
  | none => .error (.at .value s)
  | some (whole, rest) =>
    match fraction? rest, exponent? ((fraction? rest).elim rest (·.2)) with
    | none, none =>
      if Text.Numeral.maxDigits < whole.length then .error (.digits whole.length)
      else .ok (.int (Text.Numeral.signed negative (Text.Numeral.valueOf whole)), rest)
    | fraction, exponent =>
      let digits := (fraction.elim [] (·.1))
      let behind := fraction.elim rest (·.2)
      let (e, tail) := exponent.getD (0, behind)
      .ok (.float (.ofScientific negative (Text.Numeral.valueOf (whole ++ digits))
        (e - digits.length)), tail)

def words : List (Text × Json) :=
  [("null", .null), ("true", .bool true), ("false", .bool false), ("NaN", .float .nan),
   ("Infinity", .float (.infinite false)), ("-Infinity", .float (.infinite true))]

def scalar (s : List CodePoint) : Except Stop (Json × List CodePoint) :=
  match words.findSome? fun (word, value) => (word? word.toList s).map (value, ·) with
  | some found => .ok found
  | none => number s

mutual

/-- A value. The number bounds the steps; the length of the text is enough. -/
def value : Nat → List CodePoint → Except Stop (Json × List CodePoint)
  | 0, s => .error (.at .value s)
  | _ + 1, [] => .error (.at .value [])
  | more + 1, c :: rest =>
    if c = '"' then (string rest).map fun (s, tail) => (.str s, tail)
    else if c = '[' then
      match skip rest with
      | .scalar ']' :: tail => .ok (.arr [], tail)
      | s => items more [] s
    else if c = '\x7b' then
      match skip rest with
      | .scalar '\x7d' :: tail => .ok (.obj [], tail)
      | s => members more [] s
    else scalar (c :: rest)

/-- The items of a list from the next one on, behind those found so far, latest first. -/
def items : Nat → List Json → List CodePoint → Except Stop (Json × List CodePoint)
  | 0, _, s => .error (.at .value s)
  | more + 1, found, s => do
    let (item, rest) ← value more s
    match skip rest with
    | .scalar ']' :: tail => .ok (.arr (item :: found).reverse, tail)
    | .scalar ',' :: tail => items more (item :: found) (skip tail)
    | s => .error (.at .comma s)

/-- The members of an object from the next one on, behind those found so far. -/
def members : Nat → Members Json → List CodePoint → Except Stop (Json × List CodePoint)
  | 0, _, s => .error (.at .propertyName s)
  | more + 1, found, s =>
    match s with
    | .scalar '"' :: rest => do
      let (key, rest) ← string rest
      match skip rest with
      | .scalar ':' :: rest => do
        let (item, rest) ← value more (skip rest)
        match skip rest with
        | .scalar '\x7d' :: tail => .ok (.obj (found.put key item), tail)
        | .scalar ',' :: tail => members more (found.put key item) (skip tail)
        | s => .error (.at .comma s)
      | s => .error (.at .colon s)
    | s => .error (.at .propertyName s)

end

/-- One value with nothing but blanks around it. -/
def document (text : List CodePoint) : Except Stop Json := do
  let (result, rest) ← value (2 * text.length + 2) (skip text)
  match skip rest with
  | [] => return result
  | s => throw (.at .extraData s)

end Reader

/-- Reads a text that holds one value. -/
def read (text : List CodePoint) : Except ReadError Json :=
  match Reader.document text with
  | .ok value => .ok value
  | .error (.digits count) => .error (.tooManyDigits count)
  | .error (.at complaint rest) =>
    .error (.misread complaint (.behind text (text.length - rest.length)))

/-- Reads a text that comes as characters, not as bytes: a byte order mark has no place there. -/
def readText (text : List CodePoint) : Except ReadError Json :=
  match text with
  | c :: _ =>
    if c.toNat = 0xfeff then .error (.misread .byteOrderMark (.behind text 0)) else read text
  | [] => read text

end WebDocs.Json
