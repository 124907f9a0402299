import WebDocs.Text.Digit
import WebDocs.Text.Utf8

namespace WebDocs.Text.Percent

def hexDigit (n : Nat) : Char :=
  if n < 10 then Char.ofNat ('0'.toNat + n) else Char.ofNat ('A'.toNat + (n - 10))

def encodeByte (b : UInt8) : List Char := ['%', hexDigit (b.toNat / 16), hexDigit (b.toNat % 16)]

def encodeChar (keep : Char → Bool) (c : Char) : List Char :=
  if keep c then [c] else (String.utf8EncodeChar c).flatMap encodeByte

/-- Half of a pair is written as the replacement character. -/
def encodeCode (keep : Char → Bool) : CodePoint → List Char
  | .scalar c => encodeChar keep c
  | .surrogate _ => (String.utf8EncodeChar (Char.ofNat 0xfffd)).flatMap encodeByte

def encode (keep : Char → Bool) (s : List CodePoint) : List Char := s.flatMap (encodeCode keep)

/-- Letters, digits and the marks that a component of an address keeps. -/
def isComponentChar (c : Char) : Bool := c.isAlphanum || "_.-~!*'()".toList.contains c

def encodeComponent (s : List CodePoint) : Except Unencodable (List Char) :=
  Utf8.unlessRefused (fun _ => true) s (encode isComponentChar s)

/-- The octets of ASCII text; `%` with two hexadecimal digits is one octet. -/
def octets : List Char → List UInt8
  | '%' :: a :: b :: rest =>
    match hexValue? a, hexValue? b with
    | some high, some low => UInt8.ofNat (16 * high + low) :: octets rest
    | _, _ => UInt8.ofNat '%'.toNat :: octets (a :: b :: rest)
  | c :: rest => UInt8.ofNat c.toNat :: octets rest
  | [] => []

/-- Reads a run of ASCII text that is held in reverse. -/
def decodeHeld (held : List Char) : List CodePoint :=
  (Utf8.decodeLossy (octets held.reverse)).map .scalar

/-- Reads a run of ASCII text, which is held back in reverse, whenever a code point outside ASCII or
the end follows. -/
def decodeFrom (held : List Char) : List CodePoint → List CodePoint
  | [] => decodeHeld held
  | .scalar c :: rest =>
    if c.toNat < 0x80 then decodeFrom (c :: held) rest
    else decodeHeld held ++ .scalar c :: decodeFrom [] rest
  | half :: rest => decodeHeld held ++ half :: decodeFrom [] rest

/-- Undoes percent-encoding. A `%` without two hexadecimal digits stands for itself, a code point
outside ASCII too, and octets that are no text read as replacement characters. -/
def decode (s : List CodePoint) : List CodePoint := decodeFrom [] s

end WebDocs.Text.Percent
