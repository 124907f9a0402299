import WebDocs.Text.Printable

namespace WebDocs.Text.Quoted

/-- The last `width` hexadecimal digits of a number, in lower case. -/
def hex (width n : Nat) : List Char :=
  let digits := Nat.toDigits 16 n
  List.replicate (width - digits.length) '0' ++ digits

def quoteFor (s : List CodePoint) : Char :=
  if s.contains '\'' && !s.contains '"' then '"' else '\''

def encodeChar (quote c : Char) : List Char :=
  if c = quote || c = '\\' then ['\\', c]
  else if c = '\n' then ['\\', 'n']
  else if c = '\r' then ['\\', 'r']
  else if c = '\t' then ['\\', 't']
  else if isPrintable c then [c]
  else if c.toNat < 0x100 then '\\' :: 'x' :: hex 2 c.toNat
  else if c.toNat < 0x10000 then '\\' :: 'u' :: hex 4 c.toNat
  else '\\' :: 'U' :: hex 8 c.toNat

/-- Half of a pair is not printable. -/
def encodeCode (quote : Char) : CodePoint → List Char
  | .scalar c => encodeChar quote c
  | .surrogate half => '\\' :: 'u' :: hex 4 (0xd800 + half)

def encode (s : List CodePoint) : List Char :=
  let quote := quoteFor s
  quote :: s.flatMap (encodeCode quote) ++ [quote]

end WebDocs.Text.Quoted
