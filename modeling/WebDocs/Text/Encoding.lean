import WebDocs.Text.Utf8

namespace WebDocs.Text

inductive ByteOrder
  | little
  | big
  deriving DecidableEq

inductive Encoding
  | utf8
  | utf16 (order : ByteOrder)
  | utf32 (order : ByteOrder)
  deriving DecidableEq

namespace Encoding

def name : Encoding → String
  | utf8 => "utf-8"
  | utf16 .little => "utf-16-le"
  | utf16 .big => "utf-16-be"
  | utf32 .little => "utf-32-le"
  | utf32 .big => "utf-32-be"

end Encoding

/-- Octets that are no text: the first of them, where it stands, and how many there are. -/
structure EncodingError where
  encoding : Encoding
  reason : String
  first : UInt8
  position : Nat
  width : Nat
  deriving DecidableEq

def EncodingError.message (e : EncodingError) : String :=
  let what :=
    if e.width = 1 then
      let code := Nat.toDigits 16 e.first.toNat
      let code := String.ofList (List.replicate (2 - code.length) '0' ++ code)
      s!"byte 0x{code} in position {e.position}"
    else s!"bytes in position {e.position}-{e.position + e.width - 1}"
  s!"'{e.encoding.name}' codec can't decode {what}: {e.reason}"

namespace Utf8

def Fault.reason : Fault → String
  | startByte => "invalid start byte"
  | continuation => "invalid continuation byte"
  | truncated => "unexpected end of data"

/-- The octets one character takes. -/
def width (c : Char) : Nat :=
  if c.toNat < 0x80 then 1 else if c.toNat < 0x800 then 2 else if c.toNat < 0x10000 then 3 else 4

/-- Half of a pair in three octets, which are a fault each. -/
def half? : List UInt8 → Option CodePoint
  | a :: b :: c :: _ =>
    if a = 0xed ∧ 0xa0 ≤ b ∧ b ≤ 0xbf ∧ 0x80 ≤ c ∧ c ≤ 0xbf then
      some (.ofNat (0xd000 + (b.toNat - 0x80) * 64 + (c.toNat - 0x80)))
    else none
  | _ => none

/-- The code points of units, or the first fault, behind `position` octets. -/
def strict (bytes : List UInt8) : Nat → List Unit → Except EncodingError (List CodePoint)
  | _, [] => .ok []
  | position, .char c :: rest => (strict bytes (position + width c) rest).map (.scalar c :: ·)
  | position, .fault cause width :: rest =>
    match half? (bytes.drop position), rest with
    | some half, _ :: _ :: rest => (strict bytes (position + 3) rest).map (half :: ·)
    | _, _ => .error ⟨.utf8, cause.reason, bytes.getD position 0, position, width⟩

/-- Halves of pairs are let through. -/
def decode (bytes : List UInt8) : Except EncodingError (List CodePoint) :=
  strict bytes 0 (units bytes)

end Utf8

namespace Encoding

def number16 (order : ByteOrder) (a b : UInt8) : Nat :=
  match order with
  | .little => a.toNat + 256 * b.toNat
  | .big => 256 * a.toNat + b.toNat

/-- Units of two octets, and the octet that is left over. -/
def units16 (order : ByteOrder) : List UInt8 → List Nat × Option UInt8
  | a :: b :: rest =>
    let (units, left) := units16 order rest
    (number16 order a b :: units, left)
  | [a] => ([], some a)
  | [] => ([], none)

/-- Two units that form a pair are one character. -/
def chars16 : List Nat → List CodePoint
  | [] => []
  | [n] => [.ofNat n]
  | n :: m :: rest =>
    if 0xd800 ≤ n ∧ n < 0xdc00 ∧ 0xdc00 ≤ m ∧ m < 0xe000 then
      .ofNat (0x10000 + 0x400 * (n - 0xd800) + (m - 0xdc00)) :: chars16 rest
    else .ofNat n :: chars16 (m :: rest)

def decode16 (order : ByteOrder) (position : Nat) (bytes : List UInt8) :
    Except EncodingError (List CodePoint) :=
  match units16 order bytes with
  | (units, none) => .ok (chars16 units)
  | (units, some b) =>
    .error ⟨utf16 order, "truncated data", b, position + 2 * units.length, 1⟩

def number32 (order : ByteOrder) (a b c d : UInt8) : Nat :=
  match order with
  | .little => number16 .little a b + 65536 * number16 .little c d
  | .big => 65536 * number16 .big a b + number16 .big c d

def decode32 (order : ByteOrder) : Nat → List UInt8 → Except EncodingError (List CodePoint)
  | _, [] => .ok []
  | position, a :: b :: c :: d :: rest =>
    let n := number32 order a b c d
    if 0x110000 ≤ n then
      .error ⟨utf32 order, "code point not in range(0x110000)", a, position, 4⟩
    else (decode32 order (position + 4) rest).map (.ofNat n :: ·)
  | position, a :: rest => .error ⟨utf32 order, "truncated data", a, position, rest.length + 1⟩

/-- The encoding and the length of the byte order mark. -/
def detect : List UInt8 → Encoding × Nat
  | 0x00 :: 0x00 :: 0xfe :: 0xff :: _ => (utf32 .big, 4)
  | 0xff :: 0xfe :: 0x00 :: 0x00 :: _ => (utf32 .little, 4)
  | 0xfe :: 0xff :: _ => (utf16 .big, 2)
  | 0xff :: 0xfe :: _ => (utf16 .little, 2)
  | 0xef :: 0xbb :: 0xbf :: _ => (utf8, 3)
  | 0x00 :: 0x00 :: _ :: _ :: _ => (utf32 .big, 0)
  | 0x00 :: _ :: _ :: _ :: _ => (utf16 .big, 0)
  | _ :: 0x00 :: 0x00 :: 0x00 :: _ => (utf32 .little, 0)
  | _ :: 0x00 :: _ :: _ :: _ => (utf16 .little, 0)
  | [0x00, _] => (utf16 .big, 0)
  | [_, 0x00] => (utf16 .little, 0)
  | _ => (utf8, 0)

/-- Positions count from the first octet; for UTF-8 from behind the mark. -/
def decode (bytes : List UInt8) : Except EncodingError (List CodePoint) :=
  let (encoding, mark) := detect bytes
  let body := bytes.drop mark
  match encoding with
  | utf8 => Utf8.decode body
  | utf16 order => decode16 order mark body
  | utf32 order => decode32 order mark body

end Encoding
end WebDocs.Text
