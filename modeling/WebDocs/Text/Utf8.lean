import WebDocs.Text.Quoted

namespace WebDocs.Text.Utf8

inductive Fault
  | startByte
  | continuation
  | truncated
  deriving DecidableEq

/-- One character, or the number of octets of a broken sequence. -/
inductive Unit
  | char (c : Char)
  | fault (cause : Fault) (width : Nat)
  deriving DecidableEq

/-- A sequence begun: how many octets are missing, which ones may come next, the number so far, and
how many octets are taken. -/
structure Pending where
  missing : Nat
  low : Nat
  high : Nat
  code : Nat
  taken : Nat

/-- What an octet is at the start of a sequence. The first octet also bounds the second one, so that
no number has two sequences and none of them is half of a pair. -/
inductive Lead
  | ascii
  | sequence (pending : Pending)
  | invalid

def lead (b : Nat) : Lead :=
  if b < 0x80 then .ascii
  else if b < 0xc2 then .invalid
  else if b < 0xe0 then .sequence ⟨1, 0x80, 0xbf, b - 0xc0, 1⟩
  else if b < 0xf0 then
    .sequence ⟨2, if b = 0xe0 then 0xa0 else 0x80, if b = 0xed then 0x9f else 0xbf, b - 0xe0, 1⟩
  else if b < 0xf5 then
    .sequence ⟨3, if b = 0xf0 then 0x90 else 0x80, if b = 0xf4 then 0x8f else 0xbf, b - 0xf0, 1⟩
  else .invalid

def start (b : Nat) : List Unit × Option Pending :=
  match lead b with
  | .ascii => ([.char (Char.ofNat b)], none)
  | .sequence pending => ([], some pending)
  | .invalid => ([.fault .startByte 1], none)

/-- One octet. An octet that does not continue a sequence ends it and starts the next one. -/
def step : Option Pending → Nat → List Unit × Option Pending
  | none, b => start b
  | some p, b =>
    if p.low ≤ b ∧ b ≤ p.high then
      let code := p.code * 64 + (b - 0x80)
      if p.missing ≤ 1 then ([.char (Char.ofNat code)], none)
      else ([], some ⟨p.missing - 1, 0x80, 0xbf, code, p.taken + 1⟩)
    else
      let (found, next) := start b
      (.fault .continuation p.taken :: found, next)

def run : Option Pending → List UInt8 → List Unit
  | none, [] => []
  | some p, [] => [.fault .truncated p.taken]
  | state, b :: rest =>
    let (found, next) := step state b.toNat
    found ++ run next rest

def units (bytes : List UInt8) : List Unit := run none bytes

/-- Every broken sequence reads as the replacement character. -/
def decodeLossy (bytes : List UInt8) : List Char :=
  (units bytes).map fun
    | .char c => c
    | .fault _ _ => Char.ofNat 0xfffd

end Utf8

/-- A text that has no octets: the first half of a pair in it, where it stands, and how many halves
stand there side by side. -/
structure Unencodable where
  half : Fin 0x800
  position : Nat
  width : Nat
  deriving DecidableEq

def Unencodable.message (e : Unencodable) : String :=
  let what :=
    if e.width = 1 then
      let code := String.ofList (Quoted.hex 4 (0xd800 + e.half))
      s!"character '\\u{code}' in position {e.position}"
    else s!"characters in position {e.position}-{e.position + e.width - 1}"
  s!"'utf-8' codec can't encode {what}: surrogates not allowed"

namespace Utf8

variable {α : Type}

/-- The first half of a pair that is refused, among code points behind `position` others. -/
def refusal? (isRefused : Fin 0x800 → Bool) (position : Nat) : List CodePoint → Option Unencodable
  | [] => none
  | .scalar _ :: rest => refusal? isRefused (position + 1) rest
  | .surrogate half :: rest =>
    if isRefused half then some ⟨half, position, 1 + (rest.takeWhile (!·.isScalar)).length⟩
    else refusal? isRefused (position + 1) rest

/-- A result that there is if no half of a pair in a text is refused. -/
def unlessRefused (isRefused : Fin 0x800 → Bool) (s : List CodePoint) (result : α) :
    Except Unencodable α :=
  match refusal? isRefused 0 s with
  | some cause => .error cause
  | none => .ok result

/-- The octets of a code point. Octets that are no text stand in the names of files as halves of
pairs. -/
def octets : CodePoint → List UInt8
  | .scalar c => String.utf8EncodeChar c
  | .surrogate half => [UInt8.ofNat (half - 0x400)]

def encode (s : List CodePoint) : Except Unencodable (List UInt8) :=
  unlessRefused (fun _ => true) s (s.flatMap octets)

/-- Halves that stand for no octet. -/
def isNoOctet (half : Fin 0x800) : Bool := half.val < 0x480 || 0x500 ≤ half.val

/-- The octets of the name of a file. -/
def encodeName (s : List CodePoint) : Except Unencodable (List UInt8) :=
  unlessRefused isNoOctet s (s.flatMap octets)

end Utf8

/-- The text for a reader, where halves of pairs are shown by their numbers. -/
def shown (s : Text) : String :=
  String.ofList (s.toList.flatMap fun
    | .scalar c => [c]
    | .surrogate half => '\\' :: 'u' :: Quoted.hex 4 (0xd800 + half))

end WebDocs.Text
