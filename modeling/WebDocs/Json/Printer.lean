import WebDocs.Json.Basic
import WebDocs.Text.Quoted

namespace WebDocs.Json

structure Layout where
  comma : List Char
  colon : List Char

/-- No blanks at all. -/
def compact : Layout := ⟨[','], [':']⟩

/-- A blank after every comma and colon. -/
def spaced : Layout := ⟨[',', ' '], [':', ' ']⟩

/-- One UTF-16 unit by its number. -/
def unitEscape (n : Nat) : List Char := '\\' :: 'u' :: Text.Quoted.hex 4 n

/-- Quotes, backslashes, controls and everything outside ASCII are escaped; a character outside the
basic plane is two units. -/
def escapeChar (c : Char) : List Char :=
  if c = '"' then ['\\', '"']
  else if c = '\\' then ['\\', '\\']
  else if c = '\n' then ['\\', 'n']
  else if c = '\r' then ['\\', 'r']
  else if c = '\t' then ['\\', 't']
  else if c.toNat = 0x0c then ['\\', 'f']
  else if c.toNat = 0x08 then ['\\', 'b']
  else
    let n := c.toNat
    if 0x20 ≤ n ∧ n < 0x7f then [c]
    else if n < 0x10000 then unitEscape n
    else unitEscape (0xd800 + (n - 0x10000) / 0x400) ++ unitEscape (0xdc00 + (n - 0x10000) % 0x400)

/-- Half of a pair is one unit. -/
def escapeCode : CodePoint → List Char
  | .scalar c => escapeChar c
  | .surrogate half => unitEscape (0xd800 + half)

def printString (s : Text) : List Char := '"' :: s.toList.flatMap escapeCode ++ ['"']

def printInt (n : Int) : List Char := Decimal.signText (n < 0) ++ Decimal.digitsOf n.natAbs

/-- The numbers that are no finite ones have their words. -/
def printFloat : Decimal → List Char := Decimal.textAs ⟨"NaN".toList, "Infinity".toList⟩

variable (layout : Layout)

mutual

def print : Json → List Char
  | null => "null".toList
  | bool true => "true".toList
  | bool false => "false".toList
  | int n => printInt n
  | float x => printFloat x
  | str s => printString s
  | arr [] => ['[', ']']
  | arr (item :: rest) => '[' :: print item ++ printItems rest
  | obj [] => ['\x7b', '\x7d']
  | obj ((key, value) :: rest) =>
    '\x7b' :: printString key ++ layout.colon ++ print value ++ printMembers rest

/-- The items behind the first one, and the bracket. -/
def printItems : List Json → List Char
  | [] => [']']
  | item :: rest => layout.comma ++ print item ++ printItems rest

def printMembers : List (Text × Json) → List Char
  | [] => ['\x7d']
  | (key, value) :: rest =>
    layout.comma ++ printString key ++ layout.colon ++ print value ++ printMembers rest

end

end WebDocs.Json
