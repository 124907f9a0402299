import WebDocs.Text.Basic

namespace WebDocs.Text

/-- Separators, the control characters that end or indent lines, and the four information
separators. -/
def isBlank (c : CodePoint) : Bool :=
  let n := c.toNat
  (9 ≤ n && n ≤ 13) || (28 ≤ n && n ≤ 32) || n == 0x85 || n == 0xa0 || n == 0x1680 ||
    (0x2000 ≤ n && n ≤ 0x200a) || n == 0x2028 || n == 0x2029 || n == 0x202f || n == 0x205f ||
    n == 0x3000

variable {α : Type}

/-- Drops what is of a class from the end. -/
def dropEndWhile (p : α → Bool) (s : List α) : List α := (s.reverse.dropWhile p).reverse

/-- Drops what is of a class from both ends. -/
def trimBy (p : α → Bool) (s : List α) : List α := dropEndWhile p (s.dropWhile p)

def trimBlanks : List CodePoint → List CodePoint := trimBy isBlank

end WebDocs.Text
