import WebDocs.Text.Basic

namespace WebDocs.Similar

def commonPrefix : List CodePoint → List CodePoint → Nat
  | a :: as, b :: bs => if a = b then commonPrefix as bs + 1 else 0
  | _, _ => 0

/-- Where a block starts in two words, and how long it is. -/
structure Block where
  left : Nat
  right : Nat
  length : Nat

/-- The longer block; of two equally long ones the first. -/
def Block.max (a b : Block) : Block := if a.length < b.length then b else a

/-- The longest block that starts at the front of the first word. -/
def longestFrom (left : Nat) (a : List CodePoint) : Nat → List CodePoint → Block
  | right, [] => ⟨left, right, 0⟩
  | right, b :: bs =>
    Block.max ⟨left, right, commonPrefix a (b :: bs)⟩ (longestFrom left a (right + 1) bs)

def longest (b : List CodePoint) : Nat → List CodePoint → Block
  | left, [] => ⟨left, 0, 0⟩
  | left, a :: as => Block.max (longestFrom left (a :: as) 0 b) (longest b (left + 1) as)

/-- How many characters the blocks cover; fuel is the length of the first word. -/
def covered : Nat → List CodePoint → List CodePoint → Nat
  | 0, _, _ => 0
  | fuel + 1, a, b =>
    let block := longest b 0 a
    if block.length = 0 then 0
    else
      block.length + covered fuel (a.take block.left) (b.take block.right) +
        covered fuel (a.drop (block.left + block.length)) (b.drop (block.right + block.length))

/-- A candidate, and how many of the characters of both words are covered. -/
structure Score where
  word : Text
  covered : Nat
  total : Nat

def score (target word : Text) : Score :=
  ⟨word, 2 * Similar.covered word.length word.toList target.toList, word.length + target.length⟩

/-- At least six tenths have to be covered. -/
def Score.isClose (s : Score) : Bool := 6 * s.total ≤ 10 * s.covered

/-- The better score; of two equal ones the word that comes later in the alphabet. -/
def Score.before (a b : Score) : Bool :=
  b.covered * a.total < a.covered * b.total ||
    (a.covered * b.total = b.covered * a.total && b.word ≤ a.word)

/-- The three closest words that are close at all, the closest one first. -/
def closest (target : Text) (words : List Text) : List Text :=
  ((((words.map (score target)).filter Score.isClose).mergeSort Score.before).take 3).map (·.word)

end WebDocs.Similar
