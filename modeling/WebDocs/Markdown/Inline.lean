import WebDocs.Markdown.Target

namespace WebDocs.Markdown

open WebDocs.Text

/-- `literal` is what an escape or a reference stands for. Emphasis keeps its mark, since two of one
mark around each other are one strong emphasis. -/
inductive Inline
  | plain (c : CodePoint)
  | literal (text : List CodePoint)
  | code (text : List CodePoint)
  | softBreak
  | hardBreak
  | emphasis (mark : CodePoint) (content : List Inline)
  | strong (content : List Inline)
  | link (target : Target) (content : List Inline)
  | image (target : Target) (content : List Inline)
  deriving Inhabited

namespace Inline

mutual

/-- The text of a picture for those who do not see it. Pictures within the picture lose what escapes
and references stand for. -/
def alternative (within : Bool) : Inline → List CodePoint
  | plain c => [c]
  | literal text => if within then [] else text
  | code text => text
  | softBreak | hardBreak => ['\n']
  | emphasis _ content | strong content | link _ content => alternativeAll within content
  | image _ content => alternativeAll true content

def alternativeAll (within : Bool) : List Inline → List CodePoint
  | [] => []
  | inline :: rest => alternative within inline ++ alternativeAll within rest

end
end Inline

/-- One mark of a run of equal marks: the number of the run, its length, and whether it can open or
close emphasis. -/
structure Mark where
  char : CodePoint
  run : Nat
  length : Nat
  opens : Bool
  closes : Bool

/-- White space that emphasis does not start or end at. -/
def isSpaceMark (c : CodePoint) : Bool :=
  let n := c.toNat
  (9 ≤ n && n ≤ 13) || n == 0x20 || n == 0xa0 || n == 0x1680 || (0x2000 ≤ n && n ≤ 0x200a) ||
    n == 0x202f || n == 0x205f || n == 0x3000

/-- A mark of a run between two characters. A run opens at the start of a word and closes at its
end; within a word only `*` does. -/
def Mark.between (before after char : CodePoint) (run length : Nat) : Mark :=
  let left := !(isSpaceMark after ||
    (isPunctuation after && !(isSpaceMark before || isPunctuation before)))
  let right := !(isSpaceMark before ||
    (isPunctuation before && !(isSpaceMark after || isPunctuation after)))
  { char, run, length
    opens := left && (char = '*' || !right || isPunctuation before)
    closes := right && (char = '*' || !left || isPunctuation after) }

/-- Whether two marks are a pair. Runs that could both open and close only pair up if their lengths
do not add up to a multiple of three, or are such multiples both. -/
def Mark.pairs (opener closer : Mark) : Bool :=
  opener.char = closer.char && opener.opens && opener.run ≠ closer.run &&
    !((opener.closes || closer.opens) && (opener.length + closer.length) % 3 = 0 &&
      (opener.length % 3 ≠ 0 || closer.length % 3 ≠ 0))

/-- A part of a text: done, or a mark that waits for its partner. -/
inductive Piece
  | done (inline : Inline)
  | mark (mark : Mark)

/-- A mark that may still open emphasis, and what was read behind it, in reverse. -/
structure Opened where
  mark : Mark
  content : List Inline

/-- What was read before the first open mark, in reverse, and the open marks, the last one first. -/
structure Pairing where
  base : List Inline
  opened : List Opened

namespace Pairing

def push (inlines : List Inline) (pairing : Pairing) : Pairing :=
  match pairing.opened with
  | [] => { pairing with base := inlines ++ pairing.base }
  | top :: rest => { pairing with opened := { top with content := inlines ++ top.content } :: rest }

def wrap (mark : CodePoint) : List Inline → Inline
  | [.emphasis inner content] =>
    if inner = mark then .strong content else .emphasis mark [.emphasis inner content]
  | content => .emphasis mark content

/-- What an open mark without partner is, with the text behind it, in reverse. -/
def bare (top : Opened) : List Inline := top.content ++ [.plain top.mark.char]

/-- Closes the last open mark that is a partner. Open marks behind it are bare text. -/
def close? (closer : Mark) (inside : List Inline) (base : List Inline) :
    List Opened → Option Pairing
  | [] => none
  | top :: rest =>
    if top.mark.pairs closer then
      some (push [wrap closer.char (inside ++ top.content).reverse] ⟨base, rest⟩)
    else close? closer (inside ++ bare top) base rest

def add (pairing : Pairing) : Piece → Pairing
  | .done inline => pairing.push [inline]
  | .mark mark =>
    match if mark.closes then close? mark [] pairing.base pairing.opened else none with
    | some closed => closed
    | none =>
      if mark.opens then { pairing with opened := ⟨mark, []⟩ :: pairing.opened }
      else pairing.push [.plain mark.char]

def result (pairing : Pairing) : List Inline := (pairing.opened.flatMap bare ++ pairing.base).reverse

end Pairing

/-- Pairs the marks; those without partner are bare text. -/
def Inline.close (pieces : List Piece) : List Inline :=
  (pieces.foldl Pairing.add ⟨[], []⟩).result

end WebDocs.Markdown
