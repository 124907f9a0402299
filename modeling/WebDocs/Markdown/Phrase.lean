import WebDocs.Markdown.Inline
import WebDocs.Markdown.Lookahead

namespace WebDocs.Markdown

open WebDocs.Text

namespace Phrase

open Lookahead (chars code? link? picture? autolink? reference?)

/-- One blank at each end is no part of the code, unless there are blanks only. -/
def codeText (s : List CodePoint) : List CodePoint :=
  let line := s.map fun c => if c = CodePoint.scalar '\n' then .scalar ' ' else c
  if line.head? = some (.scalar ' ') && line.getLast? = some (.scalar ' ') &&
      !line.all (· = CodePoint.scalar ' ') then
    (line.drop 1).dropLast
  else line

def plain (s : List CodePoint) : List Piece := s.map fun c => .done (.plain c)

def isSpacePiece : Piece → Bool
  | .done (.plain c) => c = ' '
  | _ => false

/-- A line end behind what was read, in reverse: two blanks before it break the line. -/
def addLineEnd (read : List Piece) : List Piece :=
  match (read.takeWhile isSpacePiece).length with
  | 0 => .done .softBreak :: read
  | 1 => .done .softBreak :: read.drop 1
  | n => .done .hardBreak :: read.drop n

/-- How many cells after a line end hold no text. -/
def indentation (cells : List Cell) : Nat := (cells.takeWhile (isIndent ·.char)).length

/-- How the texts inside a text are read. The text of a link is a part of the text; that of a picture
stands alone. -/
structure Inner where
  widthOf : Lookahead.WidthOf
  link : List Cell → Lookahead (List Inline)
  picture : List CodePoint → List Inline

/-- The pieces that start with a character, in order, and how many more cells they take. -/
def piecesAt (definitions : List Definition) (inner : Inner) (before : CodePoint) (cell : Cell)
    (rest : List Cell) : Lookahead (List Piece × Nat) :=
  let alone := ([Piece.done (.plain cell.char)], 0)
  let taken (found : Lookahead.Reference) : Nat := rest.length - found.rest.length
  match cell.char with
  | .scalar '\\' =>
    match rest with
    | [] => return alone
    | next :: more =>
      if next.char = '\n' then return ([.done .hardBreak], 1 + indentation more)
      else if isAsciiPunctuation next.char then return ([.done (.literal [next.char])], 1)
      else return ([.done (.literal ['\\', next.char])], 1)
  | .scalar '\x60' => do
    match ← code? cell rest with
    | (marks, some text) => return ([.done (.code (codeText text))], 2 * marks + text.length - 1)
    | (marks, none) => return (plain (List.replicate marks '\x60'), marks - 1)
  | .scalar '[' => do
    match ← link? definitions inner.widthOf rest with
    | some found => return ([.done (.link found.target (← inner.link found.label))], taken found)
    | none => return alone
  | .scalar '!' => do
    match ← picture? definitions inner.widthOf rest with
    | some found =>
      return ([.done (.image found.target (inner.picture (chars found.label)))], taken found)
    | none => return alone
  | .scalar '<' =>
    match autolink? (chars rest) with
    | some (width, target, shown) => return ([.done (.link target (shown.map .plain))], width - 1)
    | none => return alone
  | .scalar '&' =>
    match reference? (chars rest) with
    | some (width, text) => return ([.done (.literal text)], width - 1)
    | none => return alone
  | c =>
    if c = '*' || c = '_' then
      let more := (rest.takeWhile (·.char = c)).length
      let after := ((rest.drop more).head?.map (·.char)).getD (.scalar ' ')
      return (List.replicate (more + 1) (.mark (Mark.between before after c rest.length (more + 1))),
        more)
    else return alone

/-- The pieces of a text, in reverse, behind those read so far. -/
def scan (definitions : List Definition) (inner : Inner) (before : CodePoint) :
    Nat → List Piece → List Cell → Lookahead (List Piece)
  | _, read, [] => return read
  | skip + 1, read, cell :: rest => scan definitions inner cell.char skip read rest
  | 0, read, cell :: rest =>
    if cell.char = '\n' then
      scan definitions inner cell.char (indentation rest) (addLineEnd read) rest
    else do
      let (pieces, skip) ← piecesAt definitions inner before cell rest
      scan definitions inner cell.char skip (pieces.reverse ++ read) rest

/-- Reads cells behind a character, with so many levels of brackets to go; texts inside them are read
with less fuel. -/
def readWith (definitions : List Definition) :
    Nat → Nat → CodePoint → List Cell → Lookahead (List Inline)
  | 0, _, _, cells => return (chars cells).map .plain
  | fuel + 1, levels, before, cells => do
    let inner : Inner :=
      { widthOf := Lookahead.width definitions levels
        link := readWith definitions fuel (levels - 1) '['
        picture := fun s =>
          ((readWith definitions fuel Lookahead.deepest ' ' (Cell.ofText s)).run .none).1 }
    return Inline.close (← scan definitions inner before 0 [] cells).reverse

/-- The text of a paragraph. Its start counts as a blank. -/
def read (definitions : List Definition) (s : List CodePoint) : List Inline :=
  ((readWith definitions s.length Lookahead.deepest ' ' (Cell.ofText s)).run .none).1

end Phrase
end WebDocs.Markdown
