import WebDocs.Text.Blank
import WebDocs.Markdown.Target

namespace WebDocs.Markdown

open WebDocs.Text

/-- A line within the blocks that hold it. `lead` is what stands before the body: blanks, and the
markers of the items that the line starts. `indent` counts its columns, where a tab goes to the next multiple of
four and `shift` columns of the line are gone already. A line that only continues the paragraph
before it has a negative indentation. `ending` is the line end, which the last line may lack. -/
structure Line where
  lead : List CodePoint
  body : List CodePoint
  indent : Int
  shift : Nat
  ending : List CodePoint

/-- The column after a character. -/
def advance (shift : Nat) (column : Int) (c : CodePoint) : Int :=
  if c = '\t' then column + (4 - (column + shift) % 4) else column + 1

namespace Line

def ofText (text ending : List CodePoint) : Line :=
  let lead := text.takeWhile isIndent
  ⟨lead, text.drop lead.length, lead.foldl (advance 0) 0, 0, ending⟩

def isEmpty (line : Line) : Bool := line.body.isEmpty

def blanks (width : Int) : List CodePoint := List.replicate width.toNat ' '

/-- The text behind so many columns. A tab that is cut in two leaves blanks. -/
def cutFrom (width : Int) (shift : Nat) (column : Int) : List CodePoint → List CodePoint
  | [] => blanks (column - width)
  | c :: rest =>
    if column < width then cutFrom width shift (advance shift column c) rest
    else blanks (column - width) ++ c :: rest

def cut (width : Int) (line : Line) : List CodePoint :=
  cutFrom width line.shift 0 line.lead ++ line.body

/-- The lines of a text without their line ends. A last line without characters is no line. -/
def split (text : List CodePoint) : List Line :=
  match (text.splitOn (.scalar '\n')).reverse with
  | [] => []
  | last :: before =>
    before.reverse.map (ofText · [.scalar '\n']) ++
      if last.all isIndent then [] else [ofText last []]

/-- The line behind `>` and one blank. -/
def unquoted? (line : Line) : Option Line :=
  match line.body with
  | .scalar '>' :: rest =>
    let start := line.indent + 1
    let opened (rest : List CodePoint) (start : Int) (tab gone : Nat) : Line :=
      let lead := rest.takeWhile isIndent
      { line with
        lead := lead
        body := rest.drop lead.length
        indent := lead.foldl (advance (line.shift + tab)) start - start
        shift := (line.indent + 1).toNat + gone }
    match rest with
    | .scalar ' ' :: rest => some (opened rest (start + 1) 0 1)
    | .scalar '\t' :: rest =>
      if (start + line.shift) % 4 = 3 then some (opened rest (start + 1) 0 1)
      else some (opened ('\t' :: rest) start 1 1)
    | rest => some (opened rest start 0 0)
  | _ => none

end Line

/-- Where the blocks of a container start, and where those around the innermost list do. -/
structure Margin where
  indent : Nat
  outer : Option Nat

namespace Line

/-- Lines indented this far are code, unless they continue a paragraph. -/
def isDeep (margin : Margin) (line : Line) : Bool := 4 ≤ line.indent - margin.indent

def isOutdented (margin : Margin) (line : Line) : Bool := line.indent < margin.indent

end Line

/-- The mark that opens a block of code, how often it is written, and what is said of the code. -/
structure Fence where
  mark : CodePoint
  width : Nat
  info : List CodePoint

def Fence.ofLine? (line : Line) : Option Fence :=
  match line.body with
  | [] => none
  | mark :: _ =>
    let run := line.body.takeWhile (· = mark)
    let info := line.body.drop run.length
    if (mark = '~' || mark = '\x60' && !info.contains mark) && 3 ≤ run.length then
      some ⟨mark, run.length, info⟩
    else none

def Fence.isClosedBy (fence : Fence) (line : Line) : Bool :=
  let run := line.body.takeWhile (· = fence.mark)
  fence.width ≤ run.length && (line.body.drop run.length).all isIndent

/-- Three or more of one mark make a rule. -/
def isRule (line : Line) : Bool :=
  match line.body with
  | [] => false
  | mark :: _ =>
    (mark = '*' || mark = '-' || mark = '_') && line.body.all (fun c => c = mark || isIndent c) &&
      3 ≤ line.body.count mark

/-- Level and text of a heading. Marks at its end are no text if a blank stands before them. -/
def heading? (line : Line) : Option (Nat × List CodePoint) :=
  let level := (line.body.takeWhile (· = CodePoint.scalar '#')).length
  let text := line.body.drop level
  if level = 0 || 6 < level || !(text.take 1).all isIndent then none
  else
    let whole := dropEndWhile isIndent text
    let cut := dropEndWhile (· = CodePoint.scalar '#') whole
    some (level, trimText (if (cut.getLast?).any isIndent then cut else whole))

/-- The level that a line gives to the paragraph above it. -/
def underline? (line : Line) : Option Nat :=
  match dropEndWhile isIndent line.body with
  | [] => none
  | mark :: rest =>
    if !rest.all (· = mark) then none
    else if mark = '=' then some 1
    else if mark = '-' then some 2
    else none

/-- The marker of an item: its number in an ordered list, its last character, how many characters it
has, and the text behind it. -/
structure Marker where
  number : Option Nat
  mark : CodePoint
  width : Nat
  rest : List CodePoint

def Marker.ofLine? (line : Line) : Option Marker :=
  let digits := line.body.takeWhile CodePoint.isDigit
  match line.body.drop digits.length with
  | [] => none
  | mark :: rest =>
    let bullet := digits.isEmpty && mark.isAmong "*-+"
    let ordered := !digits.isEmpty && digits.length ≤ 9 && (mark = '.' || mark = ')')
    if (bullet || ordered) && (rest.take 1).all isIndent then
      some ⟨if ordered then some (Entity.decimalNumber digits) else none, mark, digits.length + 1,
        rest⟩
    else none

/-- Items of one list have the same mark. -/
def Marker.continues (first next : Marker) : Bool :=
  first.mark = next.mark && first.number.isSome = next.number.isSome

/-- The marker of the first item of a list. A list that ends a paragraph starts with the number one
and has text behind its marker. -/
def listStart? (margin : Margin) (paragraph : Bool) (line : Line) : Option Marker :=
  let loose := margin.outer.any (fun outer => 4 ≤ line.indent - outer) && line.isOutdented margin
  if loose then none
  else
    let strict := paragraph && !line.isOutdented margin
    (Marker.ofLine? line).filter fun marker =>
      !strict || (marker.number.all (· = 1) && !marker.rest.all isIndent)

/-- Blocks that end a list. -/
def endsList (line : Line) : Bool :=
  (Fence.ofLine? line).isSome || line.unquoted?.isSome || isRule line

/-- Blocks that begin without an empty line before them. -/
def interrupts (margin : Margin) (paragraph : Bool) (line : Line) : Bool :=
  !line.isDeep margin &&
    (endsList line || (listStart? margin paragraph line).isSome || (heading? line).isSome)

/-- Whether a line belongs to the paragraph of the line before it. -/
def continuesText (margin : Margin) (paragraph : Bool) (line : Line) : Bool :=
  !line.isEmpty &&
    (line.isDeep margin || line.indent < 0 || !interrupts margin paragraph line)

end WebDocs.Markdown
