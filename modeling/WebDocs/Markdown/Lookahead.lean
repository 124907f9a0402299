import Std.Data.HashMap
import WebDocs.Markdown.Target

namespace WebDocs.Markdown

open WebDocs.Text

/-- A character and its place in the text. -/
structure Cell where
  char : CodePoint
  place : Nat

namespace Cell

def ofText (s : List CodePoint) : List Cell := s.zipIdx.map fun (char, place) => ⟨char, place⟩

def isBacktick (cell : Cell) : Bool := cell.char = '\x60'

end Cell

/-- What is known about a text: the widths of constructs by place, the place where a run of so many
backticks was passed last, and whether code was looked for up to the end of the text in vain. -/
structure Findings where
  widths : Std.HashMap Nat Nat
  runs : Std.HashMap Nat Nat
  exhausted : Bool

namespace Findings

def none : Findings := ⟨{}, {}, false⟩

def addWidth (place width : Nat) (known : Findings) : Findings :=
  { known with widths := known.widths.insert place width }

def addRun (length place : Nat) (known : Findings) : Findings :=
  { known with runs := known.runs.insert length place }

/-- No run of this length is expected behind a place: the text was searched, and the run passed last
does not stand there. -/
def hasNoRun (length place : Nat) (known : Findings) : Bool :=
  known.exhausted && known.runs[length]?.all (· ≤ place)

end Findings

/-- A look at a text that may use and add to what is known about it. -/
abbrev Lookahead := StateM Findings

namespace Lookahead

def chars (cells : List Cell) : List CodePoint := cells.map (·.char)

/-- How much text stands before the next run of so many backticks. -/
def codeUntil? (width : Nat) : Nat → Nat → List Cell → Lookahead (Option Nat)
  | 0, _, _ => return none
  | fuel + 1, inside, cells =>
    let before := (cells.takeWhile (!·.isBacktick)).length
    match cells.drop before with
    | [] => return none
    | first :: more => do
      let run := (more.takeWhile Cell.isBacktick).length + 1
      if run = width then return some (inside + before)
      else
        modify (Findings.addRun run first.place)
        codeUntil? width fuel (inside + before + run) (more.drop (run - 1))

/-- The number of backticks at the start, and the text of the code span they open. -/
def code? (cell : Cell) (rest : List Cell) : Lookahead (Nat × Option (List CodePoint)) := do
  let width := (rest.takeWhile Cell.isBacktick).length + 1
  let inside := rest.drop (width - 1)
  if (← get).hasNoRun width cell.place then return (width, none)
  else
    match ← codeUntil? width inside.length 0 inside with
    | some length => return (width, some (chars (inside.take length)))
    | none =>
      modify fun known => { known with exhausted := true }
      return (width, none)

/-- A reference inside a text stands for the replacement character if its number is no character. -/
def reference? (s : List CodePoint) : Option (Nat × List CodePoint) :=
  (referenceBody? s).bind fun body =>
    let text :=
      match body with
      | .scalar '#' :: number =>
        (Entity.number? 7 6 number).map fun n =>
          [if Entity.isValidNumber n then CodePoint.ofNat n else CodePoint.ofNat 0xfffd]
      | name => Entity.named? name
    text.map (body.length + 2, ·)

/-- A scheme of 2 to 32 characters and a text without blanks. -/
def isAbsolute (s : List CodePoint) : Bool :=
  let scheme := s.takeWhile Address.isSchemeChar
  let rest := s.drop scheme.length
  (scheme.take 1).all CodePoint.isAlpha && 2 ≤ scheme.length && scheme.length ≤ 32 &&
    rest.head? = some (.scalar ':') && rest.all fun c => 0x20 < c.toNat && c ≠ '<' && c ≠ '>'

def isMailboxChar (c : CodePoint) : Bool :=
  c.isAlphanum || c.isAmong ".!#$%&'*+/=?^_\x60\x7b|\x7d~-"

/-- Letters, digits and hyphens within, at most 63. -/
def isHostLabel (s : List CodePoint) : Bool :=
  s.all (fun c => c.isAlphanum || c = '-') && s.head?.any CodePoint.isAlphanum &&
    s.getLast?.any CodePoint.isAlphanum && s.length ≤ 63

def isMailAddress (s : List CodePoint) : Bool :=
  let mailbox := s.takeWhile isMailboxChar
  match s.drop mailbox.length with
  | .scalar '@' :: host => !mailbox.isEmpty && (host.splitOn (.scalar '.')).all isHostLabel
  | _ => false

/-- An address in angle brackets: how much of the text it takes, its target and what it shows. A
line end before the closing bracket is no part of it. -/
def autolink? (s : List CodePoint) : Option (Nat × Target × List CodePoint) :=
  let inside := s.takeWhile (!·.isAmong "<>")
  match s.drop inside.length with
  | .scalar '>' :: _ =>
    let line := if inside.getLast? = some (.scalar '\n') then inside.dropLast else inside
    let whole := if isMailAddress line then ("mailto:" : Text).toList ++ inside else inside
    if isAbsolute line || isMailAddress line then
      let address := Address.normalize whole
      if Address.isAllowed address then some (inside.length + 2, ⟨address, []⟩, Address.display inside)
      else none
    else none
  | _ => none

/-- The width of the construct that the first cell starts. -/
abbrev WidthOf := List Cell → Lookahead Nat

/-- The length of the text up to the bracket that closes it. Links inside it are refused if
`strict`. -/
def labelEnd? (widthOf : WidthOf) (strict : Bool) :
    Nat → Nat → List Cell → Lookahead (Option Nat)
  | _, _, [] => return none
  | depth, skip + 1, _ :: rest =>
    return (← labelEnd? widthOf strict depth skip rest).map (· + 1)
  | depth, 0, cell :: rest =>
    if cell.char = ']' && depth = 0 then return some 0
    else do
      let width ← widthOf (cell :: rest)
      let isBare := width ≤ 1
      if cell.char = '[' && !isBare && strict then return none
      else
        let depth :=
          if cell.char = ']' then depth - 1
          else if cell.char = '[' && isBare then depth + 1
          else depth
        return (← labelEnd? widthOf strict depth (width - 1) rest).map (· + 1)

/-- A link or picture behind its opening bracket: its text, its target and the cells behind it. -/
structure Reference where
  label : List Cell
  target : Target
  rest : List Cell

/-- A second label in brackets and the cells behind it. -/
def secondLabel? (widthOf : WidthOf) : List Cell → Lookahead (Option (List Cell × List Cell))
  | [] => return none
  | cell :: inside =>
    if cell.char = '[' then
      return (← labelEnd? widthOf false 0 0 inside).map fun n => (inside.take n, inside.drop (n + 1))
    else return none

variable (definitions : List Definition)

/-- A target by its definition. The label stands in brackets at `second`; without brackets, or with
empty ones, it is the text itself. -/
def defined? (widthOf : WidthOf) (label after second : List Cell) :
    Lookahead (Option Reference) :=
  if definitions.isEmpty then return none
  else do
    let (name, rest) := (← secondLabel? widthOf second).getD ([], after)
    return (lookUp definitions (chars (if name.isEmpty then label else name))).map (⟨label, ·, rest⟩)

/-- The link or picture whose text starts here. The text of a link holds no link; a link whose
parentheses hold no target may still be defined. -/
def target? (widthOf : WidthOf) (isLink : Bool) (cells : List Cell) :
    Lookahead (Option Reference) := do
  match ← labelEnd? widthOf isLink 0 0 cells with
  | none => return none
  | some n =>
    let label := cells.take n
    let after := cells.drop (n + 1)
    match after with
    | [] => defined? definitions widthOf label after after
    | next :: inside =>
      if next.char = '(' then
        match resource (chars inside) with
        | .found target rest =>
          return some ⟨label, target, inside.drop (inside.length - rest.length)⟩
        | .broken rest =>
          if isLink then
            defined? definitions widthOf label after
              (inside.drop (inside.length - rest.length + 1))
          else return none
        | .unended => return none
      else defined? definitions widthOf label after after

/-- The link that a bracket starts. -/
def link? (widthOf : WidthOf) (rest : List Cell) : Lookahead (Option Reference) :=
  target? definitions widthOf true rest

/-- The picture that an exclamation mark starts. -/
def picture? (widthOf : WidthOf) (rest : List Cell) : Lookahead (Option Reference) :=
  match rest with
  | [] => return none
  | next :: inside =>
    if next.char = '[' then target? definitions widthOf false inside else return none

/-- The width of what a character starts, given the cells behind it. -/
def construct (widthOf : WidthOf) (cell : Cell) (rest : List Cell) : Lookahead Nat := do
  let upTo (reference : Option Reference) : Nat :=
    match reference with
    | some reference => rest.length + 1 - reference.rest.length
    | none => 1
  match cell.char with
  | .scalar '\\' => return if rest.isEmpty then 1 else 2
  | .scalar '\x60' =>
    match ← code? cell rest with
    | (marks, some text) => return 2 * marks + text.length
    | (marks, none) => return marks
  | .scalar '[' => return upTo (← link? definitions widthOf rest)
  | .scalar '!' => return upTo (← picture? definitions widthOf rest)
  | .scalar '<' => return ((autolink? (chars rest)).map (·.1)).getD 1
  | .scalar '&' => return ((reference? (chars rest)).map (·.1)).getD 1
  | _ => return 1

/-- Looks at a place that is not known yet, and keeps what is found. -/
def remembered (look : Cell → List Cell → Lookahead Nat) : WidthOf
  | [] => return 1
  | cell :: rest => do
    match (← get).widths[cell.place]? with
    | some width => return width
    | none =>
      let width ← look cell rest
      modify (Findings.addWidth cell.place width)
      return width

/-- The width at the first cell, with so many levels of brackets to go. Without any the construct
takes more than the rest of the text. -/
def width : Nat → WidthOf
  | 0 => remembered fun _ rest => return rest.length + 2
  | levels + 1 => remembered (construct definitions (width levels))

/-- How deep brackets are searched. -/
def deepest : Nat := 20

end Lookahead
end WebDocs.Markdown
