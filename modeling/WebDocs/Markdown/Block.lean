import WebDocs.Markdown.Line

namespace WebDocs.Markdown

open WebDocs.Text

/-- The items of a tight list show their paragraphs as bare text. -/
inductive Block
  | paragraph (text : List CodePoint)
  | heading (level : Nat) (text : List CodePoint)
  | rule
  | code (info text : List CodePoint)
  | quote (blocks : List Block)
  | list (start : Option Nat) (tight : Bool) (items : List (List Block))
  | definition (entry : Definition)

/-- Blocks read from lines, the lines behind them, and whether no empty line stands between them. -/
structure Reading where
  blocks : List Block
  rest : List Line
  tight : Bool

abbrev BlockReader := Margin → List Line → Reading

namespace Block

/-- Deeper blocks than the deepest level are left out, with all lines behind them. -/
def leaveOut : BlockReader := fun margin lines =>
  match lines.dropWhile Line.isEmpty with
  | [] => ⟨[], [], true⟩
  | line :: rest => if line.isOutdented margin then ⟨[], line :: rest, true⟩ else ⟨[], [], true⟩

def joinLines (width : Nat) (lines : List Line) : List CodePoint :=
  List.intercalate [.scalar '\n'] (lines.map (Line.cut width))

/-- Code by its indentation: empty lines at its end do not belong to it. -/
def readIndented (margin : Margin) (lines : List Line) : Block × List Line :=
  let run := lines.takeWhile fun line => line.isEmpty || line.isDeep margin
  let used := (run.reverse.dropWhile Line.isEmpty).reverse
  (.code [] (joinLines (margin.indent + 4) used ++ [.scalar '\n']), lines.drop used.length)

/-- The lines between two fences, and those behind. A last line that is empty and has no line end is
no line of the code. -/
def betweenFences (margin : Margin) (fence : Fence) : List Line → List Line × List Line
  | [] => ([], [])
  | line :: rest =>
    if !line.isEmpty && line.isOutdented margin || line.isEmpty && line.ending.isEmpty then
      ([], line :: rest)
    else if !line.isDeep margin && fence.isClosedBy line then ([], rest)
    else
      let (inside, behind) := betweenFences margin fence rest
      (line :: inside, behind)

def readFenced (margin : Margin) (fence : Fence) (opening : Line) (rest : List Line) :
    Block × List Line :=
  let (inside, behind) := betweenFences margin fence rest
  (.code (trimText (unescape fence.info))
    (inside.flatMap fun line => line.cut opening.indent ++ line.ending), behind)

/-- The lines of a quote without their marks. A line without mark continues the paragraph before
it, unless the line before it is empty. -/
def quotedLines (margin : Margin) (afterEmpty : Bool) : List Line → List Line
  | [] => []
  | line :: rest =>
    if line.isEmpty then []
    else match if line.isOutdented margin then none else line.unquoted? with
      | some inner => inner :: quotedLines margin inner.isEmpty rest
      | none =>
        if afterEmpty || interrupts margin false line then []
        else { line with indent := -1 } :: quotedLines margin false rest

def readQuote (inner : BlockReader) (margin : Margin) (first : Line) (rest : List Line) :
    Block × List Line :=
  let lines := first :: quotedLines margin first.isEmpty rest
  let reading := inner { margin with indent := 0 } lines
  (.quote reading.blocks, rest.drop (lines.length - reading.rest.length - 1))

/-- The first line of an item without its marker, and the margin of the item. -/
def openItem (margin : Margin) (marker : Marker) (line : Line) : Line × Margin :=
  let start := line.indent + marker.width
  let gap := marker.rest.takeWhile isIndent
  let body := marker.rest.drop gap.length
  let text := gap.foldl (advance line.shift) start
  let width := if body.isEmpty || 4 < text - start then 1 else text - start
  ({ line with
      lead := line.lead ++ line.body.take marker.width ++ gap
      body := body
      indent := text },
    ⟨(start + width).toNat, some margin.indent⟩)

/-- What one item holds. An empty item ends at an empty line. -/
def readItem (inner : BlockReader) (margin : Margin) (marker : Marker) (line : Line)
    (rest : List Line) : Reading :=
  let (first, inside) := openItem margin marker line
  if first.isEmpty && rest.head?.all Line.isEmpty then ⟨[], rest.drop 1, true⟩
  else inner inside (first :: rest)

/-- Whether a block that used these lines ended with an empty one. -/
def endsEmpty (lines : List Line) (used : Nat) : Bool := (lines[used - 1]?).all Line.isEmpty

/-- The items of a list: whether none of them has empty lines between its blocks or before the next
item, their blocks, and the lines behind. -/
def readItems (inner : BlockReader) (margin : Margin) (first : Marker) :
    Nat → Bool → Marker → List Line → Bool × List (List Block) × List Line
  | 0, _, _, lines => (true, [], lines)
  | _, _, _, [] => (true, [], [])
  | fuel + 1, gap, marker, line :: rest =>
    let item := readItem inner margin marker line rest
    let used := rest.length + 1 - item.rest.length
    let tight := item.tight && !gap
    let next := item.rest.head?.bind fun next =>
      if next.isOutdented margin || next.isDeep margin || endsList next then none
      else (Marker.ofLine? next).filter first.continues
    match next with
    | some marker =>
      let (others, items, behind) :=
        readItems inner margin first fuel (1 < used && endsEmpty (line :: rest) used) marker item.rest
      (tight && others, item.blocks :: items, behind)
    | none => (tight, [item.blocks], item.rest)

def readList (inner : BlockReader) (margin : Margin) (marker : Marker) (lines : List Line) :
    Block × List Line :=
  let (tight, items, behind) := readItems inner margin marker lines.length false marker lines
  (.list marker.number tight items, behind)

def readDefinition? (margin : Margin) (line : Line) (rest : List Line) :
    Option (Block × List Line) :=
  let lines := line :: rest.takeWhile (continuesText margin false)
  let text := lines.flatMap fun line => line.body ++ line.ending
  (definition? text).map fun (entry, behind) =>
    (.definition entry, rest.drop ((text.take (text.length - behind.length)).count (.scalar '\n')))

/-- How many lines stand above the underline of a heading, and its level. -/
def underlined? (margin : Margin) : List Line → Option (Nat × Nat)
  | [] => none
  | line :: rest =>
    let level := if line.isDeep margin || line.isOutdented margin then none else underline? line
    match level with
    | some level => some (0, level)
    | none =>
      if continuesText margin true line then
        (underlined? margin rest).map fun (above, level) => (above + 1, level)
      else none

def readText (margin : Margin) (line : Line) (rest : List Line) : Block × List Line :=
  match underlined? margin rest with
  | some (above, level) =>
    (.heading level (trimText (joinLines margin.indent (line :: rest.take above))),
      rest.drop (above + 1))
  | none =>
    let more := rest.takeWhile (continuesText margin true)
    (.paragraph (trimText (joinLines margin.indent (line :: more))), rest.drop more.length)

/-- The block that begins at a line. Quotes go one level deeper, lists two. -/
def readBlock (quoted listed : BlockReader) (margin : Margin) (line : Line) (rest : List Line) :
    Block × List Line :=
  if line.isDeep margin then readIndented margin (line :: rest)
  else if let some fence := Fence.ofLine? line then readFenced margin fence line rest
  else if let some inner := line.unquoted? then readQuote quoted margin inner rest
  else if isRule line then (.rule, rest)
  else if let some marker := listStart? margin false line then
    readList listed margin marker (line :: rest)
  else if let some result := readDefinition? margin line rest then result
  else if let some (level, text) := heading? line then (.heading level text, rest)
  else readText margin line rest

/-- The blocks of a container. `gap` says whether an empty line was seen, `tight` whether none
stands before the last block. -/
def readAll (quoted listed : BlockReader) (margin : Margin) :
    Nat → Bool → Bool → List Line → Reading
  | 0, _, tight, lines => ⟨[], lines, tight⟩
  | fuel + 1, gap, tight, lines =>
    match lines.dropWhile Line.isEmpty with
    | [] => ⟨[], [], tight⟩
    | line :: rest =>
      if line.isOutdented margin then ⟨[], line :: rest, tight⟩
      else
        let (block, behind) := readBlock quoted listed margin line rest
        let used := rest.length + 1 - behind.length
        let gapAfter := endsEmpty (line :: rest) used || behind.head?.any Line.isEmpty
        let reading := readAll quoted listed margin fuel (gap || gapAfter) (!gap) behind
        { reading with blocks := block :: reading.blocks }

/-- Reads the blocks of a container with so many levels to go. -/
def reader : Nat → BlockReader
  | 0 => leaveOut
  | 1 => fun margin lines => readAll leaveOut leaveOut margin lines.length false true lines
  | levels + 2 => fun margin lines =>
    readAll (reader (levels + 1)) (reader levels) margin lines.length false true lines

def deepest : Nat := 20

/-- Line ends become line feeds, and the character of number zero the replacement character. -/
def normalized : List CodePoint → List CodePoint
  | .scalar '\r' :: .scalar '\n' :: rest => '\n' :: normalized rest
  | .scalar '\r' :: rest => '\n' :: normalized rest
  | c :: rest => (if c.toNat = 0 then CodePoint.ofNat 0xfffd else c) :: normalized rest
  | [] => []

def ofText (text : List CodePoint) : List Block :=
  (reader deepest ⟨0, none⟩ (Line.split (normalized text))).blocks

mutual

/-- The definitions in a block, in the order of the text. -/
def definitions : Block → List Definition
  | .definition entry => [entry]
  | .quote blocks => definitionsAll blocks
  | .list _ _ items => definitionsItems items
  | _ => []

def definitionsAll : List Block → List Definition
  | [] => []
  | block :: rest => definitions block ++ definitionsAll rest

def definitionsItems : List (List Block) → List Definition
  | [] => []
  | item :: rest => definitionsAll item ++ definitionsItems rest

end

def isDefinition : Block → Bool
  | .definition _ => true
  | _ => false

end Block
end WebDocs.Markdown
