import WebDocs.Markdown.Address
import WebDocs.Text.Entity
import WebDocs.Text.Folding
import WebDocs.Text.Punctuation

namespace WebDocs.Markdown

open WebDocs.Text

structure Target where
  address : List CodePoint
  title : List CodePoint
  deriving DecidableEq

/-- Blanks and line ends. -/
def isGap (c : CodePoint) : Bool := c = ' ' || c = '\t' || c = '\n'

def isIndent (c : CodePoint) : Bool := c = ' ' || c = '\t'

/-- Blanks around a text and within a label. The separators of information and the next-line control
are no blanks here, but characters of the text. -/
def isTextBlank (c : CodePoint) : Bool :=
  isBlank c && !(0x1c ≤ c.toNat && c.toNat ≤ 0x1f) && c.toNat ≠ 0x85

def trimText : List CodePoint → List CodePoint := trimBy isTextBlank

/-- The text between `&` and `;` of a character reference. -/
def referenceBody? (s : List CodePoint) : Option (List CodePoint) :=
  let body := s.takeWhile fun c => c.isAlphanum || c = CodePoint.scalar '#'
  match s.drop body.length with
  | .scalar ';' :: _ => some body
  | _ => none

/-- The characters of a reference in an address, a title or the name of a language. -/
def referenced? : List CodePoint → Option (List CodePoint)
  | .scalar '#' :: number =>
    match Entity.number? 8 8 number with
    | some n => if Entity.isValidNumber n then some [CodePoint.ofNat n] else none
    | none => none
  | name => Entity.named? name

/-- Resolves escapes and references, after some characters that are done. -/
def unescapeFrom : Nat → List CodePoint → List CodePoint
  | _, [] => []
  | done + 1, _ :: rest => unescapeFrom done rest
  | 0, .scalar '\\' :: rest =>
    match rest with
    | c :: _ => if isAsciiPunctuation c then c :: unescapeFrom 1 rest else '\\' :: unescapeFrom 0 rest
    | [] => ['\\']
  | 0, .scalar '&' :: rest =>
    match referenceBody? rest with
    | some body =>
      match referenced? body with
      | some cs => cs ++ unescapeFrom (body.length + 1) rest
      | none => '&' :: unescapeFrom 0 rest
    | none => '&' :: unescapeFrom 0 rest
  | 0, c :: rest => c :: unescapeFrom 0 rest

def unescape (s : List CodePoint) : List CodePoint := unescapeFrom 0 s

/-- An address that `>` ends; what is read of it stands in reverse. -/
def angled? (read : List CodePoint) : List CodePoint → Option (List CodePoint × List CodePoint)
  | .scalar '>' :: rest => some (unescape read.reverse, rest)
  | .scalar '\\' :: c :: rest => angled? (c :: '\\' :: read) rest
  | c :: rest => if c = '\n' || c = '<' then none else angled? (c :: read) rest
  | [] => none

/-- An address that a blank or a parenthesis without partner ends. -/
def bare? (depth : Nat) (read : List CodePoint) (s : List CodePoint) :
    Option (List CodePoint × List CodePoint) :=
  let ended := if read.isEmpty || depth ≠ 0 then none else some (unescape read.reverse, s)
  match s with
  | [] => ended
  | .scalar '(' :: rest => if 32 ≤ depth then none else bare? (depth + 1) ('(' :: read) rest
  | .scalar ')' :: rest => if depth = 0 then ended else bare? (depth - 1) (')' :: read) rest
  | .scalar '\\' :: c :: rest => if c = ' ' then ended else bare? depth (c :: '\\' :: read) rest
  | c :: rest => if c.toNat ≤ 0x20 || c.toNat = 0x7f then ended else bare? depth (c :: read) rest

def destination? : List CodePoint → Option (List CodePoint × List CodePoint)
  | .scalar '<' :: rest => angled? [] rest
  | s => bare? 0 [] s

/-- A title up to its closing mark. -/
def titleUntil? (close : CodePoint) (read : List CodePoint) :
    List CodePoint → Option (List CodePoint × List CodePoint)
  | .scalar '\\' :: c :: rest => titleUntil? close (c :: '\\' :: read) rest
  | c :: rest =>
    if c = close then some (unescape read.reverse, rest)
    else if c = '(' && close = ')' then none
    else titleUntil? close (c :: read) rest
  | [] => none

def title? : List CodePoint → Option (List CodePoint × List CodePoint)
  | .scalar '"' :: rest => titleUntil? '"' [] rest
  | .scalar '\'' :: rest => titleUntil? '\'' [] rest
  | .scalar '(' :: rest => titleUntil? ')' [] rest
  | _ => none

/-- What the text behind `(` holds; `broken` keeps the text from the place where it went wrong. -/
inductive Resource
  | found (target : Target) (rest : List CodePoint)
  | broken (rest : List CodePoint)
  | unended

/-- A title counts only after a gap. -/
def titleAfterGap (s : List CodePoint) : List CodePoint × List CodePoint :=
  let next := s.dropWhile isGap
  match title? next with
  | some (title, rest) => if next.length < s.length then (title, rest.dropWhile isGap) else ([], next)
  | none => ([], next)

def resource (s : List CodePoint) : Resource :=
  let start := s.dropWhile isGap
  if start.isEmpty then .unended
  else
    let (address, afterAddress) :=
      match destination? start with
      | some (raw, rest) =>
        let address := Address.normalize raw
        if Address.isAllowed address then (address, rest) else ([], start)
      | none => ([], start)
    let (title, rest) := titleAfterGap afterAddress
    match rest with
    | .scalar ')' :: rest => .found ⟨address, title⟩ rest
    | _ => .broken rest

/-- Joins every run of blanks into one. -/
def collapse : List CodePoint → List CodePoint
  | [] => []
  | c :: rest =>
    if isTextBlank c then
      match collapse rest with
      | .scalar ' ' :: joined => ' ' :: joined
      | joined => ' ' :: joined
    else c :: collapse rest

/-- Labels are the same if they differ in case and blanks only. -/
def labelKey (s : List CodePoint) : List CodePoint := foldCase (collapse (trimText s))

structure Definition where
  label : List CodePoint
  target : Target

/-- The first definition of a label counts. -/
def lookUp (definitions : List Definition) (label : List CodePoint) : Option Target :=
  (definitions.find? (·.label = labelKey label)).map (·.target)

/-- The label of a definition, up to `]`. -/
def definitionLabel? (read : List CodePoint) :
    List CodePoint → Option (List CodePoint × List CodePoint)
  | .scalar ']' :: rest => some (read.reverse, rest)
  | .scalar '\\' :: c :: rest => definitionLabel? (c :: '\\' :: read) rest
  | c :: rest => if c = '[' then none else definitionLabel? (c :: read) rest
  | [] => none

/-- The text after blanks, if that is the end of the line. -/
def lineEnd? (s : List CodePoint) : Option (List CodePoint) :=
  match s.dropWhile isIndent with
  | [] => some []
  | c :: rest => if c = '\n' then some (c :: rest) else none

/-- A title with nothing behind it in its line. It stands behind a gap or goes over several lines. A
title that is followed by more is none, unless it is empty, which spoils the definition. -/
def definitionEnd? (s : List CodePoint) : Option (List CodePoint × List CodePoint) :=
  let next := s.dropWhile isGap
  let untitled := (lineEnd? s).map (([], ·))
  match title? next with
  | some (title, rest) =>
    if next.length < s.length || (next.take (next.length - rest.length)).contains '\n' then
      match lineEnd? rest with
      | some rest => some (title, rest)
      | none => if title.isEmpty then none else untitled
    else untitled
  | none => untitled

/-- The address of a definition, which ends in its line, and the text behind it. An address that
takes the line end with it leaves no place for a title. -/
def definitionTarget? (s : List CodePoint) :
    Option (List CodePoint × List CodePoint × List CodePoint) :=
  let line := s.takeWhile (· ≠ CodePoint.scalar '\n')
  let later := s.drop line.length
  (destination? (line ++ later.take 1)).bind fun (address, rest) =>
    if rest.isEmpty then some (address, [], later)
    else (definitionEnd? (rest ++ later.drop 1)).map (address, ·)

/-- A definition `[label]: address "title"` at the start of a paragraph, and the text behind it. -/
def definition? : List CodePoint → Option (Definition × List CodePoint)
  | .scalar '[' :: s =>
    match definitionLabel? [] s with
    | some (label, .scalar ':' :: rest) =>
      (definitionTarget? (rest.dropWhile isGap)).bind fun (raw, title, rest) =>
        let address := Address.normalize raw
        let key := labelKey label
        if !Address.isAllowed address || key.isEmpty then none
        else some (⟨key, ⟨address, title⟩⟩, rest)
    | _ => none
  | _ => none

end WebDocs.Markdown
