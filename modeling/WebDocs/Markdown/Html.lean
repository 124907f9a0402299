import WebDocs.Markdown.Block
import WebDocs.Markdown.Phrase
import WebDocs.Text.Escape

namespace WebDocs.Markdown

open WebDocs.Text

namespace Html

/-- Only the double quote is escaped, since attributes stand in double quotes. -/
def style : Escape.Style := ⟨("&quot;" : Text).toList, [.scalar '\'']⟩

def escape (s : List CodePoint) : List CodePoint := Escape.encode style s

/-- An attribute with a blank before it. -/
def withValue (name : String) (value : List CodePoint) : List CodePoint :=
  .scalar ' ' :: (name : Text).toList ++ ("=\"" : Text).toList ++ escape value ++ [.scalar '"']

/-- A title is written only if there is one. -/
def titleOf (target : Target) : List CodePoint :=
  if target.title.isEmpty then [] else withValue "title" target.title

def element (name : String) (content : List CodePoint) : List CodePoint :=
  .scalar '<' :: (name : Text).toList ++ [.scalar '>'] ++ content ++ ("</" : Text).toList ++
    (name : Text).toList ++ [.scalar '>']

mutual

def inline : Inline → List CodePoint
  | .plain c => escape [c]
  | .literal text => escape text
  | .code text => element "code" (escape text)
  | .softBreak => [.scalar '\n']
  | .hardBreak => ("<br />\n" : Text).toList
  | .emphasis _ content => element "em" (inlines content)
  | .strong content => element "strong" (inlines content)
  | .link target content =>
    ("<a" : Text).toList ++ withValue "href" target.address ++ titleOf target ++ [.scalar '>'] ++
      inlines content ++ ("</a>" : Text).toList
  | .image target content =>
    ("<img" : Text).toList ++ withValue "src" target.address ++
      withValue "alt" (Inline.alternativeAll false content) ++ titleOf target ++
      (" />" : Text).toList

def inlines : List Inline → List CodePoint
  | [] => []
  | first :: rest => inline first ++ inlines rest

end

/-- The class names the language of the code, the first word of what is said of it. -/
def codeBlock (info text : List CodePoint) : List CodePoint :=
  let language := info.takeWhile (!isTextBlank ·)
  let classOf :=
    if info.isEmpty then [] else withValue "class" (("language-" : Text).toList ++ language)
  ("<pre><code" : Text).toList ++ classOf ++ [.scalar '>'] ++ escape text ++
    ("</code></pre>\n" : Text).toList

/-- A line end before a block that follows bare text. Code has none. -/
def lineEnd (afterBare : Bool) : List CodePoint := if afterBare then [.scalar '\n'] else []

/-- A line end behind the tag that opens a container, unless bare text or nothing follows. -/
def opening (tight : Bool) (blocks : List Block) : List CodePoint :=
  match blocks.find? (!·.isDefinition) with
  | none => []
  | some (.paragraph _) => if tight then [] else [.scalar '\n']
  | some _ => [.scalar '\n']

mutual

/-- A block of a container. `tight` says that paragraphs are bare text here, and `afterBare` that
one of them stands before this block. -/
def block (definitions : List Definition) (tight afterBare : Bool) : Block → List CodePoint
  | .paragraph text =>
    if tight then inlines (Phrase.read definitions text)
    else element "p" (inlines (Phrase.read definitions text)) ++ [.scalar '\n']
  | .heading level text =>
    lineEnd afterBare ++ element (headingName level) (inlines (Phrase.read definitions text)) ++
      [.scalar '\n']
  | .rule => lineEnd afterBare ++ ("<hr />\n" : Text).toList
  | .code info text => codeBlock info text
  | .quote content =>
    lineEnd afterBare ++
      element "blockquote" (opening false content ++ blocks definitions false false content) ++
      [.scalar '\n']
  | .list none itemsTight content =>
    lineEnd afterBare ++ ("<ul>\n" : Text).toList ++ items definitions itemsTight content ++
      ("</ul>\n" : Text).toList
  | .list (some start) itemsTight content =>
    let number := if start = 1 then [] else withValue "start" (toString start : Text).toList
    lineEnd afterBare ++ ("<ol" : Text).toList ++ number ++ (">\n" : Text).toList ++
      items definitions itemsTight content ++ ("</ol>\n" : Text).toList
  | .definition _ => []
where
  headingName (level : Nat) : String := "h" ++ toString level

def blocks (definitions : List Definition) (tight afterBare : Bool) : List Block → List CodePoint
  | [] => []
  | first :: rest =>
    let bare :=
      match first with
      | .paragraph _ => tight
      | .definition _ => afterBare
      | _ => false
    block definitions tight afterBare first ++ blocks definitions tight bare rest

def items (definitions : List Definition) (tight : Bool) : List (List Block) → List CodePoint
  | [] => []
  | first :: rest =>
    element "li" (opening tight first ++ blocks definitions tight false first) ++
      CodePoint.scalar '\n' :: items definitions tight rest

end
end Html

def toHtml (s : Text) : Text :=
  let content := Block.ofText s.toList
  Text.ofList (Html.blocks (Block.definitionsAll content) false false content)

end WebDocs.Markdown
