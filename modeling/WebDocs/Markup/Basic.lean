import WebDocs.Text.Escape

namespace WebDocs

/-- The elements of fragments, each with its fixed attributes. -/
inductive Element
  | span
  | partialType
  | obj
  | objDetails
  | arm
  | indented
  | statement
  | decl
  | annot
  | missingAnnot
  | comment
  | textBlock
  | codeBlock
  | code
  | pageSection
  | artifactSection
  | heading
  | outline
  | summary
  | members
  | key
  | value
  | items
  | item
  deriving DecidableEq

namespace Element

def name : Element → String
  | span | partialType | obj | objDetails => "span"
  | arm | indented | statement | decl | annot | missingAnnot | comment => "div"
  | textBlock | codeBlock => "pre"
  | code => "code"
  | pageSection | artifactSection => "section"
  | heading => "h2"
  | outline => "details"
  | summary => "summary"
  | members => "dl"
  | key => "dt"
  | value => "dd"
  | items => "ol"
  | item => "li"

/-- The attributes, with a blank before each. -/
def attributes : Element → String
  | span | heading | summary | key | value | item => ""
  | partialType => " class=\"catln-partial\""
  | obj => " class=\"catln-obj\""
  | objDetails => " class=\"catln-obj-details\""
  | arm => " class=\"catln-arm\""
  | indented => " class=\"catln-indented\""
  | statement => " class=\"catln-statement\""
  | decl => " class=\"catln-decl\""
  | annot => " class=\"catln-annot\""
  | missingAnnot => " class=\"catln-annot catln-annot-missing\""
  | comment => " class=\"catln-comment\""
  | textBlock => " class=\"catln-text\""
  | codeBlock => " class=\"catln-code\" data-language=\"llvm\""
  | code => " class=\"language-llvm\""
  | pageSection => " class=\"catln-page\""
  | artifactSection => " class=\"catln-artifact\""
  | outline => " class=\"catln-outline\" open"
  | members => " class=\"catln-outline\""
  | items => " class=\"catln-outline\""

end Element

/-- `frame` is a page embedded with a title; `prose` is HTML that is finished already. -/
inductive Markup
  | text (s : Text)
  | element (kind : Element) (children : List Markup)
  | lineBreak
  | frame (contents title : Text)
  | prose (html : Text)
  deriving Inhabited

abbrev Fragment := List Markup

namespace Markup

def escape (s : Text) : List CodePoint := Text.Escape.encode Text.Escape.html s.toList

def openTag (kind : Element) : List CodePoint :=
  .scalar '<' :: (kind.name : Text).toList ++ (kind.attributes : Text).toList ++ [.scalar '>']

def closeTag (kind : Element) : List CodePoint :=
  .scalar '<' :: .scalar '/' :: (kind.name : Text).toList ++ [.scalar '>']

mutual

def chars : Markup → List CodePoint
  | text s => escape s
  | element kind children => openTag kind ++ charsAll children ++ closeTag kind
  | lineBreak => ("<br />" : Text).toList
  | frame contents title =>
    ("<iframe class=\"catln-embedded\" srcdoc=\"" : Text).toList ++ escape contents ++
      ("\" title=\"" : Text).toList ++ escape title ++ ("\"></iframe>" : Text).toList
  | prose html => html.toList

def charsAll : List Markup → List CodePoint
  | [] => []
  | first :: rest => first.chars ++ charsAll rest

end

theorem chars_text (s : Text) : (text s).chars = escape s := rfl

theorem chars_element (kind : Element) (children : List Markup) :
    (element kind children).chars = openTag kind ++ charsAll children ++ closeTag kind := rfl

theorem chars_lineBreak : lineBreak.chars = ("<br />" : Text).toList := rfl

theorem chars_frame (contents title : Text) :
    (frame contents title).chars =
      ("<iframe class=\"catln-embedded\" srcdoc=\"" : Text).toList ++ escape contents ++
        ("\" title=\"" : Text).toList ++ escape title ++ ("\"></iframe>" : Text).toList := rfl

theorem charsAll_append (a b : List Markup) : charsAll (a ++ b) = charsAll a ++ charsAll b := by
  induction a with
  | nil => rfl
  | cons first rest ih => simp [charsAll, ih]

end Markup

namespace Fragment

def html (fragment : Fragment) : Text := Text.ofList (Markup.charsAll fragment)

/-- A text; the empty text is the empty fragment. -/
def ofText (s : Text) : Fragment := if s = "" then [] else [.text s]

/-- Fragments with a text between neighbours. -/
def join (separator : Text) : List Fragment → Fragment
  | [] => []
  | [fragment] => fragment
  | fragment :: rest => fragment ++ .text separator :: join separator rest

end Fragment
end WebDocs
