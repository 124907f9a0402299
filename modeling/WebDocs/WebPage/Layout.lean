import WebDocs.Text.Escape

namespace WebDocs

/-- A row of the table of contents; a page has a link, a directory has none. -/
structure TocItem where
  name : Text
  depth : Nat
  href : Option Text
  current : Bool

/-- The middle of the page. -/
inductive WebPage.Content
  | error (message : Text)
  | loading
  | shown (notes : List Text) (body : List CodePoint)

structure WebPage where
  title : Text
  dark : Bool
  toc : List TocItem
  content : WebPage.Content

namespace WebPage

def escape (s : Text) : List CodePoint := Text.Escape.encode Text.Escape.page s.toList

def lines (ls : List String) : List CodePoint :=
  ls.flatMap fun line => (Text.ofString line).toList ++ [.scalar '\n']

/-- One rule of the style sheet. -/
def rule (selector declarations : String) : String :=
  "    " ++ selector ++ " \x7b " ++ declarations ++ " \x7d"

def style : List String :=
  [rule "body" "font-family: system-ui, sans-serif; margin: 0; color: #212529; background: #fff;",
   rule ".catln-dark body" "color: #ddd; background: #1c1d1f;",
   rule "header" "padding: .75em 1.5em; background: #3f51b5; color: #fff;",
   rule "header a" "color: #fff; margin-right: 1em; text-decoration: none;",
   rule ".catln-layout" "display: flex; gap: 2em; padding: 1em 1.5em;",
   rule ".catln-toc" "flex: 0 0 16em;",
   rule ".catln-toc ul" "list-style: none; padding-left: 0;",
   rule ".catln-toc .catln-current" "font-weight: bold;",
   rule "main" "flex: 1; font-family: ui-monospace, monospace;",
   rule ".catln-indented" "margin-left: 4em;",
   rule ".catln-obj-details" "color: #888;",
   rule ".catln-comment" "font-family: system-ui, sans-serif;",
   rule ".catln-notes" "border-left: 4px solid #f0ad4e; padding-left: 1em;",
   rule ".catln-error" "color: #c62828;",
   rule ".catln-embedded" "width: 100%; min-height: 20em; border: 1px solid #ccc;",
   rule ".catln-annot-missing" "outline: 1px dashed #c62828;"]

def navigation : List String :=
  ["  <header>",
   "    <strong>Catln WebDocs</strong>",
   "    <nav>",
   "      <a href=\"/\">Typecheck</a>",
   "      <a href=\"/desugar\">Desugar</a>",
   "      <a href=\"/constrain\">Constrain</a>",
   "      <a href=\"/llvm\">LLVM</a>",
   "      <a href=\"/docs\">Docs</a>",
   "    </nav>",
   "  </header>"]

def head (title : Text) (dark : Bool) : List CodePoint :=
  lines ["<!DOCTYPE html>"] ++
  ("<html lang=\"en\" class=\"" : Text).toList ++
  (if dark then ("catln-dark" : Text) else "catln-light").toList ++
  lines ["\">", "<head>", "  <meta charset=\"utf-8\" />",
    "  <meta name=\"viewport\" content=\"width=device-width, initial-scale=1\" />"] ++
  ("  <title>" : Text).toList ++ escape title ++
  lines (" - Catln WebDocs</title>" :: "  <style>" :: style ++ ["  </style>", "</head>"])

namespace TocItem

/-- A page as a link, a directory as its name and a slash. -/
def label (item : TocItem) : List CodePoint :=
  match item.href with
  | some href =>
    ("<a href=\"" : Text).toList ++ escape href ++ ("\">" : Text).toList ++ escape item.name ++
      ("</a>" : Text).toList
  | none => escape item.name ++ [.scalar '/']

def chars (item : TocItem) : List CodePoint :=
  ("        <li style=\"margin-left: " : Text).toList ++ (toString item.depth : Text).toList ++
  ("em\"" : Text).toList ++
  (if item.current then (" class=\"catln-current\"" : Text).toList else []) ++
  [.scalar '>', .scalar '\n'] ++
  label item ++ lines ["        </li>"]

end TocItem

def tocChars (toc : List TocItem) : List CodePoint :=
  if toc.isEmpty then []
  else lines ["    <nav class=\"catln-toc\">", "      <ul>"] ++ toc.flatMap TocItem.chars ++
    lines ["      </ul>", "    </nav>"]

def noteChars (note : Text) : List CodePoint :=
  ("        <li>" : Text).toList ++ escape note ++ lines ["</li>"]

def notesChars (notes : List Text) : List CodePoint :=
  if notes.isEmpty then []
  else lines ["      <ul class=\"catln-notes\">"] ++ notes.flatMap noteChars ++ lines ["      </ul>"]

def errorChars (message : Text) : List CodePoint :=
  ("      <div class=\"catln-error\">Error: " : Text).toList ++ escape message ++ lines ["</div>"]

def loadingChars : List CodePoint := lines ["      <div class=\"catln-pending\">Loading...</div>"]

def bodyChars (notes : List Text) (body : List CodePoint) : List CodePoint :=
  notesChars notes ++ ("      " : Text).toList ++ body ++ [.scalar '\n']

/-- An error without words leaves the place of the body empty. -/
def contentChars : Content → List CodePoint
  | .error message => if message = "" then bodyChars [] [] else errorChars message
  | .loading => loadingChars
  | .shown notes body => bodyChars notes body

def chars (page : WebPage) : List CodePoint :=
  head page.title page.dark ++ lines ("<body>" :: navigation) ++
  lines ["  <div class=\"catln-layout\">"] ++ tocChars page.toc ++
  lines ["    <main>"] ++ ("      <h1>" : Text).toList ++ escape page.title ++ lines ["</h1>"] ++
  contentChars page.content ++
  lines ["    </main>", "  </div>", "</body>"] ++ ("</html>" : Text).toList

def html (page : WebPage) : Text := Text.ofList page.chars

end WebPage
end WebDocs
