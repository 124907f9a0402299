import WebDocs.Dump.Decode
import WebDocs.Fragment.Listing
import WebDocs.Fragment.Node
import WebDocs.Fragment.Outline
import WebDocs.Loading.State
import WebDocs.Markdown.Html
import WebDocs.PageTree
import WebDocs.WebPage.Layout

namespace WebDocs

structure ViewOptions where
  showTypes : Bool
  details : Bool
  dark : Bool
  linkBase : Text

def ViewOptions.default : ViewOptions := ⟨true, false, false, docsRoute⟩

/-- Why there is no page at all: the route leads to no page of the document, the document holds a
value that its decoder does not expect, or there is no link to one of its pages. -/
inductive RenderError
  | route (cause : RouteError)
  | shape (cause : ShapeError)
  | overflow (cause : Overflow)
  | unencodable (cause : Text.Unencodable)

def RenderError.message : RenderError → String
  | route cause => cause.message
  | shape cause => cause.message
  | overflow cause => cause.message
  | unencodable cause => cause.message

/-- The text of a note: its message, itself, or its JSON text. -/
def noteText (note : Json) : Text :=
  match note.member? "msg" with
  | some message => message.plainText
  | none =>
    match note with
    | .str s => s
    | note => Text.ofChars (note.print Json.spaced)

namespace View

/-- The parts of a page that depend on its view. -/
structure Parts where
  body : Fragment
  toc : List TocItem
  title : Text

/-- Why a view can not be shown: the document is malformed, which the page itself says, or there is
no page. -/
inductive Obstacle
  | malformed (cause : Malformed)
  | render (cause : RenderError)

def Obstacle.ofDecode : DecodeError → Obstacle
  | .malformed cause => .malformed cause
  | .shape cause => .render (.shape cause)
  | .overflow cause => .render (.overflow cause)

def displayOf (options : ViewOptions) (document : Document) : Display where
  index := PositionIndex.ofAnnotations document.annotations
  metas := if options.showTypes then .typed else .declared
  details := options.details
  comments := Markdown.toHtml

def pageSection (display : Display) (page : Page) : Logged Fragment := do
  let shown ← statementsFragment display page.statements
  return [.element .pageSection (.element .heading (Fragment.ofText page.name) :: shown)]

def pageSections (display : Display) : List Page → Logged (List Fragment)
  | [] => return []
  | page :: rest => do
    let shown ← pageSection display page
    return shown :: (← pageSections display rest)

/-- The link of a row of the table of contents; a directory has none. -/
def rowHref? (base : Text) (entry : TocEntry) : Except Text.Unencodable (Option Text) :=
  if entry.isPage then (pageHref entry.path base).map some else .ok none

def tocItem (base current : Text) (entry : TocEntry) : Except Text.Unencodable TocItem :=
  (rowHref? base entry).map fun href? =>
    ⟨entry.name, entry.depth, href?, entry.path = current⟩

/-- The table of contents of a document, with the selected page marked. -/
def tocItems (document : Document) (base current : Text) : Except Obstacle (List TocItem) :=
  match PageTree.ofNames document.pageNames with
  | .error cause => .error (.malformed cause)
  | .ok tree =>
    ((PageTree.toc tree "" 0).mapM (tocItem base current)).mapError (.render ∘ .unencodable)

/-- The page a docs route selects: the one it names, or the last one. -/
def selectedPage? (document : Document) : Option Text → Option Page
  | some name => document.page? name
  | none => document.defaultPage?

def docsParts (options : ViewOptions) (document : Document) (name : Option Text) :
    Logged (Except Obstacle Parts) :=
  match selectedPage? document name with
  | none => return .error (.render (.route (.noPage name)))
  | some page =>
    match tocItems document options.linkBase page.name with
    | .error cause => return .error cause
    | .ok toc => do
      let body ← statementsFragment (displayOf options document) page.statements
      return .ok ⟨body, toc, if page.name = "" then View.title .docs else page.name⟩

def documentParts (options : ViewOptions) (route : Route) (data : Json) :
    Logged (Except Obstacle Parts) :=
  match Document.decode data with
  | .error cause => return .error (.ofDecode cause)
  | .ok document =>
    match route.view with
    | .docs => docsParts options document route.page
    | view => do
      let sections ← pageSections (displayOf options document) document.pages
      return .ok ⟨Fragment.join "\n" sections, [], view.title⟩

def parts (options : ViewOptions) (route : Route) (data : Json) : Logged (Except Obstacle Parts) :=
  match route.view, data with
  | .llvm, data => do
    let body ← listingFragment data
    return .ok ⟨body, [], View.title .llvm⟩
  | view, .null => return .ok ⟨[], [], view.title⟩
  | .constrain, data => return .ok ⟨data.outline, [], View.title .constrain⟩
  | _, data => documentParts options route data

end View

/-- The page of a route. A malformed document is reported and shown as an error. -/
def LoadState.page (options : ViewOptions) (route : Route) :
    LoadState → Logged (Except RenderError WebPage)
  | .failed _ error => return .ok ⟨route.view.title, options.dark, [], .error error.message⟩
  | .pending _ => return .ok ⟨route.view.title, options.dark, [], .loading⟩
  | .ready path data notes => do
    match ← View.parts options route data with
    | .ok parts =>
      return .ok ⟨parts.title, options.dark, parts.toc,
        .shown (notes.map noteText) (Markup.charsAll parts.body)⟩
    | .error (.malformed cause) =>
      Logged.report (.cannotRender path cause)
      return .ok ⟨route.view.title, options.dark, [], .error cause.message⟩
    | .error (.render cause) => return .error cause

end WebDocs
