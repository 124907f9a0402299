import WebDocs.Dump.Error
import WebDocs.Text.Blank
import WebDocs.Text.Percent

namespace WebDocs

inductive View
  | typecheck
  | desugar
  | constrain
  | llvm
  | docs
  deriving DecidableEq

namespace View

def name : View → Text
  | typecheck => "typecheck"
  | desugar => "desugar"
  | constrain => "constrain"
  | llvm => "llvm"
  | docs => "docs"

def ofWord? : String → Option View
  | "typecheck" => some typecheck
  | "desugar" => some desugar
  | "constrain" => some constrain
  | "llvm" => some llvm
  | "docs" => some docs
  | _ => none

def ofName? (name : Text) : Option View := name.toString? >>= ofWord?

def title : View → Text
  | typecheck => "Typecheck"
  | desugar => "Desugar"
  | constrain => "Constrain"
  | llvm => "LLVM"
  | docs => "Docs"

/-- The path of the document a view shows. -/
def sourcePath : View → Text
  | typecheck => "/typecheck"
  | desugar => "/desugar"
  | constrain => "/constrain"
  | llvm => "/llvm"
  | docs => "/pages"

end View

inductive RouteError
  | unknown (route : Text)
  | noSubPages (view : View) (route : Text)
  | noPage (name : Option Text)

def RouteError.message : RouteError → String
  | unknown route => s!"unknown route: {quoted route}"
  | noSubPages view route => s!"view {quoted view.name} has no sub-pages: {quoted route}"
  | noPage none => "no documentation page named None"
  | noPage (some name) => s!"no documentation page named {quoted name}"

structure Route where
  view : View
  page : Option Text
  deriving DecidableEq

namespace Route

/-- The text before the first slash and the text behind it. -/
def head (path : List CodePoint) : List CodePoint × List CodePoint :=
  (path.takeWhile (· ≠ CodePoint.scalar '/'), (path.dropWhile (· ≠ CodePoint.scalar '/')).drop 1)

/-- A route without the blanks and the slashes around it. -/
def path (route : Text) : List CodePoint :=
  Text.trimBy (· = CodePoint.scalar '/') (Text.trimBlanks route.toList)

/-- The empty route is the typecheck view; only the docs view has pages. -/
def parse (route : Text) : Except RouteError Route :=
  match path route with
  | [] => .ok ⟨.typecheck, none⟩
  | path =>
    let (view, rest) := head path
    match View.ofName? (Text.ofList view), rest with
    | none, _ => .error (.unknown route)
    | some view, [] => .ok ⟨view, none⟩
    | some .docs, rest => .ok ⟨.docs, some (Text.ofList (Text.Percent.decode rest))⟩
    | some view, _ => .error (.noSubPages view route)

end Route

def docsRoute : Text := "/docs"

/-- The link to a docs page below a base without its slashes at the end. -/
def pageHref (name base : Text) : Except Text.Unencodable Text :=
  (Text.Percent.encodeComponent name.toList).map fun encoded =>
    Text.ofList (Text.dropEndWhile (· = CodePoint.scalar '/') base.toList ++
      .scalar '/' :: encoded.map .scalar)

end WebDocs
