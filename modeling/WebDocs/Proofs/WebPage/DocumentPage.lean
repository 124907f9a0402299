import WebDocs.Proofs.WebPage.ShownState

namespace WebDocs
namespace View

/-- The parts of the view of a document. -/
def partsOf (options : ViewOptions) (route : Route) (document : Document) :
    Logged (Except Obstacle Parts) :=
  match route.view with
  | .docs => docsParts options document route.page
  | view => do
    let sections ← pageSections (displayOf options document) document.pages
    return .ok ⟨Fragment.join "\n" sections, [], view.title⟩

/-- The page around the parts of a view. -/
def assemble (options : ViewOptions) (route : Route) (path : Text) (notes : List Json) :
    Except Obstacle Parts → Logged (Except RenderError WebPage)
  | .ok parts =>
    return .ok ⟨parts.title, options.dark, parts.toc,
      .shown (notes.map noteText) (Markup.charsAll parts.body)⟩
  | .error (.malformed cause) => do
    Logged.report (.cannotRender path cause)
    return .ok ⟨route.view.title, options.dark, [], .error cause.message⟩
  | .error (.render cause) => return .error cause

/-- The page of a document for a route. -/
def documentPage (options : ViewOptions) (route : Route) (path : Text) (notes : List Json)
    (document : Document) : Logged (Except RenderError WebPage) := do
  assemble options route path notes (← partsOf options route document)

/-- The views that read their data as a document. -/
def OfDocument (route : Route) : Prop :=
  route.view = .docs ∨ route.view = .typecheck ∨ route.view = .desugar

variable {options : ViewOptions} {route : Route} {data : Json} {document : Document}

theorem ofDocument_iff : OfDocument route ↔ route.view ≠ .llvm ∧ route.view ≠ .constrain := by
  unfold OfDocument
  cases route.view <;> decide

theorem page_ready (path : Text) (notes : List Json) :
    (LoadState.ready path data notes).page options route =
      View.parts options route data >>= assemble options route path notes := rfl

theorem parts_of_decode (hv : OfDocument route) (hd : Document.decode data = .ok document) :
    View.parts options route data = partsOf options route document := by
  obtain ⟨hl, hk⟩ := ofDocument_iff.1 hv
  have hn : data ≠ .null := by
    rintro rfl
    cases hd
  rw [parts_eq_documentParts hl hk hn]
  simp only [documentParts, hd]
  rfl

/-- The page of data that is a document is the page of the document. -/
theorem page_of_decode (hv : OfDocument route) (hd : Document.decode data = .ok document)
    (path : Text) (notes : List Json) :
    (LoadState.ready path data notes).page options route =
      documentPage options route path notes document := by
  rw [page_ready, parts_of_decode hv hd]
  rfl

end View
end WebDocs
