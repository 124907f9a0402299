import WebDocs.Proofs.Fragment.AnnotationJoin
import WebDocs.Proofs.Fragment.OpaquePositions
import WebDocs.Proofs.WebPage.DocumentPage

namespace WebDocs

variable {f : Json → Json}

/-- The moved statements ask for the new positions. -/
theorem Asks.mapPositions (hf : Json.Relocates f) {statements : List Statement} {position : Json}
    (h : Asks statements position) :
    Asks (statements.map (Statement.mapPositions f)) (f position) := by
  obtain ⟨expr, hm, rfl⟩ := h
  exact ⟨expr.mapPositions f, List.mem_map_of_mem (f := Statement.mapPositions f) hm,
    Expr.headPosition_mapPositions hf expr⟩

namespace Document

/-- No position with a value, and none that a page asks for, splits a pair into its halves. -/
structure Unsplit (document : Document) : Prop where
  recorded : UnsplitPositions document.annotations
  asked : ∀ page ∈ document.pages, ∀ position, Asks page.statements position → position.Unsplit

theorem pageNames_mapPositions (document : Document) :
    (document.mapPositions f).pageNames = document.pageNames := by
  simp only [pageNames, mapPositions, List.map_map]
  rfl

theorem page?_mapPositions (document : Document) (name : Text) :
    (document.mapPositions f).page? name = (document.page? name).map (Page.mapPositions f) := by
  rw [page?, mapPositions, List.find?_map]
  rfl

theorem defaultPage?_mapPositions (document : Document) :
    (document.mapPositions f).defaultPage? = document.defaultPage?.map (Page.mapPositions f) :=
  List.getLast?_map

end Document

namespace View

theorem selectedPage?_mapPositions (document : Document) (name : Option Text) :
    selectedPage? (document.mapPositions f) name =
      (selectedPage? document name).map (Page.mapPositions f) := by
  cases name with
  | none => exact document.defaultPage?_mapPositions
  | some name => exact document.page?_mapPositions name

theorem tocItems_mapPositions (document : Document) (base current : Text) :
    tocItems (document.mapPositions f) base current = tocItems document base current := by
  rw [tocItems, tocItems, document.pageNames_mapPositions]

theorem alike_moved (options : ViewOptions) (document : Document) :
    (displayOf options document).Alike (displayOf options (document.mapPositions f)) :=
  ⟨rfl, rfl, rfl⟩

section

variable {document : Document} (hf : Json.Relocates f) (hu : document.Unsplit)
  (hfu : (document.mapPositions f).Unsplit) (options : ViewOptions)

include hf hu hfu

theorem pageStatements_mapPositions {page : Page} (hm : page ∈ document.pages) :
    statementsFragment (displayOf options (document.mapPositions f))
        (page.statements.map (Statement.mapPositions f)) =
      (statementsFragment (displayOf options document) page.statements).mapPositions f := by
  refine statementsFragment_mapPositions hf (alike_moved options document) page.statements
    fun position ha => ?_
  have hmoved := hfu.asked _ (List.mem_map_of_mem hm) (f position) (ha.mapPositions hf)
  exact PositionIndex.lookup_mapPositions hf hu.recorded hfu.recorded
    (hu.asked page hm position ha) hmoved

theorem pageSections_mapPositions {pages : List Page} (hp : pages ⊆ document.pages) :
    pageSections (displayOf options (document.mapPositions f)) (pages.map (Page.mapPositions f)) =
      (pageSections (displayOf options document) pages).mapPositions f := by
  induction pages with
  | nil => rfl
  | cons page rest ih =>
    have hs := pageStatements_mapPositions hf hu hfu options (hp List.mem_cons_self)
    have hrest := ih fun other hm => hp (List.mem_cons_of_mem _ hm)
    simp [pageSections, pageSection, Page.mapPositions, hs, hrest]

theorem docsParts_mapPositions (name : Option Text) :
    docsParts options (document.mapPositions f) name =
      (docsParts options document name).mapPositions f := by
  simp only [docsParts, selectedPage?_mapPositions]
  cases hp : selectedPage? document name with
  | none => rfl
  | some page =>
    have hs := pageStatements_mapPositions hf hu hfu options (mem_of_selectedPage? hp)
    simp only [Option.map_some, Page.mapPositions, tocItems_mapPositions]
    cases tocItems document options.linkBase page.name with
    | error cause => rfl
    | ok toc => simp [hs]

theorem partsOf_mapPositions (route : Route) :
    partsOf options route (document.mapPositions f) =
      (partsOf options route document).mapPositions f := by
  have hs := pageSections_mapPositions hf hu hfu options (List.Subset.refl document.pages)
  have hpages : (document.mapPositions f).pages = document.pages.map (Page.mapPositions f) := rfl
  obtain ⟨view, name⟩ := route
  cases view with
  | docs => exact docsParts_mapPositions hf hu hfu options name
  | _ => simp only [partsOf, hpages, hs, Logged.mapPositions_bind, Logged.mapPositions_pure]

end

theorem assemble_mapPositions (options : ViewOptions) (route : Route) (path : Text)
    (notes : List Json) (parts : Except Obstacle Parts) :
    (assemble options route path notes parts).mapPositions f =
      assemble options route path notes parts := by
  cases parts with
  | ok parts => rfl
  | error obstacle => cases obstacle <;> rfl

theorem documentPage_mapPositions {document : Document} (hf : Json.Relocates f)
    (hu : document.Unsplit) (hfu : (document.mapPositions f).Unsplit) (options : ViewOptions)
    (route : Route) (path : Text) (notes : List Json) :
    documentPage options route path notes (document.mapPositions f) =
      (documentPage options route path notes document).mapPositions f := by
  rw [documentPage, documentPage, partsOf_mapPositions hf hu hfu, Logged.mapPositions_bind]
  simp only [assemble_mapPositions]

/-- Positions are opaque, unless one of them splits a pair into its halves: if each is replaced by
another one, and the new ones are the same where the old ones were, the page of the document stays as
it is, for every route and all options, and so does the log, except that the notices about annotations
name the new positions. -/
theorem page_mapPositions (hf : Json.Relocates f) {route : Route} (hv : OfDocument route)
    {payload : Json} {document : Document} (hd : Document.decode payload = .ok document)
    (hu : document.Unsplit) (hfu : (document.mapPositions f).Unsplit) (options : ViewOptions)
    (path : Text) (notes : List Json) :
    let found := (LoadState.ready path payload notes).page options route
    let moved := documentPage options route path notes (document.mapPositions f)
    found = documentPage options route path notes document ∧
    moved.value = found.value ∧ moved.log = found.log.map (Notice.mapPosition f) ∧
    ∀ other, Document.decode other = .ok (document.mapPositions f) →
      (LoadState.ready path other notes).page options route = moved := by
  intro found moved
  have hfound : found = documentPage options route path notes document :=
    page_of_decode hv hd path notes
  have hmoved : moved = found.mapPositions f := by
    rw [hfound]
    exact documentPage_mapPositions hf hu hfu options route path notes
  refine ⟨hfound, ?_, ?_, fun other ho => page_of_decode hv ho path notes⟩
  · rw [hmoved]
    rfl
  · rw [hmoved]
    rfl

theorem relocates_of_injective (hn : ∀ position, f position = .null ↔ position = .null)
    (hs : ∀ position, (f position).sorted = f position.sorted) (hi : Function.Injective f) :
    Json.Relocates f where
  null := hn
  same position other := by
    rw [← Json.sorted_eq_iff, hs, hs, hi.eq_iff, Json.sorted_eq_iff]

namespace Boxed

/-- The position as the only item of a list. -/
def box : Json → Json
  | .null => .null
  | position => .arr [position]

theorem relocates_box : Json.Relocates box :=
  relocates_of_injective (fun position => by cases position <;> simp [box])
    (fun position => by cases position <;> rfl)
    fun position other h => by cases position <;> cases other <;> simp_all [box]

def annotAt (position : Json) : Json :=
  .obj [("tag", .str "GlobalAnnot"), ("contents", Joined.nameAt position)]

/-- A page with annotations at two positions, of which the first one has a value. -/
def payload (recorded missing : Json) : Json :=
  .arr [.arr [.arr [.arr [.null, .arr [annotAt recorded, annotAt missing]], .str "main", .null]],
    .arr [.arr [Joined.nameAt recorded, .obj [("tag", .str "StrVal"), ("contents", .str "value")]]]]

def document (recorded missing : Json) : Document where
  pages := [⟨"main",
    [.globalAnnot (Joined.name recorded), .globalAnnot (Joined.name missing)], []⟩]
  annotations := [⟨recorded, Joined.name recorded, .str "value"⟩]

theorem unsplit_document {recorded missing : Json} (hr : recorded.Unsplit) (hm : missing.Unsplit) :
    (document recorded missing).Unsplit where
  recorded := List.forall_mem_singleton.2 hr
  asked := by
    rintro page hp position ⟨expr, he, rfl⟩
    cases List.mem_singleton.1 hp
    rcases List.mem_pair.1 he with h | h
    · cases h
      exact hr
    · cases h
      exact hm

theorem unsplit_item (n : Int) : Json.Unsplit (.arr [.int n]) :=
  .arr (List.forall_mem_singleton.2 (.int n))

end Boxed

/-- The annotation without a value is reported at its new position, on the same page. -/
theorem page_mapPositions_boxed :
    ∃ page,
      (LoadState.ready "/pages" (Boxed.payload (.int 1) (.int 2)) []).page .default ⟨.docs, none⟩ =
        ⟨.ok page, [.missingResult (.int 2)]⟩ ∧
      (LoadState.ready "/pages" (Boxed.payload (.arr [.int 1]) (.arr [.int 2])) []).page .default
        ⟨.docs, none⟩ = ⟨.ok page, [.missingResult (.arr [.int 2])]⟩ := by
  have hd : Document.decode (Boxed.payload (.int 1) (.int 2)) =
      .ok (Boxed.document (.int 1) (.int 2)) := rfl
  have hother : Document.decode (Boxed.payload (.arr [.int 1]) (.arr [.int 2])) =
      .ok ((Boxed.document (.int 1) (.int 2)).mapPositions Boxed.box) := rfl
  have hmapped := @page_mapPositions Boxed.box Boxed.relocates_box ⟨.docs, none⟩ (.inl rfl) _ _ hd
    (Boxed.unsplit_document (.int 1) (.int 2))
    (Boxed.unsplit_document (Boxed.unsplit_item 1) (Boxed.unsplit_item 2)) .default "/pages" []
  obtain ⟨-, hvalue, hlog, hpage⟩ := hmapped
  have hmoved (moved : Logged (Except RenderError WebPage)) : moved = ⟨moved.value, moved.log⟩ := rfl
  refine ⟨_, rfl, ?_⟩
  rw [hpage _ hother, hmoved (documentPage _ _ _ _ _), hvalue, hlog]
  rfl

/-- The halves of a pair change places with the number zero. -/
def exchange : Json → Json
  | .str s => if s = Joined.halvesText then .int 0 else .str s
  | .int n => if n = 0 then Joined.halves else .int n
  | position => position

theorem exchange_exchange (position : Json) : exchange (exchange position) = position := by
  cases position with
  | str s => by_cases h : s = Joined.halvesText <;> simp [exchange, h, Joined.halves]
  | int n => by_cases h : n = 0 <;> simp [exchange, h, Joined.halves]
  | _ => rfl

theorem exchange_eq_null_iff (position : Json) : exchange position = .null ↔ position = .null := by
  cases position with
  | str s => by_cases h : s = Joined.halvesText <;> simp [exchange, h]
  | int n => by_cases h : n = 0 <;> simp [exchange, h, Joined.halves]
  | _ => simp [exchange]

theorem sorted_exchange (position : Json) :
    (exchange position).sorted = exchange position.sorted := by
  cases position with
  | str s => by_cases h : s = Joined.halvesText <;> simp [exchange, h, Json.sorted]
  | int n => by_cases h : n = 0 <;> simp [exchange, h, Joined.halves, Json.sorted]
  | _ => rfl

theorem relocates_exchange : Json.Relocates exchange :=
  relocates_of_injective exchange_eq_null_iff sorted_exchange
    (Function.Involutive.injective exchange_exchange)

/-- The value at the halves of a pair moves away from the character of the pair, which then is
reported. -/
theorem page_exchange_halves :
    let log (document : Document) := (documentPage .default ⟨.docs, none⟩ "/pages" [] document).log
    Document.decode Joined.splitPayload = .ok Joined.splitDocument ∧ Json.Relocates exchange ∧
      log Joined.splitDocument = [] ∧
      log (Joined.splitDocument.mapPositions exchange) = [.missingResult Joined.pair] := by
  intro log
  exact ⟨rfl, relocates_exchange, List.isEmpty_iff.1 (by decide +kernel), rfl⟩

end View
end WebDocs
