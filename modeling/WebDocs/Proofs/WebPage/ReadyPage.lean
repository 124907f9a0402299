import WebDocs.Proofs.Fragment.Diagnostics
import WebDocs.Proofs.WebPage.DocumentPage

namespace WebDocs

theorem Fragment.charsAll_join (separator : Text) (fragments : List Fragment) :
    Markup.charsAll (join separator fragments) =
      (Markup.escape separator).intercalate (fragments.map Markup.charsAll) := by
  induction fragments with
  | nil => rfl
  | cons first rest ih =>
    cases rest with
    | nil => exact (List.intercalate_singleton ..).symm
    | cons second rest =>
      rw [List.map_cons, List.map_cons, List.intercalate_cons_cons, ← List.map_cons]
      change Markup.charsAll (first ++ ([Markup.text separator] ++ join separator (second :: rest))) =
        Markup.charsAll first ++ Markup.escape separator ++ _
      rw [Markup.charsAll_append, Markup.charsAll_append, ih, List.append_assoc, Markup.charsAll,
        Markup.charsAll, List.append_nil, Markup.chars_text]

theorem Fragment.charsAll_joinLines (fragments : List Fragment) :
    Markup.charsAll (join "\n" fragments) =
      [CodePoint.scalar '\n'].intercalate (fragments.map Markup.charsAll) := by
  have hline : Markup.escape "\n" = [CodePoint.scalar '\n'] := by decide
  rw [charsAll_join, hline]

theorem statementFragments_value (display : Display) (statements : List Statement) :
    (statementFragments display statements).value =
      statements.map fun statement => (statement.fragment display).value := by
  induction statements with
  | nil => rfl
  | cons statement rest ih => exact congrArg _ ih

/-- What stands in a text for a note: its message, itself, or its JSON. -/
inductive NoteText : Json → Text → Prop
  | message {members : Members Json} {message : Json}
      (h : members.get? "msg" = some message) : NoteText (.obj members) message.plainText
  | text (s : Text) : NoteText (.str s) s
  | json {note : Json} (hs : ∀ s, note ≠ .str s) (hm : note.member? "msg" = none) :
      NoteText note (Text.ofChars (note.print Json.spaced))

theorem noteText_spec (note : Json) : NoteText note (noteText note) := by
  unfold noteText
  split
  next message hm =>
    cases note with
    | obj members => exact .message hm
    | _ => cases hm
  next hm =>
    split
    next s => exact .text s
    next hs => exact .json hs hm

namespace View

open Markup

/-- Statements, each on a line of its own. -/
def statementChars (display : Display) (statements : List Statement) : List CodePoint :=
  [CodePoint.scalar '\n'].intercalate (statements.map fun statement =>
    charsAll (statement.fragment display).value)

/-- A page as a section: its name as the heading, and its statements. -/
def sectionChars (display : Display) (page : Page) : List CodePoint :=
  openTag .pageSection ++
    (openTag .heading ++ escape page.name ++ closeTag .heading ++
      statementChars display page.statements) ++
  closeTag .pageSection

theorem statementsFragment_chars (display : Display) (statements : List Statement) :
    charsAll (statementsFragment display statements).value =
      statementChars display statements := by
  rw [statementsFragment, Logged.value_bind, Logged.value_pure, Fragment.charsAll_joinLines,
    statementFragments_value, List.map_map]
  rfl

theorem charsAll_ofText (s : Text) : charsAll (Fragment.ofText s) = escape s := by
  unfold Fragment.ofText
  split
  next hs =>
    subst hs
    rfl
  next => rw [charsAll, charsAll, List.append_nil, chars_text]

theorem pageSection_chars (display : Display) (page : Page) :
    charsAll (pageSection display page).value = sectionChars display page := by
  simp only [pageSection, Logged.value_bind, Logged.value_pure, charsAll, chars_element,
    List.append_nil, charsAll_ofText, statementsFragment_chars]
  rfl

theorem pageSections_chars (display : Display) (pages : List Page) :
    (pageSections display pages).value.map charsAll = pages.map (sectionChars display) := by
  induction pages with
  | nil => rfl
  | cons page rest ih =>
    simp only [pageSections, Logged.value_bind, Logged.value_pure, List.map_cons,
      pageSection_chars, ih]

/-- A document has no page to show: none of the name that is asked for, or none at all. -/
def Lacks (document : Document) : Option Text → Prop
  | some name => name ∉ document.pageNames
  | none => document.pages = []

/-- The route asks for a page that the document lacks. -/
def NoPage (route : Route) (data : Json) : Prop :=
  route.view = .docs ∧ data ≠ .null ∧
    ∃ document, Document.decode data = .ok document ∧ Lacks document route.page

/-- The data should be a document and is none, or the names of its pages clash where they are
listed. -/
inductive Refused (route : Route) (data : Json) : Malformed → Prop
  | document {cause : Malformed} (hv : OfDocument route) (hn : data ≠ .null)
      (hd : Document.decode data = .error (.malformed cause)) : Refused route data cause
  | pageNames {cause : Malformed} {document : Document} (hv : route.view = .docs)
      (hn : data ≠ .null) (hd : Document.decode data = .ok document)
      (ht : PageTree.ofNames document.pageNames = .error cause) : Refused route data cause

/-- The view lists the pages of a document, and one of them has no link. -/
def Unlinked (route : Route) (data : Json) : Prop :=
  route.view = .docs ∧ ∃ document, Document.decode data = .ok document ∧ ¬Linkable document

/-- The page that a docs route selects: the one it names, or the last one. -/
def Selects (document : Document) (page : Page) : Option Text → Prop
  | some name => page ∈ document.pages ∧ page.name = name
  | none => document.pages.getLast? = some page

/-- What a view shows of its data. -/
inductive Body (options : ViewOptions) (route : Route) (data : Json) : List CodePoint → Prop
  | nothing (hn : data = .null) : Body options route data []
  | listing (hv : route.view = .llvm) (hn : data ≠ .null) :
      Body options route data (charsAll (listingFragment data).value)
  | outline (hv : route.view = .constrain) (hn : data ≠ .null) :
      Body options route data (charsAll data.outline)
  | pages {document : Document} (hv : route.view = .typecheck ∨ route.view = .desugar)
      (hd : Document.decode data = .ok document) :
      Body options route data ([CodePoint.scalar '\n'].intercalate
        (document.pages.map (sectionChars (displayOf options document))))
  | page {document : Document} {page : Page} (hv : route.view = .docs)
      (hd : Document.decode data = .ok document) (hs : Selects document page route.page) :
      Body options route data (statementChars (displayOf options document) page.statements)

variable {options : ViewOptions} {route : Route} {data : Json} {document : Document}

theorem selectedPage?_eq_none_iff {name : Option Text} :
    selectedPage? document name = none ↔ Lacks document name := by
  cases name with
  | none => exact List.getLast?_eq_none_iff
  | some name =>
    rw [selectedPage?, Document.page?, List.find?_eq_none, Lacks, Document.pageNames,
      List.mem_map, not_exists]
    refine forall_congr' fun page => ?_
    rw [not_and]
    exact imp_congr_right fun _ => not_congr decide_eq_true_iff

theorem selects_of_selectedPage? {page : Page} {name : Option Text}
    (h : selectedPage? document name = some page) : Selects document page name := by
  cases name with
  | none => exact h
  | some name =>
    have hname := List.find?_some h
    exact ⟨List.mem_of_find?_eq_some h, of_decide_eq_true hname⟩

/-- The document is malformed and the route does not ask for a page that it lacks. -/
theorem rejects_iff {cause : Malformed} :
    Rejects route data cause ↔ ¬NoPage route data ∧ Refused route data cause := by
  constructor
  · intro h
    cases h with
    | document hl hk hn hd =>
      refine ⟨fun ⟨_, _, _, hm, _⟩ => ?_, .document (ofDocument_iff.2 ⟨hl, hk⟩) hn hd⟩
      cases hd.symm.trans hm
    | pageNames hv hn hd hp ht =>
      refine ⟨fun ⟨_, _, _, hm, hlacks⟩ => ?_, .pageNames hv hn hd ht⟩
      cases hd.symm.trans hm
      cases hp.symm.trans (selectedPage?_eq_none_iff.2 hlacks)
  · rintro ⟨hpage, h⟩
    cases h with
    | document hv hn hd =>
      obtain ⟨hl, hk⟩ := ofDocument_iff.1 hv
      exact .document hl hk hn hd
    | @pageNames document hv hn hd ht =>
      -- the table of contents is built only after the page is selected
      obtain ⟨page, hp⟩ := Option.ne_none_iff_exists'.1 fun hp =>
        hpage ⟨hv, hn, document, hd, selectedPage?_eq_none_iff.1 hp⟩
      exact .pageNames hv hn hd hp ht

/-- No notice says that a page cannot be shown. -/
def Quiet (log : List Notice) : Prop := ∀ path cause, .cannotRender path cause ∉ log

theorem quiet_nil : Quiet [] := fun _ _ => List.not_mem_nil

theorem Quiet.append {log others : List Notice} (h : Quiet log) (ho : Quiet others) :
    Quiet (log ++ others) := fun path cause hm =>
  (List.mem_append.1 hm).elim (h path cause) (ho path cause)

theorem Quiet.map {α β : Type} {found : Logged α} (h : Quiet found.log) (g : α → β) :
    Quiet (do let a ← found; return g a).log := h.append quiet_nil

theorem quiet_statementsFragment (display : Display) (statements : List Statement) :
    Quiet (statementsFragment display statements).log := by
  intro path cause hm
  obtain ⟨node, -, hnode⟩ :=
    List.mem_filterMap.1 ((log_statementsFragment display statements).mem_iff.1 hm)
  exact nomatch (Node.fault?_kind hnode).2

theorem quiet_pageSections (display : Display) (pages : List Page) :
    Quiet (pageSections display pages).log := by
  induction pages with
  | nil => exact quiet_nil
  | cons page rest ih =>
    simp only [pageSections, pageSection, Logged.log_bind, Logged.log_pure, List.append_nil]
    exact (quiet_statementsFragment display page.statements).append ih

theorem quiet_listingFragment (data : Json) : Quiet (listingFragment data).log := by
  intro path cause hm
  unfold listingFragment at hm
  split at hm
  next => cases hm
  next => cases hm
  next => cases hm
  next => cases List.mem_singleton.1 hm

theorem parts_of_docs (options : ViewOptions) (hv : route.view = .docs)
    (hd : Document.decode data = .ok document) :
    View.parts options route data = docsParts options document route.page := by
  rw [parts_of_decode (.inl hv) hd, partsOf, hv]

theorem parts_of_noPage (options : ViewOptions) (h : NoPage route data) :
    View.parts options route data = ⟨.error (.render (.route (.noPage route.page))), []⟩ := by
  obtain ⟨hv, -, document, hd, hlacks⟩ := h
  rw [parts_of_docs options hv hd]
  simp only [docsParts, selectedPage?_eq_none_iff.2 hlacks]
  rfl

theorem parts_of_refused (options : ViewOptions) {cause : Malformed} (hpage : ¬NoPage route data)
    (h : Refused route data cause) :
    View.parts options route data = ⟨.error (.malformed cause), []⟩ := by
  cases rejects_iff.2 ⟨hpage, h⟩ with
  | document hl hk hn hd =>
    rw [parts_eq_documentParts hl hk hn]
    simp only [documentParts, hd]
    rfl
  | pageNames hv hn hd hp ht =>
    rw [parts_of_docs options hv hd]
    simp only [docsParts, hp, tocItems_of_clash ht]
    rfl

/-- Where the data should be a document, it is one or it is malformed. -/
def AcceptedOrMalformed (route : Route) (data : Json) : Prop :=
  OfDocument route → data ≠ .null → ∀ error, Document.decode data = .error error →
    ∃ cause, error = .malformed cause

/-- The parts of a page that shows a view of its data. -/
def Shown (options : ViewOptions) (route : Route) (data : Json)
    (found : Logged (Except Obstacle Parts)) : Prop :=
  ∃ parts, found.value = .ok parts ∧ Body options route data (charsAll parts.body) ∧
    Quiet found.log

theorem shown_docsParts {page : Page} (hv : route.view = .docs)
    (hd : Document.decode data = .ok document)
    (hs : selectedPage? document route.page = some page) {tree : Members PageTree}
    (ht : PageTree.ofNames document.pageNames = .ok tree) (hl : Linkable document) :
    Shown options route data (docsParts options document route.page) := by
  obtain ⟨items, hi, -⟩ := (@tocItems_outcome document options.linkBase page.name tree ht).1 hl
  simp only [docsParts, hs, hi]
  refine ⟨_, rfl, ?_, (quiet_statementsFragment _ page.statements).map _⟩
  rw [statementsFragment_chars]
  exact .page hv hd (selects_of_selectedPage? hs)

theorem shown_pages (hv : route.view = .typecheck ∨ route.view = .desugar)
    (hd : Document.decode data = .ok document) :
    Shown options route data (View.parts options route data) := by
  have hsections : partsOf options route document = do
      let sections ← pageSections (displayOf options document) document.pages
      return .ok ⟨Fragment.join "\n" sections, [], route.view.title⟩ := by
    obtain ⟨view, name⟩ := route
    cases view with
    | docs => exact hv.elim (fun h => nomatch h) (fun h => nomatch h)
    | _ => rfl
  rw [parts_of_decode (.inr hv) hd, hsections]
  refine ⟨_, rfl, ?_, (quiet_pageSections _ document.pages).map _⟩
  rw [Fragment.charsAll_joinLines, pageSections_chars]
  exact .pages hv hd

/-- A document that can be listed has a tree and the page that is asked for. -/
theorem exists_tree (hv : route.view = .docs) (hn : data ≠ .null)
    (hd : Document.decode data = .ok document) (hpage : ¬NoPage route data)
    (h : ∀ cause, ¬Refused route data cause) :
    (∃ page, selectedPage? document route.page = some page) ∧
      ∃ tree, PageTree.ofNames document.pageNames = .ok tree := by
  constructor
  · exact Option.ne_none_iff_exists'.1 fun hs =>
      hpage ⟨hv, hn, document, hd, selectedPage?_eq_none_iff.1 hs⟩
  · cases ht : PageTree.ofNames document.pageNames with
    | ok tree => exact ⟨tree, rfl⟩
    | error cause => exact absurd (.pageNames hv hn hd ht) (h cause)

theorem parts_of_unlinked (options : ViewOptions) (hu : Unlinked route data)
    (hpage : ¬NoPage route data) (h : ∀ cause, ¬Refused route data cause) :
    ∃ cause, View.parts options route data = ⟨.error (.render (.unencodable cause)), []⟩ := by
  obtain ⟨hv, document, hd, hl⟩ := hu
  have hn : data ≠ .null := by
    rintro rfl
    cases hd
  obtain ⟨⟨page, hs⟩, tree, ht⟩ := exists_tree hv hn hd hpage h
  rw [parts_of_docs options hv hd]
  exact (docsParts_outcome hs ht).2 hl

theorem shown_document (hv : OfDocument route) (hn : data ≠ .null)
    (hd : Document.decode data = .ok document) (hpage : ¬NoPage route data)
    (h : ∀ cause, ¬Refused route data cause) (hu : ¬Unlinked route data) :
    Shown options route data (View.parts options route data) := by
  obtain hv | hv := hv
  · obtain ⟨⟨page, hs⟩, tree, ht⟩ := exists_tree hv hn hd hpage h
    have hl : Linkable document := by
      by_contra hl
      exact hu ⟨hv, document, hd, hl⟩
    rw [parts_of_docs options hv hd]
    exact shown_docsParts hv hd hs ht hl
  · exact shown_pages hv hd

/-- Unless the page is missing, the document malformed or a page without a link, the view of the data
is shown. -/
theorem shown_parts (ha : AcceptedOrMalformed route data) (hpage : ¬NoPage route data)
    (h : ∀ cause, ¬Refused route data cause) (hu : ¬Unlinked route data) :
    Shown options route data (View.parts options route data) := by
  by_cases hl : route.view = .llvm
  · have hparts : View.parts options route data = do
        let body ← listingFragment data
        return .ok ⟨body, [], View.title .llvm⟩ := by
      obtain ⟨view, name⟩ := route
      cases hl
      rfl
    have hbody : Body options route data (charsAll (listingFragment data).value) := by
      by_cases hn : data = .null
      · subst hn
        exact .nothing rfl
      · exact .listing hl hn
    rw [hparts]
    exact ⟨_, rfl, hbody, (quiet_listingFragment data).map _⟩
  by_cases hn : data = .null
  · subst hn
    rw [parts_null hl]
    exact ⟨_, rfl, .nothing rfl, quiet_nil⟩
  by_cases hk : route.view = .constrain
  · rw [parts_constrain hk hn]
    exact ⟨_, rfl, .outline hk hn, quiet_nil⟩
  have hv : OfDocument route := ofDocument_iff.2 ⟨hl, hk⟩
  cases hd : Document.decode data with
  | error error =>
    obtain ⟨cause, rfl⟩ := ha hv hn error hd
    exact absurd (.document hv hn hd) (h cause)
  | ok document => exact shown_document hv hn hd hpage h hu

end View

namespace LoadState

open View

variable {options : ViewOptions} {route : Route} {data : Json} {path : Text} {notes : List Json}

theorem page_of_noPage (h : NoPage route data) :
    (ready path data notes).page options route = ⟨.error (.route (.noPage route.page)), []⟩ := by
  rw [page_ready, parts_of_noPage options h]
  rfl

theorem page_of_refused {cause : Malformed} (hpage : ¬NoPage route data)
    (h : Refused route data cause) :
    (ready path data notes).page options route =
      ⟨.ok ⟨route.view.title, options.dark, [], .error cause.message⟩,
        [.cannotRender path cause]⟩ := by
  rw [page_ready, parts_of_refused options hpage h]
  rfl

theorem shows_of_refused {cause : Malformed} {page : WebPage} (hpage : ¬NoPage route data)
    (h : Refused route data cause)
    (hv : ((ready path data notes).page options route).value = .ok page) :
    page.Shows (.error cause.message) := by
  have hshows := page_shows hv
  rw [page_of_refused hpage h] at hv
  cases hv
  rwa [WebPage.settled, if_neg (mt Text.ofString_inj.1 cause.message_ne_empty)] at hshows

theorem page_of_unlinked (hu : Unlinked route data) (hpage : ¬NoPage route data)
    (h : ∀ cause, ¬Refused route data cause) :
    ∃ cause, (ready path data notes).page options route = ⟨.error (.unencodable cause), []⟩ := by
  obtain ⟨cause, hcause⟩ := parts_of_unlinked options hu hpage h
  refine ⟨cause, ?_⟩
  rw [page_ready, hcause]
  rfl

/-- The page of data whose view can be shown. -/
theorem shows_of_accepted (ha : AcceptedOrMalformed route data) (hpage : ¬NoPage route data)
    (h : ∀ cause, ¬Refused route data cause) (hu : ¬Unlinked route data) :
    ∃ page texts body, ((ready path data notes).page options route).value = .ok page ∧
      Quiet ((ready path data notes).page options route).log ∧
      List.Forall₂ NoteText notes texts ∧ Body options route data body ∧
      page.Shows (.shown texts body) := by
  obtain ⟨parts, hvalue, hbody, hquiet⟩ := @shown_parts options route data ha hpage h hu
  have hv : ((ready path data notes).page options route).value =
      .ok ⟨parts.title, options.dark, parts.toc,
        .shown (notes.map noteText) (Markup.charsAll parts.body)⟩ := by
    rw [page_ready, Logged.value_bind, hvalue]
    rfl
  refine ⟨_, notes.map noteText, _, hv, ?_, ?_, hbody, page_shows hv⟩
  · rw [page_ready, Logged.log_bind, hvalue]
    exact hquiet.append quiet_nil
  · exact List.forall₂_map_right_iff.2 (List.forall₂_same.2 fun note _ => noteText_spec note)

/-- Of data that is not refused there is no page for want of a link, or one that shows its view. -/
theorem unlinked_or_shows (ha : AcceptedOrMalformed route data) (hpage : ¬NoPage route data)
    (h : ∀ cause, ¬Refused route data cause) :
    (∃ cause, (ready path data notes).page options route = ⟨.error (.unencodable cause), []⟩) ∨
      ∃ page texts body, ((ready path data notes).page options route).value = .ok page ∧
        page.Shows (.shown texts body) := by
  by_cases hu : Unlinked route data
  · exact .inl (page_of_unlinked hu hpage h)
  · obtain ⟨page, texts, body, hv, -, -, -, hs⟩ :=
      @shows_of_accepted options route data path notes ha hpage h hu
    exact .inr ⟨page, texts, body, hv, hs⟩

/-- What becomes of data that was read. It is an unknown route if and only if the route names no page
of the document, even if the document is malformed. Else the page shows an error, reported once, if
and only if the document is malformed. In all other cases it shows the notes in order and the body of
the view, unless the pages are listed and one of them has no link: then there is no page. -/
theorem page_of_data (ha : AcceptedOrMalformed route data) :
    let found := (ready path data notes).page options route
    ((∃ cause, found.value = .error (.route cause)) ↔ NoPage route data) ∧
    (NoPage route data → found = ⟨.error (.route (.noPage route.page)), []⟩) ∧
    (¬NoPage route data →
      ((∃ page message, found.value = .ok page ∧ page.Shows (.error message)) ↔
        ∃ cause, Refused route data cause) ∧
      (∀ cause, Refused route data cause → ∃ page,
        found = ⟨.ok page, [.cannotRender path cause]⟩ ∧ page.toc = [] ∧
        page.Shows (.error cause.message)) ∧
      ((∀ cause, ¬Refused route data cause) →
        (Unlinked route data → ∃ cause, found = ⟨.error (.unencodable cause), []⟩) ∧
        (¬Unlinked route data → ∃ page texts body, found.value = .ok page ∧
          Quiet found.log ∧ List.Forall₂ NoteText notes texts ∧ Body options route data body ∧
          page.Shows (.shown texts body)))) := by
  intro found
  have hrefused (hpage : ¬NoPage route data) {cause : Malformed} (h : Refused route data cause) :=
    @page_of_refused options route data path notes cause hpage h
  have hother (hpage : ¬NoPage route data) (h : ∀ cause, ¬Refused route data cause) :=
    @unlinked_or_shows options route data path notes ha hpage h
  refine ⟨⟨fun ⟨cause, hc⟩ => ?_, fun h => ⟨_, congrArg Logged.value (page_of_noPage h)⟩⟩,
    page_of_noPage, fun hpage => ⟨⟨?_, ?_⟩, fun cause h => ?_, fun h => ⟨fun hu => ?_, ?_⟩⟩⟩
  · by_contra hpage
    by_cases h : ∃ cause, Refused route data cause
    · obtain ⟨_, h⟩ := h
      exact nomatch hc.symm.trans (congrArg Logged.value (hrefused hpage h))
    · obtain ⟨_, hp⟩ | ⟨_, _, _, hv, -⟩ := hother hpage (not_exists.1 h)
      · exact nomatch hc.symm.trans (congrArg Logged.value hp)
      · exact nomatch hc.symm.trans hv
  · rintro ⟨page, message, hv, hs⟩
    by_contra h
    obtain ⟨_, hp⟩ | ⟨_, _, _, hv', hs'⟩ := hother hpage (not_exists.1 h)
    · exact nomatch hv.symm.trans (congrArg Logged.value hp)
    · cases hv.symm.trans hv'
      exact nomatch hs'.error_iff.1 hs
  · rintro ⟨cause, h⟩
    have hv := congrArg Logged.value (hrefused hpage h)
    exact ⟨_, _, hv, shows_of_refused hpage h hv⟩
  · have hfound := hrefused hpage h
    exact ⟨_, hfound, rfl, shows_of_refused hpage h (congrArg Logged.value hfound)⟩
  · exact page_of_unlinked hu hpage h
  · exact shows_of_accepted ha hpage h

/-- A document whose names clash. The docs view of a page that is not in it is no page, the docs view
of its last page is the page of an error, and the typecheck view shows both pages. -/
theorem page_of_data_clash :
    let page (name : Text) : Json := .arr [.arr [.null, .arr []], .str name, .null]
    let data : Json := .arr [.arr [page "a", page "a/b"], .arr []]
    let found (route : Route) := (ready "/pages" data [.str "note"]).page .default route
    found ⟨.docs, some "b"⟩ = ⟨.error (.route (.noPage (some "b"))), []⟩ ∧
      (∃ page, found ⟨.docs, none⟩ =
        ⟨.ok page, [.cannotRender "/pages" (.pageAndDirectory "a")]⟩ ∧ page.toc = [] ∧
        page.Shows (.error "'a' is both a page and a directory")) ∧
      ∃ page texts body, (found ⟨.typecheck, none⟩).value = .ok page ∧
        List.Forall₂ NoteText [.str "note"] texts ∧
        Body .default ⟨.typecheck, none⟩ data body ∧ page.Shows (.shown texts body) := by
  intro page data found
  let document : Document := ⟨[⟨"a", [], []⟩, ⟨"a/b", [], []⟩], []⟩
  have hd : Document.decode data = .ok document := by rfl
  have ht : PageTree.ofNames document.pageNames = .error (.pageAndDirectory "a") := by rfl
  have hn : data ≠ .null := nofun
  have ha (route : Route) : AcceptedOrMalformed route data := fun _ _ _ he => nomatch hd.symm.trans he
  have hmissing : NoPage ⟨.docs, some "b"⟩ data :=
    ⟨rfl, hn, document, hd, (by decide : Text.ofString "b" ∉ document.pageNames)⟩
  have hlast : ¬NoPage ⟨.docs, none⟩ data := by
    rintro ⟨-, -, other, ho, hlacks⟩
    cases hd.symm.trans ho
    cases hlacks
  have htypecheck : ¬NoPage ⟨.typecheck, none⟩ data := fun h => nomatch h.1
  have haccepted : ∀ cause, ¬Refused ⟨.typecheck, none⟩ data cause := by
    intro cause h
    cases h with
    | document _ _ ho => cases hd.symm.trans ho
    | pageNames hv => cases hv
  have hmessage : (Malformed.pageAndDirectory "a").message = "'a' is both a page and a directory" := by
    decide +kernel
  have hpage (route : Route) := @page_of_data .default route data "/pages" [.str "note"] (ha route)
  have hrefused := ((hpage ⟨.docs, none⟩).2.2 hlast).2.1 _ (.pageNames rfl hn hd ht)
  rw [hmessage] at hrefused
  have hlinked : ¬Unlinked ⟨.typecheck, none⟩ data := fun h => nomatch h.1
  obtain ⟨shown, texts, body, hv, -, htexts, hbody, hshows⟩ :=
    (((hpage ⟨.typecheck, none⟩).2.2 htypecheck).2.2 haccepted).2 hlinked
  exact ⟨(hpage ⟨.docs, some "b"⟩).2.1 hmissing, hrefused, shown, texts, body, hv, htexts, hbody,
    hshows⟩

/-- A document with one page, whose name is half of a pair: its docs view is no page. -/
theorem page_of_split_name :
    let name : Text := Text.ofList [.surrogate 0]
    let data : Json := .arr [.arr [.arr [.arr [.null, .arr []], .str name, .null]], .arr []]
    ¬NoPage ⟨.docs, none⟩ data ∧ (∀ cause, ¬Refused ⟨.docs, none⟩ data cause) ∧
      ∃ cause, (ready "/pages" data []).page .default ⟨.docs, none⟩ =
        ⟨.error (.unencodable cause), []⟩ := by
  intro name data
  let document : Document := ⟨[⟨name, [], []⟩], []⟩
  have hd : Document.decode data = .ok document := by rfl
  have hpage : ¬NoPage ⟨.docs, none⟩ data := by
    rintro ⟨-, -, other, ho, hlacks⟩
    cases hd.symm.trans ho
    cases hlacks
  have hrefused : ∀ cause, ¬Refused ⟨.docs, none⟩ data cause := by
    intro cause h
    cases h with
    | document _ _ ho => cases hd.symm.trans ho
    | pageNames _ _ ho ht =>
      cases hd.symm.trans ho
      have hok : (PageTree.ofNames [name]).isOk = true := by decide
      rw [show PageTree.ofNames [name] = .error cause from ht] at hok
      cases hok
  have hl : ¬Linkable document := fun h => absurd (h name List.mem_cons_self) (by decide)
  exact ⟨hpage, hrefused, page_of_unlinked ⟨rfl, document, hd, hl⟩ hpage hrefused⟩

end LoadState
end WebDocs
