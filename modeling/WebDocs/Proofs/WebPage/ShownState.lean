import WebDocs.Proofs.Markdown.Tags
import WebDocs.Proofs.WebPage.Alternatives

namespace WebDocs

open Markup Html

/-- The texts a display makes of comments have closed tags, and none of them starts a block of the
layout. -/
def Display.CleanComments (display : Display) : Prop :=
  ∀ text, Clean (display.comments text).toList

section

variable {display : Display} (hd : display.CleanComments)

include hd

theorem Statement.clean_fragment (statement : Statement) :
    Clean (charsAll (statement.fragment display).value) := by
  by_cases hc : ∃ text, statement = .comment text
  · obtain ⟨text, rfl⟩ := hc
    refine Fragment.clean_element .comment ?_
    rw [charsAll, charsAll, List.append_nil]
    exact hd text
  · exact (Statement.fragment_nests display (not_exists.1 hc)).clean

theorem clean_statementFragments (statements : List Statement) :
    ∀ fragment ∈ (statementFragments display statements).value, Clean (charsAll fragment) := by
  induction statements with
  | nil => exact fun _ h => nomatch h
  | cons statement rest ih =>
    intro fragment h
    rcases List.mem_cons.1 h with rfl | h
    · exact statement.clean_fragment hd
    · exact ih fragment h

theorem clean_statementsFragment (statements : List Statement) :
    Clean (charsAll (statementsFragment display statements).value) :=
  Fragment.clean_join "\n" (clean_statementFragments hd statements)

theorem View.clean_pageSections (pages : List Page) :
    ∀ fragment ∈ (pageSections display pages).value, Clean (charsAll fragment) := by
  induction pages with
  | nil => exact fun _ h => nomatch h
  | cons page rest ih =>
    intro fragment h
    rcases List.mem_cons.1 h with rfl | h
    · have hname := ((Fragment.nests_ofText page.name).element .heading (by decide)).clean
      have hsection := hname.append (clean_statementsFragment hd page.statements)
      rw [← charsAll_append] at hsection
      exact Fragment.clean_element .pageSection hsection
    · exact ih fragment h

end

namespace View

variable {options : ViewOptions} {route : Route} {data : Json} {parts : Parts}

theorem cleanComments_displayOf (options : ViewOptions) (document : Document) :
    (displayOf options document).CleanComments := Markdown.clean_toHtml

theorem clean_docsParts {document : Document} {name : Option Text}
    (h : (docsParts options document name).value = .ok parts) : Clean (charsAll parts.body) := by
  unfold docsParts at h
  cases hs : selectedPage? document name with
  | none =>
    simp only [hs] at h
    cases h
  | some page =>
    simp only [hs] at h
    cases ht : tocItems document options.linkBase page.name with
    | error cause =>
      simp only [ht] at h
      cases h
    | ok toc =>
      simp only [ht] at h
      cases h
      exact clean_statementsFragment (cleanComments_displayOf options document) page.statements

theorem clean_documentParts (h : (documentParts options route data).value = .ok parts) :
    Clean (charsAll parts.body) := by
  obtain ⟨view, name⟩ := route
  cases hd : Document.decode data with
  | error cause =>
    simp only [documentParts, hd] at h
    cases h
  | ok document =>
    have hsections := Fragment.clean_join "\n"
      (clean_pageSections (cleanComments_displayOf options document) document.pages)
    simp only [documentParts, hd] at h
    cases view with
    | docs => exact clean_docsParts h
    | _ =>
      cases h
      exact hsections

/-- Whatever a view shows, comments included, no tag in it is one of the layout's blocks. -/
theorem clean_parts (h : (View.parts options route data).value = .ok parts) :
    Clean (charsAll parts.body) := by
  by_cases hl : route.view = .llvm
  · exact (parts_nest h (.inl hl)).clean
  by_cases hk : route.view = .constrain
  · exact (parts_nest h (.inr (.inl hk))).clean
  by_cases hn : data = .null
  · subst hn
    have hfree : CommentFree route .null :=
      .inr (.inr fun document hd => by
        cases hd)
    exact (parts_nest h hfree).clean
  · rw [parts_eq_documentParts hl hk hn] at h
    exact clean_documentParts h

/-- The data of a view is a malformed document: it is not decoded, or the names of its pages clash
where they are listed. -/
inductive Rejects (route : Route) (data : Json) : Malformed → Prop
  | document {cause : Malformed} (hl : route.view ≠ .llvm) (hk : route.view ≠ .constrain)
      (hn : data ≠ .null) (hd : Document.decode data = .error (.malformed cause)) :
      Rejects route data cause
  | pageNames {cause : Malformed} {document : Document} {page : Page} (hv : route.view = .docs)
      (hn : data ≠ .null) (hd : Document.decode data = .ok document)
      (hp : selectedPage? document route.page = some page)
      (ht : PageTree.ofNames document.pageNames = .error cause) : Rejects route data cause

variable {cause : Malformed}

theorem docsParts_malformed {document : Document} {name : Option Text} :
    (docsParts options document name).value = .error (.malformed cause) ↔
      ∃ page, selectedPage? document name = some page ∧
        PageTree.ofNames document.pageNames = .error cause := by
  cases hs : selectedPage? document name with
  | none =>
    simp only [docsParts, hs]
    constructor
    · intro h
      cases h
    · rintro ⟨page, h, -⟩
      cases h
  | some page =>
    have hrows := @tocItems_malformed_iff document options.linkBase page.name cause
    cases ht : tocItems document options.linkBase page.name with
    | error other =>
      simp only [docsParts, hs, ht]
      rw [ht] at hrows
      constructor
      · intro h
        cases h
        exact ⟨page, rfl, hrows.1 rfl⟩
      · rintro ⟨_, _, h⟩
        cases hrows.2 h
        rfl
    | ok toc =>
      simp only [docsParts, hs, ht]
      rw [ht] at hrows
      constructor
      · intro h
        cases h
      · rintro ⟨_, _, h⟩
        cases hrows.2 h

theorem documentParts_malformed (hl : route.view ≠ .llvm) (hk : route.view ≠ .constrain)
    (hn : data ≠ .null) :
    (documentParts options route data).value = .error (.malformed cause) ↔
      Rejects route data cause := by
  obtain ⟨view, name⟩ := route
  cases hd : Document.decode data with
  | error other =>
    simp only [documentParts, hd]
    refine ⟨fun h => ?_, fun h => ?_⟩
    · cases other with
      | malformed other =>
        cases h
        exact .document hl hk hn hd
      | _ => cases h
    · cases h with
      | document _ _ _ hm =>
        cases hd.symm.trans hm
        rfl
      | pageNames _ _ hm => cases hd.symm.trans hm
  | ok document =>
    have hrejects : Rejects ⟨view, name⟩ data cause ↔ view = .docs ∧
        ∃ page, selectedPage? document name = some page ∧
          PageTree.ofNames document.pageNames = .error cause := by
      constructor
      · intro h
        cases h with
        | document _ _ _ hm => cases hd.symm.trans hm
        | pageNames hv _ hm hp ht =>
          cases hd.symm.trans hm
          exact ⟨hv, _, hp, ht⟩
      · rintro ⟨hv, page, hp, ht⟩
        exact .pageNames hv hn hd hp ht
    rw [hrejects]
    simp only [documentParts, hd]
    cases view with
    | docs => exact docsParts_malformed.trans (and_iff_right rfl).symm
    | _ =>
      constructor
      · intro h
        cases h
      · intro h
        cases h.1

/-- Only a listing looks at missing data. -/
theorem parts_null (hl : route.view ≠ .llvm) :
    View.parts options route .null = pure (.ok ⟨[], [], route.view.title⟩) := by
  unfold View.parts
  split
  next hv => exact absurd hv hl
  next => rfl
  next hn => exact absurd rfl hn
  next hn => exact absurd rfl hn

theorem parts_constrain (hk : route.view = .constrain) (hn : data ≠ .null) :
    View.parts options route data = pure (.ok ⟨data.outline, [], View.title .constrain⟩) := by
  obtain ⟨view, name⟩ := route
  subst hk
  cases data with
  | null => exact absurd rfl hn
  | _ => rfl

theorem parts_malformed :
    (View.parts options route data).value = .error (.malformed cause) ↔
      Rejects route data cause := by
  by_cases hl : route.view = .llvm
  · obtain ⟨view, name⟩ := route
    subst hl
    refine ⟨fun h => (nomatch h), fun h => ?_⟩
    cases h with
    | document hl => exact absurd rfl hl
    | pageNames hv => cases hv
  by_cases hn : data = .null
  · subst hn
    rw [parts_null hl]
    refine ⟨fun h => (nomatch h), fun h => ?_⟩
    cases h with
    | document _ _ hn => exact absurd rfl hn
    | pageNames _ hn => exact absurd rfl hn
  by_cases hk : route.view = .constrain
  · rw [parts_constrain hk hn]
    refine ⟨fun h => (nomatch h), fun h => ?_⟩
    cases h with
    | document _ hk' => exact absurd hk hk'
    | pageNames hv => exact nomatch hv.symm.trans hk
  · rw [parts_eq_documentParts hl hk hn]
    exact documentParts_malformed hl hk hn

end View

/-- The messages of malformed documents all have words. -/
theorem Malformed.message_ne_empty (cause : Malformed) : cause.message ≠ "" := by
  have hbefore {s : String} (hs : s ≠ "") (t : String) : s ++ t ≠ "" := fun h =>
    hs (String.append_eq_empty_iff.1 h).1
  have hbehind (s : String) {t : String} (ht : t ≠ "") : s ++ t ≠ "" := fun h =>
    ht (String.append_eq_empty_iff.1 h).2
  cases cause with
  | notAPair | notLists | responseNotArray => exact (by decide)
  | duplicatePage name => exact hbefore (by decide) _
  | pageEntry cause => exact hbefore (by decide) _
  | pageKinds name => exact hbefore (by decide) _
  | annotationEntry cause => exact hbefore (by decide) _
  | pageAndDirectory path => exact hbehind _ (by decide)
  | responseLength length => exact hbehind _ (by decide)

namespace LoadState

/-- The load of a state failed, or its data is malformed; with the message that says so. -/
inductive Fails (route : Route) : LoadState → Text → Prop
  | load (path : Text) (error : ViewError) : Fails route (.failed path error) error.message
  | data {data : Json} {cause : Malformed} (path : Text) (notes : List Json)
      (h : View.Rejects route data cause) : Fails route (.ready path data notes) cause.message

/-- The data of a state has a view, shown with the notes. -/
inductive Renders (options : ViewOptions) (route : Route) :
    LoadState → List Text → List CodePoint → Prop
  | ready {data : Json} {parts : View.Parts} (path : Text) (notes : List Json)
      (h : (View.parts options route data).value = .ok parts) :
      Renders options route (.ready path data notes) (notes.map noteText)
        (charsAll parts.body)

variable {options : ViewOptions} {route : Route} {state : LoadState} {page : WebPage}

theorem Fails.exists_failed {message : Text} (h : state.Fails route message)
    (hm : message = "") : ∃ path error, state = .failed path error := by
  cases h with
  | load path error => exact ⟨path, error, rfl⟩
  | @data data cause path notes hr => exact absurd (Text.ofString_inj.1 hm) cause.message_ne_empty

theorem Renders.clean {notes : List Text} {body : List CodePoint}
    (h : state.Renders options route notes body) : Clean body := by
  cases h with
  | ready path notes h => exact View.clean_parts h

/-- What the page of a state has for its content. -/
theorem page_content (h : (state.page options route).value = .ok page) :
    (∃ message, state.Fails route message ∧ page.content = .error message) ∨
    (∃ path, state = .pending path ∧ page.content = .loading) ∨
    ∃ notes body, state.Renders options route notes body ∧ page.content = .shown notes body := by
  cases state with
  | failed path error =>
    cases h
    exact .inl ⟨_, .load path error, rfl⟩
  | pending path =>
    cases h
    exact .inr (.inl ⟨path, rfl, rfl⟩)
  | ready path data notes =>
    cases hp : (View.parts options route data).value with
    | ok parts =>
      simp only [LoadState.page, Logged.value_bind, hp] at h
      cases h
      exact .inr (.inr ⟨_, _, .ready path notes hp, rfl⟩)
    | error obstacle =>
      simp only [LoadState.page, Logged.value_bind, hp] at h
      cases obstacle with
      | malformed cause =>
        cases h
        exact .inl ⟨_, .data path notes (View.parts_malformed.1 hp), rfl⟩
      | render cause => cases h

theorem content_of_fails (h : (state.page options route).value = .ok page) {message : Text}
    (hf : state.Fails route message) : page.content = .error message := by
  cases hf with
  | load path error =>
    cases h
    rfl
  | data path notes hr =>
    have hp := (@View.parts_malformed options _ _ _).2 hr
    simp only [LoadState.page, Logged.value_bind, hp] at h
    cases h
    rfl

theorem content_of_renders (h : (state.page options route).value = .ok page) {notes : List Text}
    {body : List CodePoint} (hr : state.Renders options route notes body) :
    page.content = .shown notes body := by
  cases hr with
  | ready path notes hp =>
    simp only [LoadState.page, Logged.value_bind, hp] at h
    cases h
    rfl

theorem content_error_iff (h : (state.page options route).value = .ok page) {message : Text} :
    page.content = .error message ↔ state.Fails route message := by
  refine ⟨fun hc => ?_, content_of_fails h⟩
  rcases page_content h with ⟨m, hf, hm⟩ | ⟨path, -, hm⟩ | ⟨notes, body, -, hm⟩
  · cases hc.symm.trans hm
    exact hf
  · cases hc.symm.trans hm
  · cases hc.symm.trans hm

theorem content_loading_iff (h : (state.page options route).value = .ok page) :
    page.content = .loading ↔ ∃ path, state = .pending path := by
  refine ⟨fun hc => ?_, fun ⟨path, hp⟩ => ?_⟩
  · rcases page_content h with ⟨m, -, hm⟩ | ⟨path, hp, -⟩ | ⟨notes, body, -, hm⟩
    · cases hc.symm.trans hm
    · exact ⟨path, hp⟩
    · cases hc.symm.trans hm
  · subst hp
    cases h
    rfl

theorem content_shown_iff (h : (state.page options route).value = .ok page) {notes : List Text}
    {body : List CodePoint} :
    page.content = .shown notes body ↔ state.Renders options route notes body := by
  refine ⟨fun hc => ?_, content_of_renders h⟩
  rcases page_content h with ⟨m, -, hm⟩ | ⟨path, -, hm⟩ | ⟨notes, body, hr, hm⟩
  · cases hc.symm.trans hm
  · cases hc.symm.trans hm
  · cases hc.symm.trans hm
    exact hr

theorem page_shows (h : (state.page options route).value = .ok page) :
    page.Shows (WebPage.settled page.content) :=
  WebPage.shows_settled fun _ _ hc => ((content_shown_iff h).1 hc).clean

/-- A page contains exactly one of the three blocks of the layout, and its state says which: the
block of an error with the message of what failed, the block of a document that is being loaded, or
the notes and the body of the view. The exception is a failed load whose message has no words: its
page is the one of an empty view. -/
theorem page_shows_one_alternative (h : (state.page options route).value = .ok page) :
    (∃ content, page.Shows content ∧
      ∀ other, page.Shows other → WebPage.block other = WebPage.block content) ∧
    (∀ message, page.Shows (.error message) ↔ message ≠ "" ∧ state.Fails route message) ∧
    (page.Shows .loading ↔ ∃ path, state = .pending path) ∧
    (∀ notes body, state.Renders options route notes body → page.Shows (.shown notes body)) ∧
    ((∃ notes body, page.Shows (.shown notes body)) ↔
      (∃ notes body, state.Renders options route notes body) ∨ state.Fails route "") ∧
    (state.Fails route "" → page.Shows (.shown [] []) ∧
      ∃ path error, state = .failed path error) := by
  have hshows := page_shows h
  refine ⟨⟨_, hshows, fun other ho => ho.block_eq hshows⟩, fun message => ?_, ?_,
    fun notes body hr => ?_, ?_, fun hf => ?_⟩
  · rw [hshows.error_iff, WebPage.settled_eq_error, content_error_iff h]
  · rw [hshows.loading_iff, WebPage.settled_eq_loading, content_loading_iff h]
  · rwa [content_of_renders h hr] at hshows
  · simp only [hshows.shown_iff, WebPage.settled_eq_shown, content_error_iff h,
      content_shown_iff h]
  · have hc := content_of_fails h hf
    rw [hc] at hshows
    exact ⟨hshows, hf.exists_failed rfl⟩

/-- A message that closes its block and opens the other one. -/
theorem page_shows_one_alternative_hostile :
    let words : Text := "</div><div class=\"catln-pending\">"
    let state : LoadState := .failed "/pages" (.said .general words)
    ∃ page, (state.page .default ⟨.docs, none⟩).value = .ok page ∧
      page.Shows (.error words) ∧ ¬page.Shows .loading := by
  intro words state
  have h := @page_shows_one_alternative .default ⟨.docs, none⟩ state _ rfl
  refine ⟨_, rfl, (h.2.1 words).2 ⟨by decide, .load _ (.said .general words)⟩, fun hl => ?_⟩
  obtain ⟨path, hp⟩ := h.2.2.1.1 hl
  exact LoadState.noConfusion hp

/-- A load that failed without words is shown as an empty view. -/
theorem page_of_wordless_failure :
    let state : LoadState := .failed "/pages" (.said .general "")
    state.Fails ⟨.docs, none⟩ "" ∧
      ∃ page, (state.page .default ⟨.docs, none⟩).value = .ok page ∧
        page.Shows (.shown [] []) ∧ ¬page.Shows (.error "") := by
  intro state
  have hshows : WebPage.Shows ⟨_, _, _, _⟩ (.shown [] []) :=
    @page_shows .default ⟨.docs, none⟩ state _ rfl
  exact ⟨.load _ _, _, rfl, hshows, fun he => (nomatch hshows.error_iff.1 he)⟩

end LoadState
end WebDocs
