import WebDocs.Proofs.Fragment.Nesting
import WebDocs.Proofs.WebPage.Navigation

namespace WebDocs

namespace Text.Escape

/-- The characters that a page writes as entities. -/
def delimiters : List CodePoint :=
  [.scalar '&', .scalar '<', .scalar '>', .scalar '"', .scalar '\'']

/-- Undoes the entities of a page; nothing if a character that has an entity stands for itself. -/
def unescape? : List CodePoint → Option (List CodePoint)
  | '&' :: 'a' :: 'm' :: 'p' :: ';' :: rest => (unescape? rest).map (.scalar '&' :: ·)
  | '&' :: 'l' :: 't' :: ';' :: rest => (unescape? rest).map (.scalar '<' :: ·)
  | '&' :: 'g' :: 't' :: ';' :: rest => (unescape? rest).map (.scalar '>' :: ·)
  | '&' :: '#' :: '3' :: '4' :: ';' :: rest => (unescape? rest).map (.scalar '"' :: ·)
  | '&' :: '#' :: '3' :: '9' :: ';' :: rest => (unescape? rest).map (.scalar '\'' :: ·)
  | c :: rest =>
    if c ∈ delimiters then none else (unescape? rest).map (c :: ·)
  | [] => some []

theorem unescape?_cons {c : CodePoint} (h : c ∉ delimiters) (rest : List CodePoint) :
    unescape? (c :: rest) = (unescape? rest).map (c :: ·) := by
  have hc : c ≠ .scalar '&' := fun e => h (e ▸ List.mem_cons_self)
  conv_lhs => unfold unescape?
  split <;> simp_all

theorem unescape?_encodeChar (c : CodePoint) (rest : List CodePoint) :
    unescape? (encodeChar page c ++ rest) = (unescape? rest).map (c :: ·) := by
  unfold encodeChar
  split
  case h_6 h₁ h₂ h₃ h₄ h₅ =>
    exact unescape?_cons (by simpa [delimiters] using ⟨h₁, h₂, h₃, h₄, h₅⟩) rest
  all_goals rfl

theorem unescape?_encode (s : List CodePoint) : unescape? (encode page s) = some s := by
  induction s with
  | nil => rfl
  | cons c rest ih =>
    have h := unescape?_encodeChar c (encode page rest)
    rw [ih] at h
    exact h

end Text.Escape

namespace WebPage

/-- The fixed parts of a page. -/
inductive Fixed
  | documentType
  | rootStart
  | rootClass (dark : Bool)
  | headStart
  | titleStart
  | headEnd
  | bodyStart
  | layoutStart
  | tocStart
  | tocEnd
  | rowStart
  | rowIndent
  | rowCurrent
  | rowOpened
  | linkStart
  | linkOpened
  | linkEnd
  | directoryEnd
  | rowEnd
  | mainStart
  | headingStart
  | headingEnd
  | notesStart
  | notesEnd
  | noteStart
  | noteEnd
  | errorStart
  | errorEnd
  | loading
  | bodyIndent
  | bodyEnd
  | mainEnd
  | rootEnd

def Fixed.chars : Fixed → List CodePoint
  | documentType => lines ["<!DOCTYPE html>"]
  | rootStart => ("<html lang=\"en\" class=\"" : Text).toList
  | rootClass dark => (if dark then ("catln-dark" : Text) else "catln-light").toList
  | headStart => lines ["\">", "<head>", "  <meta charset=\"utf-8\" />",
    "  <meta name=\"viewport\" content=\"width=device-width, initial-scale=1\" />"]
  | titleStart => ("  <title>" : Text).toList
  | headEnd => lines (" - Catln WebDocs</title>" :: "  <style>" :: style ++ ["  </style>", "</head>"])
  | bodyStart => lines ("<body>" :: navigation)
  | layoutStart => lines ["  <div class=\"catln-layout\">"]
  | tocStart => lines ["    <nav class=\"catln-toc\">", "      <ul>"]
  | tocEnd => lines ["      </ul>", "    </nav>"]
  | rowStart => ("        <li style=\"margin-left: " : Text).toList
  | rowIndent => ("em\"" : Text).toList
  | rowCurrent => (" class=\"catln-current\"" : Text).toList
  | rowOpened => [.scalar '>', .scalar '\n']
  | linkStart => ("<a href=\"" : Text).toList
  | linkOpened => ("\">" : Text).toList
  | linkEnd => ("</a>" : Text).toList
  | directoryEnd => [.scalar '/']
  | rowEnd => lines ["        </li>"]
  | mainStart => lines ["    <main>"]
  | headingStart => ("      <h1>" : Text).toList
  | headingEnd => lines ["</h1>"]
  | notesStart => lines ["      <ul class=\"catln-notes\">"]
  | notesEnd => lines ["      </ul>"]
  | noteStart => ("        <li>" : Text).toList
  | noteEnd => lines ["</li>"]
  | errorStart => ("      <div class=\"catln-error\">Error: " : Text).toList
  | errorEnd => lines ["</div>"]
  | loading => lines ["      <div class=\"catln-pending\">Loading...</div>"]
  | bodyIndent => ("      " : Text).toList
  | bodyEnd => [.scalar '\n']
  | mainEnd => lines ["    </main>", "  </div>", "</body>"]
  | rootEnd => ("</html>" : Text).toList

/-- A page made of fixed parts, numbers, escaped texts and finished bodies; the texts and the bodies
in the order in which they stand in it. -/
inductive Assembled : List CodePoint → List Text → List (List CodePoint) → Prop
  | nil : Assembled [] [] []
  | fixed {rest : List CodePoint} {texts : List Text} {bodies : List (List CodePoint)}
      (part : Fixed)
      (hr : Assembled rest texts bodies) : Assembled (part.chars ++ rest) texts bodies
  | number {rest : List CodePoint} {texts : List Text} {bodies : List (List CodePoint)} (n : Nat)
      (hr : Assembled rest texts bodies) :
      Assembled ((toString n : Text).toList ++ rest) texts bodies
  | text {value rest : List CodePoint} {text : Text} {texts : List Text}
      {bodies : List (List CodePoint)}
      (ht : Text.Escape.unescape? value = some text.toList) (hr : Assembled rest texts bodies) :
      Assembled (value ++ rest) (text :: texts) bodies
  | body {rest : List CodePoint} {texts : List Text} {bodies : List (List CodePoint)}
      (body : List CodePoint)
      (hr : Assembled rest texts bodies) : Assembled (body ++ rest) texts (body :: bodies)

namespace Assembled

variable {s t : List CodePoint} {texts texts' : List Text} {bodies bodies' : List (List CodePoint)}

theorem append (hs : Assembled s texts bodies) (ht : Assembled t texts' bodies') :
    Assembled (s ++ t) (texts ++ texts') (bodies ++ bodies') := by
  induction hs with
  | nil => exact ht
  | fixed part _ ih =>
    rw [List.append_assoc]
    exact .fixed part ih
  | number n _ ih =>
    rw [List.append_assoc]
    exact .number n ih
  | text h _ ih =>
    rw [List.append_assoc]
    exact .text h ih
  | body body _ ih =>
    rw [List.append_assoc]
    exact .body body ih

/-- A fixed part behind what is assembled already. -/
theorem part (hs : Assembled s texts bodies) (part : Fixed) :
    Assembled (s ++ part.chars) texts bodies := by
  have h := hs.append (.fixed part .nil)
  rwa [List.append_nil, List.append_nil, List.append_nil] at h

end Assembled

theorem assembled_fixed (part : Fixed) : Assembled part.chars [] [] := Assembled.nil.part part

theorem assembled_escape (s : Text) : Assembled (escape s) [s] [] := by
  have h := Assembled.text (Text.Escape.unescape?_encode s.toList) .nil
  rwa [List.append_nil] at h

theorem assembled_flatMap {α : Type} {f : α → List CodePoint} {texts : α → List Text}
    (h : ∀ a, Assembled (f a) (texts a) []) (items : List α) :
    Assembled (items.flatMap f) (items.flatMap texts) [] := by
  induction items with
  | nil => exact .nil
  | cons a rest ih =>
    rw [List.flatMap_cons, List.flatMap_cons]
    exact (h a).append ih

def rowTexts (item : TocItem) : List Text := item.href.toList ++ [item.name]

theorem label_assembled (item : TocItem) : Assembled (TocItem.label item) (rowTexts item) [] := by
  unfold TocItem.label rowTexts
  cases item.href with
  | none => exact (assembled_escape item.name).part .directoryEnd
  | some href =>
    have hlink := ((assembled_fixed .linkStart).append (assembled_escape href)).part .linkOpened
    exact (hlink.append (assembled_escape item.name)).part .linkEnd

theorem row_assembled (item : TocItem) : Assembled (TocItem.chars item) (rowTexts item) [] := by
  have hnumber : Assembled ((toString item.depth : Text).toList ++ []) [] [] :=
    .number item.depth .nil
  rw [List.append_nil] at hnumber
  have hindent := ((assembled_fixed .rowStart).append hnumber).part .rowIndent
  have hcurrent : Assembled
      (if item.current then (" class=\"catln-current\"" : Text).toList else []) [] [] := by
    split
    next => exact assembled_fixed .rowCurrent
    next => exact .nil
  have hopened := (hindent.append hcurrent).part .rowOpened
  exact (hopened.append (label_assembled item)).part .rowEnd

theorem tocChars_assembled (toc : List TocItem) :
    Assembled (tocChars toc) (toc.flatMap rowTexts) [] := by
  cases toc with
  | nil => exact .nil
  | cons item rest =>
    have hrows := assembled_flatMap row_assembled (item :: rest)
    exact ((assembled_fixed .tocStart).append hrows).part .tocEnd

theorem notesChars_assembled (notes : List Text) :
    Assembled (notesChars notes) notes [] := by
  cases notes with
  | nil => exact .nil
  | cons note rest =>
    have hnote (note : Text) : Assembled (noteChars note) [note] [] :=
      ((assembled_fixed .noteStart).append (assembled_escape note)).part .noteEnd
    have hnotes := assembled_flatMap hnote (note :: rest)
    rw [List.flatMap_singleton'] at hnotes
    exact ((assembled_fixed .notesStart).append hnotes).part .notesEnd

/-- The texts that stand in the middle of a page. -/
def contentTexts : Content → List Text
  | .error message => if message = "" then [] else [message]
  | .loading => []
  | .shown notes _ => notes

def contentBodies : Content → List (List CodePoint)
  | .shown _ body => [body]
  | _ => []

theorem contentChars_assembled (content : Content) :
    Assembled (contentChars content) (contentTexts content) (contentBodies content) := by
  cases content with
  | error message =>
    by_cases hm : message = ""
    · simp only [contentChars, contentTexts, contentBodies, if_pos hm]
      exact (assembled_fixed .bodyIndent).part .bodyEnd
    · simp only [contentChars, contentTexts, contentBodies, if_neg hm]
      exact ((assembled_fixed .errorStart).append (assembled_escape message)).part .errorEnd
  | loading => exact assembled_fixed .loading
  | shown notes body =>
    have hbody : Assembled (body ++ []) [] [body] := .body body .nil
    rw [List.append_nil] at hbody
    have h := (((notesChars_assembled notes).part .bodyIndent).append hbody).part .bodyEnd
    rw [List.append_nil] at h
    exact h

/-- The texts of a page, in order; its title stands in it twice. -/
def texts (page : WebPage) : List Text :=
  page.title :: page.toc.flatMap rowTexts ++ page.title :: contentTexts page.content

theorem head_assembled (title : Text) (dark : Bool) : Assembled (head title dark) [title] [] := by
  have hroot := ((assembled_fixed .documentType).part .rootStart).part (.rootClass dark)
  have htitle := ((hroot.part .headStart).part .titleStart).append (assembled_escape title)
  exact htitle.part .headEnd

/-- Each text of a page stands in it with its delimiters written as entities, and the body as it is;
the rest of the page is fixed. -/
theorem chars_assembled (page : WebPage) :
    Assembled page.chars page.texts (contentBodies page.content) := by
  have hhead := ((head_assembled page.title page.dark).part .bodyStart).part .layoutStart
  have htoc := hhead.append (tocChars_assembled page.toc)
  have hheading := (((htoc.part .mainStart).part .headingStart).append
    (assembled_escape page.title)).part .headingEnd
  have h := ((hheading.append (contentChars_assembled page.content)).part .mainEnd).part .rootEnd
  have htexts : page.texts = [page.title] ++ page.toc.flatMap rowTexts ++ [page.title] ++
      contentTexts page.content := by
    rw [texts, List.append_assoc]
    rfl
  rw [htexts]
  exact h

end WebPage

namespace View

open Fragment

theorem pageSections_nest (display : Display) {pages : List Page}
    (h : ∀ page ∈ pages, ∀ text, .comment text ∉ page.statements) :
    List.Forall₂ Nests (pageSections display pages).value
      (pages.map fun page => page.statements.flatMap (Statement.embedded display)) := by
  induction pages with
  | nil => exact .nil
  | cons page rest ih =>
    have hstatements := statementsFragment_nests display (h page List.mem_cons_self)
    have hheading := (nests_ofText page.name).element .heading (by decide)
    have hsection := (hheading.append hstatements).element .pageSection (by decide)
    exact .cons hsection (ih fun other hm => h other (List.mem_cons_of_mem _ hm))

/-- The pages that a view shows. -/
def shownPages (route : Route) (document : Document) : List Page :=
  match route.view with
  | .docs => (selectedPage? document route.page).toList
  | _ => document.pages

/-- The artifacts that a view embeds in its body. -/
def embedded (options : ViewOptions) (route : Route) (data : Json) : List Artifact :=
  match route.view with
  | .llvm => data.listedArtifacts.flatMap Artifact.embedded
  | .constrain => []
  | _ => match Document.decode data with
    | .ok document => (shownPages route document).flatMap fun page =>
        page.statements.flatMap (Statement.embedded (displayOf options document))
    | .error _ => []

/-- A view that shows no comment: a listing, an outline, or a document without comments. -/
def CommentFree (route : Route) (data : Json) : Prop :=
  route.view = .llvm ∨ route.view = .constrain ∨ ∀ document, Document.decode data = .ok document →
    ∀ page ∈ document.pages, ∀ text, .comment text ∉ page.statements

variable {options : ViewOptions} {route : Route} {data : Json} {document : Document} {parts : Parts}

theorem docsParts_nest {name : Option Text}
    (h : (docsParts options document name).value = .ok parts)
    (hc : ∀ page ∈ document.pages, ∀ text, .comment text ∉ page.statements) :
    parts.body.Nests ((selectedPage? document name).toList.flatMap fun page =>
      page.statements.flatMap (Statement.embedded (displayOf options document))) := by
  unfold docsParts at h
  cases hs : selectedPage? document name with
  | none =>
    simp only [hs] at h
    cases h
  | some page =>
    simp only [hs] at h
    cases ht : tocItems document options.linkBase page.name with
    | error cause =>
      simp only [ht] at h
      cases h
    | ok toc =>
      simp only [ht] at h
      cases h
      rw [Option.toList_some, List.flatMap_singleton]
      exact statementsFragment_nests _ (hc page (mem_of_selectedPage? hs))

theorem documentParts_nest (h : (documentParts options route data).value = .ok parts)
    (hd : Document.decode data = .ok document)
    (hc : ∀ page ∈ document.pages, ∀ text, .comment text ∉ page.statements) :
    parts.body.Nests ((shownPages route document).flatMap fun page =>
      page.statements.flatMap (Statement.embedded (displayOf options document))) := by
  obtain ⟨view, name⟩ := route
  have hsections := nests_join "\n" (pageSections_nest (displayOf options document) hc)
  simp only [documentParts, hd] at h
  cases view with
  | docs => exact docsParts_nest h hc
  | _ =>
    cases h
    exact hsections

theorem parts_eq_documentParts (hl : route.view ≠ .llvm) (hk : route.view ≠ .constrain)
    (hn : data ≠ .null) : View.parts options route data = documentParts options route data := by
  unfold View.parts
  split
  next hv => exact absurd hv hl
  next => exact absurd rfl hn
  next hv _ => exact absurd hv hk
  next => rfl

theorem embedded_eq_document (hl : route.view ≠ .llvm) (hk : route.view ≠ .constrain) :
    embedded options route data = match Document.decode data with
      | .ok document => (shownPages route document).flatMap fun page =>
          page.statements.flatMap (Statement.embedded (displayOf options document))
      | .error _ => [] := by
  unfold embedded
  split
  next hv => exact absurd hv hl
  next hv => exact absurd hv hk
  next => rfl

theorem documentView_nest (hl : route.view ≠ .llvm) (hk : route.view ≠ .constrain)
    (h : (View.parts options route data).value = .ok parts) (hc : CommentFree route data) :
    parts.body.Nests (embedded options route data) := by
  rw [embedded_eq_document hl hk]
  by_cases hn : data = .null
  · subst hn
    have hnull : View.parts options route .null = pure (.ok ⟨[], [], route.view.title⟩) := by
      unfold View.parts
      split
      next hv => exact absurd hv hl
      next => rfl
      next hv _ => exact absurd hv hk
      next hn => exact absurd rfl hn
    rw [hnull] at h
    cases h
    exact nests_nil
  · rw [parts_eq_documentParts hl hk hn] at h
    cases hd : Document.decode data with
    | ok document =>
      exact documentParts_nest h hd ((hc.resolve_left hl).resolve_left hk document hd)
    | error cause =>
      simp only [documentParts, hd] at h
      cases h

theorem parts_nest (h : (View.parts options route data).value = .ok parts)
    (hc : CommentFree route data) : parts.body.Nests (embedded options route data) := by
  by_cases hl : route.view = .llvm
  · obtain ⟨view, name⟩ := route
    subst hl
    cases h
    exact listingFragment_nests data
  by_cases hk : route.view = .constrain
  · obtain ⟨view, name⟩ := route
    subst hk
    cases data with
    | null =>
      cases h
      exact nests_nil
    | _ =>
      cases h
      exact Json.outline_nests _
  · exact documentView_nest hl hk h hc

end View

/-- Whatever the data of a state and the options, the page of a state is its layout around texts that
are escaped and around the body of its view; and unless the body shows comments, it is properly
nested HTML out of the fixed tags, in which the artifacts of the data are embedded unchanged. -/
theorem LoadState.page_without_injection {options : ViewOptions} {route : Route} {state : LoadState}
    {page : WebPage} (h : (state.page options route).value = .ok page) :
    WebPage.Assembled page.chars page.texts (WebPage.contentBodies page.content) ∧
    ∀ path data notes, state = .ready path data notes → View.CommentFree route data →
      ∀ body ∈ WebPage.contentBodies page.content,
        Html.Nested body (View.embedded options route data) := by
  refine ⟨page.chars_assembled, ?_⟩
  rintro path data notes rfl hc body hb
  cases hparts : (View.parts options route data).value with
  | ok parts =>
    have hbody := View.parts_nest hparts hc
    simp only [LoadState.page, Logged.value_bind, hparts] at h
    cases h
    rw [List.mem_singleton.1 hb]
    exact hbody
  | error obstacle =>
    simp only [LoadState.page, Logged.value_bind, hparts] at h
    cases obstacle with
    | malformed cause =>
      cases h
      exact absurd hb List.not_mem_nil
    | render cause => cases h

/-- A generated page whose name and contents could end the attributes they stand in. -/
theorem LoadState.page_without_injection_hostile :
    let data : Json := .obj [("\"><i>.html", .str "<b title='&amp;'>\"</b>")]
    let state : LoadState := .ready "/llvm" data [.str "</ul>"]
    ∃ page body, (state.page .default ⟨.llvm, none⟩).value = .ok page ∧
      page.content = .shown ["</ul>"] body ∧
      WebPage.Assembled page.chars ["LLVM", "LLVM", "</ul>"] [body] ∧
      Html.Nested body [⟨"\"><i>.html", "<b title='&amp;'>\"</b>"⟩] := by
  intro data state
  have hembedded : View.embedded .default ⟨.llvm, none⟩ data =
      [⟨"\"><i>.html", "<b title='&amp;'>\"</b>"⟩] := by decide
  refine ⟨_, _, rfl, rfl, ?_, ?_⟩
  · exact (@LoadState.page_without_injection .default ⟨.llvm, none⟩ state _ rfl).1
  · rw [← hembedded]
    exact (@LoadState.page_without_injection .default ⟨.llvm, none⟩ state _ rfl).2 _ data _ rfl
      (.inl rfl) _ List.mem_cons_self

end WebDocs
