import WebDocs.Proofs.Dump.LastValue
import WebDocs.Proofs.Fragment.AlikeDisplays
import WebDocs.Proofs.Fragment.AnnotationJoin
import WebDocs.Proofs.WebPage.DocumentPage

namespace WebDocs
namespace View

section

variable {name : Option Text} {document changed : Document}

/-- The selected page asks for the value at the position. -/
def Asked (name : Option Text) (document : Document) (position : Json) : Prop :=
  ∃ page, selectedPage? document name = some page ∧ Asks page.statements position

/-- Documents with the same names of pages and the same statements on the selected page. -/
structure SamePage (name : Option Text) (document changed : Document) : Prop where
  names : changed.pageNames = document.pageNames
  statements : (selectedPage? changed name).map (·.statements) =
    (selectedPage? document name).map (·.statements)

/-- The name of the selected page is seen from the names alone. -/
theorem selectedPage?_name (name : Option Text) (document : Document) :
    (selectedPage? document name).map (·.name) =
      match name with
      | some n => document.pageNames.find? (· = n)
      | none => document.pageNames.getLast? := by
  cases name with
  | none => exact List.getLast?_map.symm
  | some n =>
    have hfind : document.pageNames.find? (· = n) =
        (document.pages.find? (·.name = n)).map (·.name) := List.find?_map
    exact hfind.symm

theorem SamePage.name_eq (hs : SamePage name document changed) :
    (selectedPage? changed name).map (·.name) = (selectedPage? document name).map (·.name) := by
  rw [selectedPage?_name, selectedPage?_name, hs.names]

theorem tocItems_of_names (h : changed.pageNames = document.pageNames) (base current : Text) :
    tocItems changed base current = tocItems document base current := by
  rw [tocItems, tocItems, h]

theorem alike_displayOf (options : ViewOptions) (document changed : Document) :
    (displayOf options document).Alike (displayOf options changed) := ⟨rfl, rfl, rfl⟩

theorem docsParts_of_samePage (hs : SamePage name document changed) (options : ViewOptions)
    (hl : ∀ position, Asked name document position →
      (displayOf options changed).index.lookup position =
        (displayOf options document).index.lookup position) :
    docsParts options changed name = docsParts options document name := by
  have hname := hs.name_eq
  have hstatements := hs.statements
  cases hp : selectedPage? document name with
  | none =>
    rw [hp, Option.map_none, Option.map_eq_none_iff] at hname
    simp only [docsParts, hp, hname]
  | some page =>
    rw [hp] at hname hstatements
    obtain ⟨other, ho, hn⟩ := Option.map_eq_some_iff.1 hname
    rw [ho] at hstatements
    have hsame : other.statements = page.statements := Option.some.inj hstatements
    have hbody : statementsFragment (displayOf options changed) other.statements =
        statementsFragment (displayOf options document) page.statements := by
      rw [hsame]
      exact statementsFragment_alike (alike_displayOf options document changed) _
        fun position h => hl position ⟨page, hp, h⟩
    simp only [docsParts, hp, ho, hn, tocItems_of_names hs.names, hbody]

/-- The pages of the two documents have the same names, and the statements of the selected page are
the same. The other pages may have other statements, and all pages other dependencies. -/
def OthersChanged (name : Option Text) (document changed : Document) : Prop :=
  List.Forall₂ (fun page other => other.name = page.name ∧
      ((selectedPage? document name).map (·.name) = some page.name →
        other.statements = page.statements))
    document.pages changed.pages

theorem rel_head? {R : Page → Page → Prop} {pages others : List Page}
    (h : List.Forall₂ R pages others) : Option.Rel R pages.head? others.head? := by
  cases h with
  | nil => exact .none
  | cons hr _ => exact .some hr

theorem rel_find? {R : Page → Page → Prop} {pages others : List Page} (n : Text)
    (h : List.Forall₂ (fun page other => other.name = page.name ∧ R page other) pages others) :
    Option.Rel R (pages.find? (·.name = n)) (others.find? (·.name = n)) := by
  induction h with
  | nil => exact .none
  | @cons page other _ _ hr _ ih =>
    by_cases hn : page.name = n
    · rw [List.find?_cons_of_pos (by simpa using hn),
        List.find?_cons_of_pos (by simpa [hr.1] using hn)]
      exact .some hr.2
    · rw [List.find?_cons_of_neg (by simpa using hn),
        List.find?_cons_of_neg (by simpa [hr.1] using hn)]
      exact ih

/-- Where pages of the same names are related, so are the selected ones. -/
theorem rel_selectedPage? {R : Page → Page → Prop} (name : Option Text)
    (h : List.Forall₂ (fun page other => other.name = page.name ∧ R page other)
      document.pages changed.pages) :
    Option.Rel R (selectedPage? document name) (selectedPage? changed name) := by
  cases name with
  | none =>
    rw [selectedPage?, selectedPage?, Document.defaultPage?, Document.defaultPage?,
      List.getLast?_eq_head?_reverse, List.getLast?_eq_head?_reverse]
    exact rel_head? (List.rel_reverse (h.imp fun _ _ hr => hr.2))
  | some n => exact rel_find? n h

theorem OthersChanged.samePage (h : OthersChanged name document changed) :
    SamePage name document changed where
  names := by
    have hnames : List.Forall₂ (· = ·) changed.pageNames document.pageNames :=
      List.forall₂_map_left_iff.2 (List.forall₂_map_right_iff.2 (h.flip.imp fun _ _ hr => hr.1))
    rwa [List.forall₂_eq_eq_eq] at hnames
  statements := by
    have hselected := rel_selectedPage? name h
    cases hp : selectedPage? document name with
    | none =>
      rw [hp] at hselected
      generalize selectedPage? changed name = other at hselected
      cases hselected
      rfl
    | some page =>
      rw [hp] at hselected
      generalize selectedPage? changed name = other at hselected
      cases hselected with
      | some hr => exact congrArg some (hr rfl)

/-- No position of an annotation, and none that the selected page asks for, splits a pair into its
halves. -/
structure UnsplitFor (name : Option Text) (document : Document) : Prop where
  recorded : UnsplitPositions document.annotations
  asked : ∀ position, Asked name document position → position.Unsplit

/-- A page of the docs view is isolated from the rest of its document: whatever else differs between
two documents, if they have the same names of pages, the same statements on the selected page, and
the same last values, or none, at the positions of its annotations, then the outcome is the same, with
the same log or the same error. So it is if statements of other pages and dependencies of any page are
replaced, annotations at different positions change places, and annotations are added that have no
position or one that the page does not ask for. The positions of neither document may split a pair. -/
theorem docs_page_isolated {route : Route} (hv : route.view = .docs) {payload other : Json}
    (hd : Document.decode payload = .ok document) (ho : Document.decode other = .ok changed)
    (hu : UnsplitFor route.page document) (hc : UnsplitPositions changed.annotations)
    (options : ViewOptions) (path : Text) (notes : List Json) :
    let Same := (LoadState.ready path other notes).page options route =
      (LoadState.ready path payload notes).page options route
    (SamePage route.page document changed →
      (∀ position, Asked route.page document position →
        lastValue? changed.annotations position = lastValue? document.annotations position) →
      Same) ∧
    (OthersChanged route.page document changed →
      Unnoticed (Asked route.page document) document.annotations changed.annotations → Same) := by
  intro Same
  have hisolated (hs : SamePage route.page document changed)
      (hl : ∀ position, Asked route.page document position →
        lastValue? changed.annotations position = lastValue? document.annotations position) :
      Same := by
    have hparts : partsOf options route changed = partsOf options route document := by
      simp only [partsOf, hv]
      refine docsParts_of_samePage hs options fun position ha => ?_
      have hp := hu.asked position ha
      rw [displayOf, displayOf, PositionIndex.lookup_eq_lastValue? (Document.rooted ho) hc hp,
        PositionIndex.lookup_eq_lastValue? (Document.rooted hd) hu.recorded hp, hl position ha]
    show (LoadState.ready path other notes).page options route = _
    rw [page_of_decode (.inl hv) hd, page_of_decode (.inl hv) ho, documentPage, documentPage, hparts]
  exact ⟨hisolated, fun hothers hunnoticed =>
    hisolated hothers.samePage fun position ha => (hunnoticed.lastValue?_eq ha).symm⟩

end

namespace Isolated

def annotAt (position : Int) : Json :=
  .obj [("tag", .str "GlobalAnnot"), ("contents", Joined.nameAt (.int position))]

def recorded (position : Json) (value : Text) : Json :=
  .arr [Joined.nameAt position, .obj [("tag", .str "StrVal"), ("contents", .str value)]]

/-- A page that asks for the values at two positions, and another one. -/
def pages (statement deps : Json) : Json :=
  .arr [.arr [.arr [.null, .arr [annotAt 1, annotAt 2]], .str "main", .null],
    .arr [.arr [.null, .arr [statement]], .str "other", deps]]

def payload : Json :=
  .arr [pages (.obj [("tag", .str "Comment"), ("contents", .str "text")]) .null,
    .arr [recorded (.int 1) "first", recorded (.int 1) "last", recorded (.int 3) "unrelated"]]

/-- The other page is malformed and has dependencies. Two values have changed places, and one without
a position is added. -/
def changedPayload : Json :=
  .arr [pages (.str "Comment") (.arr [.str "main"]),
    .arr [recorded .null "nowhere", recorded (.int 1) "first", recorded (.int 3) "unrelated",
      recorded (.int 1) "last"]]

def main : Page :=
  ⟨"main", [.globalAnnot (Joined.name (.int 1)), .globalAnnot (Joined.name (.int 2))], []⟩

def entry (position : Json) (value : Text) : Annot := ⟨position, Joined.name position, .str value⟩

def document : Document where
  pages := [main, ⟨"other", [.comment "text"], []⟩]
  annotations := [entry (.int 1) "first", entry (.int 1) "last", entry (.int 3) "unrelated"]

def changed : Document where
  pages := [main, ⟨"other", [.unknown none (.str "Comment")], ["main"]⟩]
  annotations := [entry .null "nowhere", entry (.int 1) "first", entry (.int 3) "unrelated",
    entry (.int 1) "last"]

theorem othersChanged : OthersChanged (some "main") document changed := by
  refine .cons ⟨rfl, fun _ => rfl⟩ (.cons ⟨rfl, fun h => ?_⟩ .nil)
  exact absurd (Option.some.inj h) (by decide)

theorem apart {value other : Text} (position : Json) (h : (entry (.int 1) value).At position) :
    ¬(entry (.int 3) other).At position := by
  intro h'
  have hsorted : Json.sorted (.int 1) = Json.sorted (.int 3) :=
    ((Json.sorted_eq_iff _ _).2 h.2).trans ((Json.sorted_eq_iff _ _).2 h'.2).symm
  exact absurd (Json.int.inj hsorted) (by decide)

theorem unnoticed (asked : Json → Prop) :
    Unnoticed asked document.annotations changed.annotations := by
  have hswap : Unnoticed asked
      ([entry (.int 1) "first"] ++ entry (.int 1) "last" :: entry (.int 3) "unrelated" :: [])
      ([entry (.int 1) "first"] ++ entry (.int 3) "unrelated" :: entry (.int 1) "last" :: []) :=
    .swap apart
  have hadd : Unnoticed asked
      ([] ++ [entry (.int 1) "first", entry (.int 3) "unrelated", entry (.int 1) "last"])
      ([] ++ entry .null "nowhere" ::
        [entry (.int 1) "first", entry (.int 3) "unrelated", entry (.int 1) "last"]) :=
    .add fun _ _ h => h.1 rfl
  exact hswap.trans hadd

theorem unsplitFor_main : UnsplitFor (some "main") document where
  recorded := by
    simp only [UnsplitPositions, document, List.forall_mem_cons]
    exact ⟨.int 1, .int 1, .int 3, fun _ h => nomatch h⟩
  asked := by
    rintro position ⟨page, hp, expr, hm, rfl⟩
    have hmain : page = main := (Option.some.inj hp).symm
    subst hmain
    rcases List.mem_pair.1 hm with h | h
    · cases h
      exact .int 1
    · cases h
      exact .int 2

theorem unsplitPositions_changed : UnsplitPositions changed.annotations := by
  simp only [UnsplitPositions, changed, List.forall_mem_cons]
  exact ⟨.null, .int 1, .int 3, .int 1, fun _ h => nomatch h⟩

end Isolated

/-- The page is the same beside the malformed one, and its second annotation is missing as before. -/
theorem docs_page_isolated_main :
    Document.decode Isolated.payload = .ok Isolated.document ∧
      Document.decode Isolated.changedPayload = .ok Isolated.changed ∧
      OthersChanged (some "main") Isolated.document Isolated.changed ∧
      Unnoticed (Asked (some "main") Isolated.document) Isolated.document.annotations
        Isolated.changed.annotations ∧
      ∃ page,
        (LoadState.ready "/pages" Isolated.payload []).page .default ⟨.docs, some "main"⟩ =
          ⟨.ok page, [.missingResult (.int 2)]⟩ ∧
        (LoadState.ready "/pages" Isolated.changedPayload []).page .default ⟨.docs, some "main"⟩ =
          ⟨.ok page, [.missingResult (.int 2)]⟩ := by
  refine ⟨rfl, rfl, Isolated.othersChanged, Isolated.unnoticed _, _, rfl, ?_⟩
  have hsame := (@docs_page_isolated Isolated.document Isolated.changed ⟨.docs, some "main"⟩ rfl
    Isolated.payload Isolated.changedPayload rfl rfl Isolated.unsplitFor_main
    Isolated.unsplitPositions_changed .default "/pages" []).2
    Isolated.othersChanged (Isolated.unnoticed _)
  exact hsame.trans rfl

/-- A value at the halves of a pair shows up at the character of the pair, where no value was
added. -/
theorem docs_page_split_pair :
    let other := Joined.payloadOf (Joined.nameAt Joined.pair) []
    let changed : Document := ⟨Joined.splitDocument.pages, []⟩
    let log (payload : Json) :=
      ((LoadState.ready "/pages" payload []).page .default ⟨.docs, none⟩).log
    Document.decode Joined.splitPayload = .ok Joined.splitDocument ∧
      Document.decode other = .ok changed ∧ OthersChanged none changed Joined.splitDocument ∧
      Unnoticed (Asked none changed) changed.annotations Joined.splitDocument.annotations ∧
      log Joined.splitPayload = [] ∧ log other = [.missingResult Joined.pair] := by
  intro other changed log
  have hadd : Unnoticed (Asked none changed) ([] ++ []) ([] ++ Joined.split :: []) := by
    refine .add ?_
    rintro position ⟨page, hp, expr, hm, rfl⟩ hat
    cases hp
    cases List.mem_singleton.1 hm
    exact Joined.halves_ne_pair hat.2
  exact ⟨rfl, rfl, .cons ⟨rfl, fun _ => rfl⟩ .nil, hadd,
    List.isEmpty_iff.1 (by decide +kernel), rfl⟩

end View
end WebDocs
