import WebDocs.Proofs.Dump.Document
import WebDocs.Proofs.WebPage.PageLink
import WebDocs.Proofs.WebPage.DisplayOrder
import WebDocs.WebPage.View

namespace WebDocs

open PageTree (ofNames relative row segments toc)

variable {ε α β : Type}

theorem exists_mapM_iff {f : α → Except ε β} {xs : List α} :
    (∃ ys, xs.mapM f = .ok ys) ↔ ∀ x ∈ xs, ∃ y, f x = .ok y := by
  induction xs with
  | nil => exact ⟨fun _ _ hm => absurd hm List.not_mem_nil, fun _ => ⟨[], rfl⟩⟩
  | cons x rest ih =>
    rw [List.forall_mem_cons, ← ih]
    simp only [mapM_eq_ok]
    constructor
    · rintro ⟨_, h⟩
      cases h with
      | cons hx hr => exact ⟨⟨_, hx⟩, _, hr⟩
    · rintro ⟨⟨y, hx⟩, ys, hr⟩
      exact ⟨y :: ys, .cons hx hr⟩

namespace PageTree

theorem relative_eq {name : Text} (h : name.toList.head? ≠ some (.scalar '/')) :
    relative name = name := by
  have hdrop : name.toList.dropWhile (· = CodePoint.scalar '/') = name.toList := by
    cases hl : name.toList with
    | nil => rfl
    | cons c rest =>
      rw [hl, List.head?_cons] at h
      exact List.dropWhile_cons_of_neg fun e => h (congrArg some (of_decide_eq_true e))
  rw [relative, hdrop, Text.ofList_toList]

theorem isScalar_relative_iff {name : Text} : (relative name).IsScalar ↔ name.IsScalar := by
  constructor
  · intro h c hc
    rw [← List.takeWhile_append_dropWhile (p := (· = CodePoint.scalar '/')) (l := name.toList),
      List.mem_append] at hc
    rcases hc with hc | hc
    · have hslash := List.mem_takeWhile_imp hc
      rw [of_decide_eq_true hslash]
      rfl
    · exact h c hc
  · exact fun h c hc => h c ((List.dropWhile_sublist _).mem hc)

theorem mem_toc_page_iff {names : List Text} {tree : Members PageTree}
    (h : ofNames names = .ok tree) {entry : TocEntry} :
    entry ∈ toc tree "" 0 ∧ entry.isPage = true ↔
      ∃ name ∈ names, entry = row (segments name, true) := by
  rw [(toc_perm tree).mem_iff, List.mem_map]
  constructor
  · rintro ⟨⟨⟨path, isPage⟩, hp, rfl⟩, hpage⟩
    cases hpage
    obtain ⟨name, hm, rfl⟩ := ((holds_ofNames h).pages path).1 ((mem_places_ofNames h).1 hp)
    exact ⟨name, hm, rfl⟩
  · rintro ⟨name, hm, rfl⟩
    exact ⟨⟨_, (mem_places_ofNames h).2 (((holds_ofNames h).pages _).2 ⟨name, hm, rfl⟩), rfl⟩, rfl⟩

/-- The pages are listed under their names without the slashes in front. -/
theorem paths_toc_perm {names : List Text} {tree : Members PageTree} (hn : names.Nodup)
    (h : ofNames names = .ok tree) :
    (((toc tree "" 0).filter (·.isPage)).map (·.path)).Perm (names.map relative) := by
  have hmap := (pages_toc_perm hn h).map (·.path)
  rw [List.map_map] at hmap
  exact hmap.trans (.of_eq (List.map_congr_left fun name _ => foldl_pathBelow_segments name))

end PageTree

/-- An item of the table of contents for its row: a page has a link that opens the docs view at the
path of the row, or at no page if that is empty. -/
structure TocEntry.LinkedBy (entry : TocEntry) (current : Text) (item : TocItem) : Prop where
  name : item.name = entry.name
  depth : item.depth = entry.depth
  current : item.current = decide (entry.path = current)
  page : entry.isPage = true → ∃ href, item.href = some href ∧
    Route.parse href = .ok ⟨.docs, if entry.path = "" then none else some entry.path⟩
  directory : entry.isPage = false → item.href = none

namespace View

variable {document : Document} {base current : Text}

theorem exists_rowHref?_iff {entry : TocEntry} :
    (∃ href?, rowHref? base entry = .ok href?) ↔ (entry.isPage = true → entry.path.IsScalar) := by
  rw [rowHref?]
  split
  next h =>
    rw [← @exists_pageHref_iff entry.path base]
    simp [map_eq_ok, h]
  next h => simp [h]

theorem exists_tocItem_iff {entry : TocEntry} :
    (∃ item, tocItem base current entry = .ok item) ↔
      (entry.isPage = true → entry.path.IsScalar) := by
  rw [← @exists_rowHref?_iff base]
  simp [tocItem, map_eq_ok]

theorem linkedBy_of_tocItem {entry : TocEntry} {item : TocItem}
    (h : tocItem docsRoute current entry = .ok item) : entry.LinkedBy current item := by
  obtain ⟨href?, hh, rfl⟩ := map_eq_ok.1 h
  refine ⟨rfl, rfl, rfl, fun hp => ?_, fun hp => ?_⟩
  · rw [rowHref?, if_pos hp, ← docsBase_zero] at hh
    obtain ⟨href, hlink, rfl⟩ := map_eq_ok.1 hh
    exact ⟨href, rfl, Route.parse_pageHref hlink⟩
  · rw [rowHref?, hp] at hh
    exact (Except.ok.inj hh).symm

theorem tocItems_of_ofNames {tree : Members PageTree} (ht : ofNames document.pageNames = .ok tree) :
    tocItems document base current =
      ((toc tree "" 0).mapM (tocItem base current)).mapError (.render ∘ .unencodable) := by
  rw [tocItems, ht]

theorem tocItems_of_clash {cause : Malformed} (ht : ofNames document.pageNames = .error cause) :
    tocItems document base current = .error (.malformed cause) := by
  rw [tocItems, ht]

/-- All pages of a document have links. -/
def Linkable (document : Document) : Prop := ∀ name ∈ document.pageNames, name.IsScalar

theorem exists_mapM_tocItem_iff {tree : Members PageTree}
    (ht : ofNames document.pageNames = .ok tree) :
    (∃ items, (toc tree "" 0).mapM (tocItem base current) = .ok items) ↔ Linkable document := by
  rw [exists_mapM_iff]
  simp only [exists_tocItem_iff]
  constructor
  · intro h name hm
    obtain ⟨hrow, hpage⟩ := (PageTree.mem_toc_page_iff ht).2 ⟨name, hm, rfl⟩
    have hpath := h _ hrow hpage
    exact PageTree.isScalar_relative_iff.1 (PageTree.foldl_pathBelow_segments name ▸ hpath)
  · intro h entry hm hpage
    obtain ⟨name, hn, rfl⟩ := (PageTree.mem_toc_page_iff ht).1 ⟨hm, hpage⟩
    show ((segments name).foldl PageTree.pathBelow "").IsScalar
    rw [PageTree.foldl_pathBelow_segments]
    exact PageTree.isScalar_relative_iff.2 (h name hn)

/-- The table of contents of pages that have a tree: an item for each row, or no page at all. -/
theorem tocItems_outcome {tree : Members PageTree} (ht : ofNames document.pageNames = .ok tree) :
    (Linkable document → ∃ items, tocItems document base current = .ok items ∧
      List.Forall₂ (fun entry item => tocItem base current entry = .ok item)
        (toc tree "" 0) items) ∧
    (¬Linkable document →
      ∃ cause, tocItems document base current = .error (.render (.unencodable cause))) := by
  rw [tocItems_of_ofNames ht, ← @exists_mapM_tocItem_iff document base current tree ht]
  cases h : (toc tree "" 0).mapM (tocItem base current) with
  | ok items =>
    exact ⟨fun _ => ⟨items, rfl, mapM_eq_ok.1 h⟩, fun hn => absurd ⟨items, rfl⟩ hn⟩
  | error cause => exact ⟨fun ⟨_, hi⟩ => (nomatch hi), fun _ => ⟨cause, rfl⟩⟩

theorem tocItems_malformed_iff {cause : Malformed} :
    tocItems document base current = .error (.malformed cause) ↔
      ofNames document.pageNames = .error cause := by
  constructor
  · intro h
    cases ht : ofNames document.pageNames with
    | error found =>
      rw [tocItems_of_clash ht] at h
      cases h
      rfl
    | ok tree =>
      obtain ⟨hlinked, hnot⟩ := @tocItems_outcome document base current tree ht
      by_cases hl : Linkable document
      · obtain ⟨_, hi, -⟩ := hlinked hl
        cases h.symm.trans hi
      · obtain ⟨_, hi⟩ := hnot hl
        cases h.symm.trans hi
  · exact tocItems_of_clash

theorem mem_of_selectedPage? {selected : Option Text} {page : Page}
    (h : selectedPage? document selected = some page) : page ∈ document.pages := by
  cases selected with
  | none => exact List.mem_of_getLast? h
  | some name => exact List.mem_of_find?_eq_some h

theorem nodup_pageNames {payload : Json} (h : Document.decode payload = .ok document) :
    document.pageNames.Nodup := by
  obtain ⟨_, _, _, _, hn, _⟩ := Document.decode_eq_ok_iff.1 h
  exact hn

/-- A docs view of a selected page, where no name stands for a page and a directory. -/
theorem docsParts_outcome {options : ViewOptions} {selected : Option Text} {page : Page}
    {tree : Members PageTree} (hs : selectedPage? document selected = some page)
    (ht : ofNames document.pageNames = .ok tree) :
    (Linkable document → ∃ parts, (docsParts options document selected).value = .ok parts ∧
      List.Forall₂ (fun entry item => tocItem options.linkBase page.name entry = .ok item)
        (toc tree "" 0) parts.toc) ∧
    (¬Linkable document → ∃ cause,
      docsParts options document selected = ⟨.error (.render (.unencodable cause)), []⟩) := by
  obtain ⟨hlinked, hnot⟩ := @tocItems_outcome document options.linkBase page.name tree ht
  constructor
  · intro hl
    obtain ⟨items, hi, hrows⟩ := hlinked hl
    simp only [docsParts, hs, hi]
    exact ⟨_, rfl, hrows⟩
  · intro hl
    obtain ⟨cause, hi⟩ := hnot hl
    simp only [docsParts, hs, hi]
    exact ⟨cause, rfl⟩

/-- Of linked rows, those of one path are the marked ones. -/
theorem filter_current {entries : List TocEntry} {items : List TocItem}
    (h : List.Forall₂ (fun entry item => entry.LinkedBy current item) entries items) :
    List.Forall₂ (fun entry item => entry.LinkedBy current item)
      (entries.filter (·.path = current)) (items.filter (·.current)) := by
  refine List.rel_filter (fun entry item hitem => ?_) h
  show _ ↔ item.current = true
  rw [hitem.current]

/-- The table of contents of a docs view has one page for each page of the document: its path is the
name without the slashes in front, and its link opens the docs view at that path, or at no page if
that is empty. If no name begins with a slash, the paths are the names, each of them selects its
page, and of all rows only that of the selected page is marked. But if a name holds half of a pair,
no page of the document is shown. -/
theorem docs_lead_to_pages {payload : Json} {tree : Members PageTree}
    {selected : Option Text} {page : Page} {options : ViewOptions}
    (hd : Document.decode payload = .ok document) (ht : ofNames document.pageNames = .ok tree)
    (hs : selectedPage? document selected = some page) (hb : options.linkBase = docsRoute) :
    ((∃ name ∈ document.pageNames, ¬name.IsScalar) → ∃ cause,
      (docsParts options document selected).value = .error (.render (.unencodable cause))) ∧
    ((∀ name ∈ document.pageNames, name.IsScalar) → ∃ parts,
      (docsParts options document selected).value = .ok parts ∧
      List.Forall₂ (fun entry item => entry.LinkedBy page.name item) (toc tree "" 0) parts.toc ∧
      (((toc tree "" 0).filter (·.isPage)).map (·.path)).Perm (document.pageNames.map relative) ∧
      ((∀ name ∈ document.pageNames, name.toList.head? ≠ some (.scalar '/')) →
        (((toc tree "" 0).filter (·.isPage)).map (·.path)).Perm document.pageNames ∧
        (∀ entry ∈ toc tree "" 0, entry.isPage = true → ∃ target ∈ document.pages,
          target.name = entry.path ∧ selectedPage? document (some entry.path) = some target) ∧
        ∃ (entry : TocEntry) (item : TocItem), entry.isPage = true ∧ entry.path = page.name ∧
          entry.LinkedBy page.name item ∧ parts.toc.filter (·.current) = [item])) := by
  have hn := nodup_pageNames hd
  have hpage := mem_of_selectedPage? hs
  obtain ⟨hlinked, hnot⟩ := @docsParts_outcome document options selected page tree hs ht
  refine ⟨fun ⟨name, hm, hname⟩ => ?_, fun hl => ?_⟩
  · obtain ⟨cause, hcause⟩ := hnot fun hl => hname (hl name hm)
    exact ⟨cause, congrArg Logged.value hcause⟩
  obtain ⟨parts, hparts, hitems⟩ := hlinked hl
  rw [hb] at hitems
  have hrows := hitems.imp fun _ _ => linkedBy_of_tocItem
  have hpaths := PageTree.paths_toc_perm hn ht
  refine ⟨parts, hparts, hrows, hpaths, fun hslash => ?_⟩
  have hrelative : ∀ name ∈ document.pageNames, relative name = name :=
    fun name hm => PageTree.relative_eq (hslash name hm)
  have hnames : document.pageNames.map relative = document.pageNames :=
    (List.map_congr_left hrelative).trans (List.map_id _)
  rw [hnames] at hpaths
  refine ⟨hpaths, fun entry hm h => ?_, row (segments page.name, true), ?_⟩
  · have hp := hpaths.mem_iff.1 (List.mem_map_of_mem (List.mem_filter.2 ⟨hm, h⟩))
    obtain ⟨target, htarget, hpath⟩ := List.mem_map.1 hp
    refine ⟨target, htarget, hpath, ?_⟩
    rw [← hpath]
    exact Document.page?_name hn htarget
  · have hpath := (PageTree.foldl_pathBelow_segments page.name).trans
      (hrelative _ (List.mem_map_of_mem hpage))
    have hmarked := filter_current hrows
    rw [PageTree.filter_path_toc ht hrelative (List.mem_map_of_mem hpage)] at hmarked
    obtain ⟨item, rest, hitem, hnil, hfilter⟩ := List.forall₂_cons_left_iff.1 hmarked
    cases hnil
    exact ⟨item, rfl, hpath, hitem, hfilter⟩

/-- A page in a directory without a name, one with a percent sign and a blank, and the main page. -/
theorem docs_lead_to_pages_odd_names :
    let payload : Json := .arr
      [.arr [.arr [.arr [.null, .arr []], .str "a//b/", .null],
        .arr [.arr [.null, .arr []], .str "main.ct", .null],
        .arr [.arr [.null, .arr []], .str "100% é", .null]], .arr []]
    let document : Document := ⟨[⟨"a//b/", [], []⟩, ⟨"main.ct", [], []⟩, ⟨"100% é", [], []⟩], []⟩
    let tree : Members PageTree := [("100% é", .page),
      ("a", .directory [("", .directory [("b", .directory [("", .page)])])]), ("main.ct", .page)]
    Document.decode payload = .ok document ∧ ofNames document.pageNames = .ok tree ∧
      selectedPage? document none = some ⟨"100% é", [], []⟩ ∧
      ∃ parts, (docsParts .default document none).value = .ok parts ∧
        (((toc tree "" 0).filter (·.isPage)).map (·.path)).Perm document.pageNames ∧
        ∃ entry item, TocEntry.LinkedBy entry "100% é" item ∧
          parts.toc.filter (·.current) = [item] := by
  intro payload document tree
  have hd : Document.decode payload = .ok document := by rfl
  have ht : ofNames document.pageNames = .ok tree := by rfl
  have hs : selectedPage? document none = some ⟨"100% é", [], []⟩ := by rfl
  have hl : ∀ name ∈ document.pageNames, name.IsScalar := by decide
  have hslash : ∀ name ∈ document.pageNames, name.toList.head? ≠ some (.scalar '/') := by decide
  obtain ⟨parts, hp, -, -, h⟩ :=
    (@docs_lead_to_pages document payload tree none _ .default hd ht hs rfl).2 hl
  obtain ⟨hpaths, -, entry, item, -, -, hitem, hcurrent⟩ := h hslash
  exact ⟨hd, ht, hs, parts, hp, hpaths, entry, item, hitem, hcurrent⟩

/-- The page `/a` is listed under the path `a`, which is the name of no page. -/
theorem docs_leading_slash :
    ¬∀ (payload : Json) (document : Document) (tree : Members PageTree),
      Document.decode payload = .ok document → ofNames document.pageNames = .ok tree →
      (((toc tree "" 0).filter (·.isPage)).map (·.path)).Perm document.pageNames := by
  intro h
  let payload : Json := .arr [.arr [.arr [.arr [.null, .arr []], .str "/a", .null]], .arr []]
  have hperm := h payload ⟨[⟨"/a", [], []⟩], []⟩ [("", .directory [("a", .page)])] (by rfl) (by rfl)
  have hpaths : [Text.ofString "a"].Perm [Text.ofString "/a"] := hperm
  exact absurd (List.perm_singleton.1 hpaths) (by decide)

end View
end WebDocs
