import Mathlib.Data.List.Lex
import Mathlib.Data.List.Sort
import WebDocs.Proofs.WebPage.TreePaths

namespace WebDocs.PageTree

/-- The entry page comes before every other segment, and the others are ordered by code points. -/
inductive SegmentLt : Text → Text → Prop
  | main {b : Text} (hb : b ≠ mainPage) : SegmentLt mainPage b
  | codePoint {a b : Text} (ha : a ≠ mainPage) (hb : b ≠ mainPage) (h : a < b) : SegmentLt a b

/-- The order of paths, segment by segment; a path comes before what it leads to. -/
abbrev PathLt : List Text → List Text → Prop := List.Lex SegmentLt

theorem SegmentLt.ne_main {a b : Text} (h : SegmentLt a b) : b ≠ mainPage := by
  cases h with
  | main hb => exact hb
  | codePoint _ hb _ => exact hb

theorem comesBefore_iff {a b : Text} : comesBefore a b = true ↔ SegmentLt a b := by
  rw [comesBefore, Bool.and_eq_true, Bool.or_eq_true, decide_eq_true_iff, decide_eq_true_iff,
    decide_eq_true_iff]
  constructor
  · rintro ⟨hb, rfl | h⟩
    · exact .main hb
    · by_cases ha : a = mainPage
      · rw [ha]
        exact .main hb
      · exact .codePoint ha hb h
  · intro h
    cases h with
    | main hb => exact ⟨hb, .inl rfl⟩
    | codePoint _ hb h => exact ⟨hb, .inr h⟩

instance : Std.Asymm SegmentLt where
  asymm a b h h' := by
    cases h with
    | main _ => exact h'.ne_main rfl
    | codePoint _ hb h =>
      cases h' with
      | main => exact hb rfl
      | codePoint _ _ h' => exact Text.lt_asymm h h'

instance : IsTrans Text SegmentLt where
  trans a b c h h' := by
    cases h with
    | main _ => exact .main h'.ne_main
    | codePoint ha hb h =>
      cases h' with
      | main => exact absurd rfl hb
      | codePoint _ hc h' => exact .codePoint ha hc (Text.lt_trans h h')

theorem segmentLt_of_not {a b : Text} (h : ¬SegmentLt a b) (hne : a ≠ b) : SegmentLt b a := by
  by_cases ha : a = mainPage
  · rw [ha] at h hne
    exact absurd (.main hne.symm) h
  by_cases hb : b = mainPage
  · rw [hb]
    exact .main ha
  have hle : ¬a < b := fun hlt => h (.codePoint ha hb hlt)
  exact .codePoint hb ha (Text.lt_of_le_of_ne (Text.not_lt.1 hle) hne.symm)

/-- Between a path and what it leads to there is only what it leads to. -/
theorem prefix_of_pathLt {dir path other : List Text} (hpre : dir <+: path)
    (hdir : PathLt dir other) (hpath : PathLt other path) : dir <+: other := by
  induction dir generalizing path other with
  | nil => exact List.nil_prefix
  | cons first rest ih =>
    obtain ⟨below, rfl⟩ := hpre
    rw [List.cons_append] at hpath
    cases hdir with
    | rel h =>
      cases hpath with
      | rel h' => exact absurd h' (asymm h)
      | cons _ => exact absurd h (asymm h)
    | cons h =>
      cases hpath with
      | rel h' => exact absurd h' (asymm h')
      | cons h' => exact List.cons_prefix_cons.2 ⟨rfl, ih (List.prefix_append _ _) h h'⟩

theorem pathLt_of_isPrefix {dir path : List Text} (hpre : dir <+: path) (hne : dir ≠ path) :
    PathLt dir path := by
  obtain ⟨below, rfl⟩ := hpre
  have hb : below ≠ [] := fun e => hne (by rw [e, List.append_nil])
  obtain ⟨first, rest, rfl⟩ := List.exists_cons_of_ne_nil hb
  have h := List.Lex.append_left SegmentLt (List.Lex.nil (a := first) (l := rest)) dir
  rwa [List.append_nil] at h

theorem not_pathLt_of_isPrefix {dir path : List Text} (hpre : dir <+: path) :
    ¬PathLt path dir := by
  intro h
  by_cases hne : dir = path
  · rw [hne] at h
    exact asymm h h
  · exact asymm h (pathLt_of_isPrefix hpre hne)

/-- What lies below an earlier entry comes before what lies below a later one. -/
theorem pathLt_below {a b : Text} (h : SegmentLt a b) {walked path other : List Text}
    (hpath : walked ++ [a] <+: path) (hother : walked ++ [b] <+: other) : PathLt path other := by
  obtain ⟨front, rfl⟩ := hpath
  obtain ⟨back, rfl⟩ := hother
  rw [List.append_assoc, List.append_assoc]
  exact List.Lex.append_left SegmentLt (.rel h) walked

section Siblings

variable {α β : Type}

theorem pairwise_insertSibling {children : Members α} {name : Text} (hn : name ∉ children.keys)
    (h : children.Pairwise fun m other => SegmentLt m.1 other.1) (item : α) :
    (insertSibling name item children).Pairwise fun m other => SegmentLt m.1 other.1 := by
  induction children with
  | nil => exact List.pairwise_singleton _ _
  | cons first rest ih =>
    obtain ⟨other, x⟩ := first
    obtain ⟨hfirst, hrest⟩ := List.pairwise_cons.1 h
    obtain ⟨hne, hn⟩ := not_or.1 (mt List.mem_cons.2 hn)
    unfold insertSibling
    split
    next hlt =>
      refine List.pairwise_cons.2 ⟨fun m hm => ?_, ih hn hrest⟩
      rcases List.mem_cons.1 ((insertSibling_perm name item rest).subset hm) with rfl | hm
      · exact comesBefore_iff.1 hlt
      · exact hfirst m hm
    next hlt =>
      rw [comesBefore_iff] at hlt
      have hname := segmentLt_of_not hlt (Ne.symm hne)
      refine List.pairwise_cons.2 ⟨fun m hm => ?_, h⟩
      rcases List.mem_cons.1 hm with rfl | hm
      · exact hname
      · exact trans_of SegmentLt hname (hfirst m hm)

theorem pairwise_arrange {children : Members α} (hn : children.keys.Nodup) :
    (arrange children).Pairwise fun m other => SegmentLt m.1 other.1 := by
  induction children with
  | nil => exact List.Pairwise.nil
  | cons first rest ih =>
    obtain ⟨hfirst, hrest⟩ := List.nodup_cons.1 hn
    refine pairwise_insertSibling (fun hm => hfirst ?_) (ih hrest) first.2
    exact ((arrange_perm rest).map (·.1)).subset hm

theorem insertSibling_map (f : Text → α → β) (name : Text) (item : α) (children : Members α) :
    insertSibling name (f name item) (children.map fun m => (m.1, f m.1 m.2)) =
      (insertSibling name item children).map fun m => (m.1, f m.1 m.2) := by
  induction children with
  | nil => rfl
  | cons first rest ih =>
    obtain ⟨other, x⟩ := first
    rw [List.map_cons, insertSibling, insertSibling, ih]
    split
    next => rfl
    next => rfl

/-- The order of siblings does not depend on what stands with their names. -/
theorem arrange_map (f : Text → α → β) (children : Members α) :
    arrange (children.map fun m => (m.1, f m.1 m.2)) =
      (arrange children).map fun m => (m.1, f m.1 m.2) := by
  induction children with
  | nil => rfl
  | cons first rest ih =>
    show insertSibling first.1 (f first.1 first.2) (arrange (rest.map _)) = _
    rw [ih]
    exact insertSibling_map f first.1 first.2 (arrange rest)

end Siblings

mutual

/-- The path of a tree and those below it in display order. -/
def listed (walked : List Text) : PageTree → List (List Text × Bool)
  | page => [(walked, true)]
  | directory children => (walked, false) :: (arrange (listedChildren walked children)).flatMap (·.2)

def listedChildren (walked : List Text) :
    List (Text × PageTree) → List (Text × List (List Text × Bool))
  | [] => []
  | (name, child) :: rest => (name, listed (walked ++ [name]) child) :: listedChildren walked rest

end

/-- The paths below a directory in display order. -/
def listedBelow (walked : List Text) (children : Members PageTree) : List (List Text × Bool) :=
  (arrange children).flatMap fun m => listed (walked ++ [m.1]) m.2

theorem listedChildren_eq_map (walked : List Text) (children : Members PageTree) :
    listedChildren walked children = children.map fun m => (m.1, listed (walked ++ [m.1]) m.2) := by
  induction children with
  | nil => rfl
  | cons first rest ih => rw [listedChildren, ih, List.map_cons]

theorem listed_directory (walked : List Text) (children : Members PageTree) :
    listed walked (directory children) = (walked, false) :: listedBelow walked children := by
  rw [listed, listedChildren_eq_map,
    arrange_map fun name child => listed (walked ++ [name]) child, List.flatMap_map, listedBelow]

theorem rowsBelow_eq {children : Members PageTree}
    (ih : ∀ m ∈ children, ∀ (walked : List Text) (name : Text),
      rows name ((walked ++ [name]).foldl pathBelow "") walked.length m.2 =
        (listed (walked ++ [name]) m.2).map row) (walked : List Text) :
    (arrange (childRows (walked.foldl pathBelow "") walked.length children)).flatMap (·.2) =
      (listedBelow walked children).map row := by
  rw [childRows_eq_map, arrange_map fun name child =>
    rows name (pathBelow (walked.foldl pathBelow "") name) walked.length child, List.flatMap_map,
    listedBelow, List.map_flatMap]
  refine List.flatMap_congr fun m hm => ?_
  rw [← ih m ((arrange_perm children).subset hm), List.foldl_append]
  rfl

theorem rows_eq (tree : PageTree) (walked : List Text) (name : Text) :
    rows name ((walked ++ [name]).foldl pathBelow "") walked.length tree =
      (listed (walked ++ [name]) tree).map row := by
  induction tree generalizing walked name with
  | page => simp [rows, listed, row]
  | directory children ih =>
    have hbelow := rowsBelow_eq ih (walked ++ [name])
    rw [List.length_append, List.length_singleton] at hbelow
    have hrow : row (walked ++ [name], false) =
        ⟨name, (walked ++ [name]).foldl pathBelow "", walked.length, false⟩ := by simp [row]
    rw [rows, hbelow, listed_directory, List.map_cons, hrow]

/-- The table of contents has the rows of the places in display order. -/
theorem toc_eq (tree : Members PageTree) : toc tree "" 0 = (listedBelow [] tree).map row :=
  rowsBelow_eq (fun m _ => rows_eq m.2) []

theorem listedBelow_perm {children : Members PageTree}
    (ih : ∀ m ∈ children, ∀ walked, (listed walked m.2).Perm (places walked m.2))
    (walked : List Text) : (listedBelow walked children).Perm (placesBelow walked children) := by
  rw [listedBelow, placesBelow_eq_flatMap]
  exact ((arrange_perm children).flatMap_right _).trans
    (.flatMap (.refl _) fun m hm => ih m hm _)

theorem listed_perm (tree : PageTree) (walked : List Text) :
    (listed walked tree).Perm (places walked tree) := by
  induction tree generalizing walked with
  | page => exact .refl _
  | directory children ih =>
    rw [listed_directory, places]
    exact (listedBelow_perm ih walked).cons _

/-- The table of contents has a row for every place of the tree. -/
theorem toc_perm (tree : Members PageTree) :
    (toc tree "" 0).Perm ((placesBelow [] tree).map row) := by
  rw [toc_eq]
  exact (listedBelow_perm (fun m _ => listed_perm m.2) []).map row

theorem prefix_of_mem_listed {tree : PageTree} (ht : tree.Proper) {walked : List Text}
    {place : List Text × Bool} (h : place ∈ listed walked tree) : walked <+: place.1 :=
  prefix_of_mem_places ht (List.mem_map_of_mem ((listed_perm tree walked).subset h))

theorem pairwise_listedBelow {children : Members PageTree} (hc : (directory children).Proper)
    (ih : ∀ m ∈ children, ∀ walked,
      (listed walked m.2).Pairwise fun place other => PathLt place.1 other.1)
    (walked : List Text) :
    (listedBelow walked children).Pairwise fun place other => PathLt place.1 other.1 := by
  have hsub := (arrange_perm children).subset
  refine List.pairwise_flatMap.2 ⟨fun m hm => ih m (hsub hm) _, ?_⟩
  cases hc with
  | dir hn hproper =>
    refine (pairwise_arrange hn).imp_of_mem ?_
    intro m other hm hother hlt place hplace next hnext
    exact pathLt_below hlt (prefix_of_mem_listed (hproper m (hsub hm)) hplace)
      (prefix_of_mem_listed (hproper other (hsub hother)) hnext)

theorem pairwise_listed {tree : PageTree} (ht : tree.Proper) (walked : List Text) :
    (listed walked tree).Pairwise fun place other => PathLt place.1 other.1 := by
  induction tree generalizing walked with
  | page => exact List.pairwise_singleton _ _
  | directory children ih =>
    rw [listed_directory]
    refine List.pairwise_cons.2
      ⟨fun place hm => ?_, pairwise_listedBelow ht (fun m hm => ih m hm (ht.mem hm)) walked⟩
    obtain ⟨m, hmem, hplace⟩ := List.mem_flatMap.1 hm
    obtain ⟨below, hbelow⟩ :=
      prefix_of_mem_listed (ht.mem ((arrange_perm children).subset hmem)) hplace
    rw [← hbelow, List.append_assoc]
    exact pathLt_of_isPrefix (List.prefix_append _ _) (by simp)

/-- The places of a tree of names in display order: each once, in the order of their paths. -/
theorem pairwise_listedBelow_of_proper {tree : Members PageTree} (ht : (directory tree).Proper) :
    (listedBelow [] tree).Pairwise fun place other => PathLt place.1 other.1 :=
  pairwise_listedBelow ht (fun _ hm => pairwise_listed (ht.mem hm)) []

theorem mem_listedBelow {tree : Members PageTree} {place : List Text × Bool} :
    place ∈ listedBelow [] tree ↔ place ∈ placesBelow [] tree :=
  (listedBelow_perm (fun m _ => listed_perm m.2) []).mem_iff

theorem nodup_listedBelow {tree : Members PageTree} (ht : (directory tree).Proper) :
    ((listedBelow [] tree).map (·.1)).Nodup := by
  refine (List.pairwise_map.2 (pairwise_listedBelow_of_proper ht)).imp fun h heq => ?_
  rw [heq] at h
  exact asymm h h

/-- No path leads to two places. -/
theorem nodup_placesBelow {tree : Members PageTree} (ht : (directory tree).Proper) :
    ((placesBelow [] tree).map (·.1)).Nodup :=
  ((listedBelow_perm (fun m _ => listed_perm m.2) []).map (·.1)).nodup_iff.1 (nodup_listedBelow ht)

theorem nodup_places_ofNames {names : List Text} {tree : Members PageTree}
    (h : ofNames names = .ok tree) : (placesBelow [] tree).Nodup :=
  (nodup_placesBelow (holds_ofNames h).proper).of_map

/-- The pages of the table of contents are the names, each once. -/
theorem pages_toc_perm {names : List Text} {tree : Members PageTree} (hn : names.Nodup)
    (h : ofNames names = .ok tree) :
    ((toc tree "" 0).filter (·.isPage)).Perm (names.map fun name => row (segments name, true)) := by
  have hplaces : ((placesBelow [] tree).filter (·.2)).Perm
      (names.map fun name => (segments name, true)) := by
    refine (List.perm_ext_iff_of_nodup ?_ ?_).2 ?_
    · exact (nodup_places_ofNames h).filter _
    · exact hn.map fun a b e => segments_injective (Prod.mk.inj e).1
    · rintro ⟨path, b⟩
      rw [List.mem_filter, mem_places_ofNames h, List.mem_map]
      constructor
      · rintro ⟨hp, rfl⟩
        obtain ⟨name, hm, rfl⟩ := ((holds_ofNames h).pages path).1 hp
        exact ⟨name, hm, rfl⟩
      · rintro ⟨name, hm, he⟩
        cases he
        exact ⟨((holds_ofNames h).pages _).2 ⟨name, hm, rfl⟩, rfl⟩
  have hfilter : ((placesBelow [] tree).map row).filter (·.isPage) =
      ((placesBelow [] tree).filter (·.2)).map row := by
    rw [List.filter_map]
    rfl
  have hrows := (toc_perm tree).filter (·.isPage)
  rw [hfilter] at hrows
  have hmap := hplaces.map row
  rw [List.map_map] at hmap
  exact hrows.trans hmap

/-- Where no name begins with a slash, the row with the path of a page is the row of that page. -/
theorem filter_path_toc {names : List Text} {tree : Members PageTree}
    (h : ofNames names = .ok tree) (hr : ∀ name ∈ names, relative name = name) {name : Text}
    (hm : name ∈ names) :
    (toc tree "" 0).filter (·.path = name) = [row (segments name, true)] := by
  have hpage := ((holds_ofNames h).pages (segments name)).2 ⟨name, hm, rfl⟩
  have hfilter : ((placesBelow [] tree).filter fun place => (row place).path = name).Perm
      [(segments name, true)] := by
    refine (List.perm_ext_iff_of_nodup ((nodup_places_ofNames h).filter _)
      (List.nodup_singleton _)).2 fun place => ?_
    rw [List.mem_filter, List.mem_singleton, decide_eq_true_iff, mem_places_ofNames h]
    constructor
    · rintro ⟨hp, he⟩
      exact place_of_path h hr hm hp he
    · rintro rfl
      exact ⟨hpage, (foldl_pathBelow_segments name).trans (hr name hm)⟩
  have hrows := (toc_perm tree).filter (·.path = name)
  rw [List.filter_map] at hrows
  exact List.perm_singleton.1 (hrows.trans (hfilter.map row))

end WebDocs.PageTree
