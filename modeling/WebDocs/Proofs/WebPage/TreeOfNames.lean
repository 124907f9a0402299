import WebDocs.Proofs.WebPage.DisplayOrder

namespace WebDocs

namespace PageTree

/-- A name and a slash stand before the rest of the other name. -/
def Above (name other : Text) : Prop := ∃ rest, other = name ++ "/" ++ rest

theorem segments_append_slash (name rest : Text) :
    segments (name ++ "/" ++ rest) = segments name ++ segments rest := by
  have hl : (name ++ "/" ++ rest).toList = name.toList ++ .scalar '/' :: rest.toList := by
    rw [Text.toList_append, Text.toList_append, List.append_assoc]
    rfl
  rw [segments, hl, List.splitOn_append_cons_self, List.map_append]
  rfl

/-- A name is above another one exactly when its segments are the first of more segments. -/
theorem above_iff {name other : Text} :
    Above name other ↔ segments name <+: segments other ∧ segments name ≠ segments other := by
  constructor
  · rintro ⟨rest, rfl⟩
    rw [segments_append_slash]
    exact ⟨List.prefix_append _ _, fun h => segments_ne_nil rest (List.self_eq_append_right.1 h)⟩
  · rintro ⟨⟨rest, hr⟩, hne⟩
    have hrest : rest ≠ [] := by
      rintro rfl
      exact hne (by rw [← hr, List.append_nil])
    refine ⟨joined rest, ?_⟩
    rw [← joined_segments other, ← hr, joined_append (segments_ne_nil name) hrest, joined_segments]

/-- One of the names is a directory of another one. -/
def Clash (names : List Text) : Prop := ∃ name ∈ names, ∃ other ∈ names, Above name other

theorem pairwise_insertName {names : List Text} (h : names.Pairwise (· < ·)) (name : Text) :
    (insertName name names).Pairwise (· < ·) := by
  induction names with
  | nil => exact List.pairwise_singleton _ _
  | cons first rest ih =>
    obtain ⟨hfirst, hrest⟩ := List.pairwise_cons.1 h
    unfold insertName
    split
    next hlt =>
      refine List.pairwise_cons.2 ⟨fun other hm => ?_, h⟩
      rcases List.mem_cons.1 hm with rfl | hm
      · exact hlt
      · exact Text.lt_trans hlt (hfirst other hm)
    next hlt =>
      split
      next => exact h
      next hne =>
        refine List.pairwise_cons.2 ⟨fun other hm => ?_, ih hrest⟩
        rcases mem_insertName.1 hm with rfl | hm
        · have hle := Text.not_lt.1 hlt
          exact Text.lt_of_le_of_ne hle (Ne.symm hne)
        · exact hfirst other hm

theorem pairwise_sortNames (names : List Text) : (sortNames names).Pairwise (· < ·) := by
  induction names with
  | nil => exact List.Pairwise.nil
  | cons name rest ih => exact pairwise_insertName ih name

/-- Sorting forgets the order and the repetitions. -/
theorem sortNames_eq {names others : List Text} (h : ∀ name, name ∈ names ↔ name ∈ others) :
    sortNames names = sortNames others := by
  refine List.Pairwise.eq_of_mem_iff (pairwise_sortNames names) (pairwise_sortNames others) ?_
  intro name
  rw [mem_sortNames, mem_sortNames, h]

/-- What keeps a page from its place: a page where it needs a directory, or a directory at the place. -/
def Blocks (segs : List Text) (children : Members PageTree) (path : List Text) : Prop :=
  path <+: segs ∧ path ≠ segs ∧ isPageAt? path children = some true ∨
    path = segs ∧ isPageAt? path children = some false

theorem not_blocks_nil (segs path : List Text) : ¬Blocks segs [] path := by
  rw [Blocks, isPageAt?_nil]
  simp

theorem Blocks.below {name : Text} {segs path : List Text} {inner children : Members PageTree}
    (hg : children.get? name = some (directory inner)) (h : Blocks segs inner path) :
    Blocks (name :: segs) children (name :: path) := by
  have hbelow : ∀ b, isPageAt? path inner = some b →
      isPageAt? (name :: path) children = some b := by
    intro b hb
    rw [isPageAt?_below hg (ne_nil_of_isPageAt? hb), hb]
  rcases h with ⟨hpre, hne, hb⟩ | ⟨rfl, hb⟩
  · refine .inl ⟨List.cons_prefix_cons.2 ⟨rfl, hpre⟩, ?_, hbelow _ hb⟩
    exact fun e => hne (List.cons.inj e).2
  · exact .inr ⟨rfl, hbelow _ hb⟩

/-- A page that is not added is blocked, and the error names the place. -/
theorem add_eq_error {walked segs : List Text} {children : Members PageTree} {cause : Malformed}
    (h : add walked segs children = .error cause) :
    ∃ path, cause = .pageAndDirectory (joined (walked ++ path)) ∧ Blocks segs children path := by
  induction segs generalizing walked children with
  | nil => cases h
  | cons name rest ih =>
    cases rest with
    | nil =>
      rw [add] at h
      split at h
      next inner hg =>
        cases h
        exact ⟨[name], rfl, .inr ⟨rfl, by rw [isPageAt?, hg]; rfl⟩⟩
      next => cases h
    | cons next rest =>
      rw [add] at h
      · split at h
        next hg =>
          cases h
          refine ⟨[name], rfl, .inl ⟨⟨next :: rest, rfl⟩, ?_, by rw [isPageAt?, hg]; rfl⟩⟩
          exact fun e => List.cons_ne_nil _ _ (List.cons.inj e).2.symm
        next inner hg =>
          obtain ⟨path, rfl, hp⟩ := ih (eq_error_of_map h)
          refine ⟨name :: path, ?_, hp.below hg⟩
          rw [List.append_assoc, List.singleton_append]
        next hg =>
          -- nothing is in the way below a new directory
          obtain ⟨path, -, hp⟩ := ih (eq_error_of_map h)
          exact absurd hp (not_blocks_nil _ path)
      · exact List.cons_ne_nil _ _

/-- The names in the error are those of a page and of one above or below it. -/
theorem Holds.clash_of_error {names : List Text} {tree : Members PageTree} {name : Text}
    {cause : Malformed} (hh : Holds names tree)
    (h : PageTree.add [] (segments name) tree = .error cause) :
    ∃ path, cause = .pageAndDirectory path ∧ path ∈ name :: names ∧
      ∃ other ∈ name :: names, Above path other := by
  obtain ⟨path, rfl, hp⟩ := add_eq_error h
  rcases hp with ⟨hpre, hne, hb⟩ | ⟨rfl, hb⟩
  · obtain ⟨page, hm, rfl⟩ := (hh.pages path).1 hb
    refine ⟨page, ?_, List.mem_cons_of_mem _ hm, name, List.mem_cons_self, above_iff.2 ⟨hpre, hne⟩⟩
    rw [List.nil_append, joined_segments]
  · obtain ⟨other, hm, -, hne, hpre⟩ := (hh.directories _).1 hb
    refine ⟨name, ?_, List.mem_cons_self, other, List.mem_cons_of_mem _ hm, above_iff.2 ⟨hpre, hne⟩⟩
    rw [List.nil_append, joined_segments]

/-- A tree that holds names has no clash among them: the path of a page is not that of a directory. -/
theorem Holds.not_clash {names : List Text} {tree : Members PageTree} (hh : Holds names tree) :
    ¬Clash names := by
  rintro ⟨name, hn, other, ho, habove⟩
  obtain ⟨hpre, hne⟩ := above_iff.1 habove
  have hpage := (hh.pages (segments name)).2 ⟨name, hn, rfl⟩
  have hdir := (hh.directories (segments name)).2 ⟨other, ho, segments_ne_nil name, hne, hpre⟩
  rw [hpage] at hdir
  cases hdir

/-- Adding names one after the other ends with a tree, or with an error about two of the names. -/
theorem foldlM_add_outcome {names done : List Text} {tree : Members PageTree}
    (hh : Holds done tree) :
    (∃ found, names.foldlM (fun children name => add [] (segments name) children) tree =
        .ok found) ∨
      ∃ path, names.foldlM (fun children name => add [] (segments name) children) tree =
          .error (.pageAndDirectory path) ∧
        path ∈ names ++ done ∧ ∃ other ∈ names ++ done, Above path other := by
  induction names generalizing done tree with
  | nil => exact .inl ⟨tree, rfl⟩
  | cons name rest ih =>
    rw [List.foldlM_cons]
    have hsub : ∀ other ∈ name :: done, other ∈ name :: rest ++ done := by
      intro other hm
      rcases List.mem_cons.1 hm with rfl | hm
      · exact List.mem_cons_self
      · exact List.mem_append_right _ hm
    cases ha : add [] (segments name) tree with
    | error cause =>
      obtain ⟨path, rfl, hp, other, ho, habove⟩ := hh.clash_of_error ha
      exact .inr ⟨path, rfl, hsub path hp, other, hsub other ho, habove⟩
    | ok added =>
      have hmem : ∀ other ∈ rest ++ name :: done, other ∈ name :: rest ++ done := by
        intro other hm
        rcases List.mem_append.1 hm with hm | hm
        · exact List.mem_cons_of_mem _ (List.mem_append_left _ hm)
        · exact hsub other hm
      rcases ih (hh.add ha) with hok | ⟨path, he, hp, other, ho, habove⟩
      · exact .inl hok
      · exact .inr ⟨path, he, hmem path hp, other, hmem other ho, habove⟩

theorem ofNames_outcome (names : List Text) :
    (∃ tree, ofNames names = .ok tree) ∨ ∃ path, ofNames names = .error (.pageAndDirectory path) ∧
      path ∈ names ∧ ∃ other ∈ names, Above path other := by
  have h := @foldlM_add_outcome (sortNames names) [] [] .nil
  simp only [List.append_nil, mem_sortNames] at h
  exact h

/-- Every directory of a tree has an entry, the tree itself included. -/
inductive Filled : PageTree → Prop
  | page : Filled page
  | directory {children : Members PageTree} (hne : children ≠ [])
      (h : ∀ m ∈ children, Filled m.2) : Filled (directory children)

theorem put_ne_nil (name : Text) (tree : PageTree) (children : Members PageTree) :
    children.put name tree ≠ [] := by
  intro h
  have hg := Members.get?_put name name tree children
  rw [h, if_pos rfl] at hg
  cases hg

theorem filled_put {children : Members PageTree} (h : ∀ m ∈ children, Filled m.2) (name : Text)
    {tree : PageTree} (ht : Filled tree) : ∀ m ∈ children.put name tree, Filled m.2 := by
  intro m hm
  rcases Members.mem_put hm with rfl | hm
  · exact ht
  · exact h m hm

/-- Adding a page leaves no directory empty: the one it is added to has the page, or the directory
that leads to the page. -/
theorem filled_add {walked segs : List Text} {children added : Members PageTree} (hs : segs ≠ [])
    (hc : ∀ m ∈ children, Filled m.2) (h : add walked segs children = .ok added) :
    added ≠ [] ∧ ∀ m ∈ added, Filled m.2 := by
  induction segs generalizing walked children added with
  | nil => exact absurd rfl hs
  | cons name rest ih =>
    cases rest with
    | nil =>
      obtain ⟨-, rfl⟩ := add_leaf_eq_ok h
      exact ⟨put_ne_nil _ _ _, filled_put hc name .page⟩
    | cons next rest =>
      have hne : next :: rest ≠ [] := List.cons_ne_nil _ _
      rw [add] at h
      · split at h
        next => cases h
        next inner hg =>
          obtain ⟨innerAdded, ha, rfl⟩ := map_eq_ok.1 h
          have hinner : ∀ m ∈ inner, Filled m.2 := by
            have hd := hc _ (Members.mem_of_get? hg)
            cases hd with
            | directory _ h => exact h
          obtain ⟨hi, hf⟩ := ih hne hinner ha
          exact ⟨put_ne_nil _ _ _, filled_put hc name (.directory hi hf)⟩
        next =>
          obtain ⟨innerAdded, ha, rfl⟩ := map_eq_ok.1 h
          obtain ⟨hi, hf⟩ := ih hne (fun _ hm => absurd hm List.not_mem_nil) ha
          exact ⟨put_ne_nil _ _ _, filled_put hc name (.directory hi hf)⟩
      · exact fun e => hne e

theorem filled_ofNames {names : List Text} {tree : Members PageTree}
    (h : ofNames names = .ok tree) : ∀ m ∈ tree, Filled m.2 := by
  have hfold : ∀ (rest : List Text) (found : Members PageTree), (∀ m ∈ found, Filled m.2) →
      rest.foldlM (fun children name => add [] (segments name) children) found = .ok tree →
      ∀ m ∈ tree, Filled m.2 := by
    intro rest
    induction rest with
    | nil =>
      intro found hf he
      cases he
      exact hf
    | cons name rest ih =>
      intro found hf he
      rw [List.foldlM_cons] at he
      obtain ⟨added, ha, he⟩ := bind_eq_ok.1 he
      exact ih added (filled_add (segments_ne_nil name) hf ha).2 he
  exact hfold (sortNames names) [] (fun _ hm => absurd hm List.not_mem_nil) h

/-- A tree with exactly these names: no entry of a directory occurs twice, no path leads to two
places, the paths of the pages are the segments of the names, those of the directories stand before a
slash in a name, and no directory below the top is empty. -/
structure Exact (names : List Text) (tree : Members PageTree) : Prop where
  proper : (directory tree).Proper
  once : ((placesBelow [] tree).map (·.1)).Nodup
  pages : ∀ path, (path, true) ∈ placesBelow [] tree ↔ ∃ name ∈ names, segments name = path
  directories : ∀ path, (path, false) ∈ placesBelow [] tree ↔
    ∃ name ∈ names, path ≠ [] ∧ path ≠ segments name ∧ path <+: segments name
  filled : ∀ m ∈ tree, Filled m.2

theorem exact_ofNames {names : List Text} {tree : Members PageTree}
    (h : ofNames names = .ok tree) : Exact names tree where
  proper := (holds_ofNames h).proper
  once := nodup_placesBelow (holds_ofNames h).proper
  pages path := by
    rw [mem_places_ofNames h, ← (holds_ofNames h).pages path]
  directories path := by
    rw [mem_places_ofNames h, ← (holds_ofNames h).directories path]
  filled := filled_ofNames h

/-- Names have no tree exactly when one of them is a directory of another one; the error says which
one. All other names have the tree with exactly these names. Names that are the same set have the
same tree, with its entries in the same order, or the same error. -/
theorem ofNames_exact (names : List Text) :
    ((∃ path, ofNames names = .error (.pageAndDirectory path)) ↔ Clash names) ∧
    (∀ path, ofNames names = .error (.pageAndDirectory path) →
      path ∈ names ∧ ∃ other ∈ names, Above path other) ∧
    (¬Clash names → ∃ tree, ofNames names = .ok tree ∧ Exact names tree) ∧
    ∀ others, (∀ name, name ∈ others ↔ name ∈ names) → ofNames others = ofNames names := by
  have herror : ∀ path, ofNames names = .error (.pageAndDirectory path) →
      path ∈ names ∧ ∃ other ∈ names, Above path other := by
    intro path he
    rcases ofNames_outcome names with ⟨tree, hok⟩ | ⟨found, hf, hm⟩
    · rw [he] at hok
      cases hok
    · rw [he] at hf
      cases hf
      exact hm
  refine ⟨⟨?_, fun hclash => ?_⟩, herror, fun hclash => ?_, fun others hsame => ?_⟩
  · rintro ⟨path, he⟩
    obtain ⟨hp, other, ho, habove⟩ := herror path he
    exact ⟨path, hp, other, ho, habove⟩
  · rcases ofNames_outcome names with ⟨tree, hok⟩ | ⟨path, he, -⟩
    · exact absurd hclash (holds_ofNames hok).not_clash
    · exact ⟨path, he⟩
  · rcases ofNames_outcome names with ⟨tree, hok⟩ | ⟨path, -, hp, other, ho, habove⟩
    · exact ⟨tree, hok, exact_ofNames hok⟩
    · exact absurd ⟨path, hp, other, ho, habove⟩ hclash
  · rw [ofNames, ofNames, sortNames_eq hsame]

/-- A page with a character before the slash between its name and its directory, and empty segments. -/
theorem ofNames_exact_odd_names :
    let names : List Text := ["a/b", "", "a//", "a-b", "a/b"]
    let tree : Members PageTree := [("", .page), ("a-b", .page),
      ("a", .directory [("", .directory [("", .page)]), ("b", .page)])]
    ofNames names = .ok tree ∧ Exact names tree ∧ ofNames ["a-b", "a//", "", "a/b"] = .ok tree ∧
      ofNames ["a-b", "a/b", "a"] = .error (.pageAndDirectory "a") ∧ Clash ["a-b", "a/b", "a"] := by
  intro names tree
  have htree : ofNames names = .ok tree := by rfl
  have hclash : ¬Clash names := by
    intro h
    obtain ⟨path, he⟩ := (ofNames_exact names).1.2 h
    rw [htree] at he
    cases he
  obtain ⟨found, hf, hexact⟩ := (ofNames_exact names).2.2.1 hclash
  rw [htree] at hf
  cases hf
  have herror : ofNames ["a-b", "a/b", "a"] = .error (.pageAndDirectory "a") := by rfl
  refine ⟨htree, hexact, ?_, herror, (ofNames_exact _).1.1 ⟨"a", herror⟩⟩
  rw [(ofNames_exact names).2.2.2 ["a-b", "a//", "", "a/b"] (by simp [names]; tauto), htree]

end PageTree
end WebDocs
