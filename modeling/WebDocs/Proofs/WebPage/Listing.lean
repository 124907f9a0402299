import WebDocs.Proofs.WebPage.TreeOfNames

namespace WebDocs.PageTree

/-- The name of the nearest entry with the depth. -/
def nearest? (before : List TocEntry) (depth : Nat) : Option Text :=
  (before.filter (·.depth = depth)).getLast?.map (·.name)

/-- The names of the nearest entries of each smaller depth. -/
def ancestors (before : List TocEntry) (depth : Nat) : List Text :=
  (List.range depth).filterMap (nearest? before)

def readAfter (before : List TocEntry) : List TocEntry → List (List Text × Bool)
  | [] => []
  | entry :: rest =>
    (ancestors before entry.depth ++ [entry.name], entry.isPage) :: readAfter (before ++ [entry]) rest

/-- The paths of the entries, each with whether it is a page, from names and depths alone. -/
def reading (entries : List TocEntry) : List (List Text × Bool) := readAfter [] entries

/-- Places in order, below the directories that lead to them. -/
structure Ordered (listing : List (List Text × Bool)) : Prop where
  ascending : listing.Pairwise fun place other => PathLt place.1 other.1
  ne_nil : ∀ place ∈ listing, place.1 ≠ []
  closed : ∀ place ∈ listing, ∀ dir ≠ [], dir <+: place.1 → dir ≠ place.1 → (dir, false) ∈ listing

section Ordered

variable {before after listing : List (List Text × Bool)} {place : List Text × Bool}

/-- A directory of a place stands before it, and only its contents stand between them. -/
theorem Ordered.split (h : Ordered (before ++ place :: after)) {dir : List Text} (hne : dir ≠ [])
    (hpre : dir <+: place.1) (hproper : dir ≠ place.1) :
    ∃ front back, before = front ++ (dir, false) :: back ∧
      ∀ other ∈ back, dir <+: other.1 ∧ dir ≠ other.1 := by
  obtain ⟨-, hafter, hbetween⟩ := List.pairwise_append.1 h.ascending
  have hplace : place ∈ before ++ place :: after := by simp
  have hdir := h.closed place hplace dir hne hpre hproper
  have hlt := pathLt_of_isPrefix hpre hproper
  -- neither the place nor what follows it comes before the place
  have hbefore : (dir, false) ∈ before := by
    rcases List.mem_append.1 hdir with hm | hm
    · exact hm
    rcases List.mem_cons.1 hm with heq | hm
    · exact absurd (congrArg Prod.fst heq) hproper
    · exact absurd hlt (asymm ((List.pairwise_cons.1 hafter).1 _ hm))
  obtain ⟨front, back, rfl⟩ := List.append_of_mem hbefore
  refine ⟨front, back, rfl, fun other hm => ?_⟩
  have hfirst : PathLt dir other.1 := by
    have hsorted := (List.pairwise_append.1 (List.pairwise_append.1 h.ascending).1).2.1
    exact (List.pairwise_cons.1 hsorted).1 other hm
  have hsecond : PathLt other.1 place.1 :=
    hbetween other (List.mem_append_right _ (List.mem_cons_of_mem _ hm)) place List.mem_cons_self
  refine ⟨prefix_of_pathLt hpre hfirst hsecond, fun heq => ?_⟩
  rw [← heq] at hfirst
  exact asymm hfirst hfirst

theorem nearest?_append {front back : List TocEntry} {entry : TocEntry} {depth : Nat}
    (he : entry.depth = depth) (hback : ∀ other ∈ back, other.depth ≠ depth) :
    nearest? (front ++ entry :: back) depth = some entry.name := by
  have hnone : back.filter (·.depth = depth) = [] := by
    rw [List.filter_eq_nil_iff]
    intro other hm
    rw [decide_eq_true_iff]
    exact hback other hm
  rw [nearest?, List.filter_append, List.filter_cons, if_pos (decide_eq_true he), hnone,
    List.getLast?_concat, Option.map_some]

theorem nearest?_row (h : Ordered (before ++ place :: after)) {depth : Nat}
    (hd : depth + 1 < place.1.length) :
    nearest? (before.map row) depth = place.1[depth]? := by
  have hpre := List.take_prefix (depth + 1) place.1
  have hlen : (place.1.take (depth + 1)).length = depth + 1 := by
    rw [List.length_take]
    omega
  have hne : place.1.take (depth + 1) ≠ [] := List.ne_nil_of_length_eq_add_one hlen
  have hproper : place.1.take (depth + 1) ≠ place.1 := by
    intro heq
    rw [heq] at hlen
    omega
  obtain ⟨front, back, rfl, hback⟩ := h.split hne hpre hproper
  have hrow : (row (place.1.take (depth + 1), false)).depth = depth := by
    rw [row, hlen, Nat.add_sub_cancel]
  rw [List.map_append, List.map_cons, nearest?_append hrow]
  · rw [row, List.getLastD_eq_getLast?, List.getLast?_take, if_neg (Nat.succ_ne_zero depth),
      Nat.add_sub_cancel, List.getElem?_eq_getElem (by omega)]
    rfl
  · -- an entry between them with this depth would be the directory itself
    intro entry hm heq
    obtain ⟨other, hother, rfl⟩ := List.mem_map.1 hm
    obtain ⟨hbelow, hne⟩ := hback other hother
    have hle := hbelow.length_le
    have hshort : other.1.length - 1 = depth := heq
    exact hne (hbelow.eq_of_length (by omega))

theorem filterMap_range_getElem? (path : List Text) (n : Nat) :
    (List.range n).filterMap (path[·]?) = path.take n := by
  induction n with
  | zero => rfl
  | succ n ih =>
    rw [List.range_succ, List.filterMap_append, ih, List.take_add_one]
    cases h : path[n]? <;> simp [h]

theorem ancestors_row (h : Ordered (before ++ place :: after)) :
    ancestors (before.map row) (row place).depth ++ [(row place).name] = place.1 := by
  have hplace : place.1 ≠ [] := h.ne_nil place (by simp)
  have hancestors : ancestors (before.map row) (place.1.length - 1) = place.1.dropLast := by
    rw [ancestors, List.dropLast_eq_take, ← filterMap_range_getElem?]
    refine List.filterMap_congr fun depth hd => nearest?_row h ?_
    have := List.mem_range.1 hd
    omega
  show ancestors _ (place.1.length - 1) ++ [place.1.getLastD ""] = place.1
  rw [hancestors, List.getLastD_eq_getLast?, List.getLast?_eq_some_getLast hplace]
  exact List.dropLast_concat_getLast hplace

theorem readAfter_rows (h : Ordered (before ++ after)) :
    readAfter (before.map row) (after.map row) = after := by
  induction after generalizing before with
  | nil => rfl
  | cons place rest ih =>
    rw [List.append_cons] at h
    have hrest := ih h
    rw [List.map_append, List.map_singleton] at hrest
    rw [List.append_assoc] at h
    rw [List.map_cons, readAfter, hrest, ancestors_row h]
    rfl

/-- Reading the rows of places in order gives the places. -/
theorem reading_rows (h : Ordered listing) : reading (listing.map row) = listing :=
  @readAfter_rows [] listing h

end Ordered

/-- The entries are pages and directories for names: in the order of their paths, each path once, and
each directory right before the first thing in it. -/
structure Lists (names : List Text) (entries : List TocEntry) : Prop where
  pages : ∀ path, (path, true) ∈ reading entries ↔ ∃ name ∈ names, segments name = path
  directories : ∀ path, (path, false) ∈ reading entries ↔
    ∃ name ∈ names, path ≠ [] ∧ path ≠ segments name ∧ path <+: segments name
  ascending : (reading entries).Pairwise fun place other => PathLt place.1 other.1
  once : ((reading entries).map (·.1)).Nodup
  opening : ∀ path, (path, false) ∈ reading entries → ∃ before first after,
    reading entries = before ++ (path, false) :: first :: after ∧
      path <+: first.1 ∧ path ≠ first.1 ∧ ∀ place ∈ before, ¬path <+: place.1
  depths : entries.map (·.depth + 1) = (reading entries).map (·.1.length)

section Names

variable {names : List Text} {tree : Members PageTree}

theorem name_of_mem_listedBelow (he : Exact names tree) {path : List Text} {b : Bool}
    (h : (path, b) ∈ listedBelow [] tree) :
    ∃ name ∈ names, path ≠ [] ∧ path <+: segments name ∧ (b = true ↔ path = segments name) := by
  rw [mem_listedBelow] at h
  cases b with
  | true =>
    obtain ⟨name, hm, rfl⟩ := (he.pages path).1 h
    exact ⟨name, hm, segments_ne_nil name, List.prefix_refl _, iff_of_true rfl rfl⟩
  | false =>
    obtain ⟨name, hm, hne, hproper, hpre⟩ := (he.directories path).1 h
    exact ⟨name, hm, hne, hpre, iff_of_false Bool.false_ne_true hproper⟩

theorem ordered_listedBelow (he : Exact names tree) : Ordered (listedBelow [] tree) where
  ascending := pairwise_listedBelow_of_proper he.proper
  ne_nil place hm := by
    obtain ⟨_, _, hne, -⟩ := name_of_mem_listedBelow he hm
    exact hne
  closed place hm dir hne hpre hproper := by
    obtain ⟨name, hname, -, hplace, -⟩ := name_of_mem_listedBelow he hm
    rw [mem_listedBelow]
    refine (he.directories dir).2 ⟨name, hname, hne, fun heq => ?_, hpre.trans hplace⟩
    rw [heq] at hpre hproper
    exact hproper (hpre.eq_of_length_le hplace.length_le)

theorem reading_toc (he : Exact names tree) : reading (toc tree "" 0) = listedBelow [] tree := by
  rw [toc_eq, reading_rows (ordered_listedBelow he)]

/-- A directory has contents, and they follow it. -/
theorem opening_listedBelow (he : Exact names tree) {path : List Text}
    (h : (path, false) ∈ listedBelow [] tree) : ∃ before first after,
      listedBelow [] tree = before ++ (path, false) :: first :: after ∧
        path <+: first.1 ∧ path ≠ first.1 ∧ ∀ place ∈ before, ¬path <+: place.1 := by
  have ho := ordered_listedBelow he
  obtain ⟨name, hm, hne, hpre, hb⟩ := name_of_mem_listedBelow he h
  have hproper : path ≠ segments name := fun e => Bool.false_ne_true (hb.2 e)
  have hpage : (segments name, true) ∈ listedBelow [] tree :=
    mem_listedBelow.2 ((he.pages _).2 ⟨name, hm, rfl⟩)
  obtain ⟨front, back, hsplit⟩ := List.append_of_mem hpage
  rw [hsplit] at ho
  obtain ⟨before, between, rfl, hbetween⟩ := ho.split hne hpre hproper
  have hbefore : ∀ place ∈ before, ¬path <+: place.1 := by
    intro place hplace hbelow
    have hlt := (List.pairwise_append.1 (List.pairwise_append.1 ho.ascending).1).2.2 place hplace
      (path, false) List.mem_cons_self
    exact not_pathLt_of_isPrefix hbelow hlt
  cases between with
  | nil => exact ⟨before, (segments name, true), back, by simp [hsplit], hpre, hproper, hbefore⟩
  | cons first rest =>
    obtain ⟨hfirst, hother⟩ := hbetween first List.mem_cons_self
    refine ⟨before, first, rest ++ (segments name, true) :: back, ?_, hfirst, hother, hbefore⟩
    simp [hsplit]

theorem lists_toc (he : Exact names tree) : Lists names (toc tree "" 0) where
  pages path := by rw [reading_toc he, mem_listedBelow, he.pages]
  directories path := by rw [reading_toc he, mem_listedBelow, he.directories]
  ascending := by
    rw [reading_toc he]
    exact (ordered_listedBelow he).ascending
  once := by
    rw [reading_toc he]
    exact nodup_listedBelow he.proper
  opening path h := by
    rw [reading_toc he] at h ⊢
    exact opening_listedBelow he h
  depths := by
    rw [reading_toc he, toc_eq, List.map_map]
    refine List.map_congr_left fun place hm => ?_
    have hpos := List.length_pos_iff.2 ((ordered_listedBelow he).ne_nil place hm)
    show place.1.length - 1 + 1 = place.1.length
    omega

/-- With fewer names there are fewer places, in the same order. -/
theorem listedBelow_sublist {others : List Text} {part : Members PageTree} (he : Exact names tree)
    (hpart : Exact others part) (hsub : others ⊆ names) :
    (listedBelow [] part).Sublist (listedBelow [] tree) := by
  have hmem : listedBelow [] part ⊆ listedBelow [] tree := by
    rintro ⟨path, b⟩ hm
    rw [mem_listedBelow] at hm ⊢
    cases b with
    | true =>
      obtain ⟨name, hname, h⟩ := (hpart.pages path).1 hm
      exact (he.pages path).2 ⟨name, hsub hname, h⟩
    | false =>
      obtain ⟨name, hname, h⟩ := (hpart.directories path).1 hm
      exact (he.directories path).2 ⟨name, hsub hname, h⟩
  have hasymm : Std.Asymm fun place other : List Text × Bool => PathLt place.1 other.1 :=
    ⟨fun _ _ h => asymm h⟩
  have hsorted := (ordered_listedBelow hpart).ascending
  exact List.sublist_of_subperm_of_pairwise (List.subperm_of_subset hsorted.nodup hmem) hsorted
    (ordered_listedBelow he).ascending

theorem Clash.mono {others : List Text} (hsub : others ⊆ names) (h : Clash others) :
    Clash names := by
  obtain ⟨name, hn, other, ho, habove⟩ := h
  exact ⟨name, hsub hn, other, hsub ho, habove⟩

theorem exact_of_not_clash (h : ¬Clash names) :
    ∃ tree, ofNames names = .ok tree ∧ Exact names tree := by
  rcases ofNames_outcome names with ⟨tree, hok⟩ | ⟨path, -, hp, other, ho, habove⟩
  · exact ⟨tree, hok, exact_ofNames hok⟩
  · exact absurd ⟨path, hp, other, ho, habove⟩ h

/-- Names without a clash have a table of contents that lists them and their directories in order.
The table of contents of some of the names is a part of it. -/
theorem toc_in_order (h : ¬Clash names) :
    ∃ tree, ofNames names = .ok tree ∧ Lists names (toc tree "" 0) ∧
      ∀ others, others ⊆ names → ∃ part, ofNames others = .ok part ∧
        (toc part "" 0).Sublist (toc tree "" 0) ∧
        (reading (toc part "" 0)).Sublist (reading (toc tree "" 0)) := by
  obtain ⟨tree, hok, he⟩ := exact_of_not_clash h
  refine ⟨tree, hok, lists_toc he, fun others hsub => ?_⟩
  obtain ⟨part, hpart, hexact⟩ := exact_of_not_clash (mt (Clash.mono hsub) h)
  have hlisted := listedBelow_sublist he hexact hsub
  refine ⟨part, hpart, ?_, ?_⟩
  · rw [toc_eq, toc_eq]
    exact hlisted.map row
  · rw [reading_toc he, reading_toc hexact]
    exact hlisted

end Names

/-- Directories with the name of the entry page, empty segments, and a segment before the slash. -/
theorem toc_in_order_odd_names :
    let names : List Text := ["a-b", "main.ct/a", "a/b", "a/main.ct/x", "//"]
    let tree : Members PageTree := [("", .directory [("", .directory [("", .page)])]),
      ("a-b", .page), ("a", .directory [("b", .page), ("main.ct", .directory [("x", .page)])]),
      ("main.ct", .directory [("a", .page)])]
    let places : List (List Text × Bool) := [(["main.ct"], false), (["main.ct", "a"], true),
      ([""], false), (["", ""], false), (["", "", ""], true), (["a"], false),
      (["a", "main.ct"], false), (["a", "main.ct", "x"], true), (["a", "b"], true), (["a-b"], true)]
    ¬Clash names ∧ ofNames names = .ok tree ∧ Lists names (toc tree "" 0) ∧
      reading (toc tree "" 0) = places ∧
      ∃ part, ofNames ["a-b", "//", "a/b"] = .ok part ∧ (toc part "" 0).Sublist (toc tree "" 0) := by
  intro names tree places
  have htree : ofNames names = .ok tree := by rfl
  have hclash : ¬Clash names := (holds_ofNames htree).not_clash
  obtain ⟨found, hf, hlists, hpart⟩ := toc_in_order hclash
  rw [htree] at hf
  cases hf
  obtain ⟨part, hok, hsublist, -⟩ := hpart ["a-b", "//", "a/b"] (by decide)
  exact ⟨hclash, htree, hlists, by decide +kernel, part, hok, hsublist⟩

end WebDocs.PageTree
