import Mathlib.Data.List.Perm.Basic
import Mathlib.Data.List.Nodup
import WebDocs.Proofs.Dump.Reading
import WebDocs.Proofs.WebPage.Segments

namespace WebDocs

namespace PageTree

/-- Induction on the entries of directories. -/
@[induction_eliminator]
theorem inductionOn {P : PageTree → Prop} (page : P page)
    (directory : ∀ children, (∀ m ∈ children, P m.2) → P (directory children)) : ∀ tree, P tree
  | .page => page
  | .directory children => directory children (below children)
where
  below : ∀ children, ∀ m ∈ children, P m.2
    | (_, child) :: rest, m, h => by
      rcases List.mem_cons.1 h with rfl | h
      · exact inductionOn page directory child
      · exact below rest m h

def isPage : PageTree → Bool
  | page => true
  | directory _ => false

/-- Whether a page or a directory stands at a path, if anything does. -/
def isPageAt? : List Text → Members PageTree → Option Bool
  | [], _ => none
  | [name], children => (children.get? name).map isPage
  | name :: next :: rest, children =>
    match children.get? name with
    | some (directory inner) => isPageAt? (next :: rest) inner
    | _ => none

theorem isPageAt?_nil (path : List Text) : isPageAt? path [] = none := by
  match path with
  | [] => rfl
  | [_] => rfl
  | _ :: _ :: _ => rfl

section Put

variable {name : Text} {children : Members PageTree}

theorem isPageAt?_put_of_ne {other : Text} (h : other ≠ name) (tree : PageTree)
    (rest : List Text) :
    isPageAt? (other :: rest) (children.put name tree) = isPageAt? (other :: rest) children := by
  cases rest with
  | nil => simp only [isPageAt?, Members.get?_put, if_neg h]
  | cons next rest => simp only [isPageAt?, Members.get?_put, if_neg h]

theorem isPageAt?_put_self (tree : PageTree) :
    isPageAt? [name] (children.put name tree) = some tree.isPage := by
  simp only [isPageAt?, Members.get?_put, if_true, Option.map_some]

theorem isPageAt?_put_below (inner : Members PageTree) {rest : List Text} (hr : rest ≠ []) :
    isPageAt? (name :: rest) (children.put name (directory inner)) = isPageAt? rest inner := by
  obtain ⟨next, rest, rfl⟩ := List.exists_cons_of_ne_nil hr
  simp only [isPageAt?, Members.get?_put, if_true]

end Put

/-- What adding a page makes of the place a path leads to. -/
structure AddedAt (segs path : List Text) (before after : Option Bool) : Prop where
  eq : after = if path = [] then none else if path = segs then some true
    else if path <+: segs then some false else before
  page : path = segs → before ≠ some false
  dir : path ≠ segs → path <+: segs → before ≠ some true

namespace AddedAt

variable {segs path : List Text} {place before after : Option Bool}

theorem root (segs : List Text) : AddedAt segs [] none none where
  eq := rfl
  page := by simp
  dir := by simp

theorem elsewhere (h : ¬path <+: segs) : AddedAt segs path place place := by
  have hne : path ≠ [] := fun e => h (e ▸ List.nil_prefix)
  have hs : path ≠ segs := fun e => h (e ▸ List.prefix_refl segs)
  refine ⟨?_, fun e => absurd e hs, fun _ hp => absurd hp h⟩
  rw [if_neg hne, if_neg hs, if_neg h]

theorem below (dir : Text) (hp : path ≠ []) (h : AddedAt segs path before after) :
    AddedAt (dir :: segs) (dir :: path) before after where
  eq := by
    have ha := h.eq
    rw [if_neg hp] at ha
    simp only [List.cons.injEq, true_and, List.cons_ne_nil, if_false, List.cons_prefix_cons]
    exact ha
  page e := h.page (List.cons.inj e).2
  dir hne hpre := h.dir (fun e => hne (e ▸ rfl)) (List.cons_prefix_cons.1 hpre).2

end AddedAt

theorem isPageAt?_add_below {dir : Text} {walked segs : List Text}
    {children inner added : Members PageTree} (hs : segs ≠ [])
    (hdir : isPageAt? [dir] children ≠ some true)
    (hinner : ∀ path ≠ [], isPageAt? (dir :: path) children = isPageAt? path inner)
    (ih : ∀ innerAdded, add (walked ++ [dir]) segs inner = .ok innerAdded → ∀ path,
      AddedAt segs path (isPageAt? path inner) (isPageAt? path innerAdded))
    (h : ((add (walked ++ [dir]) segs inner).map fun inner => children.put dir (directory inner)) =
      .ok added) (path : List Text) :
    AddedAt (dir :: segs) path (isPageAt? path children) (isPageAt? path added) := by
  obtain ⟨innerAdded, hadd, rfl⟩ := map_eq_ok.1 h
  cases path with
  | nil => exact .root _
  | cons name path =>
    by_cases hn : name = dir
    · subst hn
      by_cases hp : path = []
      · subst hp
        have hne : [name] ≠ name :: segs := fun e => hs (List.cons.inj e).2.symm
        have hpre : [name] <+: name :: segs := ⟨segs, rfl⟩
        refine ⟨?_, fun e => absurd e hne, fun _ _ => hdir⟩
        rw [isPageAt?_put_self, if_neg (List.cons_ne_nil _ _), if_neg hne, if_pos hpre]
        rfl
      · rw [isPageAt?_put_below _ hp, hinner path hp]
        exact (ih innerAdded hadd path).below name hp
    · rw [isPageAt?_put_of_ne hn]
      exact .elsewhere fun hp => hn (List.cons_prefix_cons.1 hp).1

theorem add_leaf_eq_ok {walked : List Text} {name : Text} {children added : Members PageTree}
    (h : add walked [name] children = .ok added) :
    (children.get? name = none ∨ children.get? name = some page) ∧
      added = children.put name page := by
  rw [add] at h
  cases hg : children.get? name with
  | none =>
    rw [hg] at h
    exact ⟨.inl rfl, (Except.ok.inj h).symm⟩
  | some tree =>
    rw [hg] at h
    cases tree with
    | page => exact ⟨.inr rfl, (Except.ok.inj h).symm⟩
    | directory inner => cases h

theorem isPageAt?_put_leaf {name : Text} {children : Members PageTree}
    (hleaf : children.get? name = none ∨ children.get? name = some page) (path : List Text) :
    AddedAt [name] path (isPageAt? path children) (isPageAt? path (children.put name page)) := by
  cases path with
  | nil => exact .root _
  | cons other path =>
    by_cases hn : other = name
    · subst hn
      cases path with
      | nil =>
        refine ⟨?_, fun _ => ?_, fun hne => absurd rfl hne⟩
        · rw [isPageAt?_put_self, if_neg (List.cons_ne_nil _ _), if_pos rfl]
          rfl
        rcases hleaf with hg | hg
        · simp [isPageAt?, hg]
        · simp [isPageAt?, hg, isPage]
      | cons next path =>
        have hbefore : isPageAt? (other :: next :: path) children = none := by
          rcases hleaf with hg | hg
          · simp only [isPageAt?, hg]
          · simp only [isPageAt?, hg]
        have hafter : isPageAt? (other :: next :: path) (children.put other page) = none := by
          simp only [isPageAt?, Members.get?_put, if_true]
        rw [hbefore, hafter]
        refine .elsewhere fun hp => ?_
        exact List.cons_ne_nil _ _ (List.prefix_nil.1 (List.cons_prefix_cons.1 hp).2)
    · rw [isPageAt?_put_of_ne hn]
      exact .elsewhere fun hp => hn (List.cons_prefix_cons.1 hp).1

/-- A page that can be added stands at its path, with directories above it. Nothing changes elsewhere,
and what stood at those paths before was of the same kind. -/
theorem isPageAt?_add {walked segs : List Text} {children added : Members PageTree}
    (h : add walked segs children = .ok added) (path : List Text) :
    AddedAt segs path (isPageAt? path children) (isPageAt? path added) := by
  induction segs generalizing walked children added path with
  | nil =>
    cases h
    by_cases hp : path = []
    · subst hp
      exact .root _
    · exact .elsewhere fun hpre => hp (List.prefix_nil.1 hpre)
  | cons name rest ih =>
    cases rest with
    | nil =>
      obtain ⟨hleaf, rfl⟩ := add_leaf_eq_ok h
      exact isPageAt?_put_leaf hleaf path
    | cons next rest =>
      have hs : next :: rest ≠ [] := List.cons_ne_nil _ _
      rw [add] at h
      · cases hg : children.get? name with
        | none =>
          rw [hg] at h
          refine isPageAt?_add_below hs ?_ ?_ (fun _ ha path => ih ha path) h path
          · simp [isPageAt?, hg]
          · intro path hp
            obtain ⟨first, path, rfl⟩ := List.exists_cons_of_ne_nil hp
            simp only [isPageAt?, hg, isPageAt?_nil]
        | some tree =>
          cases tree with
          | page =>
            rw [hg] at h
            cases h
          | directory inner =>
            rw [hg] at h
            refine isPageAt?_add_below hs ?_ ?_ (fun _ ha path => ih ha path) h path
            · simp [isPageAt?, hg, isPage]
            · intro path hp
              obtain ⟨first, path, rfl⟩ := List.exists_cons_of_ne_nil hp
              simp only [isPageAt?, hg]
      · exact fun e => hs e

/-- No name occurs twice in a directory. -/
inductive Proper : PageTree → Prop
  | leaf : Proper page
  | dir {children : Members PageTree} (hn : children.keys.Nodup)
      (h : ∀ m ∈ children, Proper m.2) : Proper (directory children)

theorem Proper.empty : (directory []).Proper := .dir List.nodup_nil fun _ h => nomatch h

theorem Proper.mem {children : Members PageTree} (h : (directory children).Proper)
    {m : Text × PageTree} (hm : m ∈ children) : m.2.Proper := by
  cases h with
  | dir _ h => exact h m hm

theorem Proper.put {name : Text} {tree : PageTree} {children : Members PageTree}
    (h : (directory children).Proper) (ht : tree.Proper) :
    (directory (children.put name tree)).Proper := by
  cases h with
  | dir hn hm =>
    refine .dir (Members.nodup_put hn name tree) fun m hmem => ?_
    rcases Members.mem_put hmem with rfl | hmem
    · exact ht
    · exact hm m hmem

theorem Proper.inner {name : Text} {inner children : Members PageTree}
    (h : (directory children).Proper) (hg : children.get? name = some (directory inner)) :
    (directory inner).Proper :=
  h.mem (Members.mem_of_get? hg)

theorem proper_add {walked segs : List Text} {children added : Members PageTree}
    (hc : (directory children).Proper) (h : add walked segs children = .ok added) :
    (directory added).Proper := by
  induction segs generalizing walked children added with
  | nil =>
    cases h
    exact hc
  | cons name rest ih =>
    cases rest with
    | nil =>
      rw [add] at h
      split at h
      next => cases h
      next =>
        cases h
        exact hc.put .leaf
    | cons next rest =>
      rw [add] at h
      · split at h
        next => cases h
        next inner hg =>
          obtain ⟨innerAdded, ha, rfl⟩ := map_eq_ok.1 h
          exact hc.put (ih (hc.inner hg) ha)
        next =>
          obtain ⟨innerAdded, ha, rfl⟩ := map_eq_ok.1 h
          exact hc.put (ih .empty ha)
      · exact List.cons_ne_nil _ _

/-- What a tree of names holds: the pages are the names, the directories what stands before a slash
in a name. -/
structure Holds (names : List Text) (tree : Members PageTree) : Prop where
  proper : (directory tree).Proper
  pages : ∀ path, isPageAt? path tree = some true ↔ ∃ name ∈ names, segments name = path
  directories : ∀ path, isPageAt? path tree = some false ↔
    ∃ name ∈ names, path ≠ [] ∧ path ≠ segments name ∧ path <+: segments name

namespace Holds

variable {names : List Text} {tree added : Members PageTree} {name : Text}

theorem nil : Holds [] [] where
  proper := .empty
  pages path := by simp [isPageAt?_nil]
  directories path := by simp [isPageAt?_nil]

theorem add (hh : Holds names tree) (h : add [] (segments name) tree = .ok added) :
    Holds (name :: names) added where
  proper := proper_add hh.proper h
  pages path := by
    have hplace := isPageAt?_add h path
    have hold := hh.pages path
    rw [List.exists_mem_cons_iff, hplace.eq, ← hold]
    by_cases hroot : path = []
    · subst hroot
      simp [isPageAt?, segments_ne_nil]
    by_cases hpage : path = segments name
    · simp [hpage, segments_ne_nil]
    by_cases hdir : path <+: segments name
    · have hne := hplace.dir hpage hdir
      simp [hroot, hpage, hdir, hne, Ne.symm hpage]
    · simp [hroot, hpage, hdir, Ne.symm hpage]
  directories path := by
    have hplace := isPageAt?_add h path
    have hold := hh.directories path
    rw [List.exists_mem_cons_iff, hplace.eq, ← hold]
    by_cases hroot : path = []
    · subst hroot
      simp [isPageAt?]
    by_cases hpage : path = segments name
    · have hne := hplace.page hpage
      subst hpage
      simp [hroot, hne]
    by_cases hdir : path <+: segments name
    · simp [hroot, hpage, hdir]
    · simp [hroot, hpage, hdir]

end Holds

theorem mem_insertName {name other : Text} {names : List Text} :
    other ∈ insertName name names ↔ other = name ∨ other ∈ names := by
  induction names with
  | nil => exact List.mem_cons
  | cons first rest ih =>
    unfold insertName
    split
    next => exact List.mem_cons
    next =>
      split
      next h =>
        rw [h, List.mem_cons]
        exact or_self_left.symm
      next => rw [List.mem_cons, ih, List.mem_cons, or_left_comm]

theorem mem_sortNames {name : Text} {names : List Text} :
    name ∈ sortNames names ↔ name ∈ names := by
  induction names with
  | nil => rfl
  | cons first rest ih =>
    rw [sortNames, List.foldr_cons, mem_insertName, ← sortNames, ih, List.mem_cons]

theorem holds_ofNames {names : List Text} {tree : Members PageTree}
    (h : ofNames names = .ok tree) : Holds names tree := by
  have hfold : ∀ (rest done : List Text) (found : Members PageTree), Holds done found →
      rest.foldlM (fun children name => PageTree.add [] (segments name) children) found = .ok tree →
      ∃ all, (∀ name, name ∈ all ↔ name ∈ rest ∨ name ∈ done) ∧ Holds all tree := by
    intro rest
    induction rest with
    | nil =>
      intro done found hd hf
      cases hf
      exact ⟨done, fun name => by simp, hd⟩
    | cons name rest ih =>
      intro done found hd hf
      rw [List.foldlM_cons] at hf
      obtain ⟨added, ha, hf⟩ := bind_eq_ok.1 hf
      obtain ⟨all, hm, hh⟩ := ih (name :: done) added (hd.add ha) hf
      refine ⟨all, fun other => ?_, hh⟩
      rw [hm, List.mem_cons, List.mem_cons]
      exact or_left_comm.trans or_assoc.symm
  obtain ⟨all, hm, hh⟩ := hfold (sortNames names) [] [] .nil h
  have hnames : ∀ name, name ∈ all ↔ name ∈ names := by
    intro name
    rw [hm, mem_sortNames]
    simp
  refine ⟨hh.proper, fun path => ?_, fun path => ?_⟩
  · simp only [hh.pages path, hnames]
  · simp only [hh.directories path, hnames]

mutual

/-- The path of a tree and those below it, each with whether a page stands there. -/
def places (walked : List Text) : PageTree → List (List Text × Bool)
  | page => [(walked, true)]
  | directory children => (walked, false) :: placesBelow walked children

def placesBelow (walked : List Text) : List (Text × PageTree) → List (List Text × Bool)
  | [] => []
  | (name, child) :: rest => places (walked ++ [name]) child ++ placesBelow walked rest

end

theorem placesBelow_eq_flatMap (walked : List Text) (children : Members PageTree) :
    placesBelow walked children = children.flatMap fun m => places (walked ++ [m.1]) m.2 := by
  induction children with
  | nil => rfl
  | cons m rest ih => rw [placesBelow, ih, List.flatMap_cons]

theorem isPageAt?_below {name : Text} {inner children : Members PageTree}
    (hg : children.get? name = some (directory inner)) {rest : List Text} (hr : rest ≠ []) :
    isPageAt? (name :: rest) children = isPageAt? rest inner := by
  obtain ⟨next, rest, rfl⟩ := List.exists_cons_of_ne_nil hr
  simp only [isPageAt?, hg]

theorem ne_nil_of_isPageAt? {path : List Text} {children : Members PageTree} {b : Bool}
    (h : isPageAt? path children = some b) : path ≠ [] := by
  rintro rfl
  cases h

/-- A place of a tree is the tree itself, or lies below it. -/
def IsPlace (walked : List Text) (tree : PageTree) (path : List Text) (b : Bool) : Prop :=
  path = walked ∧ b = tree.isPage ∨ ∃ children below, tree = directory children ∧
    path = walked ++ below ∧ isPageAt? below children = some b

theorem mem_placesBelow_iff {children : Members PageTree} (hn : children.keys.Nodup)
    (ih : ∀ m ∈ children, ∀ walked path b, (path, b) ∈ places walked m.2 ↔ IsPlace walked m.2 path b)
    (walked path : List Text) (b : Bool) :
    (path, b) ∈ placesBelow walked children ↔
      ∃ below, path = walked ++ below ∧ isPageAt? below children = some b := by
  rw [placesBelow_eq_flatMap, List.mem_flatMap]
  constructor
  · rintro ⟨⟨name, child⟩, hm, hp⟩
    have hg := (Members.mem_iff_get? hn).1 hm
    rcases (ih _ hm _ _ _).1 hp with ⟨rfl, rfl⟩ | ⟨inner, below, rfl, rfl, hb⟩
    · exact ⟨[name], rfl, by rw [isPageAt?, hg, Option.map_some]⟩
    · refine ⟨name :: below, by rw [List.append_assoc, List.singleton_append], ?_⟩
      rw [isPageAt?_below hg (ne_nil_of_isPageAt? hb), hb]
  · rintro ⟨below, rfl, hb⟩
    obtain ⟨name, rest, rfl⟩ := List.exists_cons_of_ne_nil (ne_nil_of_isPageAt? hb)
    cases hg : children.get? name with
    | none => cases rest <;> simp [isPageAt?, hg] at hb
    | some child =>
      have hm := (Members.mem_iff_get? hn).2 hg
      refine ⟨(name, child), hm, (ih _ hm _ _ _).2 ?_⟩
      by_cases hr : rest = []
      · subst hr
        rw [isPageAt?, hg] at hb
        exact .inl ⟨rfl, (Option.some.inj hb).symm⟩
      · cases child with
        | page =>
          obtain ⟨next, rest, rfl⟩ := List.exists_cons_of_ne_nil hr
          simp only [isPageAt?, hg] at hb
          cases hb
        | directory inner =>
          rw [isPageAt?_below hg hr] at hb
          exact .inr ⟨inner, rest, rfl, by rw [List.append_assoc, List.singleton_append], hb⟩

theorem mem_places {tree : PageTree} (ht : tree.Proper) (walked path : List Text) (b : Bool) :
    (path, b) ∈ places walked tree ↔ IsPlace walked tree path b := by
  induction tree generalizing walked path b with
  | page => simp [places, isPage, IsPlace]
  | directory children ih =>
    cases ht with
    | dir hn hm =>
      have hbelow := mem_placesBelow_iff hn (fun m h walked path b => ih m h (hm m h) walked path b)
        walked path b
      rw [places, List.mem_cons, hbelow, IsPlace, Prod.mk.injEq]
      refine or_congr_right ⟨?_, ?_⟩
      · rintro ⟨below, hp, hb⟩
        exact ⟨children, below, rfl, hp, hb⟩
      · rintro ⟨_, below, hd, hp, hb⟩
        cases hd
        exact ⟨below, hp, hb⟩

theorem mem_placesBelow {children : Members PageTree} (hc : (directory children).Proper)
    {path : List Text} {b : Bool} :
    (path, b) ∈ placesBelow [] children ↔ isPageAt? path children = some b := by
  cases hc with
  | dir hn hm =>
    rw [mem_placesBelow_iff hn fun m h => mem_places (hm m h)]
    simp

theorem prefix_of_mem_places {tree : PageTree} (ht : tree.Proper) {walked path : List Text}
    (h : path ∈ (places walked tree).map (·.1)) : walked <+: path := by
  obtain ⟨⟨_, b⟩, hm, rfl⟩ := List.mem_map.1 h
  rcases (mem_places ht walked _ b).1 hm with ⟨rfl, -⟩ | ⟨_, below, -, rfl, -⟩
  · exact List.prefix_refl _
  · exact List.prefix_append walked below

/-- The row of a place. -/
def row (place : List Text × Bool) : TocEntry :=
  ⟨place.1.getLastD "", place.1.foldl pathBelow "", place.1.length - 1, place.2⟩

theorem insertSibling_perm {α : Type} (name : Text) (item : α) (children : Members α) :
    (insertSibling name item children).Perm ((name, item) :: children) := by
  induction children with
  | nil => exact .refl _
  | cons m rest ih =>
    obtain ⟨other, x⟩ := m
    unfold insertSibling
    split
    next => exact (ih.cons _).trans (.swap ..)
    next => exact .refl _

theorem arrange_perm {α : Type} (children : Members α) : (arrange children).Perm children := by
  induction children with
  | nil => exact .refl _
  | cons m rest ih => exact (insertSibling_perm m.1 m.2 _).trans (ih.cons m)

theorem childRows_eq_map (parent : Text) (depth : Nat) (children : Members PageTree) :
    childRows parent depth children =
      children.map fun m => (m.1, rows m.1 (pathBelow parent m.1) depth m.2) := by
  induction children with
  | nil => rfl
  | cons m rest ih => rw [childRows, ih, List.map_cons]

theorem mem_places_ofNames {names : List Text} {tree : Members PageTree}
    (h : ofNames names = .ok tree) {place : List Text × Bool} :
    place ∈ placesBelow [] tree ↔ isPageAt? place.1 tree = some place.2 :=
  mem_placesBelow (holds_ofNames h).proper

/-- A name that does not begin with a slash has no directory without a name above it. -/
theorem head_segments_ne_empty {name first : Text} {rest : List Text}
    (hr : relative name = name) (hs : segments name = first :: rest) (hne : rest ≠ []) :
    first ≠ "" := by
  rintro rfl
  have hj := joined_segments name
  obtain ⟨next, rest, rfl⟩ := List.exists_cons_of_ne_nil hne
  rw [hs, joined, Text.intercalate_cons_cons] at hj
  have hl : name.toList = .scalar '/' :: (joined (next :: rest)).toList := by
    rw [← hj]
    rfl
  have hdrop := congrArg Text.toList hr
  rw [relative, Text.toList_ofList, hl, List.dropWhile_cons_of_pos (by simp)] at hdrop
  have hlen := congrArg List.length hdrop
  have hle := (List.dropWhile_sublist (fun c => decide (c = CodePoint.scalar '/'))
    (l := (joined (next :: rest)).toList)).length_le
  rw [List.length_cons] at hlen
  omega

/-- A directory above a name that does not begin with a slash has the joined segments as its path,
and these are its segments. -/
theorem segments_foldl_pathBelow {name : Text} {path : List Text} (hr : relative name = name)
    (hne : path ≠ []) (hproper : path ≠ segments name) (hpre : path <+: segments name) :
    segments (path.foldl pathBelow "") = path := by
  obtain ⟨rest, hrest⟩ := hpre
  obtain ⟨first, path, rfl⟩ := List.exists_cons_of_ne_nil hne
  have hfirst : first ≠ "" := by
    refine head_segments_ne_empty hr hrest.symm fun e => hproper ?_
    obtain ⟨rfl, rfl⟩ := List.append_eq_nil_iff.1 e
    exact hrest
  have hjoined : (first :: path).foldl pathBelow "" = joined (first :: path) :=
    foldl_pathBelow hfirst path
  rw [hjoined]
  exact segments_joined hne fun segment hm => hrest ▸ List.mem_append_left rest hm

/-- Where no name begins with a slash, only the page of a name has the name as its path. -/
theorem place_of_path {names : List Text} {tree : Members PageTree}
    (h : ofNames names = .ok tree) (hr : ∀ name ∈ names, relative name = name) {name : Text}
    (hm : name ∈ names) {place : List Text × Bool} (hp : isPageAt? place.1 tree = some place.2)
    (he : place.1.foldl pathBelow "" = name) : place = (segments name, true) := by
  obtain ⟨path, b⟩ := place
  have hh := holds_ofNames h
  cases b with
  | true =>
    obtain ⟨other, ho, rfl⟩ := (hh.pages path).1 hp
    rw [foldl_pathBelow_segments, hr other ho] at he
    rw [he]
  | false =>
    obtain ⟨other, ho, hne, hproper, hpre⟩ := (hh.directories path).1 hp
    have hsegments := segments_foldl_pathBelow (hr other ho) hne hproper hpre
    have hpage := (hh.pages (segments name)).2 ⟨name, hm, rfl⟩
    rw [← he, hsegments, hp] at hpage
    cases hpage

end PageTree
end WebDocs
