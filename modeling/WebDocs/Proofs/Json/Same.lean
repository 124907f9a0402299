import Mathlib.Data.List.Forall2
import WebDocs.Dump.PositionIndex

namespace WebDocs

namespace Members

variable {α β : Type}

/-- The values of a key, in order. A key that occurs once has one value. -/
def valuesOf (key : Text) (members : Members α) : List α :=
  (members.filter (·.1 = key)).map (·.2)

theorem valuesOf_cons (key k : Text) (v : α) (rest : Members α) :
    valuesOf key ((k, v) :: rest) =
      if k = key then v :: valuesOf key rest else valuesOf key rest := by
  unfold valuesOf
  by_cases h : k = key
  · simp only [List.filter_cons, h, decide_true, if_true, List.map_cons]
  · simp only [List.filter_cons, h, decide_false, Bool.false_eq_true, if_false]

theorem mem_valuesOf {key : Text} {members : Members α} {v : α} :
    v ∈ valuesOf key members ↔ (key, v) ∈ members := by
  simp only [valuesOf, List.mem_map, List.mem_filter, decide_eq_true_eq]
  constructor
  · rintro ⟨⟨k, w⟩, ⟨hm, rfl⟩, rfl⟩
    exact hm
  · exact fun h => ⟨(key, v), ⟨h, rfl⟩, rfl⟩

end Members

namespace Json

/-- The same value up to the order of object members at every depth: members with different keys may
stand in any order. -/
inductive Same : Json → Json → Prop
  | refl (value : Json) : Same value value
  | arr {items others : List Json} (h : List.Forall₂ Same items others) :
      Same (arr items) (arr others)
  | obj {members others : Members Json}
      (h : ∀ key, List.Forall₂ Same (members.valuesOf key) (others.valuesOf key)) :
      Same (obj members) (obj others)

theorem induct {P : Json → Prop} (arr : ∀ items, (∀ item ∈ items, P item) → P (arr items))
    (obj : ∀ members : Members Json, (∀ m ∈ members, P m.2) → P (obj members))
    (scalar : ∀ value, (∀ items, value ≠ .arr items) → (∀ members, value ≠ .obj members) →
      P value) (value : Json) : P value := by
  induction hd : value.depth using Nat.strongRecOn generalizing value with
  | ind n ih =>
    subst hd
    cases value with
    | arr items =>
      refine arr items fun item hi => ih _ ?_ item rfl
      rw [depth]
      have hle := depth_le_depthItems hi
      omega
    | obj members =>
      refine obj members fun m hm => ih _ ?_ m.2 rfl
      rw [depth]
      have hle := depth_le_depthMembers hm
      omega
    | null | bool | int | float | str =>
      exact scalar _ (fun _ => Json.noConfusion) fun _ => Json.noConfusion

/-- Keys in ascending order. -/
def Ascending (members : Members Json) : Prop := members.Pairwise fun m n => m.1 ≤ n.1

theorem mem_insertMember {key : Text} {value : Json} {members : Members Json}
    {m : Text × Json} :
    m ∈ insertMember key value members ↔ m = (key, value) ∨ m ∈ members := by
  induction members with
  | nil => simp [insertMember]
  | cons first rest ih =>
    obtain ⟨k, v⟩ := first
    unfold insertMember
    split
    · exact List.mem_cons
    · rw [List.mem_cons, ih, List.mem_cons]
      exact or_left_comm

theorem Ascending.insertMember {members : Members Json} (h : Ascending members) (key : Text)
    (value : Json) : Ascending (insertMember key value members) := by
  induction members with
  | nil => exact List.pairwise_singleton ..
  | cons first rest ih =>
    obtain ⟨k, v⟩ := first
    obtain ⟨hfirst, hrest⟩ := List.pairwise_cons.1 h
    unfold Json.insertMember
    split
    next hlt =>
      refine List.pairwise_cons.2 ⟨fun m hm => ?_, h⟩
      have hle : key ≤ k := Text.not_lt.1 (Text.lt_asymm hlt)
      rcases List.mem_cons.1 hm with rfl | hm
      · exact hle
      · exact Text.le_trans hle (hfirst m hm)
    next hlt =>
      refine List.pairwise_cons.2 ⟨fun m hm => ?_, ih hrest⟩
      rcases mem_insertMember.1 hm with rfl | hm
      · exact Text.not_lt.1 hlt
      · exact hfirst m hm

theorem ascending_sortedMembers (members : Members Json) : Ascending (sortedMembers members) := by
  induction members with
  | nil => exact List.Pairwise.nil
  | cons m rest ih => exact ih.insertMember ..

/-- An inserted value is the last one of its key. -/
theorem valuesOf_insertMember {members : Members Json} (h : Ascending members) (key other : Text)
    (value : Json) :
    (insertMember key value members).valuesOf other =
      if key = other then members.valuesOf other ++ [value] else members.valuesOf other := by
  induction members with
  | nil => rw [insertMember, Members.valuesOf_cons]; rfl
  | cons first rest ih =>
    obtain ⟨k, v⟩ := first
    obtain ⟨hfirst, hrest⟩ := List.pairwise_cons.1 h
    unfold insertMember
    split
    next hlt =>
      rw [Members.valuesOf_cons]
      by_cases hk : key = other
      · subst hk
        have hnone : Members.valuesOf key ((k, v) :: rest) = [] := by
          refine List.eq_nil_iff_forall_not_mem.2 fun w hw => ?_
          rcases List.mem_cons.1 (Members.mem_valuesOf.1 hw) with he | hm
          · exact Text.ne_of_lt hlt (congrArg Prod.fst he)
          · exact hfirst _ hm hlt
        rw [if_pos rfl, if_pos rfl, hnone, List.nil_append]
      · rw [if_neg hk, if_neg hk]
    next hlt =>
      rw [Members.valuesOf_cons, Members.valuesOf_cons, ih hrest]
      by_cases hk : k = other
      · by_cases ho : key = other
        · simp only [if_pos hk, if_pos ho, List.cons_append]
        · simp only [if_pos hk, if_neg ho]
      · simp only [if_neg hk]

theorem valuesOf_sortedMembers (key : Text) (members : Members Json) :
    Members.valuesOf key (sortedMembers members) = ((members.valuesOf key).map sorted).reverse := by
  induction members with
  | nil => rfl
  | cons m rest ih =>
    obtain ⟨k, v⟩ := m
    rw [sortedMembers, valuesOf_insertMember (ascending_sortedMembers rest), Members.valuesOf_cons,
      ih]
    by_cases h : k = key
    · rw [if_pos h, if_pos h, List.map_cons, List.reverse_cons]
    · rw [if_neg h, if_neg h]

/-- Ascending members are determined by the values of each key. -/
theorem Ascending.ext {members others : Members Json} (h : Ascending members)
    (h' : Ascending others) (hv : ∀ key, members.valuesOf key = others.valuesOf key) :
    members = others := by
  induction members generalizing others with
  | nil =>
    cases others with
    | nil => rfl
    | cons m rest =>
      have hm : m.2 ∈ Members.valuesOf m.1 (m :: rest) :=
        Members.mem_valuesOf.2 List.mem_cons_self
      rw [← hv] at hm
      cases hm
  | cons m rest ih =>
    have hm : m.2 ∈ others.valuesOf m.1 := by
      rw [← hv]
      exact Members.mem_valuesOf.2 List.mem_cons_self
    cases others with
    | nil => cases hm
    | cons n rest' =>
      obtain ⟨k, v⟩ := m
      obtain ⟨l, w⟩ := n
      obtain ⟨hfirst, hrest⟩ := List.pairwise_cons.1 h
      obtain ⟨hfirst', hrest'⟩ := List.pairwise_cons.1 h'
      dsimp only at hm hfirst hfirst'
      have hn : w ∈ Members.valuesOf l ((k, v) :: rest) := by
        rw [hv]
        exact Members.mem_valuesOf.2 List.mem_cons_self
      have hlk : l ≤ k := by
        rcases List.mem_cons.1 (Members.mem_valuesOf.1 hm) with he | hm
        · exact (Prod.mk.inj he).1 ▸ Text.le_refl l
        · exact hfirst' _ hm
      have hkl : k ≤ l := by
        rcases List.mem_cons.1 (Members.mem_valuesOf.1 hn) with he | hn
        · exact (Prod.mk.inj he).1 ▸ Text.le_refl k
        · exact hfirst _ hn
      obtain rfl := Text.le_antisymm hkl hlk
      have hhead := hv k
      rw [Members.valuesOf_cons, Members.valuesOf_cons, if_pos rfl, if_pos rfl] at hhead
      obtain ⟨rfl, -⟩ := List.cons.inj hhead
      rw [ih hrest hrest' fun key => ?_]
      have htail := hv key
      rw [Members.valuesOf_cons, Members.valuesOf_cons] at htail
      split at htail
      · exact (List.cons.inj htail).2
      · exact htail

theorem sortedItems_eq_map (items : List Json) : sortedItems items = items.map sorted := by
  induction items with
  | nil => rfl
  | cons item rest ih => rw [sortedItems, ih, List.map_cons]

theorem sortedMembers_eq_iff {members others : Members Json} :
    sortedMembers members = sortedMembers others ↔
      ∀ key, (members.valuesOf key).map sorted = (others.valuesOf key).map sorted := by
  constructor
  · intro h key
    refine List.reverse_injective ?_
    rw [← valuesOf_sortedMembers, h, valuesOf_sortedMembers]
  · intro h
    refine (ascending_sortedMembers members).ext (ascending_sortedMembers others) fun key => ?_
    rw [valuesOf_sortedMembers, h, valuesOf_sortedMembers]

/-- Lists with the same images under a function that is injective up to a relation. -/
theorem map_eq_map_iff {α β : Type} {f : α → β} {R : α → α → Prop} {xs ys : List α}
    (h : ∀ x ∈ xs, ∀ y, f x = f y ↔ R x y) : xs.map f = ys.map f ↔ List.Forall₂ R xs ys := by
  induction xs generalizing ys with
  | nil =>
    cases ys with
    | nil => exact ⟨fun _ => .nil, fun _ => rfl⟩
    | cons y ys => exact ⟨(nomatch ·), (nomatch ·)⟩
  | cons x xs ih =>
    cases ys with
    | nil => exact ⟨(nomatch ·), (nomatch ·)⟩
    | cons y ys =>
      rw [List.map_cons, List.map_cons, List.cons.injEq, List.forall₂_cons,
        h x List.mem_cons_self, ih fun z hz => h z (List.mem_cons_of_mem _ hz)]

/-- Sorting gives the same value exactly for the values that are the same. -/
theorem sorted_eq_iff (value other : Json) : value.sorted = other.sorted ↔ Same value other := by
  induction value using induct generalizing other with
  | arr items ih =>
    have hitems : ∀ others, (items.map sorted = others.map sorted ↔
        List.Forall₂ Same items others) := fun others => map_eq_map_iff fun x hx y => ih x hx y
    cases other with
    | arr others =>
      rw [sorted, sorted, sortedItems_eq_map, sortedItems_eq_map, Json.arr.injEq, hitems]
      constructor
      · exact Same.arr
      · intro h
        cases h with
        | refl => exact (hitems items).1 rfl
        | arr h => exact h
    | _ => exact ⟨(nomatch ·), (nomatch ·)⟩
  | obj members ih =>
    have hvalues : ∀ (others : Members Json) (key : Text),
        ((members.valuesOf key).map sorted = (others.valuesOf key).map sorted ↔
          List.Forall₂ Same (members.valuesOf key) (others.valuesOf key)) := fun others key =>
      map_eq_map_iff fun x hx y => ih (key, x) (Members.mem_valuesOf.1 hx) y
    cases other with
    | obj others =>
      rw [sorted, sorted, Json.obj.injEq, sortedMembers_eq_iff]
      simp only [hvalues]
      constructor
      · exact Same.obj
      · intro h
        cases h with
        | refl => exact fun key => (hvalues members key).1 rfl
        | obj h => exact h
    | _ => exact ⟨(nomatch ·), (nomatch ·)⟩
  | scalar value harr hobj =>
    have hvalue : value.sorted = value := by
      cases value with
      | arr items => exact absurd rfl (harr items)
      | obj members => exact absurd rfl (hobj members)
      | _ => rfl
    constructor
    · intro h
      rw [hvalue] at h
      subst h
      cases other with
      | arr items => exact absurd rfl (harr _)
      | obj members => exact absurd rfl (hobj _)
      | _ => exact .refl _
    · intro h
      cases h with
      | refl => rfl
      | arr => exact absurd rfl (harr _)
      | obj => exact absurd rfl (hobj _)

end Json
end WebDocs
