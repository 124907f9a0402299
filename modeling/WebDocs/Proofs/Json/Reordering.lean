import Mathlib.Data.List.Nodup
import WebDocs.Json.Display
import WebDocs.Proofs.Json.Aligned
import WebDocs.Proofs.Json.Context
import WebDocs.Proofs.Json.Printing

namespace WebDocs

namespace Members

variable {α β : Type}

theorem valuesOf_eq_nil {key : Text} {members : Members α} (h : key ∉ members.keys) :
    members.valuesOf key = [] :=
  List.eq_nil_iff_forall_not_mem.2 fun _ hv => h (List.mem_map_of_mem (mem_valuesOf.1 hv))

theorem valuesOf_middle (key k : Text) (v : α) (front back : Members α) :
    valuesOf key (front ++ (k, v) :: back) =
      if k = key then valuesOf key front ++ v :: valuesOf key back
      else valuesOf key (front ++ back) := by
  have happend (a b : Members α) : valuesOf key (a ++ b) = valuesOf key a ++ valuesOf key b := by
    rw [valuesOf, List.filter_append, List.map_append]
    rfl
  rw [happend, happend, valuesOf_cons]
  split
  next => rfl
  next => rfl

theorem Aligned.valuesOf {R : α → β → Prop} {members : Members α} {others : Members β}
    (h : Aligned R members others) (key : Text) :
    List.Forall₂ R (members.valuesOf key) (others.valuesOf key) := by
  induction h with
  | nil => exact .nil
  | @cons m n _ _ hmn _ ih =>
    obtain ⟨k, v⟩ := m
    obtain ⟨l, w⟩ := n
    obtain ⟨rfl, hvw⟩ := hmn
    rw [valuesOf_cons, valuesOf_cons]
    split
    next => exact .cons hvw ih
    next => exact ih

/-- Where no key is repeated, the order of the members does not show in the values of a key. -/
theorem valuesOf_eq_of_perm {members others : Members α} (hn : members.keys.Nodup)
    (hp : members.Perm others) (key : Text) : members.valuesOf key = others.valuesOf key := by
  have hperm : (members.valuesOf key).Perm (others.valuesOf key) := (hp.filter _).map _
  by_cases hk : key ∈ members.keys
  · obtain ⟨⟨k, v⟩, hm, rfl⟩ := List.mem_map.1 hk
    obtain ⟨front, back, rfl⟩ := List.append_of_mem hm
    rw [keys, List.map_append, List.map_cons, List.nodup_middle, List.nodup_cons, List.mem_append,
      not_or] at hn
    have hvalue : Members.valuesOf k (front ++ (k, v) :: back) = [v] := by
      rw [valuesOf_middle, if_pos rfl, valuesOf_eq_nil hn.1.1, valuesOf_eq_nil hn.1.2,
        List.nil_append]
    rw [hvalue] at hperm ⊢
    exact (List.perm_singleton.1 hperm.symm).symm
  · rw [valuesOf_eq_nil hk] at hperm ⊢
    exact (List.perm_nil.1 hperm.symm).symm

/-- Members with related values for each key are aligned after putting them into another order. -/
theorem exists_perm_aligned {R : α → β → Prop} {members : Members α} {others : Members β}
    (hm : members.keys.Nodup) (ho : others.keys.Nodup)
    (h : ∀ key, List.Forall₂ R (members.valuesOf key) (others.valuesOf key)) :
    ∃ moved : Members α, members.Perm moved ∧ Aligned R moved others := by
  induction others generalizing members with
  | nil =>
    refine ⟨[], List.perm_nil.2 (List.eq_nil_iff_forall_not_mem.2 fun m hmem => ?_), .nil⟩
    have hnone := List.forall₂_nil_right_iff.1 (h m.1)
    exact List.ne_nil_of_mem (mem_valuesOf.2 hmem) hnone
  | cons n rest ih =>
    obtain ⟨k, w⟩ := n
    obtain ⟨hk, hrest⟩ := List.nodup_cons.1 ho
    have hfirst := h k
    rw [valuesOf_cons, if_pos rfl] at hfirst
    obtain ⟨v, vs, hvw, -, hv⟩ := List.forall₂_cons_right_iff.1 hfirst
    have hmem : (k, v) ∈ members := mem_valuesOf.1 (hv ▸ List.mem_cons_self)
    obtain ⟨front, back, rfl⟩ := List.append_of_mem hmem
    rw [keys, List.map_append, List.map_cons, List.nodup_middle, List.nodup_cons,
      ← List.map_append] at hm
    have hbelow : ∀ key, List.Forall₂ R (valuesOf key (front ++ back)) (valuesOf key rest) := by
      intro key
      by_cases he : k = key
      · subst he
        rw [valuesOf_eq_nil hm.1, valuesOf_eq_nil hk]
        exact .nil
      · have hkey := h key
        rwa [valuesOf_middle, if_neg he, valuesOf_cons, if_neg he] at hkey
    obtain ⟨moved, hperm, haligned⟩ := ih hm.2 hrest hbelow
    exact ⟨(k, v) :: moved, List.perm_middle.trans (hperm.cons _), .cons ⟨rfl, hvw⟩ haligned⟩

end Members

namespace Json

/-- No object has a key twice, at any depth. -/
inductive Distinct : Json → Prop
  | arr {items : List Json} (h : ∀ item ∈ items, Distinct item) : Distinct (arr items)
  | obj {members : Members Json} (hn : members.keys.Nodup) (h : ∀ m ∈ members, Distinct m.2) :
      Distinct (obj members)
  | scalar {value : Json} (ha : ∀ items, value ≠ .arr items)
      (ho : ∀ members, value ≠ .obj members) : Distinct value

/-- The same value with the members of its objects in another order, at any depth. -/
inductive Reordered : Json → Json → Prop
  | refl (value : Json) : Reordered value value
  | arr {items others : List Json} (h : List.Forall₂ Reordered items others) :
      Reordered (arr items) (arr others)
  | obj {members moved others : Members Json} (hp : members.Perm moved)
      (hk : moved.keys = others.keys)
      (hv : List.Forall₂ Reordered (moved.map (·.2)) (others.map (·.2))) :
      Reordered (obj members) (obj others)

theorem Distinct.item {items : List Json} (h : Distinct (.arr items)) :
    ∀ item ∈ items, Distinct item := by
  cases h with
  | arr h => exact h
  | scalar ha _ => exact absurd rfl (ha items)

theorem Distinct.keys {members : Members Json} (h : Distinct (.obj members)) :
    members.keys.Nodup := by
  cases h with
  | obj hn _ => exact hn
  | scalar _ ho => exact absurd rfl (ho members)

theorem Distinct.member {members : Members Json} (h : Distinct (.obj members)) :
    ∀ m ∈ members, Distinct m.2 := by
  cases h with
  | obj _ h => exact h
  | scalar _ ho => exact absurd rfl (ho members)

theorem same_iff_reordered {value other : Json} (hv : value.Distinct) (ho : other.Distinct) :
    Same value other ↔ Reordered value other := by
  induction value using induct generalizing other with
  | arr items ih =>
    have hitems : ∀ {others : List Json}, Distinct (.arr others) →
        (List.Forall₂ Same items others ↔ List.Forall₂ Reordered items others) :=
      fun h => forall₂_iff_of_mem fun x hx y hy => ih x hx (hv.item x hx) (h.item y hy)
    constructor
    · intro h
      cases h with
      | refl => exact .refl _
      | arr h => exact .arr ((hitems ho).1 h)
    · intro h
      cases h with
      | refl => exact .refl _
      | arr h => exact .arr ((hitems ho).2 h)
  | obj members ih =>
    have hvalues : ∀ {others : Members Json}, Distinct (.obj others) → ∀ key,
        (List.Forall₂ Same (members.valuesOf key) (others.valuesOf key) ↔
          List.Forall₂ Reordered (members.valuesOf key) (others.valuesOf key)) := by
      intro others h key
      refine forall₂_iff_of_mem fun x hx y hy => ?_
      have hx := Members.mem_valuesOf.1 hx
      have hy := Members.mem_valuesOf.1 hy
      exact ih _ hx (hv.member _ hx) (h.member _ hy)
    constructor
    · intro h
      cases h with
      | refl => exact .refl _
      | obj h =>
        obtain ⟨moved, hperm, haligned⟩ := Members.exists_perm_aligned hv.keys ho.keys
          fun key => (hvalues ho key).1 (h key)
        obtain ⟨hk, hv⟩ := Members.aligned_iff.1 haligned
        exact .obj hperm hk hv
    · intro h
      cases h with
      | refl => exact .refl _
      | obj hperm hk hr =>
        refine .obj fun key => (hvalues ho key).2 ?_
        rw [Members.valuesOf_eq_of_perm hv.keys hperm key]
        exact (Members.aligned_iff.2 ⟨hk, hr⟩).valuesOf key
  | scalar value harr hobj =>
    constructor
    · intro h
      cases h with
      | refl => exact .refl _
      | arr => exact absurd rfl (harr _)
      | obj => exact absurd rfl (hobj _)
    · intro h
      cases h with
      | refl => exact .refl _
      | arr => exact absurd rfl (harr _)
      | obj => exact absurd rfl (hobj _)

theorem forall₂_same (values : List Json) : List.Forall₂ Same values values :=
  List.forall₂_same.2 fun value _ => .refl value

/-- Values that are the same are the same in any place. -/
theorem Same.plug {value other : Json} (h : Same value other) (context : Context) :
    Same (context.plug value) (context.plug other) := by
  induction context with
  | hole => exact h
  | item before inner after ih =>
    refine .arr ?_
    induction before with
    | nil => exact .cons ih (forall₂_same after)
    | cons first rest hrest => exact .cons (.refl first) hrest
  | member before key inner after ih =>
    refine .obj fun k => ?_
    rw [Members.valuesOf_middle, Members.valuesOf_middle]
    split
    next =>
      induction before.valuesOf k with
      | nil => exact .cons ih (forall₂_same _)
      | cons first rest hrest => exact .cons (.refl first) hrest
    next => exact forall₂_same _

theorem same_of_perm {members others : Members Json} (hn : members.keys.Nodup)
    (hp : members.Perm others) : Same (.obj members) (.obj others) := by
  refine .obj fun key => ?_
  rw [Members.valuesOf_eq_of_perm hn hp key]
  exact forall₂_same _

/-- Two values of one kind that are equal unless both are lists or both are objects. -/
structure Alike (value other : Json) : Prop where
  kind : value.kindWord = other.kindWord
  eq : (∀ items, value ≠ .arr items) → (∀ members, value ≠ .obj members) → value = other
  items : ∀ items others, value = .arr items → other = .arr others → items.length = others.length

theorem Same.alike {value other : Json} (h : Same value other) : Alike value other := by
  cases h with
  | refl =>
    refine ⟨rfl, fun _ _ => rfl, ?_⟩
    rintro items others rfl h
    rw [Json.arr.inj h]
  | arr h =>
    refine ⟨rfl, fun ha _ => absurd rfl (ha _), ?_⟩
    rintro _ _ ⟨⟩ ⟨⟩
    exact h.length_eq
  | obj h => exact ⟨rfl, fun _ ho => absurd rfl (ho _), fun _ _ h => nomatch h⟩

end Json

/-- Positions without repeated keys and without pairs split into halves have one key exactly when they
are the same value up to the order of members. Around an object can stand anything: its members can be
put into another order without changing the key. Positions with one key are of one kind; scalars are
equal, and lists equally long. -/
theorem positionKey_canonical :
    (∀ position other : Json, position.Distinct → other.Distinct →
      position.Unsplit → other.Unsplit →
      (positionKey position = positionKey other ↔ position.Reordered other)) ∧
    (∀ (context : Json.Context) (members moved : Members Json), members.keys.Nodup →
      members.Perm moved →
      positionKey (context.plug (.obj members)) = positionKey (context.plug (.obj moved))) ∧
    ∀ position other : Json, position.Unsplit → other.Unsplit →
      positionKey position = positionKey other → position.Alike other := by
  refine ⟨fun position other hp ho hu hu' => ?_, fun context members moved hn hp => ?_,
    fun position other hu hu' h => ?_⟩
  · exact (positionKey_eq_iff hu hu').trans (Json.same_iff_reordered hp ho)
  · exact positionKey_of_same ((Json.same_of_perm hn hp).plug context)
  · exact ((positionKey_eq_iff hu hu').1 h).alike

/-- Members in another order at two depths, around a text with a quote, a control character and a
character outside the basic plane; a number is not the text that looks like it. -/
theorem positionKey_canonical_nested :
    let inner (members : Members Json) : Json := .obj [("f", .arr [.int 1, .obj members])]
    let blank : Text × Json := ("x", .null)
    let text : Text × Json := ("y", .str "\"\x01😀")
    let position := inner [blank, text]
    let other := inner [text, blank]
    position.Distinct ∧ other.Distinct ∧ position.Unsplit ∧ other.Unsplit ∧
      position.Reordered other ∧ positionKey position = positionKey other ∧
      positionKey (.int 1) ≠ positionKey (.str "1") := by
  intro inner blank text position other
  have hdistinct : ∀ members : Members Json, members.keys.Nodup →
      (∀ m ∈ members, m.2.Distinct) → (inner members).Distinct := by
    intro members hn hm
    refine .obj (List.nodup_singleton _) fun m hmem => ?_
    rw [List.mem_singleton.1 hmem]
    refine .arr fun item hitem => ?_
    rcases List.mem_cons.1 hitem with rfl | hitem
    · exact .scalar (fun _ => Json.noConfusion) fun _ => Json.noConfusion
    · rw [List.mem_singleton.1 hitem]
      exact .obj hn hm
  have hscalars : ∀ m ∈ [blank, text], m.2.Distinct := by
    intro m hm
    rcases List.mem_cons.1 hm with rfl | hm
    · exact .scalar (fun _ => Json.noConfusion) fun _ => Json.noConfusion
    · rw [List.mem_singleton.1 hm]
      exact .scalar (fun _ => Json.noConfusion) fun _ => Json.noConfusion
  have hswap {m : Text × Json} (hm : m ∈ [text, blank]) :
      m ∈ [blank, text] := List.Perm.mem_iff (.swap ..) |>.1 hm
  have hp : position.Distinct := hdistinct _ (by decide) hscalars
  have ho : other.Distinct := hdistinct _ (by decide) fun m hm => hscalars m (hswap hm)
  have hunsplit : ∀ members : Members Json, (∀ m ∈ members, m.1.Unsplit) →
      (∀ m ∈ members, m.2.Unsplit) → (inner members).Unsplit := by
    intro members hk hm
    refine .obj (fun m hmem => ?_) fun m hmem => ?_
    · rw [List.mem_singleton.1 hmem]
      exact Text.unsplit_ofString "f"
    · rw [List.mem_singleton.1 hmem]
      refine .arr fun item hitem => ?_
      rcases List.mem_cons.1 hitem with rfl | hitem
      · exact .int 1
      · rw [List.mem_singleton.1 hitem]
        exact .obj hk hm
  have hkeys : ∀ m ∈ [blank, text], m.1.Unsplit := by
    intro m hm
    rcases List.mem_cons.1 hm with rfl | hm
    · exact Text.unsplit_ofString "x"
    · rw [List.mem_singleton.1 hm]
      exact Text.unsplit_ofString "y"
  have hvalues : ∀ m ∈ [blank, text], m.2.Unsplit := by
    intro m hm
    rcases List.mem_cons.1 hm with rfl | hm
    · exact .null
    · rw [List.mem_singleton.1 hm]
      exact .str (Text.unsplit_ofString _)
  have hu : position.Unsplit := hunsplit _ hkeys hvalues
  have hu' : other.Unsplit :=
    hunsplit _ (fun m hm => hkeys m (hswap hm)) fun m hm => hvalues m (hswap hm)
  have hkey : positionKey position = positionKey other :=
    positionKey_canonical.2.1 (.member [] "f" (.item [.int 1] .hole []) []) _ _ (by decide)
      (.swap ..)
  refine ⟨hp, ho, hu, hu', (positionKey_canonical.1 position other hp ho hu hu').1 hkey, hkey,
    fun h => ?_⟩
  have halike := positionKey_canonical.2.2 _ _ (.int 1) (.str (Text.unsplit_ofString "1")) h
  exact absurd halike.kind (by decide)

end WebDocs
