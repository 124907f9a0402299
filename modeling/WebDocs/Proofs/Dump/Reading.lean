import Mathlib.Data.List.Forall2
import WebDocs.Dump.Decode
import WebDocs.Proofs.Json.Members

namespace WebDocs

variable {α β : Type}

theorem bind_congr_ok {ε : Type} {x : Except ε α} {f g : α → Except ε β}
    (h : ∀ a, x = .ok a → f a = g a) : (x >>= f) = (x >>= g) := by
  cases x with
  | error e => rfl
  | ok a => exact h a rfl

theorem bind_eq_ok {ε : Type} {x : Except ε α} {f : α → Except ε β} {b : β} :
    (x >>= f) = .ok b ↔ ∃ a, x = .ok a ∧ f a = .ok b := by
  cases x with
  | error e => exact ⟨(nomatch ·), fun ⟨_, h, _⟩ => nomatch h⟩
  | ok a => exact ⟨fun h => ⟨a, rfl, h⟩, fun ⟨_, rfl, h⟩ => h⟩

theorem map_eq_ok {ε : Type} {x : Except ε α} {f : α → β} {b : β} :
    x.map f = .ok b ↔ ∃ a, x = .ok a ∧ f a = b := by
  cases x with
  | error e => exact ⟨(nomatch ·), fun ⟨_, h, _⟩ => nomatch h⟩
  | ok a => exact ⟨fun h => ⟨a, rfl, Except.ok.inj h⟩, fun ⟨_, rfl, h⟩ => h ▸ rfl⟩

theorem eq_error_of_map {ε : Type} {x : Except ε α} {f : α → β} {e : ε} (h : x.map f = .error e) :
    x = .error e := by
  cases x with
  | error found =>
    cases h
    rfl
  | ok a => cases h

theorem mapM_congr_mem {ε : Type} {xs : List α} {f g : α → Except ε β}
    (h : ∀ x ∈ xs, f x = g x) : xs.mapM f = xs.mapM g := by
  induction xs with
  | nil => rfl
  | cons x rest ih =>
    rw [List.mapM_cons, List.mapM_cons, h x List.mem_cons_self,
      ih fun y hy => h y (List.mem_cons_of_mem _ hy)]

theorem mapM_eq_ok {ε : Type} {f : α → Except ε β} {xs : List α} {ys : List β} :
    xs.mapM f = .ok ys ↔ List.Forall₂ (fun x y => f x = .ok y) xs ys := by
  induction xs generalizing ys with
  | nil =>
    constructor
    · intro h
      cases h
      exact .nil
    · intro h
      cases h
      rfl
  | cons x rest ih =>
    rw [List.mapM_cons]
    constructor
    · intro h
      obtain ⟨y, hx, h⟩ := bind_eq_ok.1 h
      obtain ⟨zs, hr, h⟩ := bind_eq_ok.1 h
      cases h
      exact .cons hx (ih.1 hr)
    · intro h
      cases h with
      | cons hx hr => rw [hx, ih.2 hr]; rfl

/-- A traversal fails with the error of the first element that is refused. -/
theorem mapM_eq_error {ε : Type} {f : α → Except ε β} {xs : List α} {e : ε} :
    xs.mapM f = .error e ↔ ∃ before x after ys, xs = before ++ x :: after ∧
      List.Forall₂ (fun x y => f x = .ok y) before ys ∧ f x = .error e := by
  induction xs with
  | nil =>
    constructor
    · intro h
      cases h
    · rintro ⟨before, x, after, ys, hx, -⟩
      exact absurd hx.symm (List.append_ne_nil_of_right_ne_nil _ (List.cons_ne_nil _ _))
  | cons first rest ih =>
    rw [List.mapM_cons]
    constructor
    · intro h
      cases hf : f first with
      | error cause =>
        rw [hf] at h
        cases h
        exact ⟨[], first, rest, [], rfl, .nil, hf⟩
      | ok y =>
        cases hr : rest.mapM f with
        | ok zs =>
          rw [hf, hr] at h
          cases h
        | error cause =>
          rw [hf, hr] at h
          cases h
          obtain ⟨before, x, after, ys, rfl, hb, hx⟩ := ih.1 hr
          exact ⟨first :: before, x, after, y :: ys, rfl, .cons hf hb, hx⟩
    · rintro ⟨before, x, after, ys, hxs, hb, hx⟩
      cases hb with
      | nil =>
        cases hxs
        rw [hx]
        rfl
      | cons hf hb =>
        cases hxs
        rw [hf, ih.2 ⟨_, _, _, _, rfl, hb, hx⟩]
        rfl

theorem mem_of_mapM {ε : Type} {f : α → Except ε β} {xs : List α} {ys : List β}
    (h : xs.mapM f = .ok ys) {y : β} (hy : y ∈ ys) : ∃ x ∈ xs, f x = .ok y := by
  replace h := mapM_eq_ok.1 h
  induction h with
  | nil => cases hy
  | cons hx _ ih =>
    rcases List.mem_cons.1 hy with rfl | hy
    · exact ⟨_, List.mem_cons_self, hx⟩
    · obtain ⟨x, hm, hx⟩ := ih hy
      exact ⟨x, List.mem_cons_of_mem _ hm, hx⟩

namespace Json

theorem depth_le_of_elements? {value : Json} {items : List Json}
    (h : value.elements? = some items) : ∀ item ∈ items, item.depth ≤ value.depth := by
  intro item hi
  cases value with
  | arr found =>
    obtain rfl := Option.some.inj h
    rw [depth]
    have hd := depth_le_depthItems hi
    omega
  | str s =>
    obtain rfl := Option.some.inj h
    obtain ⟨c, _, rfl⟩ := List.mem_map.1 hi
    exact Nat.zero_le _
  | obj members =>
    obtain rfl := Option.some.inj h
    obtain ⟨member, _, rfl⟩ := List.mem_map.1 hi
    exact Nat.zero_le _
  | _ => cases h

theorem elements?_of_elements {value : Json} {items : List Json}
    (h : value.elements = .ok items) : value.elements? = some items := by
  unfold elements at h
  split at h
  next found hf => rw [hf, Except.ok.inj h]
  next => cases h

theorem depth_le_of_elements {value : Json} {items : List Json}
    (h : value.elements = .ok items) : ∀ item ∈ items, item.depth ≤ value.depth :=
  depth_le_of_elements? (elements?_of_elements h)

theorem depth_le_of_elementsOrNone {value : Json} {items : List Json}
    (h : value.elementsOrNone = .ok items) : ∀ item ∈ items, item.depth ≤ value.depth := by
  unfold elementsOrNone at h
  split at h
  · obtain rfl := Except.ok.inj h
    exact fun item hi => absurd hi List.not_mem_nil
  · exact depth_le_of_elements h

theorem elements?_of_unpack2 {value a b : Json} (h : value.unpack2 = .ok (a, b)) :
    value.elements? = some [a, b] := by
  unfold unpack2 at h
  split at h
  next hf => cases h; exact hf
  next => cases h

theorem elements?_of_unpack3 {value a b c : Json} (h : value.unpack3 = .ok (a, b, c)) :
    value.elements? = some [a, b, c] := by
  unfold unpack3 at h
  split at h
  next hf => cases h; exact hf
  next => cases h

theorem elements?_of_unpack4 {value a b c d : Json} (h : value.unpack4 = .ok (a, b, c, d)) :
    value.elements? = some [a, b, c, d] := by
  unfold unpack4 at h
  split at h
  next hf => cases h; exact hf
  next => cases h

theorem depth_le_of_entry {pair : Json} {entry : Text × Json}
    (h : Json.entry pair = .ok entry) : entry.2.depth ≤ pair.depth := by
  obtain ⟨⟨key, value⟩, hu, h⟩ := bind_eq_ok.1 h
  obtain ⟨name, _, h⟩ := bind_eq_ok.1 h
  cases h
  exact depth_le_of_elements? (elements?_of_unpack2 hu) value (by simp)

theorem depth_le_of_mapping {value : Json} {members : Members Json}
    (h : value.mapping = .ok members) : ∀ m ∈ members, m.2.depth ≤ value.depth := by
  intro m hm
  unfold mapping at h
  split at h
  next => cases h; cases hm
  next found =>
    cases h
    rw [depth]
    have hd := depth_le_depthMembers hm
    omega
  next =>
    obtain ⟨items, he, h⟩ := bind_eq_ok.1 h
    obtain ⟨pairs, hp, h⟩ := bind_eq_ok.1 h
    cases h
    obtain ⟨pair, hpair, hentry⟩ := mem_of_mapM hp (Members.mem_ofPairs hm)
    exact Nat.le_trans (depth_le_of_entry hentry) (depth_le_of_elements he pair hpair)

/-- The payload of a tagged node is a part of it. -/
theorem depth_contents_lt {raw : Json} {tag : Text} (h : raw.tag? = some tag) :
    raw.contents.depth < raw.depth := by
  cases raw with
  | obj members =>
    change ((Members.get? "contents" members).getD null).depth < depth (obj members)
    rw [depth]
    cases hm : Members.get? "contents" members with
    | none => exact Nat.lt_of_lt_of_le Nat.zero_lt_one (Nat.le_add_right ..)
    | some value =>
      have hd := depth_le_depthMembers (Members.mem_of_get? hm)
      change value.depth < _
      change value.depth ≤ _ at hd
      omega
  | _ => cases h

end Json

theorem decodeNode_congr {Form : Type} {form? : String → Option Form}
    {build build' : Form → Json → Except ShapeError α} {unknown : Tag → Json → α} {raw : Json}
    (h : ∀ form tag, raw.tag? = some tag → build form raw.contents = build' form raw.contents) :
    decodeNode form? build unknown raw = decodeNode form? build' unknown raw := by
  unfold decodeNode
  cases ht : raw.tag? with
  | none => rfl
  | some tag =>
    cases hf : tag.toString?.bind form? with
    | none => simp only [hf]
    | some form => simp only [hf, h form tag ht]

/-- Readers that agree on the values down to a depth. -/
def AgreeTo (n : Nat) (f g : Json → α) : Prop := ∀ part : Json, part.depth ≤ n → f part = g part

section AgreeTo

variable {f g : Json → α} {raw : Json}

theorem AgreeTo.mono {m n : Nat} (h : AgreeTo n f g) (hm : m ≤ n) : AgreeTo m f g :=
  fun part hp => h part (Nat.le_trans hp hm)

theorem AgreeTo.mapValues (h : AgreeTo raw.depth f g) {members : Members Json}
    (hm : raw.mapping = .ok members) : members.mapValues f = members.mapValues g :=
  List.map_congr_left fun m hmem =>
    congrArg (Prod.mk m.1) (h m.2 (Json.depth_le_of_mapping hm m hmem))

end AgreeTo

namespace Ty

variable {f g : Json → Ty} {raw : Json}

theorem decodeOption_congr (h : AgreeTo raw.depth f g) :
    decodeOption f raw = decodeOption g raw := by
  refine bind_congr_ok fun (vars, x, args) hu => ?_
  have hd := Json.depth_le_of_elements? (Json.elements?_of_unpack3 hu)
  refine bind_congr_ok fun vs hv => ?_
  refine bind_congr_ok fun as ha => ?_
  rw [(h.mono (hd vars (by simp))).mapValues hv, (h.mono (hd args (by simp))).mapValues ha]

theorem decodePartial_congr (h : AgreeTo raw.depth f g) :
    decodePartial f raw = decodePartial g raw := by
  refine bind_congr_ok fun (name, options) hu => ?_
  have hd := Json.depth_le_of_elements? (Json.elements?_of_unpack2 hu) options (by simp)
  refine bind_congr_ok fun items hi => ?_
  rw [mapM_congr_mem fun item hm =>
    decodeOption_congr (h.mono (Nat.le_trans (Json.depth_le_of_elements hi item hm) hd))]

theorem build_congr (form : Form) (h : AgreeTo raw.depth f g) :
    build f form raw = build g form raw := by
  cases form with
  | top => rfl
  | typeVar => rfl
  | sum =>
    refine bind_congr_ok fun items hi => ?_
    rw [mapM_congr_mem fun item hm =>
      decodePartial_congr (h.mono (Json.depth_le_of_elements hi item hm))]

theorem step_local : Json.Local step := fun _ _ _ h =>
  decodeNode_congr fun form _ ht => build_congr form fun part hp =>
    h part (Nat.lt_of_le_of_lt hp (Json.depth_contents_lt ht))

theorem decode_eq (raw : Json) :
    decode raw = decodeNode Form.ofTag? (build decode) unknown raw :=
  Json.descend_eq step_local ..

end Ty

section

variable {f g : Json → Expr} {raw : Json}

theorem Arg.decodeBy_congr (h : AgreeTo raw.depth f g) : Arg.decodeBy f raw = Arg.decodeBy g raw := by
  refine decodeNode_congr fun form _ ht => ?_
  have hc := h.mono (Nat.le_of_lt (Json.depth_contents_lt ht))
  cases form with
  | named =>
    refine bind_congr_ok fun (name, value) hu => ?_
    have hd := Json.depth_le_of_elements? (Json.elements?_of_unpack2 hu)
    change (name.name >>= _) = (name.name >>= _)
    rw [hc value (hd value (by simp))]
  | positional => rw [Arg.build, Arg.build, hc _ (Nat.le_refl _)]

theorem Guard.decodeBy_congr (h : AgreeTo raw.depth f g) :
    Guard.decodeBy f raw = Guard.decodeBy g raw := by
  refine decodeNode_congr fun form _ ht => ?_
  cases form with
  | ifGuard =>
    rw [Guard.build, Guard.build, h _ (Nat.le_of_lt (Json.depth_contents_lt ht))]
  | elseGuard => rfl
  | noGuard => rfl

theorem Arm.decodeBy_congr (h : AgreeTo raw.depth f g) : Arm.decodeBy f raw = Arm.decodeBy g raw := by
  refine bind_congr_ok fun (obj, guard) hu => ?_
  have hd := Json.depth_le_of_elements? (Json.elements?_of_unpack2 hu)
  change (Obj.decode obj >>= _) = (Obj.decode obj >>= _)
  rw [Guard.decodeBy_congr (h.mono (hd guard (by simp)))]

end

namespace Expr

variable {f g : Json → Expr} {raw : Json}

theorem build_congr (form : Form) (h : AgreeTo raw.depth f g) :
    build f form raw = build g form raw := by
  cases form with
  | constant => rfl
  | name => rfl
  | apply =>
    refine bind_congr_ok fun (info, based, args) hu => ?_
    have hd := Json.depth_le_of_elements? (Json.elements?_of_unpack3 hu)
    refine bind_congr_ok fun (x, base) hb => ?_
    have hbase := Json.depth_le_of_elements? (Json.elements?_of_unpack2 hb) base (by simp)
    refine bind_congr_ok fun items hi => ?_
    have hargs : items.map (Arg.decodeBy f) = items.map (Arg.decodeBy g) :=
      List.map_congr_left fun item hm => Arg.decodeBy_congr
        (h.mono (Nat.le_trans (Json.depth_le_of_elements hi item hm) (hd args (by simp))))
    rw [h base (Nat.le_trans hbase (hd based (by simp))), hargs]
  | paren => rw [build, build, h raw (Nat.le_refl _)]
  | methods =>
    refine bind_congr_ok fun (base, calls) hu => ?_
    have hd := Json.depth_le_of_elements? (Json.elements?_of_unpack2 hu)
    refine bind_congr_ok fun items hi => ?_
    have hcalls : items.map f = items.map g := List.map_congr_left fun item hm =>
      h item (Nat.le_trans (Json.depth_le_of_elements hi item hm) (hd calls (by simp)))
    rw [h base (hd base (by simp)), hcalls]
  | ifThenElse =>
    refine bind_congr_ok fun (info, condition, yes, no) hu => ?_
    have hd := Json.depth_le_of_elements? (Json.elements?_of_unpack4 hu)
    simp only
    rw [h condition (hd condition (by simp)), h yes (hd yes (by simp)), h no (hd no (by simp))]
  | branch kind =>
    refine bind_congr_ok fun (info, subject, arms) hu => ?_
    have hd := Json.depth_le_of_elements? (Json.elements?_of_unpack3 hu)
    refine bind_congr_ok fun items hi => ?_
    rw [h subject (hd subject (by simp)), mapM_congr_mem fun item hm => Arm.decodeBy_congr
      (h.mono (Nat.le_trans (Json.depth_le_of_elements hi item hm) (hd arms (by simp))))]

theorem step_local : Json.Local step := fun _ _ _ h =>
  decodeNode_congr fun form _ ht => build_congr form fun part hp =>
    h part (Nat.lt_of_le_of_lt hp (Json.depth_contents_lt ht))

theorem decode_eq (raw : Json) :
    decode raw = decodeNode Form.ofTag? (build decode) unknown raw :=
  Json.descend_eq step_local ..

end Expr

theorem Decl.decodeBy_congr {f g : Json → SubStatement} {raw : Json}
    (h : AgreeTo raw.depth f g) : Decl.decodeBy f raw = Decl.decodeBy g raw := by
  refine bind_congr_ok fun (head, subs, body) hu => ?_
  have hd := Json.depth_le_of_elements? (Json.elements?_of_unpack3 hu)
  refine bind_congr_ok fun (x, objAndGuard) _ => ?_
  refine bind_congr_ok fun (obj, guard) _ => ?_
  refine bind_congr_ok fun obj _ => ?_
  refine bind_congr_ok fun items hi => ?_
  have hsubs : items.map f = items.map g := List.map_congr_left fun item hm =>
    h item (Nat.le_trans (Json.depth_le_of_elementsOrNone hi item hm) (hd subs (by simp)))
  rw [hsubs]

namespace SubStatement

theorem step_local : Json.Local step := fun _ _ _ h =>
  decodeNode_congr fun form _ ht => by
    have hc := fun part hp => h part (Nat.lt_of_le_of_lt hp (Json.depth_contents_lt ht))
    cases form with
    | decl => rw [build, build, Decl.decodeBy_congr hc]
    | annot => rfl

theorem decode_eq (raw : Json) :
    decode raw = decodeNode Form.ofTag? (build decode) unknown raw :=
  Json.descend_eq step_local ..

end SubStatement
end WebDocs
