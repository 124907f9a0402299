import Mathlib.Data.List.Forall2
import WebDocs.Json.Basic

namespace WebDocs

/-- Two relations that agree on the elements of two lists relate the lists alike. -/
theorem forall₂_iff_of_mem {α β : Type} {R S : α → β → Prop} {xs : List α} {ys : List β}
    (h : ∀ x ∈ xs, ∀ y ∈ ys, R x y ↔ S x y) : List.Forall₂ R xs ys ↔ List.Forall₂ S xs ys := by
  induction xs generalizing ys with
  | nil => rw [List.forall₂_nil_left_iff, List.forall₂_nil_left_iff]
  | cons x xs ih =>
    cases ys with
    | nil => exact ⟨(nomatch ·), (nomatch ·)⟩
    | cons y ys =>
      rw [List.forall₂_cons, List.forall₂_cons, h x List.mem_cons_self y List.mem_cons_self,
        ih fun x' hx y' hy => h x' (List.mem_cons_of_mem _ hx) y' (List.mem_cons_of_mem _ hy)]

theorem forall₂_unique {α β : Type} {R : α → β → Prop} {xs : List α} {ys zs : List β}
    (hy : List.Forall₂ R xs ys) (hz : List.Forall₂ R xs zs)
    (h : ∀ x ∈ xs, ∀ y z, R x y → R x z → y = z) : ys = zs := by
  induction hy generalizing zs with
  | nil => rw [List.forall₂_nil_left_iff.1 hz]
  | cons hx _ ih =>
    cases hz with
    | cons hx' hz =>
      rw [h _ List.mem_cons_self _ _ hx hx', ih hz fun x hm => h x (List.mem_cons_of_mem _ hm)]

/-- What stands between two parts of a list is related to what stands between two parts. -/
theorem forall₂_middle {α β : Type} {R : α → β → Prop} {before after : List α} {x : α}
    {ys : List β} : List.Forall₂ R (before ++ x :: after) ys ↔
      ∃ front y back, ys = front ++ y :: back ∧ List.Forall₂ R before front ∧ R x y ∧
        List.Forall₂ R after back := by
  induction before generalizing ys with
  | nil =>
    constructor
    · intro h
      cases h with
      | cons hx ha => exact ⟨[], _, _, rfl, .nil, hx, ha⟩
    · rintro ⟨front, y, back, rfl, hb, hx, ha⟩
      cases hb
      exact .cons hx ha
  | cons first before ih =>
    constructor
    · intro h
      cases h with
      | cons hf hr =>
        obtain ⟨front, y, back, rfl, hb, hx, ha⟩ := ih.1 hr
        exact ⟨_ :: front, y, back, rfl, .cons hf hb, hx, ha⟩
    · rintro ⟨front, y, back, rfl, hb, hx, ha⟩
      cases hb with
      | cons hf hb => exact .cons hf (ih.2 ⟨_, y, back, rfl, hb, hx, ha⟩)

namespace Members

variable {α β : Type}

/-- The same keys in the same order, with related values. -/
def Aligned (R : α → β → Prop) (members : Members α) (others : Members β) : Prop :=
  List.Forall₂ (fun m n => m.1 = n.1 ∧ R m.2 n.2) members others

theorem aligned_iff {R : α → β → Prop} {members : Members α} {others : Members β} :
    Aligned R members others ↔ members.keys = others.keys ∧
      List.Forall₂ R (members.map (·.2)) (others.map (·.2)) := by
  induction members generalizing others with
  | nil =>
    rw [Aligned, List.forall₂_nil_left_iff]
    cases others with
    | nil => exact ⟨fun _ => ⟨rfl, .nil⟩, fun _ => rfl⟩
    | cons n rest => exact ⟨(nomatch ·), fun h => nomatch h.1⟩
  | cons m rest ih =>
    cases others with
    | nil => exact ⟨(nomatch ·), fun h => nomatch h.1⟩
    | cons n others =>
      unfold Aligned at ih ⊢
      simp only [List.forall₂_cons, ih, keys, List.map_cons, List.cons.injEq]
      exact and_and_and_comm

theorem exists_aligned {R : α → β → Prop} {members : Members α}
    (h : ∀ m ∈ members, ∃ b, R m.2 b) : ∃ others, Aligned R members others := by
  induction members with
  | nil => exact ⟨[], .nil⟩
  | cons m rest ih =>
    obtain ⟨b, hb⟩ := h m List.mem_cons_self
    obtain ⟨others, ho⟩ := ih fun n hn => h n (List.mem_cons_of_mem _ hn)
    exact ⟨(m.1, b) :: others, .cons ⟨rfl, hb⟩ ho⟩

theorem eq_of_keys_eq {members others : Members α} (hk : members.keys = others.keys)
    (hv : members.map (·.2) = others.map (·.2)) : members = others := by
  have hsame : Aligned Eq members others := aligned_iff.2 ⟨hk, by rw [hv, List.forall₂_eq_eq_eq]⟩
  rw [← List.forall₂_eq_eq_eq]
  exact hsame.imp fun _ _ h => Prod.ext h.1 h.2

theorem aligned_middle {R : α → β → Prop} {before after : Members α} {key : Text} {a : α}
    {others : Members β} : Aligned R (before ++ (key, a) :: after) others ↔
      ∃ front b back, others = front ++ (key, b) :: back ∧ Aligned R before front ∧ R a b ∧
        Aligned R after back := by
  rw [Aligned, forall₂_middle]
  constructor
  · rintro ⟨front, ⟨k, b⟩, back, rfl, hb, ⟨hk, hr⟩, ha⟩
    obtain rfl : key = k := hk
    exact ⟨front, b, back, rfl, hb, hr, ha⟩
  · rintro ⟨front, b, back, rfl, hb, hr, ha⟩
    exact ⟨front, (key, b), back, rfl, hb, ⟨rfl, hr⟩, ha⟩

end Members
end WebDocs
