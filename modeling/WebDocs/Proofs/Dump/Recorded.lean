import Mathlib.Data.List.Induction
import WebDocs.Proofs.Dump.Reading
import WebDocs.Proofs.Json.Printing

namespace WebDocs

/-- The annotation's expression is rooted at a position, up to the order of object members. -/
def Annot.At (entry : Annot) (position : Json) : Prop :=
  entry.expr.headPosition ≠ .null ∧ Json.Same entry.expr.headPosition position

/-- The annotation with an index is the last one at a position. -/
def LastAt (annotations : List Annot) (position : Json) (i : Nat) (entry : Annot) : Prop :=
  annotations[i]? = some entry ∧ entry.At position ∧
    ∀ j later, i < j → annotations[j]? = some later → ¬later.At position

/-- Every annotation has the position its expression is rooted at. -/
def Rooted (annotations : List Annot) : Prop :=
  ∀ entry ∈ annotations, entry.position = entry.expr.headPosition

/-- No pair is split into halves in the positions of annotations. -/
def UnsplitPositions (annotations : List Annot) : Prop :=
  ∀ entry ∈ annotations, entry.position.Unsplit

theorem Json.Same.ne_null {position other : Json} (h : Json.Same position other)
    (hp : position ≠ .null) : other ≠ .null := by
  rintro rfl
  cases h
  exact hp rfl

theorem Annot.At.ne_null {entry : Annot} {position : Json} (h : entry.At position) :
    position ≠ .null := h.2.ne_null h.1

namespace PositionIndex

variable {index : PositionIndex} {entry : Annot} {position : Json}

theorem add_of_null (h : entry.position = .null) : index.add entry = index := by
  rw [add, h]

theorem add_of_ne_null (h : entry.position ≠ .null) :
    index.add entry = ⟨index.entries.put (positionKey entry.position) entry.value⟩ := by
  unfold add
  split
  next hn => exact absurd hn h
  next => rfl

theorem lookup_of_ne_null (h : position ≠ .null) :
    index.lookup position = index.entries.get? (positionKey position) := by
  cases position with
  | null => exact absurd rfl h
  | _ => rfl

/-- A new annotation is found at its position. -/
theorem lookup_add_of_at (hr : entry.position = entry.expr.headPosition) (h : entry.At position) :
    (index.add entry).lookup position = some entry.value := by
  have hne : entry.position ≠ .null := hr ▸ h.1
  rw [lookup_of_ne_null h.ne_null, add_of_ne_null hne, Members.get?_put, hr,
    positionKey_of_same h.2, if_pos rfl]

/-- A new annotation changes nothing at other positions. -/
theorem lookup_add_of_not_at (hr : entry.position = entry.expr.headPosition)
    (hu : entry.position.Unsplit) (hp : position.Unsplit) (h : ¬entry.At position) :
    (index.add entry).lookup position = index.lookup position := by
  by_cases he : position = .null
  · rw [he]
    rfl
  by_cases hn : entry.position = .null
  · rw [add_of_null hn]
  rw [lookup_of_ne_null he, add_of_ne_null hn, Members.get?_put, lookup_of_ne_null he]
  rw [hr] at hn hu ⊢
  exact if_neg fun hk => h ⟨hn, (positionKey_eq_iff hu hp).1 hk.symm⟩

theorem ofAnnotations_append (annotations : List Annot) (entry : Annot) :
    ofAnnotations (annotations ++ [entry]) = (ofAnnotations annotations).add entry := by
  rw [ofAnnotations, List.foldl_append]
  rfl

theorem lookup_eq_none {annotations : List Annot} (hr : Rooted annotations)
    (hu : UnsplitPositions annotations) (hp : position.Unsplit)
    (h : ∀ entry ∈ annotations, ¬entry.At position) :
    (ofAnnotations annotations).lookup position = none := by
  induction annotations using List.reverseRecOn with
  | nil => cases position <;> rfl
  | append_singleton rest entry ih =>
    have hmem : entry ∈ rest ++ [entry] := List.mem_append_right _ List.mem_cons_self
    rw [ofAnnotations_append,
      lookup_add_of_not_at (hr entry hmem) (hu entry hmem) hp (h entry hmem)]
    exact ih (fun e he => hr e (List.mem_append_left _ he))
      (fun e he => hu e (List.mem_append_left _ he)) fun e he => h e (List.mem_append_left _ he)

theorem lookup_of_lastAt {annotations : List Annot} {i : Nat} (hr : Rooted annotations)
    (hu : UnsplitPositions annotations) (hp : position.Unsplit)
    (h : LastAt annotations position i entry) :
    (ofAnnotations annotations).lookup position = some entry.value := by
  induction annotations using List.reverseRecOn with
  | nil => cases h.1
  | append_singleton rest last ih =>
    obtain ⟨hi, hat, hlast⟩ := h
    have hmem : last ∈ rest ++ [last] := List.mem_append_right _ List.mem_cons_self
    have hend : (rest ++ [last])[rest.length]? = some last := List.getElem?_concat_length
    rw [ofAnnotations_append]
    obtain hlt | heq | hgt := Nat.lt_trichotomy i rest.length
    · rw [lookup_add_of_not_at (hr last hmem) (hu last hmem) hp (hlast _ last hlt hend)]
      rw [List.getElem?_append_left hlt] at hi
      refine ih (fun e he => hr e (List.mem_append_left _ he))
        (fun e he => hu e (List.mem_append_left _ he)) ⟨hi, hat, fun j later hj hl => ?_⟩
      refine hlast j later hj ?_
      obtain ⟨hjl, -⟩ := List.getElem?_eq_some_iff.1 hl
      rw [List.getElem?_append_left hjl, hl]
    · rw [heq, hend] at hi
      cases hi
      exact lookup_add_of_at (hr _ hmem) hat
    · have hlen := (List.getElem?_eq_some_iff.1 hi).1
      rw [List.length_append, List.length_singleton] at hlen
      omega

end PositionIndex

/-- If there is an annotation at a position, there is a last one. -/
theorem exists_lastAt {annotations : List Annot} {position : Json} :
    (∀ entry ∈ annotations, ¬entry.At position) ∨ ∃ i entry, LastAt annotations position i entry := by
  induction annotations using List.reverseRecOn with
  | nil => exact .inl fun entry h => absurd h List.not_mem_nil
  | append_singleton rest last ih =>
    have hend : (rest ++ [last])[rest.length]? = some last := List.getElem?_concat_length
    by_cases hat : last.At position
    · refine .inr ⟨rest.length, last, hend, hat, fun j later hj hl => ?_⟩
      have hlen := (List.getElem?_eq_some_iff.1 hl).1
      rw [List.length_append, List.length_singleton] at hlen
      omega
    · obtain hnone | ⟨i, entry, hi, he, hlast⟩ := ih
      · refine .inl fun entry h => ?_
        rcases List.mem_append.1 h with h | h
        · exact hnone entry h
        · exact List.mem_singleton.1 h ▸ hat
      · have hlt := (List.getElem?_eq_some_iff.1 hi).1
        refine .inr ⟨i, entry, by rw [List.getElem?_append_left hlt, hi], he,
          fun j later hj hl => ?_⟩
        obtain hjl | hjl := Nat.lt_or_ge j rest.length
        · rw [List.getElem?_append_left hjl] at hl
          exact hlast j later hj hl
        · rw [List.getElem?_append_right hjl] at hl
          exact List.mem_singleton.1 (List.mem_of_getElem? hl) ▸ hat

/-- An expression inside any number of brackets and bases of method calls. -/
inductive Expr.Wraps (inner : Expr) : Expr → Prop
  | refl : Wraps inner inner
  | paren {expr : Expr} (h : Wraps inner expr) : Wraps inner (.paren expr)
  | methods {expr : Expr} (calls : List Expr) (h : Wraps inner expr) :
      Wraps inner (.methods expr calls)

theorem Expr.Wraps.headPosition_eq {inner expr : Expr} (h : inner.Wraps expr) :
    expr.headPosition = inner.headPosition := by
  induction h with
  | refl => rfl
  | paren _ ih => exact ih
  | methods _ _ ih => exact ih

theorem getElem?_of_forall₂ {α β : Type} {R : α → β → Prop} {xs : List α} {ys : List β}
    (h : List.Forall₂ R xs ys) {i : Nat} {x : α} (hx : xs[i]? = some x) :
    ∃ y, ys[i]? = some y ∧ R x y := by
  induction h generalizing i with
  | nil => cases hx
  | cons hr _ ih =>
    cases i with
    | zero =>
      cases hx
      exact ⟨_, rfl, hr⟩
    | succ i => exact ih hx

/-- Annotations rooted at the same positions have the same index for the last one. -/
theorem LastAt.of_forall₂ {annotations others : List Annot} {position : Json} {i : Nat}
    (h : List.Forall₂ (fun entry other => entry.expr.headPosition = other.expr.headPosition)
      annotations others) {entry : Annot} (hl : LastAt annotations position i entry) :
    ∃ other, LastAt others position i other := by
  obtain ⟨hi, hat, hlast⟩ := hl
  obtain ⟨other, ho, hp⟩ := getElem?_of_forall₂ h hi
  refine ⟨other, ho, ?_, fun j later hj hl hlater => ?_⟩
  · unfold Annot.At at hat ⊢
    rwa [← hp]
  · obtain ⟨before, hb, hp'⟩ := getElem?_of_forall₂ h.flip hl
    refine hlast j before hj hb ?_
    unfold Annot.At at hlater ⊢
    rwa [hp']

/-- Brackets and method calls, around the expression that is looked up or around the expressions of
the annotations, do not change which annotation is the last one. -/
theorem lastAt_wraps_iff {annotations others : List Annot} {inner expr : Expr} (i : Nat)
    (hw : inner.Wraps expr)
    (h : List.Forall₂ (fun entry other => entry.expr.Wraps other.expr) annotations others) :
    (∃ other, LastAt others expr.headPosition i other) ↔
      ∃ entry, LastAt annotations inner.headPosition i entry := by
  rw [hw.headPosition_eq]
  constructor
  · rintro ⟨other, hl⟩
    exact hl.of_forall₂ (h.flip.imp fun _ _ hw => hw.headPosition_eq)
  · rintro ⟨entry, hl⟩
    exact hl.of_forall₂ (h.imp fun _ _ hw => hw.headPosition_eq.symm)

end WebDocs
