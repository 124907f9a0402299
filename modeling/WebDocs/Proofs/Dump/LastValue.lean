import WebDocs.Proofs.Dump.Recorded

namespace WebDocs

open Classical in
/-- The value of the last annotation at a position, if there is one there. -/
noncomputable def lastValue? (annotations : List Annot) (position : Json) : Option Val :=
  (annotations.filter (·.At position)).getLast?.map (·.value)

variable {position : Json}

theorem PositionIndex.lookup_eq_lastValue? {annotations : List Annot} (hr : Rooted annotations)
    (hu : UnsplitPositions annotations) (hp : position.Unsplit) :
    (ofAnnotations annotations).lookup position = lastValue? annotations position := by
  induction annotations using List.reverseRecOn with
  | nil => cases position <;> rfl
  | append_singleton rest entry ih =>
    have hentry : entry.position = entry.expr.headPosition :=
      hr entry (List.mem_append_right _ List.mem_cons_self)
    have hunsplit : entry.position.Unsplit :=
      hu entry (List.mem_append_right _ List.mem_cons_self)
    have hrest : Rooted rest := fun e he => hr e (List.mem_append_left _ he)
    have hurest : UnsplitPositions rest := fun e he => hu e (List.mem_append_left _ he)
    rw [ofAnnotations_append, lastValue?, List.filter_append]
    by_cases hat : entry.At position
    · rw [lookup_add_of_at hentry hat, List.filter_cons_of_pos (by simpa using hat),
        List.filter_nil, List.getLast?_concat]
      rfl
    · rw [lookup_add_of_not_at hentry hunsplit hp hat, ih hrest hurest,
        List.filter_cons_of_neg (by simpa using hat), List.filter_nil, List.append_nil]
      rfl

/-- Two lists of annotations between which annotations at different positions were put in another
order, and annotations were added or taken away that are at none of the positions that are asked
for. -/
inductive Unnoticed (asked : Json → Prop) : List Annot → List Annot → Prop
  | refl (annotations : List Annot) : Unnoticed asked annotations annotations
  | swap {before after : List Annot} {first second : Annot}
      (h : ∀ position, first.At position → ¬second.At position) :
      Unnoticed asked (before ++ first :: second :: after) (before ++ second :: first :: after)
  | add {before after : List Annot} {entry : Annot}
      (h : ∀ position, asked position → ¬entry.At position) :
      Unnoticed asked (before ++ after) (before ++ entry :: after)
  | symm {annotations others : List Annot} (h : Unnoticed asked annotations others) :
      Unnoticed asked others annotations
  | trans {annotations others more : List Annot} (h : Unnoticed asked annotations others)
      (h' : Unnoticed asked others more) : Unnoticed asked annotations more

variable {asked : Json → Prop}

open Classical in
/-- The annotations at a position that is asked for are the same, in the same order. -/
theorem Unnoticed.filter_eq (ha : asked position) {annotations others : List Annot}
    (h : Unnoticed asked annotations others) :
    annotations.filter (·.At position) = others.filter (·.At position) := by
  induction h with
  | refl annotations => rfl
  | @swap before after first second h =>
    have hat := h position
    by_cases hf : first.At position
    · simp [hf, hat hf]
    · simp [List.filter_cons, hf]
  | add h => simp [h position ha]
  | symm _ ih => exact ih.symm
  | trans _ _ ih ih' => exact ih.trans ih'

theorem Unnoticed.lastValue?_eq (ha : asked position) {annotations others : List Annot}
    (h : Unnoticed asked annotations others) :
    lastValue? annotations position = lastValue? others position := by
  rw [lastValue?, lastValue?, h.filter_eq ha]

end WebDocs
