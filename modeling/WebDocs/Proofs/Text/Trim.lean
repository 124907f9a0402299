import Mathlib.Data.List.DropRight
import WebDocs.Text.Blank

namespace WebDocs.Text

variable {α : Type} {p : α → Bool}

theorem dropEndWhile_eq_rdropWhile (p : α → Bool) (s : List α) :
    dropEndWhile p s = s.rdropWhile p :=
  rfl

theorem dropEndWhile_eq_self {s : List α} (h : ∀ c ∈ s, p c = false) : dropEndWhile p s = s :=
  List.rdropWhile_eq_self_iff.2 fun hs => Bool.eq_false_iff.1 (h _ (List.getLast_mem hs))

theorem dropEndWhile_append {s t : List α} (h : ∀ c ∈ t, p c = true) :
    dropEndWhile p (s ++ t) = dropEndWhile p s := by
  rw [dropEndWhile, List.reverse_append, List.dropWhile_append_of_pos]
  · rfl
  · exact fun c hc => h c (List.mem_reverse.1 hc)

/-- A text without characters of the class is found between any that have them. -/
theorem trimBy_frame {before body after : List α} (hb : ∀ c ∈ before, p c = true)
    (h : ∀ c ∈ body, p c = false) (ha : ∀ c ∈ after, p c = true) :
    trimBy p (before ++ body ++ after) = body := by
  rw [trimBy, List.append_assoc, List.dropWhile_append_of_pos hb]
  cases body with
  | nil =>
    have hnil : after.dropWhile p = [] := List.dropWhile_eq_nil_iff.2 ha
    rw [List.nil_append, hnil]
    rfl
  | cons c rest =>
    have hc : ¬p c = true := Bool.eq_false_iff.1 (h c List.mem_cons_self)
    rw [List.cons_append, List.dropWhile_cons_of_neg hc, ← List.cons_append, dropEndWhile_append ha,
      dropEndWhile_eq_self h]

/-- Only characters of the class are cut off. -/
theorem exists_trimBy_frame (p : α → Bool) (s : List α) :
    ∃ before after, s = before ++ trimBy p s ++ after ∧ (∀ c ∈ before, p c = true) ∧
      ∀ c ∈ after, p c = true := by
  refine ⟨s.takeWhile p, (s.dropWhile p).rtakeWhile p, ?_, fun c hc => List.mem_takeWhile_imp hc,
    fun c hc => List.mem_rtakeWhile_imp hc⟩
  rw [List.append_assoc, trimBy, dropEndWhile_eq_rdropWhile, List.rdropWhile_append_rtakeWhile,
    List.takeWhile_append_dropWhile]

end WebDocs.Text
