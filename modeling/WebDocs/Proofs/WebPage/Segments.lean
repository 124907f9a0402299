import WebDocs.PageTree

namespace WebDocs

namespace Text

variable {α : Type} [DecidableEq α] {separator : α} {s part : List α}

/-- Induction on the parts of a list. -/
theorem inductionOnParts (separator : α) {P : List α → Prop}
    (last : ∀ part, separator ∉ part → P part)
    (cut : ∀ part rest, separator ∉ part → P rest → P (part ++ separator :: rest)) (s : List α) :
    P s := by
  by_cases h : separator ∈ s
  · obtain ⟨part, rest, hs, hpart⟩ := List.eq_append_cons_of_mem h
    have hlt : rest.length < s.length := by
      rw [hs, List.length_append, List.length_cons]
      omega
    exact hs ▸ cut part rest hpart (inductionOnParts separator last cut rest)
  · exact last s h
termination_by s.length

theorem mem_of_mem_splitOn {c : α} (h : part ∈ s.splitOn separator) (hc : c ∈ part) :
    c ∈ s ∧ c ≠ separator := by
  induction s using inductionOnParts separator with
  | last first hfirst =>
    rw [List.splitOn_eq_singleton hfirst, List.mem_singleton] at h
    exact h ▸ ⟨h ▸ hc, fun e => hfirst (e ▸ h ▸ hc)⟩
  | cut first rest hfirst ih =>
    rw [List.splitOn_append_cons_self_of_not_mem hfirst, List.mem_cons] at h
    rcases h with rfl | h
    · exact ⟨List.mem_append_left _ hc, fun e => hfirst (e ▸ hc)⟩
    · exact ⟨List.mem_append_right _ (List.mem_cons_of_mem _ (ih h).1), (ih h).2⟩

/-- Leading separators are leading empty parts. -/
theorem intercalate_dropWhile_splitOn (s : List α) :
    [separator].intercalate ((s.splitOn separator).dropWhile (·.isEmpty)) =
      s.dropWhile (· = separator) := by
  have hne : ∀ {c : α} {part rest : List α}, separator ∉ c :: part →
      (c :: rest).dropWhile (· = separator) = c :: rest :=
    fun h => List.dropWhile_cons_of_neg fun e => h (of_decide_eq_true e ▸ List.mem_cons_self)
  induction s using inductionOnParts separator with
  | last part hpart =>
    rw [List.splitOn_eq_singleton hpart]
    cases part with
    | nil => rfl
    | cons c part =>
      rw [List.dropWhile_cons_of_neg Bool.false_ne_true, hne hpart, List.intercalate_singleton]
  | cut part rest hpart ih =>
    rw [List.splitOn_append_cons_self_of_not_mem hpart]
    cases part with
    | nil =>
      rw [List.dropWhile_cons_of_pos rfl, ih]
      exact (List.dropWhile_cons_of_pos (by simp)).symm
    | cons c part =>
      rw [List.dropWhile_cons_of_neg Bool.false_ne_true, List.cons_append, hne hpart,
        List.intercalate_cons_of_ne_nil (List.splitOn_ne_nil _ _), List.intercalate_splitOn,
        List.append_assoc]
      rfl

end Text

namespace PageTree

theorem joined_eq (segments : List Text) :
    joined segments = Text.ofList ([CodePoint.scalar '/'].intercalate (segments.map Text.toList)) :=
  rfl

theorem map_toList_segments (name : Text) :
    (segments name).map Text.toList = name.toList.splitOn (.scalar '/') := by
  rw [segments, List.map_map]
  exact List.map_id _

theorem joined_segments (name : Text) : joined (segments name) = name := by
  rw [joined_eq, map_toList_segments, List.intercalate_splitOn, Text.ofList_toList]

theorem segments_injective : Function.Injective segments := by
  intro a b h
  rw [← joined_segments a, h, joined_segments]

theorem segments_ne_nil (name : Text) : segments name ≠ [] := by
  intro h
  exact List.splitOn_ne_nil _ _ (List.map_eq_nil_iff.1 h)

/-- Segments that are segments of some name are those of the name they join to. -/
theorem segments_joined {segs : List Text} {name : Text} (hne : segs ≠ [])
    (h : ∀ segment ∈ segs, segment ∈ segments name) : segments (joined segs) = segs := by
  have hparts : ∀ part ∈ segs.map Text.toList, CodePoint.scalar '/' ∉ part := by
    intro part hp
    obtain ⟨segment, hm, rfl⟩ := List.mem_map.1 hp
    have hs := List.mem_map_of_mem (f := Text.toList) (h segment hm)
    rw [map_toList_segments] at hs
    exact fun hc => (Text.mem_of_mem_splitOn hs hc).2 rfl
  have hmap : ∀ parts : List Text, (parts.map Text.toList).map Text.ofList = parts := by
    intro parts
    rw [List.map_map]
    exact List.map_id _
  rw [segments, joined_eq, Text.toList_ofList,
    List.splitOn_intercalate _ hparts fun e => hne (List.map_eq_nil_iff.1 e), hmap]

@[simp] theorem joined_singleton (segment : Text) : joined [segment] = segment := by
  rw [joined_eq, List.map_singleton, List.intercalate_singleton, Text.ofList_toList]

theorem joined_cons (first : Text) {rest : List Text} (h : rest ≠ []) :
    joined (first :: rest) = first ++ "/" ++ joined rest := by
  obtain ⟨next, rest, rfl⟩ := List.exists_cons_of_ne_nil h
  exact Text.intercalate_cons_cons _ first next rest

theorem joined_append {front back : List Text} (hf : front ≠ []) (hb : back ≠ []) :
    joined (front ++ back) = joined front ++ "/" ++ joined back := by
  induction front with
  | nil => exact absurd rfl hf
  | cons first rest ih =>
    by_cases hr : rest = []
    · rw [hr, joined_singleton, List.singleton_append, joined_cons first hb]
    · have hne : rest ++ back ≠ [] := fun e => hr (List.append_eq_nil_iff.1 e).1
      rw [List.cons_append, joined_cons first hne, ih hr, joined_cons first hr]
      simp only [Text.append_assoc]

theorem append_slash_ne_empty (a b : Text) : a ++ "/" ++ b ≠ "" := by
  rw [Ne, Text.append_eq_empty_iff, Text.append_eq_empty_iff]
  exact fun h => absurd h.1.2 (by decide)

theorem foldl_pathBelow {parent : Text} (h : parent ≠ "") (segs : List Text) :
    segs.foldl pathBelow parent = joined (parent :: segs) := by
  induction segs generalizing parent with
  | nil => exact (joined_singleton parent).symm
  | cons segment rest ih =>
    have hbelow : pathBelow parent segment = parent ++ "/" ++ segment := if_neg h
    rw [List.foldl_cons, hbelow, ih (append_slash_ne_empty _ _)]
    by_cases hr : rest = []
    · rw [hr, joined_singleton, joined_cons parent (List.cons_ne_nil _ _), joined_singleton]
    · rw [joined_cons _ hr, joined_cons parent (List.cons_ne_nil _ _), joined_cons segment hr]
      simp only [Text.append_assoc]

/-- Empty segments at the start are lost in the path of an entry. -/
theorem foldl_pathBelow_empty (segs : List Text) :
    segs.foldl pathBelow "" = joined (segs.dropWhile (· = Text.ofString "")) := by
  induction segs with
  | nil => rfl
  | cons segment rest ih =>
    have hbelow : pathBelow "" segment = segment := if_pos rfl
    rw [List.foldl_cons, hbelow]
    by_cases h : segment = ""
    · rw [h, ih]
      exact congrArg joined (List.dropWhile_cons_of_pos (by simp)).symm
    · rw [foldl_pathBelow h, List.dropWhile_cons_of_neg (by simpa using h)]

/-- A name without its leading slashes. -/
def relative (name : Text) : Text := Text.ofList (name.toList.dropWhile (· = .scalar '/'))

theorem foldl_pathBelow_segments (name : Text) :
    (segments name).foldl pathBelow "" = relative name := by
  have hmap : ((segments name).dropWhile (· = Text.ofString "")).map Text.toList =
      ((segments name).map Text.toList).dropWhile (·.isEmpty) := by
    rw [List.dropWhile_map]
    congr 2
    funext segment
    rw [Bool.eq_iff_iff, Function.comp_apply, List.isEmpty_iff, Text.toList_eq_nil_iff,
      decide_eq_true_iff]
  rw [foldl_pathBelow_empty, joined_eq, hmap, map_toList_segments,
    Text.intercalate_dropWhile_splitOn, relative]

end PageTree
end WebDocs
