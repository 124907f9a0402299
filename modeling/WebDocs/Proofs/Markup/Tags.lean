import WebDocs.Proofs.Decimal.Spelling
import WebDocs.Proofs.Markup.Nesting

namespace WebDocs

/-- No tag begins in a text, and none ends in it. -/
structure AngleFree (s : List CodePoint) : Prop where
  left : .scalar '<' ∉ s
  right : .scalar '>' ∉ s

instance (s : List CodePoint) : Decidable (AngleFree s) :=
  decidable_of_iff (.scalar '<' ∉ s ∧ .scalar '>' ∉ s) ⟨fun h => ⟨h.1, h.2⟩, fun h => ⟨h.1, h.2⟩⟩

theorem AngleFree.append {s t : List CodePoint} (hs : AngleFree s) (ht : AngleFree t) :
    AngleFree (s ++ t) where
  left h := (List.mem_append.1 h).elim hs.left ht.left
  right h := (List.mem_append.1 h).elim hs.right ht.right

theorem angleFree_ofChars {s : List Char} (hl : '<' ∉ s) (hr : '>' ∉ s) :
    AngleFree (Text.ofChars s).toList :=
  ⟨Markup.scalar_not_mem hl, Markup.scalar_not_mem hr⟩

theorem angleFree_literal {s : List Char} (hl : '<' ∉ s) (hr : '>' ∉ s) :
    AngleFree (String.ofList s : Text).toList :=
  ⟨Markup.not_mem_literal hl, Markup.not_mem_literal hr⟩

/-- Escaping leaves no angle bracket if the entities of the quotes bring none. -/
theorem angleFree_encode {style : Text.Escape.Style} (hd : AngleFree style.double)
    (hs : AngleFree style.single) (s : List CodePoint) :
    AngleFree (Text.Escape.encode style s) := by
  have hchar (c : CodePoint) : AngleFree (Text.Escape.encodeChar style c) := by
    unfold Text.Escape.encodeChar
    split
    case h_4 => exact hd
    case h_5 => exact hs
    case h_6 c h₁ h₂ h₃ h₄ h₅ =>
      exact ⟨fun h => h₂ (List.mem_singleton.1 h).symm, fun h => h₃ (List.mem_singleton.1 h).symm⟩
    all_goals decide
  induction s with
  | nil => exact (by decide : AngleFree [])
  | cons c rest ih => exact (hchar c).append ih

theorem angleFree_number (n : Nat) : AngleFree (toString n : Text).toList := by
  have hdigits : Decimal.AllDigits (toString n).toList := by
    rw [Nat.toString_eq_repr, Nat.toList_repr]
    exact Decimal.allDigits_digitsOf n
  exact angleFree_ofChars (hdigits.not_mem rfl) (hdigits.not_mem rfl)

namespace Html

/-- Whether every tag passes a test. Tags are read from a place outside of tags, or from behind a
part of a tag; an open tag at the end and a `<` inside a tag do not pass. -/
def tagsPass (p : List CodePoint → Bool) : Option (List CodePoint) → List CodePoint → Bool
  | none, [] => true
  | some _, [] => false
  | none, c :: rest => if c = '<' then tagsPass p (some []) rest else tagsPass p none rest
  | some tag, c :: rest =>
    if c = '<' then false
    else if c = '>' then p tag.reverse && tagsPass p none rest
    else tagsPass p (some (c :: tag)) rest

variable {p q : List CodePoint → Bool}

/-- After a text that passes the reader stands outside of tags. -/
theorem tagsPass_append {inside : Option (List CodePoint)} {s : List CodePoint}
    (h : tagsPass p inside s = true) (t : List CodePoint) :
    tagsPass p inside (s ++ t) = tagsPass p none t := by
  induction s generalizing inside with
  | nil =>
    cases inside with
    | none => rfl
    | some tag => cases h
  | cons c rest ih =>
    rw [List.cons_append]
    cases inside with
    | none =>
      rw [tagsPass] at h ⊢
      split
      next hc => exact ih (by rwa [if_pos hc] at h)
      next hc => exact ih (by rwa [if_neg hc] at h)
    | some tag =>
      rw [tagsPass] at h ⊢
      split
      next hc =>
        rw [if_pos hc] at h
        cases h
      next hc =>
        rw [if_neg hc] at h
        split
        next hg =>
          rw [if_pos hg, Bool.and_eq_true] at h
          rw [h.1, Bool.true_and, ih h.2]
        next hg => exact ih (by rwa [if_neg hg] at h)

theorem tagsPass_mono (hpq : ∀ tag, p tag = true → q tag = true) {inside : Option (List CodePoint)}
    {s : List CodePoint} (h : tagsPass p inside s = true) : tagsPass q inside s = true := by
  induction s generalizing inside with
  | nil =>
    cases inside with
    | none => rfl
    | some tag => cases h
  | cons c rest ih =>
    cases inside with
    | none =>
      unfold tagsPass at h ⊢
      split
      next hc => exact ih (by rwa [if_pos hc] at h)
      next hc => exact ih (by rwa [if_neg hc] at h)
    | some tag =>
      unfold tagsPass at h ⊢
      split
      next hc =>
        rw [if_pos hc] at h
        cases h
      next hc =>
        rw [if_neg hc] at h
        split
        next hg =>
          rw [if_pos hg, Bool.and_eq_true] at h
          rw [hpq _ h.1, Bool.true_and, ih h.2]
        next hg => exact ih (by rwa [if_neg hg] at h)

theorem tagsPass_text {s : List CodePoint} (h : .scalar '<' ∉ s) : tagsPass p none s = true := by
  induction s with
  | nil => rfl
  | cons c rest ih =>
    rw [List.mem_cons, not_or] at h
    rw [tagsPass, if_neg fun e => h.1 e.symm]
    exact ih h.2

theorem tagsPass_literal {s : List Char} (h : tagsPass p none (Text.ofChars s).toList = true) :
    tagsPass p none (String.ofList s : Text).toList = true := by
  rwa [Text.ofString_ofList]

/-- The rest of a tag. -/
theorem tagsPass_some {s : List CodePoint} (h : AngleFree s) (tag rest : List CodePoint) :
    tagsPass p (some tag) (s ++ .scalar '>' :: rest) =
      (p (tag.reverse ++ s) && tagsPass p none rest) := by
  induction s generalizing tag with
  | nil => rw [List.nil_append, List.append_nil, tagsPass, if_neg (by decide), if_pos rfl]
  | cons c s ih =>
    obtain ⟨hl, hg⟩ := h
    rw [List.mem_cons, not_or] at hl hg
    rw [List.cons_append, tagsPass, if_neg fun e => hl.1 e.symm, if_neg fun e => hg.1 e.symm,
      ih ⟨hl.2, hg.2⟩, List.reverse_cons, List.append_assoc]
    rfl

/-- A tag anywhere in a text that passes has been tested. -/
theorem pass_of_inside {inside : Option (List CodePoint)} {text tag : List CodePoint}
    (h : tagsPass p inside text = true) (htag : AngleFree tag)
    (hi : .scalar '<' :: tag ++ [.scalar '>'] <:+: text) : p tag = true := by
  obtain ⟨front, back, rfl⟩ := hi
  induction front generalizing inside with
  | nil =>
    have htext : [] ++ (.scalar '<' :: tag ++ [.scalar '>']) ++ back =
        .scalar '<' :: (tag ++ .scalar '>' :: back) := by simp
    rw [htext] at h
    cases inside with
    | some open_ => cases h
    | none =>
      rw [tagsPass, if_pos rfl, tagsPass_some htag, Bool.and_eq_true] at h
      exact h.1
  | cons c front ih =>
    cases inside with
    | none =>
      simp only [List.cons_append, tagsPass] at h
      split at h
      next => exact ih h
      next => exact ih h
    | some open_ =>
      simp only [List.cons_append, tagsPass] at h
      split at h
      next => cases h
      next =>
        split at h
        next => exact ih (Bool.and_eq_true _ _ ▸ h).2
        next => exact ih h

/-- The start tag of the block around an error: `div class="catln-error"`. -/
def errorTag : List CodePoint := [
  'd', 'i', 'v', ' ', 'c', 'l', 'a', 's', 's', '=', '"',
  'c', 'a', 't', 'l', 'n', '-', 'e', 'r', 'r', 'o', 'r', '"']

/-- The start tag of the block that stands for a document while it is being loaded:
`div class="catln-pending"`. -/
def loadingTag : List CodePoint := [
  'd', 'i', 'v', ' ', 'c', 'l', 'a', 's', 's', '=', '"',
  'c', 'a', 't', 'l', 'n', '-', 'p', 'e', 'n', 'd', 'i', 'n', 'g', '"']

def isNot (block tag : List CodePoint) : Bool := tag ≠ block

def ordinary (tag : List CodePoint) : Bool := isNot errorTag tag && isNot loadingTag tag

theorem isNot_errorTag {tag : List CodePoint} (h : ordinary tag = true) :
    isNot errorTag tag = true :=
  (Bool.and_eq_true _ _ ▸ h).1

theorem isNot_loadingTag {tag : List CodePoint} (h : ordinary tag = true) :
    isNot loadingTag tag = true :=
  (Bool.and_eq_true _ _ ▸ h).2

/-- The tags of a text are closed, and none of them starts one of the two blocks. -/
def Clean (s : List CodePoint) : Prop := tagsPass ordinary none s = true

instance (s : List CodePoint) : Decidable (Clean s) :=
  inferInstanceAs (Decidable (tagsPass ordinary none s = true))

theorem ordinary_of_head {tag : List CodePoint} (h : tag.head? ≠ some (.scalar 'd')) :
    ordinary tag = true := by
  have hne {block : List CodePoint} (hb : block.head? = some (.scalar 'd')) :
      isNot block tag = true :=
    decide_eq_true fun he => h (he ▸ hb)
  rw [ordinary, hne (by decide), hne (by decide), Bool.and_true]

theorem clean_nil : Clean [] := rfl

theorem Clean.append {s t : List CodePoint} (hs : Clean s) (ht : Clean t) : Clean (s ++ t) :=
  (tagsPass_append hs t).trans ht

theorem clean_text {s : List CodePoint} (h : .scalar '<' ∉ s) : Clean s := tagsPass_text h

theorem clean_literal {s : List Char} (h : Clean (Text.ofChars s).toList) :
    Clean (String.ofList s : Text).toList :=
  tagsPass_literal h

theorem clean_tag {tag : List CodePoint} (h : AngleFree tag) (ho : ordinary tag = true) :
    Clean (.scalar '<' :: tag ++ [.scalar '>']) := by
  rw [Clean, List.cons_append, tagsPass, if_pos rfl, tagsPass_some h, List.reverse_nil,
    List.nil_append, ho]
  rfl

/-- A tag with attributes, named by a letter that no block of the layout begins with. -/
theorem clean_startTag (name : Text) {attributes : List CodePoint} (hn : AngleFree name.toList)
    (hd : name.toList.head? ≠ some (.scalar 'd')) (hne : name.toList ≠ [])
    (ha : AngleFree attributes) :
    Clean (.scalar '<' :: name.toList ++ attributes ++ [.scalar '>']) := by
  rw [List.cons_append]
  refine clean_tag (hn.append ha) (ordinary_of_head ?_)
  rwa [List.head?_append_of_ne_nil _ hne]

theorem clean_flatMap {α : Type} {f : α → List CodePoint} {items : List α}
    (h : ∀ item ∈ items, Clean (f item)) : Clean (items.flatMap f) := by
  induction items with
  | nil => exact clean_nil
  | cons item rest ih =>
    rw [List.flatMap_cons]
    exact (h item List.mem_cons_self).append (ih fun other hm => h other (List.mem_cons_of_mem _ hm))

theorem clean_endTag {name : String} (h : AngleFree (name : Text).toList) :
    Clean (endTag name) := by
  have hslash : AngleFree [.scalar '/'] := by decide
  exact clean_tag (hslash.append h) (ordinary_of_head (by simp))

theorem clean_startTags : ∀ entry ∈ startTags,
    Clean (entry.2 : Text).toList ∧ Clean (endTag entry.1) := by
  simp only [startTags, List.forall_mem_cons]
  repeat refine ⟨⟨clean_literal (by decide),
    clean_endTag (angleFree_literal (by decide) (by decide))⟩, ?_⟩
  exact fun _ h => nomatch h

/-- Properly nested HTML out of the tags of fragments has no block of the layout. -/
theorem Nested.clean {s : List CodePoint} {shown : List Artifact} (h : Nested s shown) :
    Clean s := by
  induction h with
  | nil => exact clean_nil
  | @text c rest _ hc _ ih =>
    have hne : .scalar '<' ∉ [c] := fun hm => hc (List.mem_singleton.1 hm ▸ by decide)
    exact (clean_text hne).append ih
  | @element name start inner rest _ _ ht _ _ hi hr =>
    obtain ⟨hs, he⟩ := clean_startTags _ ht
    exact ((hs.append hi).append he).append hr
  | @lineBreak rest _ _ ih =>
    have hbreak : Clean ("<br />" : Text).toList := clean_literal (by decide)
    exact hbreak.append ih
  | @frame srcdoc title rest _ _ hs ht _ ih =>
    have hinert {value : List CodePoint} {text : Text} (h : Attribute value text) :
        AngleFree value :=
      ⟨fun hm => h.inert _ hm (by decide), fun hm => h.inert _ hm (by decide)⟩
    have hsrcdoc : AngleFree ("iframe class=\"catln-embedded\" srcdoc=\"" : Text).toList :=
      angleFree_literal (by decide) (by decide)
    have htitle : AngleFree ("\" title=\"" : Text).toList :=
      angleFree_literal (by decide) (by decide)
    have hquote : AngleFree [.scalar '"'] := by decide
    have htag := clean_tag
      ((((hsrcdoc.append (hinert hs)).append htitle).append (hinert ht)).append hquote)
      (ordinary_of_head (by simp [Text.toList_ofString]))
    have hend : Clean ("</iframe>" : Text).toList := clean_literal (by decide)
    have h := (htag.append hend).append ih
    simpa [Text.toList_ofString] using h

end Html

namespace Fragment

open Markup Html

theorem clean_join (separator : Text) {fragments : List Fragment}
    (h : ∀ fragment ∈ fragments, Clean (charsAll fragment)) :
    Clean (charsAll (join separator fragments)) := by
  induction fragments with
  | nil => exact clean_nil
  | cons f rest ih =>
    have hf := h f List.mem_cons_self
    have hr := ih fun g hg => h g (List.mem_cons_of_mem _ hg)
    cases rest with
    | nil => exact hf
    | cons g rest =>
      have htext : Clean (charsAll [.text separator]) := by
        rw [charsAll, charsAll, List.append_nil]
        exact clean_text (Text.Escape.not_mem_encode (.inl rfl) _)
      change Clean (charsAll (f ++ ([Markup.text separator] ++ join separator (g :: rest))))
      rw [charsAll_append, charsAll_append]
      exact hf.append (htext.append hr)

theorem clean_element (kind : Element) {children : Fragment} (h : Clean (charsAll children)) :
    Clean (charsAll [.element kind children]) := by
  have htags : Clean (openTag kind) ∧ Clean (closeTag kind) := by
    by_cases hk : kind = .comment
    · rw [hk]
      exact ⟨by decide, by decide⟩
    · have h := clean_startTags _ (startTag_mem hk)
      rwa [← openTag_eq] at h
  rw [charsAll, charsAll, List.append_nil, chars_element]
  exact (htags.1.append h).append htags.2

end Fragment
end WebDocs
