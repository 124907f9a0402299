import Mathlib.Data.List.Forall2
import WebDocs.Markup.Basic

namespace WebDocs

namespace Text.Escape

/-- Undoes the five entities of fragments, once, from left to right. -/
def decode : List CodePoint → List CodePoint
  | '&' :: 'a' :: 'm' :: 'p' :: ';' :: rest => '&' :: decode rest
  | '&' :: 'l' :: 't' :: ';' :: rest => '<' :: decode rest
  | '&' :: 'g' :: 't' :: ';' :: rest => '>' :: decode rest
  | '&' :: 'q' :: 'u' :: 'o' :: 't' :: ';' :: rest => '"' :: decode rest
  | '&' :: '#' :: 'x' :: '2' :: '7' :: ';' :: rest => '\'' :: decode rest
  | c :: rest => c :: decode rest
  | [] => []

theorem decode_cons {c : CodePoint} (h : c ≠ '&') (rest : List CodePoint) :
    decode (c :: rest) = c :: decode rest := by
  conv_lhs => unfold decode
  split <;> simp_all

theorem decode_encodeChar (c : CodePoint) (rest : List CodePoint) :
    decode (encodeChar html c ++ rest) = c :: decode rest := by
  unfold encodeChar
  split
  case h_6 c h _ _ _ _ => exact decode_cons h rest
  all_goals rfl

theorem decode_encode (s : List CodePoint) : decode (encode html s) = s := by
  induction s with
  | nil => rfl
  | cons c rest ih =>
    have h := decode_encodeChar c (encode html rest)
    rw [ih] at h
    exact h

@[simp] theorem encode_nil (style : Style) : encode style [] = [] := rfl

theorem encode_append (style : Style) (s t : List CodePoint) :
    encode style (s ++ t) = encode style s ++ encode style t := List.flatMap_append ..

/-- Escaped text holds none of the characters that could end it. -/
theorem not_mem_encode {c : CodePoint} (h : c = '<' ∨ c = '>' ∨ c = '"' ∨ c = '\'')
    (s : List CodePoint) : c ∉ encode html s := by
  intro hc
  obtain ⟨d, _, hd⟩ := List.mem_flatMap.1 hc
  unfold encodeChar at hd
  split at hd
  case h_6 d h₁ h₂ h₃ h₄ h₅ =>
    obtain rfl := List.mem_singleton.1 hd
    simp_all
  all_goals rcases h with rfl | rfl | rfl | rfl <;> revert hd <;> decide

end Text.Escape

namespace Markup

/-- The text outside of tags, from a place inside a tag or outside. A `<` opens a tag if there is a
`>` behind it, and the first one closes it. -/
def outside : Bool → List CodePoint → List CodePoint
  | _, [] => []
  | true, c :: rest => outside (c ≠ '>') rest
  | false, c :: rest =>
    if c = '<' ∧ .scalar '>' ∈ rest then outside true rest else c :: outside false rest

def stripTags : List CodePoint → List CodePoint := outside false

theorem outside_true (s rest : List CodePoint) (h : .scalar '>' ∉ s) :
    outside true (s ++ .scalar '>' :: rest) = stripTags rest := by
  induction s with
  | nil => simp [outside, stripTags]
  | cons c s ih =>
    have hc : c ≠ .scalar '>' := fun e => h (e ▸ List.mem_cons_self)
    simp only [List.cons_append, outside, hc, ne_eq, not_false_eq_true, decide_true]
    exact ih fun hs => h (List.mem_cons_of_mem _ hs)

theorem stripTags_tag (s rest : List CodePoint) (h : .scalar '>' ∉ s) :
    stripTags ('<' :: (s ++ .scalar '>' :: rest)) = stripTags rest := by
  have hm : .scalar '>' ∈ s ++ .scalar '>' :: rest := by simp
  rw [stripTags, outside, if_pos ⟨rfl, hm⟩]
  exact outside_true s rest h

theorem stripTags_text (s rest : List CodePoint) (h : .scalar '<' ∉ s) :
    stripTags (s ++ rest) = s ++ stripTags rest := by
  induction s with
  | nil => rfl
  | cons c s ih =>
    have hc : ¬(c = '<' ∧ .scalar '>' ∈ s ++ rest) := fun e => h (e.1 ▸ List.mem_cons_self)
    rw [List.cons_append, stripTags, outside, if_neg hc, List.cons_append]
    exact congrArg (c :: ·) (ih fun hs => h (List.mem_cons_of_mem _ hs))

theorem scalar_not_mem {c : Char} {s : List Char} (h : c ∉ s) :
    .scalar c ∉ (Text.ofChars s).toList := by
  intro hc
  obtain ⟨d, hd, he⟩ := List.mem_map.1 hc
  exact h (CodePoint.scalar_injective he ▸ hd)

/-- The characters of a literal are those it is written with. -/
theorem not_mem_literal {c : Char} {s : List Char} (h : c ∉ s) :
    .scalar c ∉ (String.ofList s : Text).toList := by
  rw [Text.ofString_ofList]
  exact scalar_not_mem h

theorem not_mem_name (kind : Element) : .scalar '>' ∉ (kind.name : Text).toList := by
  cases kind <;> exact not_mem_literal (by decide)

theorem not_mem_attributes (kind : Element) : .scalar '>' ∉ (kind.attributes : Text).toList := by
  cases kind <;> exact not_mem_literal (by decide)

theorem stripTags_openTag (kind : Element) (rest : List CodePoint) :
    stripTags (openTag kind ++ rest) = stripTags rest := by
  have h : .scalar '>' ∉ (kind.name : Text).toList ++ (kind.attributes : Text).toList := by
    simp only [List.mem_append, not_mem_name, not_mem_attributes, or_self, not_false_eq_true]
  simpa [openTag] using stripTags_tag _ rest h

theorem stripTags_closeTag (kind : Element) (rest : List CodePoint) :
    stripTags (closeTag kind ++ rest) = stripTags rest := by
  have hslash : .scalar '>' ≠ CodePoint.scalar '/' := by decide
  have h : .scalar '>' ∉ .scalar '/' :: (kind.name : Text).toList :=
    List.not_mem_cons_of_ne_of_not_mem hslash (not_mem_name kind)
  simpa [closeTag] using stripTags_tag _ rest h

end Markup

namespace Fragment

open Markup

/-- A fragment adds this text, escaped, to what is left of a page without its tags. -/
def Shows (fragment : Fragment) (s : List CodePoint) : Prop :=
  ∀ rest, stripTags (charsAll fragment ++ rest) =
    Text.Escape.encode Text.Escape.html s ++ stripTags rest

/-- Undoing the entities of a fragment without its tags gives its text. -/
theorem Shows.decode_stripTags {fragment : Fragment} {s : List CodePoint} (h : fragment.Shows s) :
    Text.Escape.decode (stripTags fragment.html.toList) = s := by
  have he := h []
  simp only [List.append_nil, stripTags, outside] at he
  rw [Fragment.html, Text.toList_ofList, stripTags, he, Text.Escape.decode_encode]

theorem shows_nil : Shows [] [] := fun _ => rfl

theorem Shows.append {f g : Fragment} {s t : List CodePoint} (hf : f.Shows s) (hg : g.Shows t) :
    Shows (f ++ g) (s ++ t) := by
  intro rest
  rw [charsAll_append, List.append_assoc, hf, hg, Text.Escape.encode_append, List.append_assoc]

theorem shows_single {m : Markup} {s : List CodePoint}
    (h : ∀ rest, stripTags (m.chars ++ rest) =
      Text.Escape.encode Text.Escape.html s ++ stripTags rest) :
    Shows [m] s := by
  intro rest
  simpa [charsAll] using h rest

theorem shows_text (s : Text) : Shows [.text s] s.toList :=
  shows_single fun rest => stripTags_text _ rest (Text.Escape.not_mem_encode (.inl rfl) _)

theorem shows_ofText (s : Text) : Shows (ofText s) s.toList := by
  unfold ofText
  split
  next h => subst h; exact shows_nil
  next => exact shows_text s

theorem Shows.text_cons {f : Fragment} {t : List CodePoint} (s : Text) (h : f.Shows t) :
    Shows (.text s :: f) (s.toList ++ t) := (shows_text s).append h

theorem Shows.element {children : Fragment} {s : List CodePoint} (kind : Element)
    (h : children.Shows s) : Shows [.element kind children] s := by
  refine shows_single fun rest => ?_
  rw [chars_element, List.append_assoc, List.append_assoc, stripTags_openTag, h,
    stripTags_closeTag]

theorem shows_lineBreak : Shows [.lineBreak] [] := by
  refine shows_single fun rest => ?_
  simpa [chars_lineBreak, Text.toList_ofString] using
    stripTags_tag ("br /" : Text).toList rest (by decide)

/-- The contents and the title of an embedded page stand in attributes and are no text. -/
theorem shows_frame (contents title : Text) : Shows [.frame contents title] [] := by
  refine shows_single fun rest => ?_
  have hc : .scalar '>' ∉ escape contents := Text.Escape.not_mem_encode (.inr (.inl rfl)) _
  have ht : .scalar '>' ∉ escape title := Text.Escape.not_mem_encode (.inr (.inl rfl)) _
  have h : .scalar '>' ∉ ("iframe class=\"catln-embedded\" srcdoc=\"" : Text).toList ++
      escape contents ++ ("\" title=\"" : Text).toList ++ escape title ++ [.scalar '"'] := by
    simp [hc, ht, Text.toList_ofString]
  have hopen := stripTags_tag _ (("</iframe>" : Text).toList ++ rest) h
  have hclose : stripTags (("</iframe>" : Text).toList ++ rest) = stripTags rest := by
    simpa [Text.toList_ofString] using stripTags_tag ("/iframe" : Text).toList rest (by decide)
  rw [hclose] at hopen
  simpa [chars_frame, Text.toList_ofString] using hopen

theorem shows_join (separator : Text) {fragments : List Fragment} {texts : List (List CodePoint)}
    (h : List.Forall₂ Shows fragments texts) :
    Shows (join separator fragments) (List.intercalate separator.toList texts) := by
  induction h with
  | nil => exact shows_nil
  | @cons f s fs ss hf hrest ih =>
    cases hrest with
    | nil => simpa [join, List.intercalate] using hf
    | cons hg hrest =>
      have hj := hf.append (ih.text_cons separator)
      simpa [join, List.intercalate] using hj

end Fragment
end WebDocs
