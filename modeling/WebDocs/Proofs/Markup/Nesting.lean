import WebDocs.Fragment.Artifact
import WebDocs.Proofs.Markup.PlainText

namespace WebDocs
namespace Html

/-- The characters that delimit tags and attributes. -/
def delimiters : List CodePoint := ['<', '>', '"', '\'']

/-- The start tags, each with the name that its end tag has. -/
def startTags : List (String × String) := [
  ("span", "<span>"),
  ("span", "<span class=\"catln-partial\">"),
  ("span", "<span class=\"catln-obj\">"),
  ("span", "<span class=\"catln-obj-details\">"),
  ("div", "<div class=\"catln-arm\">"),
  ("div", "<div class=\"catln-indented\">"),
  ("div", "<div class=\"catln-statement\">"),
  ("div", "<div class=\"catln-decl\">"),
  ("div", "<div class=\"catln-annot\">"),
  ("div", "<div class=\"catln-annot catln-annot-missing\">"),
  ("pre", "<pre class=\"catln-text\">"),
  ("pre", "<pre class=\"catln-code\" data-language=\"llvm\">"),
  ("code", "<code class=\"language-llvm\">"),
  ("section", "<section class=\"catln-page\">"),
  ("section", "<section class=\"catln-artifact\">"),
  ("h2", "<h2>"),
  ("details", "<details class=\"catln-outline\" open>"),
  ("summary", "<summary>"),
  ("dl", "<dl class=\"catln-outline\">"),
  ("dt", "<dt>"),
  ("dd", "<dd>"),
  ("ol", "<ol class=\"catln-outline\">"),
  ("li", "<li>")]

def endTag (name : String) : List CodePoint :=
  .scalar '<' :: .scalar '/' :: (name : Text).toList ++ [.scalar '>']

/-- An attribute value that stands for a text. -/
structure Attribute (value : List CodePoint) (text : Text) : Prop where
  inert : ∀ c ∈ value, c ∉ delimiters
  decoded : Text.Escape.decode value = text.toList

/-- Properly nested HTML, with the artifacts embedded in it, in order. -/
inductive Nested : List CodePoint → List Artifact → Prop
  | nil : Nested [] []
  | text {c : CodePoint} {rest : List CodePoint} {shown : List Artifact} (hc : c ∉ delimiters)
      (hr : Nested rest shown) : Nested (c :: rest) shown
  | element {name start : String} {inner rest : List CodePoint} {within behind : List Artifact}
      (ht : (name, start) ∈ startTags) (hi : Nested inner within) (hr : Nested rest behind) :
      Nested ((start : Text).toList ++ inner ++ endTag name ++ rest) (within ++ behind)
  | lineBreak {rest : List CodePoint} {shown : List Artifact} (hr : Nested rest shown) :
      Nested (("<br />" : Text).toList ++ rest) shown
  | frame {srcdoc title rest : List CodePoint} {artifact : Artifact} {shown : List Artifact}
      (hs : Attribute srcdoc artifact.contents) (ht : Attribute title artifact.name)
      (hr : Nested rest shown) :
      Nested (("<iframe class=\"catln-embedded\" srcdoc=\"" : Text).toList ++ srcdoc ++
        ("\" title=\"" : Text).toList ++ title ++ ("\"></iframe>" : Text).toList ++ rest)
        (artifact :: shown)

theorem Nested.append {s t : List CodePoint} {within behind : List Artifact} (hs : Nested s within)
    (ht : Nested t behind) : Nested (s ++ t) (within ++ behind) := by
  induction hs with
  | nil => exact ht
  | text hc _ ih => exact .text hc ih
  | element htag hi _ _ ih =>
    rw [List.append_assoc, @List.append_assoc Artifact]
    exact .element htag hi ih
  | lineBreak _ ih =>
    rw [List.append_assoc]
    exact .lineBreak ih
  | frame hs ht _ ih =>
    rw [List.append_assoc]
    exact .frame hs ht ih

theorem nested_text {s : List CodePoint} (h : ∀ c ∈ s, c ∉ delimiters) : Nested s [] := by
  induction s with
  | nil => exact .nil
  | cons c rest ih =>
    exact .text (h c List.mem_cons_self) (ih fun d hd => h d (List.mem_cons_of_mem _ hd))

theorem attribute_escape (s : Text) : Attribute (Markup.escape s) s where
  inert c hc hd := by
    have hc' : c = '<' ∨ c = '>' ∨ c = '"' ∨ c = '\'' := by simpa [delimiters] using hd
    exact Text.Escape.not_mem_encode hc' s.toList hc
  decoded := Text.Escape.decode_encode s.toList

/-- The start tag of an element, as characters. -/
def startTag (kind : Element) : String :=
  .ofList ('<' :: kind.name.toList ++ kind.attributes.toList ++ ['>'])

theorem openTag_eq (kind : Element) : Markup.openTag kind = (startTag kind : Text).toList := by
  simp [Markup.openTag, startTag, Text.toList_ofString]

theorem startTag_mem {kind : Element} (hk : kind ≠ .comment) :
    (kind.name, startTag kind) ∈ startTags := by
  cases kind with
  | comment => exact absurd rfl hk
  | _ => decide

theorem nested_element {kind : Element} (hk : kind ≠ .comment) {inner : List CodePoint}
    {within : List Artifact} (h : Nested inner within) :
    Nested (Markup.openTag kind ++ inner ++ Markup.closeTag kind) within := by
  have helement := Nested.element (startTag_mem hk) h .nil
  rw [← openTag_eq, List.append_nil, List.append_nil] at helement
  exact helement

end Html

namespace Fragment

open Markup Html

/-- What a fragment prints is properly nested and embeds these artifacts. -/
def Nests (fragment : Fragment) (embedded : List Artifact) : Prop :=
  Nested (charsAll fragment) embedded

theorem nests_nil : Nests [] [] := .nil

theorem Nests.append {f g : Fragment} {within behind : List Artifact} (hf : f.Nests within)
    (hg : g.Nests behind) : Nests (f ++ g) (within ++ behind) := by
  rw [Nests, charsAll_append]
  exact Nested.append hf hg

theorem nests_single {m : Markup} {embedded : List Artifact} (h : Nested m.chars embedded) :
    Nests [m] embedded := by
  rw [Nests, charsAll, charsAll, List.append_nil]
  exact h

theorem nests_text (s : Text) : Nests [.text s] [] :=
  nests_single (nested_text (attribute_escape s).inert)

theorem nests_ofText (s : Text) : Nests (ofText s) [] := by
  unfold ofText
  split
  next => exact nests_nil
  next => exact nests_text s

theorem Nests.text_cons {f : Fragment} {embedded : List Artifact} (s : Text)
    (h : f.Nests embedded) : Nests (.text s :: f) embedded :=
  (nests_text s).append h

theorem Nests.element {children : Fragment} {embedded : List Artifact} (kind : Element)
    (h : children.Nests embedded) (hk : kind ≠ .comment) : Nests [.element kind children] embedded :=
  nests_single (nested_element hk h)

theorem nests_lineBreak : Nests [.lineBreak] [] := nests_single (.lineBreak .nil)

theorem nests_frame (contents title : Text) :
    Nests [.frame contents title] [⟨title, contents⟩] := by
  have h := @Nested.frame _ _ _ ⟨title, contents⟩ _ (attribute_escape contents)
    (attribute_escape title) .nil
  rw [List.append_nil] at h
  exact nests_single h

theorem nests_join (separator : Text) {fragments : List Fragment}
    {embedded : List (List Artifact)} (h : List.Forall₂ Nests fragments embedded) :
    Nests (join separator fragments) embedded.flatten := by
  induction h with
  | nil => exact nests_nil
  | @cons f within fs rest hf hrest ih =>
    cases hrest with
    | nil =>
      rw [List.flatten_singleton]
      exact hf
    | cons hg hrest => exact hf.append (ih.text_cons separator)

theorem nests_join_nil (separator : Text) {fragments : List Fragment}
    (h : ∀ fragment ∈ fragments, fragment.Nests []) : Nests (join separator fragments) [] := by
  induction fragments with
  | nil => exact nests_nil
  | cons f rest ih =>
    have hf := h f List.mem_cons_self
    have hr := ih fun g hg => h g (List.mem_cons_of_mem _ hg)
    cases rest with
    | nil => exact hf
    | cons g rest => exact hf.append (hr.text_cons separator)

end Fragment
end WebDocs
