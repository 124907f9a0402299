import WebDocs.Markdown.Html
import WebDocs.Proofs.Markup.Tags

namespace WebDocs.Markdown.Html

open WebDocs.Html

theorem angleFree_escape (s : List CodePoint) : AngleFree (escape s) :=
  angleFree_encode (by decide) (by decide) s

theorem clean_escape (s : List CodePoint) : Clean (escape s) := clean_text (angleFree_escape s).left

theorem angleFree_withValue {name : String} (h : AngleFree (name : Text).toList)
    (value : List CodePoint) :
    AngleFree (withValue name value) := by
  have hblank : AngleFree [.scalar ' '] := by decide
  have hequals : AngleFree ("=\"" : Text).toList := by decide
  have hquote : AngleFree [.scalar '"'] := by decide
  exact (((hblank.append h).append hequals).append (angleFree_escape value)).append hquote

theorem angleFree_titleOf (target : Target) : AngleFree (titleOf target) := by
  unfold titleOf
  split
  next => decide
  next => exact angleFree_withValue (by decide) _

/-- An element whose name no block of the layout has. -/
theorem clean_element {name : String} {content : List CodePoint}
    (hn : AngleFree (name : Text).toList) (hd : (name : Text).toList.head? ≠ some (.scalar 'd'))
    (hc : Clean content) : Clean (element name content) := by
  have hslash : AngleFree [.scalar '/'] := by decide
  have hstart := clean_tag hn (ordinary_of_head hd)
  have hend := clean_tag (hslash.append hn) (ordinary_of_head (by simp))
  have h := (hstart.append hc).append hend
  simpa [element, Text.toList_ofString] using h

mutual

theorem inline_clean : (i : Inline) → Clean (inline i)
  | .plain c => clean_escape [c]
  | .literal text => clean_escape text
  | .code text => clean_element (by decide) (by decide) (clean_escape text)
  | .softBreak => by decide
  | .hardBreak => by decide
  | .emphasis _ content =>
    clean_element (by decide) (by decide) (inlines_clean content)
  | .strong content => clean_element (by decide) (by decide) (inlines_clean content)
  | .link target content => by
    have haddress : AngleFree (withValue "href" target.address) :=
      angleFree_withValue (by decide) _
    have hstart := clean_startTag "a" (by decide) (by decide) (by decide)
      (haddress.append (angleFree_titleOf target))
    have hend : Clean ("</a>" : Text).toList := by decide
    have h := (hstart.append (inlines_clean content)).append hend
    rwa [← List.append_assoc (.scalar '<' :: ("a" : Text).toList)] at h
  | .image target content => by
    have haddress : AngleFree (withValue "src" target.address) :=
      angleFree_withValue (by decide) _
    have halternative : AngleFree (withValue "alt" (Inline.alternativeAll false content)) :=
      angleFree_withValue (by decide) _
    have hslash : AngleFree (" /" : Text).toList := by decide
    have h := clean_startTag "img" (by decide) (by decide) (by decide)
      (((haddress.append halternative).append (angleFree_titleOf target)).append hslash)
    have hclose : (" />" : Text).toList = (" /" : Text).toList ++ [.scalar '>'] := rfl
    simp only [← List.append_assoc] at h
    rw [List.append_assoc _ (" /" : Text).toList, ← hclose] at h
    exact h

theorem inlines_clean : (content : List Inline) → Clean (inlines content)
  | [] => clean_nil
  | first :: rest => (inline_clean first).append (inlines_clean rest)

end

theorem clean_codeBlock (info text : List CodePoint) : Clean (codeBlock info text) := by
  have hclass : AngleFree (if info.isEmpty then [] else
      withValue "class" (("language-" : Text).toList ++ info.takeWhile (!isTextBlank ·))) := by
    split
    next => decide
    next => exact angleFree_withValue (by decide) _
  have hpre : Clean ("<pre>" : Text).toList := by decide
  have hcode := clean_startTag "code" (by decide) (by decide) (by decide) hclass
  have hend : Clean ("</code></pre>\n" : Text).toList := by decide
  exact ((hpre.append hcode).append (clean_escape text)).append hend

theorem clean_lineEnd (afterBare : Bool) : Clean (lineEnd afterBare) := by
  cases afterBare <;> decide

theorem clean_opening (tight : Bool) (blocks : List Block) : Clean (opening tight blocks) := by
  unfold opening
  split
  next => exact clean_nil
  next => cases tight <;> decide
  next => decide

theorem angleFree_headingName (level : Nat) :
    AngleFree (block.headingName level : Text).toList := by
  rw [block.headingName, Text.ofString_append, Text.toList_append]
  exact AngleFree.append (by decide) (angleFree_number level)

section

variable (definitions : List Definition)

mutual

theorem block_clean (tight afterBare : Bool) : (b : Block) →
    Clean (block definitions tight afterBare b)
  | .paragraph text => by
    have htext := inlines_clean (Phrase.read definitions text)
    unfold block
    split
    next => exact htext
    next => exact (clean_element (by decide) (by decide) htext).append (by decide)
  | .heading level text => by
    have htext := inlines_clean (Phrase.read definitions text)
    have hheading := clean_element (angleFree_headingName level)
      (by
        rw [block.headingName, Text.ofString_append, Text.toList_append]
        simp [Text.toList_ofString])
      htext
    exact ((clean_lineEnd afterBare).append hheading).append (by decide)
  | .rule => (clean_lineEnd afterBare).append (by decide)
  | .code info text => clean_codeBlock info text
  | .quote content => by
    have hcontent := (clean_opening false content).append (blocks_clean false false content)
    have hquote : Clean (element "blockquote" _) :=
      clean_element (by decide) (by decide) hcontent
    exact ((clean_lineEnd afterBare).append hquote).append (by decide)
  | .list none itemsTight content => by
    have hstart : Clean ("<ul>\n" : Text).toList := by decide
    exact (((clean_lineEnd afterBare).append hstart).append
      (items_clean itemsTight content)).append (by decide)
  | .list (some start) itemsTight content => by
    have hnumber : AngleFree
        (if start = 1 then [] else withValue "start" (toString start : Text).toList) := by
      split
      next => decide
      next => exact angleFree_withValue (by decide) _
    have hopen := clean_startTag "ol" (by decide) (by decide) (by decide)
      hnumber
    have hline : Clean [.scalar '\n'] := by decide
    have hclose : (">\n" : Text).toList = [.scalar '>'] ++ [.scalar '\n'] := rfl
    have hend : Clean ("</ol>\n" : Text).toList := by decide
    have h := ((((clean_lineEnd afterBare).append hopen).append hline).append
      (items_clean itemsTight content)).append hend
    simp only [← List.append_assoc] at h
    rw [List.append_assoc _ [CodePoint.scalar '>'], ← hclose] at h
    exact h
  | .definition _ => clean_nil

theorem blocks_clean (tight afterBare : Bool) : (content : List Block) →
    Clean (blocks definitions tight afterBare content)
  | [] => clean_nil
  | first :: rest => (block_clean tight afterBare first).append (blocks_clean tight _ rest)

theorem items_clean (tight : Bool) : (content : List (List Block)) →
    Clean (items definitions tight content)
  | [] => clean_nil
  | first :: rest => by
    have hitem : Clean (element "li" _) := clean_element (by decide) (by decide)
      ((clean_opening tight first).append (blocks_clean tight false first))
    have hline : Clean [.scalar '\n'] := by decide
    have h := hitem.append (hline.append (items_clean tight rest))
    simpa [items] using h

end

end

end Html

theorem clean_toHtml (s : Text) : WebDocs.Html.Clean (toHtml s).toList := by
  rw [toHtml, Text.toList_ofList]
  exact Html.blocks_clean _ false false _

end WebDocs.Markdown
