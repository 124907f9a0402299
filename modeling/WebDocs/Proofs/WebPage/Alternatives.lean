import WebDocs.Proofs.Markup.Tags
import WebDocs.Proofs.WebPage.Assembly

namespace WebDocs
namespace WebPage

open Html

/-- What stands before the content of a page. -/
def front (page : WebPage) : List CodePoint :=
  head page.title page.dark ++ lines ("<body>" :: navigation) ++
  lines ["  <div class=\"catln-layout\">"] ++ tocChars page.toc ++
  lines ["    <main>"] ++ ("      <h1>" : Text).toList ++ escape page.title ++ lines ["</h1>"]

def back : List CodePoint :=
  lines ["    </main>", "  </div>", "</body>"] ++ ("</html>" : Text).toList

theorem chars_eq (page : WebPage) : page.chars = page.front ++ contentChars page.content ++ back := by
  rw [back, ← List.append_assoc]
  rfl

theorem angleFree_escape (s : Text) : AngleFree (escape s) :=
  angleFree_encode (by decide) (by decide) s.toList

theorem clean_escape (s : Text) : Clean (escape s) := clean_text (angleFree_escape s).left

theorem clean_lines {ls : List String} (h : ∀ l ∈ ls, Clean (l : Text).toList) :
    Clean (lines ls) := by
  have hline : Clean [.scalar '\n'] := by decide
  exact clean_flatMap fun l hl => (h l hl).append hline

theorem clean_line {s : List Char} (h : Clean (Text.ofChars s).toList) :
    Clean (lines [String.ofList s]) :=
  clean_lines (List.forall_mem_singleton.2 (clean_literal h))

theorem clean_lines_cons {s : List Char} {ls : List String} (h : Clean (Text.ofChars s).toList)
    (hr : Clean (lines ls)) : Clean (lines (String.ofList s :: ls)) := by
  have hline : Clean [.scalar '\n'] := by decide
  exact ((clean_literal h).append hline).append hr

theorem clean_rule {selector declarations : String} (hs : Clean (selector : Text).toList)
    (hd : Clean (declarations : Text).toList) :
    Clean (rule selector declarations : Text).toList := by
  simp only [rule, Text.ofString_append, Text.toList_append]
  have hindent : Clean ("    " : Text).toList := clean_literal (by decide)
  have hopen : Clean (" \x7b " : Text).toList := clean_literal (by decide)
  have hclose : Clean (" \x7d" : Text).toList := clean_literal (by decide)
  exact (((hindent.append hs).append hopen).append hd).append hclose

theorem clean_style : ∀ l ∈ style, Clean (l : Text).toList := by
  simp only [style, List.forall_mem_cons]
  and_intros
  all_goals first
    | exact clean_rule (clean_literal (by decide)) (clean_literal (by decide))
    | exact fun _ h => nomatch h

theorem clean_head (title : Text) (dark : Bool) : Clean (head title dark) := by
  have hroot : Clean (lines ["<!DOCTYPE html>"] ++ ("<html lang=\"en\" class=\"" : Text).toList ++
      (if dark then ("catln-dark" : Text) else "catln-light").toList ++
      lines ["\">", "<head>", "  <meta charset=\"utf-8\" />",
        "  <meta name=\"viewport\" content=\"width=device-width, initial-scale=1\" />"]) := by
    cases dark <;> decide +kernel
  have htitle : Clean ("  <title>" : Text).toList := clean_literal (by decide)
  have hstart : Clean (lines [" - Catln WebDocs</title>", "  <style>"]) :=
    clean_lines_cons (by decide) (clean_line (by decide))
  have hend : Clean (lines ["  </style>", "</head>"]) :=
    clean_lines_cons (by decide) (clean_line (by decide))
  have hsheet := (hstart.append (clean_lines clean_style)).append hend
  have hlines : lines (" - Catln WebDocs</title>" :: "  <style>" :: style ++
      ["  </style>", "</head>"]) =
      lines [" - Catln WebDocs</title>", "  <style>"] ++ lines style ++
        lines ["  </style>", "</head>"] := by
    simp only [lines, List.flatMap_cons, List.flatMap_append, List.flatMap_nil, List.cons_append,
      List.append_assoc, List.nil_append]
  rw [← hlines] at hsheet
  exact ((hroot.append htitle).append (clean_escape title)).append hsheet

theorem clean_label (item : TocItem) : Clean (TocItem.label item) := by
  unfold TocItem.label
  split
  next href _ =>
    have hquote : AngleFree [.scalar '"'] := by decide
    have hopen := clean_startTag "a href=\"" (angleFree_literal (by decide) (by decide))
      (by simp [Text.toList_ofString]) (by simp [Text.toList_ofString])
      ((angleFree_escape href).append hquote)
    have hend : Clean ("</a>" : Text).toList := clean_literal (by decide)
    have hclose : ("\">" : Text).toList = [CodePoint.scalar '"'] ++ [.scalar '>'] := rfl
    have h := (hopen.append (clean_escape item.name)).append hend
    rw [← List.append_assoc, List.append_assoc _ [CodePoint.scalar '"'], ← hclose] at h
    exact h
  next => exact (clean_escape item.name).append (by decide)

theorem clean_row (item : TocItem) : Clean (TocItem.chars item) := by
  have hunit : AngleFree ("em\"" : Text).toList := angleFree_literal (by decide) (by decide)
  have hcurrent :
      AngleFree (if item.current then (" class=\"catln-current\"" : Text).toList else []) := by
    split
    next => exact angleFree_literal (by decide) (by decide)
    next => decide
  have hopen := clean_startTag "li style=\"margin-left: "
    (angleFree_literal (by decide) (by decide))
    (by simp [Text.toList_ofString]) (by simp [Text.toList_ofString])
    (((angleFree_number item.depth).append hunit).append hcurrent)
  have hindent : Clean ("        " : Text).toList := clean_literal (by decide)
  have hline : Clean [.scalar '\n'] := by decide
  have hend : Clean (lines ["        </li>"]) := clean_line (by decide)
  have hstart : ("        <li style=\"margin-left: " : Text).toList =
      ("        " : Text).toList ++
        CodePoint.scalar '<' :: ("li style=\"margin-left: " : Text).toList := rfl
  have h := (((hindent.append hopen).append hline).append (clean_label item)).append hend
  simp only [← List.append_assoc] at h
  rw [← hstart, List.append_assoc _ [CodePoint.scalar '>']] at h
  exact h

theorem clean_tocChars (toc : List TocItem) : Clean (tocChars toc) := by
  have hstart : Clean (lines ["    <nav class=\"catln-toc\">", "      <ul>"]) :=
    clean_lines_cons (by decide) (clean_line (by decide))
  have hend : Clean (lines ["      </ul>", "    </nav>"]) :=
    clean_lines_cons (by decide) (clean_line (by decide))
  unfold tocChars
  split
  next => exact clean_nil
  next => exact (hstart.append (clean_flatMap fun item _ => clean_row item)).append hend

theorem clean_navigation : Clean (lines navigation) := by
  refine clean_lines ?_
  simp only [navigation, List.forall_mem_cons]
  repeat refine ⟨clean_literal (by decide), ?_⟩
  exact fun _ h => nomatch h

theorem clean_front (page : WebPage) : Clean page.front := by
  have hnavigation : Clean (lines ("<body>" :: navigation)) :=
    clean_lines_cons (by decide) clean_navigation
  have hlayout : Clean (lines ["  <div class=\"catln-layout\">"]) := clean_line (by decide)
  have hmain : Clean (lines ["    <main>"]) := clean_line (by decide)
  have hheading : Clean ("      <h1>" : Text).toList := clean_literal (by decide)
  have hend : Clean (lines ["</h1>"]) := clean_line (by decide)
  have htoc := (((clean_head page.title page.dark).append hnavigation).append hlayout).append
    (clean_tocChars page.toc)
  exact (((htoc.append hmain).append hheading).append (clean_escape page.title)).append hend

theorem clean_back : Clean back :=
  (clean_lines_cons (by decide) (clean_lines_cons (by decide) (clean_line (by decide)))).append
    (clean_literal (by decide))

theorem clean_notesChars (notes : List Text) : Clean (notesChars notes) := by
  have hstart : Clean (lines ["      <ul class=\"catln-notes\">"]) := clean_line (by decide)
  have hend : Clean (lines ["      </ul>"]) := clean_line (by decide)
  have hitem : Clean ("        <li>" : Text).toList := clean_literal (by decide)
  have hclose : Clean (lines ["</li>"]) := clean_line (by decide)
  have hnote (note : Text) : Clean (noteChars note) :=
    (hitem.append (clean_escape note)).append hclose
  unfold notesChars
  split
  next => exact clean_nil
  next => exact (hstart.append (clean_flatMap fun note _ => hnote note)).append hend

/-- The block that the layout has for a content. -/
def block : Content → List CodePoint
  | .error message => errorChars message
  | .loading => loadingChars
  | .shown notes body => bodyChars notes body

/-- What becomes of a content: an error without words is taken for none, and nothing is shown. -/
def settled : Content → Content
  | .error message => if message = "" then .shown [] [] else .error message
  | content => content

theorem settled_eq_error {content : Content} {message : Text} :
    settled content = .error message ↔ message ≠ "" ∧ content = .error message := by
  cases content with
  | error other =>
    rw [settled]
    split
    next ho => exact ⟨fun h => (nomatch h), fun ⟨hm, h⟩ => absurd ho (by cases h; exact hm)⟩
    next ho => exact ⟨fun h => ⟨by cases h; exact ho, h⟩, fun h => h.2⟩
  | _ => exact ⟨fun h => (nomatch h), fun h => (nomatch h.2)⟩

theorem settled_eq_loading {content : Content} : settled content = .loading ↔ content = .loading := by
  cases content with
  | error message =>
    rw [settled]
    split <;> exact ⟨fun h => (nomatch h), fun h => (nomatch h)⟩
  | _ => exact Iff.rfl

theorem settled_eq_shown {content : Content} :
    (∃ notes body, settled content = .shown notes body) ↔
      (∃ notes body, content = .shown notes body) ∨ content = .error "" := by
  cases content with
  | error message =>
    rw [settled]
    split
    next hm => exact ⟨fun _ => .inr (hm ▸ rfl), fun _ => ⟨[], [], rfl⟩⟩
    next hm =>
      refine ⟨fun ⟨_, _, h⟩ => (nomatch h), fun h => ?_⟩
      rcases h with ⟨_, _, h⟩ | h
      · cases h
      · cases h
        exact absurd rfl hm
  | loading =>
    refine ⟨fun ⟨_, _, h⟩ => (nomatch h), fun h => ?_⟩
    rcases h with ⟨_, _, h⟩ | h
    · cases h
    · cases h
  | shown notes body => exact ⟨fun h => .inl h, fun _ => ⟨notes, body, rfl⟩⟩

theorem contentChars_eq (content : Content) : contentChars content = block (settled content) := by
  cases content with
  | error message =>
    rw [contentChars, settled]
    split <;> rfl
  | _ => rfl

/-- Of the three blocks of the layout, a page contains the one of this content and no other. -/
structure Shows (page : WebPage) (content : Content) : Prop where
  middle : page.chars = page.front ++ block content ++ back
  error : ("<div class=\"catln-error\">" : Text).toList <:+: page.chars ↔
    ∃ message, content = .error message
  loading : ("<div class=\"catln-pending\">" : Text).toList <:+: page.chars ↔ content = .loading

theorem errorTag_eq : ("<div class=\"catln-error\">" : Text).toList =
    CodePoint.scalar '<' :: errorTag ++ [.scalar '>'] :=
  rfl

theorem loadingTag_eq : ("<div class=\"catln-pending\">" : Text).toList =
    CodePoint.scalar '<' :: loadingTag ++ [.scalar '>'] :=
  rfl

theorem errorTag_inside (message : Text) :
    CodePoint.scalar '<' :: errorTag ++ [.scalar '>'] <:+: errorChars message := by
  have hstart : CodePoint.scalar '<' :: errorTag ++ [.scalar '>'] <:+:
      ("      <div class=\"catln-error\">Error: " : Text).toList :=
    ⟨("      " : Text).toList, ("Error: " : Text).toList, by simp [errorTag, Text.toList_ofString]⟩
  exact hstart.trans ((List.prefix_append _ _).trans (List.prefix_append _ _)).isInfix

theorem loadingTag_inside : CodePoint.scalar '<' :: loadingTag ++ [.scalar '>'] <:+: loadingChars :=
  ⟨("      " : Text).toList, ("Loading...</div>\n" : Text).toList,
    by simp [loadingTag, loadingChars, lines, Text.toList_ofString]⟩

theorem loadingTag_not_mem_error (message : Text) :
    tagsPass (isNot loadingTag) none (errorChars message) = true := by
  have hstart : tagsPass (isNot loadingTag) none
      ("      <div class=\"catln-error\">Error: " : Text).toList = true :=
    tagsPass_literal (by decide)
  have hend : tagsPass (isNot loadingTag) none (lines ["</div>"]) = true :=
    tagsPass_mono (fun _ => isNot_loadingTag) (clean_line (by decide))
  have hmessage : tagsPass (isNot loadingTag) none (escape message) = true :=
    tagsPass_text (angleFree_escape message).left
  have htext := (tagsPass_append hmessage _).trans hend
  have h := (tagsPass_append hstart _).trans htext
  rwa [← List.append_assoc] at h

theorem errorTag_not_mem_loading : tagsPass (isNot errorTag) none loadingChars = true :=
  (tagsPass_append (tagsPass_append (tagsPass_literal (by decide)) _) _).trans rfl

section

variable {page : WebPage} {content other : Content}

theorem pass_chars {p : List CodePoint → Bool} (hp : ∀ tag, ordinary tag = true → p tag = true)
    (h : tagsPass p none (contentChars page.content) = true) :
    tagsPass p none page.chars = true := by
  rw [chars_eq, List.append_assoc, tagsPass_append (tagsPass_mono hp page.clean_front),
    tagsPass_append h]
  exact tagsPass_mono hp clean_back

theorem not_inside_of_pass {tag text : List CodePoint} (ht : AngleFree tag)
    (h : tagsPass (isNot tag) none text = true) :
    ¬ (CodePoint.scalar '<' :: tag ++ [.scalar '>'] <:+: text) := fun hi =>
  of_decide_eq_true (pass_of_inside h ht hi) rfl

theorem inside_chars {s : List CodePoint} (h : s <:+: contentChars page.content) :
    s <:+: page.chars := by
  obtain ⟨before, behind, h⟩ := h
  refine ⟨page.front ++ before, behind ++ back, ?_⟩
  rw [chars_eq, ← h]
  simp only [List.append_assoc]

theorem clean_bodyChars {notes : List Text} {body : List CodePoint} (h : Clean body) :
    Clean (bodyChars notes body) := by
  have hindent : Clean ("      " : Text).toList := by decide
  exact (((clean_notesChars notes).append hindent).append h).append (by decide)

theorem clean_block_settled
    (hbody : ∀ notes body, page.content = .shown notes body → Clean body) {notes : List Text}
    {body : List CodePoint} (h : settled page.content = .shown notes body) :
    Clean (block (settled page.content)) := by
  cases hc : page.content with
  | error message =>
    rw [hc, settled] at h
    split at h
    next hm =>
      rw [settled, if_pos hm]
      exact clean_bodyChars clean_nil
    next => cases h
  | loading =>
    rw [hc] at h
    cases h
  | shown notes body => exact clean_bodyChars (hbody notes body hc)

/-- The tag of a block is in the page only if the content has this block. -/
theorem shows_settled (hbody : ∀ notes body, page.content = .shown notes body → Clean body) :
    page.Shows (settled page.content) := by
  have hmiddle := page.chars_eq
  have hnoError (h : tagsPass (isNot errorTag) none (block (settled page.content)) = true) :
      ¬("<div class=\"catln-error\">" : Text).toList <:+: page.chars := by
    rw [errorTag_eq]
    rw [← contentChars_eq] at h
    exact not_inside_of_pass (by decide) (pass_chars (fun _ => isNot_errorTag) h)
  have hnoLoading (h : tagsPass (isNot loadingTag) none (block (settled page.content)) = true) :
      ¬("<div class=\"catln-pending\">" : Text).toList <:+: page.chars := by
    rw [loadingTag_eq]
    rw [← contentChars_eq] at h
    exact not_inside_of_pass (by decide) (pass_chars (fun _ => isNot_loadingTag) h)
  have hinside {s : List CodePoint} (h : s <:+: block (settled page.content)) : s <:+: page.chars :=
    inside_chars (contentChars_eq page.content ▸ h)
  rw [contentChars_eq] at hmiddle
  cases hs : settled page.content with
  | error message =>
    rw [hs] at hmiddle hnoLoading hinside
    exact ⟨hmiddle, ⟨fun _ => ⟨message, rfl⟩, fun _ => hinside (errorTag_inside message)⟩,
      ⟨fun h => absurd h (hnoLoading (loadingTag_not_mem_error message)), fun h => nomatch h⟩⟩
  | loading =>
    rw [hs] at hmiddle hnoError hinside
    exact ⟨hmiddle, ⟨fun h => absurd h (hnoError errorTag_not_mem_loading), fun ⟨_, h⟩ => nomatch h⟩,
      ⟨fun _ => rfl, fun _ => hinside loadingTag_inside⟩⟩
  | shown notes body =>
    have hblock := clean_block_settled hbody hs
    have herror := hnoError (tagsPass_mono (fun _ => isNot_errorTag) hblock)
    have hloading := hnoLoading (tagsPass_mono (fun _ => isNot_loadingTag) hblock)
    rw [hs] at hmiddle
    exact ⟨hmiddle, ⟨fun h => absurd h herror, fun ⟨_, h⟩ => nomatch h⟩,
      ⟨fun h => absurd h hloading, fun h => nomatch h⟩⟩

theorem errorChars_injective {m n : Text} (h : errorChars m = errorChars n) : m = n := by
  have hescape : escape m = escape n := List.append_cancel_left (List.append_cancel_right h)
  have hread := congrArg Text.Escape.unescape? hescape
  rw [escape, escape, Text.Escape.unescape?_encode, Text.Escape.unescape?_encode] at hread
  exact Text.toList_inj.1 (Option.some.inj hread)

theorem Shows.block_eq (h : page.Shows content) (ho : page.Shows other) :
    block content = block other :=
  List.append_cancel_left (List.append_cancel_right (h.middle.symm.trans ho.middle))

theorem Shows.error_iff (h : page.Shows content) {message : Text} :
    page.Shows (.error message) ↔ content = .error message := by
  refine ⟨fun he => ?_, fun he => he ▸ h⟩
  obtain ⟨other, rfl⟩ := h.error.1 (he.error.2 ⟨message, rfl⟩)
  rw [errorChars_injective (h.block_eq he)]

theorem Shows.loading_iff (h : page.Shows content) :
    page.Shows .loading ↔ content = .loading :=
  ⟨fun hl => h.loading.1 (hl.loading.2 rfl), fun he => he ▸ h⟩

theorem Shows.shown_iff (h : page.Shows content) :
    (∃ notes body, page.Shows (.shown notes body)) ↔ ∃ notes body, content = .shown notes body := by
  refine ⟨fun ⟨notes, body, hs⟩ => ?_, fun ⟨notes, body, he⟩ => ⟨notes, body, he ▸ h⟩⟩
  cases content with
  | error message => exact nomatch hs.error_iff.1 h
  | loading => exact nomatch hs.loading_iff.1 h
  | shown notes body => exact ⟨notes, body, rfl⟩

end

end WebPage

end WebDocs
