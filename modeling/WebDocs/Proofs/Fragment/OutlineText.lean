import WebDocs.Fragment.Outline
import WebDocs.Proofs.Fragment.TextFidelity
import WebDocs.Proofs.Json.Printing

namespace WebDocs.Json

/-- The tag of an object, if it is a text. -/
def textTag? (members : Members Json) : Option Text :=
  match members.get? "tag" with
  | some (str tag) => some tag
  | _ => none

/-- The members of an object beside its tag. -/
def besideTag (members : Members Json) : Members Json := members.filter (·.1 ≠ "tag")

mutual

/-- The text of a value, from its parts in order. An object with a tag is the tag and its contents,
if it has no other members. -/
inductive Tells : Json → List CodePoint → Prop
  | str (s : Text) : Tells (str s) s.toList
  | word {value : Json} (h : value.IsWord) :
      Tells value (Text.ofChars (value.print spaced)).toList
  | arr {items : List Json} {s : List CodePoint} (h : ItemsTell items s) : Tells (arr items) s
  | untagged {members : Members Json} {s : List CodePoint} (ht : textTag? members = none)
      (h : MembersTell members s) : Tells (obj members) s
  | void {members : Members Json} {tag : Text} {value : Json} (ht : textTag? members = some tag)
      (hc : besideTag members = [(Text.ofString "contents", value)])
      (hv : value = null ∨ value = obj []) :
      Tells (obj members) tag.toList
  | contents {members : Members Json} {tag : Text} {value : Json} {s : List CodePoint}
      (ht : textTag? members = some tag)
      (hc : besideTag members = [(Text.ofString "contents", value)])
      (hv : ¬(value = null ∨ value = obj [])) (h : Tells value s) :
      Tells (obj members) (tag.toList ++ s)
  | tagged {members : Members Json} {tag : Text} {s : List CodePoint}
      (ht : textTag? members = some tag)
      (hc : ∀ value, besideTag members ≠ [(Text.ofString "contents", value)])
      (h : MembersTell (besideTag members) s) : Tells (obj members) (tag.toList ++ s)

inductive ItemsTell : List Json → List CodePoint → Prop
  | nil : ItemsTell [] []
  | cons {item : Json} {rest : List Json} {s t : List CodePoint} (h : Tells item s)
      (hr : ItemsTell rest t) : ItemsTell (item :: rest) (s ++ t)

inductive MembersTell : Members Json → List CodePoint → Prop
  | nil : MembersTell [] []
  | cons {key : Text} {value : Json} {rest : Members Json} {s t : List CodePoint}
      (h : Tells value s)
      (hr : MembersTell rest t) : MembersTell ((key, value) :: rest) (key.toList ++ s ++ t)

end

theorem hasTextTag_eq (members : Members Json) :
    hasTextTag members = (textTag? members).isSome := by
  unfold hasTextTag textTag?
  cases members.get? "tag" with
  | none => rfl
  | some tag => cases tag <;> rfl

theorem filter_not_isTag (members : Members Json) :
    members.filter (!isTag ·) = besideTag members := by
  refine List.filter_congr fun m _ => ?_
  simp [isTag]

theorem mem_of_mem_besideTag {members : Members Json} {m : Text × Json}
    (h : m ∈ besideTag members) : m ∈ members := List.mem_of_mem_filter h

theorem outlineMembers_eq_filter (keep : Text × Json → Bool) (members : Members Json) :
    outlineMembers keep members = outlineMembers (fun _ => true) (members.filter keep) := by
  induction members with
  | nil => rfl
  | cons m rest ih =>
    obtain ⟨key, value⟩ := m
    by_cases hk : keep (key, value)
    · rw [outlineMembers, if_pos hk, List.filter_cons_of_pos hk, outlineMembers, if_pos rfl, ih]
    · rw [outlineMembers, if_neg hk, List.filter_cons_of_neg hk, ih]

theorem contentsAlone_iff {members : Members Json} :
    contentsAlone members ↔ ∃ value, besideTag members = [(Text.ofString "contents", value)] := by
  rw [contentsAlone, filter_not_isTag]
  match besideTag members with
  | [] => simp
  | [(key, value)] => simp [eq_comm]
  | _ :: _ :: _ => simp

theorem all_isTag_iff {members : Members Json} : members.all isTag ↔ besideTag members = [] := by
  simp [besideTag, isTag, List.filter_eq_nil_iff]

theorem outlineContents_of_alone {members : Members Json} {value : Json}
    (h : besideTag members = [(Text.ofString "contents", value)]) :
    outlineContents members = if value.isVoid then [] else value.outline := by
  induction members with
  | nil => cases h
  | cons m rest ih =>
    obtain ⟨key, other⟩ := m
    by_cases hk : key = "tag"
    · subst hk
      rw [outlineContents, if_neg (by decide)]
      exact ih h
    · have hcons : besideTag ((key, other) :: rest) = (key, other) :: besideTag rest :=
        List.filter_cons_of_pos (by simpa using hk)
      rw [hcons] at h
      obtain ⟨⟨⟩, -⟩ := List.cons.inj h
      rw [outlineContents, if_pos rfl]

section

variable {members : Members Json} {tag : Text} {value : Json}

theorem outline_untagged (ht : textTag? members = none) :
    (obj members).outline = [.element .members (outlineMembers (fun _ => true) members)] := by
  rw [outline, hasTextTag_eq, ht]
  rfl

theorem outline_tag (ht : textTag? members = some tag) :
    (obj members).outline = [.element .outline (.element .summary (Fragment.ofText tag) ::
      if contentsAlone members then outlineContents members
      else if members.all isTag then []
      else [.element .members (outlineMembers (!isTag ·) members)])] := by
  have hget : members.get? "tag" = some (str tag) := by
    unfold textTag? at ht
    split at ht
    next found hg => exact hg.trans (congrArg (fun s => some (str s)) (Option.some.inj ht))
    next => cases ht
  rw [outline, hasTextTag_eq, ht, hget]
  rfl

theorem outline_contents (ht : textTag? members = some tag)
    (hc : besideTag members = [(Text.ofString "contents", value)]) :
    (obj members).outline = [.element .outline (.element .summary (Fragment.ofText tag) ::
      if value.isVoid then [] else value.outline)] := by
  rw [outline_tag ht, if_pos (contentsAlone_iff.2 ⟨value, hc⟩), outlineContents_of_alone hc]

theorem outline_tagged (ht : textTag? members = some tag)
    (hc : ∀ value, besideTag members ≠ [(Text.ofString "contents", value)]) :
    (obj members).outline = [.element .outline (.element .summary (Fragment.ofText tag) ::
      if besideTag members = [] then []
      else [.element .members (outlineMembers (fun _ => true) (besideTag members))])] := by
  have halone : ¬contentsAlone members := fun h =>
    have ⟨value, hv⟩ := contentsAlone_iff.1 h
    hc value hv
  rw [outline_tag ht, if_neg halone, outlineMembers_eq_filter, filter_not_isTag]
  simp only [all_isTag_iff]

end

open Fragment

theorem print_word {value : Json} (h : value.IsWord) (layout other : Layout) :
    value.print layout = value.print other := by
  cases value with
  | str | arr | obj => cases h
  | bool b => cases b <;> rfl
  | _ => rfl

theorem word_shows {value : Json} (h : value.IsWord) :
    value.outline.Shows (Text.ofChars (value.print spaced)).toList := by
  cases value with
  | null => exact shows_text "null"
  | bool b =>
    cases b with
    | true => exact shows_text "true"
    | false => exact shows_text "false"
  | int n | float x => exact shows_text _
  | str | arr | obj => cases h

theorem outlineItems_show {items : List Json} {s : List CodePoint} (h : ItemsTell items s)
    (ih : ∀ item ∈ items, ∀ s, Tells item s → item.outline.Shows s) :
    (outlineItems items).Shows s := by
  induction items generalizing s with
  | nil =>
    cases h
    exact shows_nil
  | cons item rest ihrest =>
    cases h with
    | cons h hr =>
      have hitem := (ih item List.mem_cons_self _ h).element .item
      exact hitem.append (ihrest hr fun other hm => ih other (List.mem_cons_of_mem _ hm))

theorem outlineMembers_show {members : Members Json} {s : List CodePoint}
    (h : MembersTell members s) (ih : ∀ m ∈ members, ∀ s, Tells m.2 s → m.2.outline.Shows s) :
    (outlineMembers (fun _ => true) members).Shows s := by
  induction members generalizing s with
  | nil =>
    cases h
    exact shows_nil
  | cons m rest ihrest =>
    cases h with
    | @cons key value _ _ _ h hr =>
      have hkey := (shows_ofText key).element .key
      have hvalue := (ih _ List.mem_cons_self _ h).element .value
      have hrest := ihrest hr fun other hm => ih other (List.mem_cons_of_mem _ hm)
      rw [outlineMembers, if_pos rfl]
      exact (hkey.append hvalue).append hrest

/-- An outline adds the text of its value. -/
theorem Tells.shows {value : Json} {s : List CodePoint} (h : Tells value s) :
    value.outline.Shows s := by
  induction value using induct generalizing s with
  | arr items ih =>
    cases h with
    | word h => cases h
    | arr h => exact (outlineItems_show h fun item hm _ h => ih item hm h).element .items
  | obj members ih =>
    have hsummary (tag : Text) := (shows_ofText tag).element .summary
    cases h with
    | word h => cases h
    | untagged ht h =>
      rw [outline_untagged ht]
      exact (outlineMembers_show h fun m hm _ h => ih m hm h).element .members
    | @void _ tag _ ht hc hv =>
      rw [outline_contents ht hc, if_pos (isVoid_iff.2 hv)]
      exact (hsummary tag).element .outline
    | @contents _ tag value _ ht hc hv h =>
      rw [outline_contents ht hc, if_neg fun h => hv (isVoid_iff.1 h)]
      have hm : (Text.ofString "contents", value) ∈ besideTag members := hc ▸ List.mem_cons_self
      exact ((hsummary tag).append (ih _ (mem_of_mem_besideTag hm) h)).element .outline
    | @tagged _ tag s ht hc h =>
      have hmembers := outlineMembers_show h fun m hm _ h => ih m (mem_of_mem_besideTag hm) h
      have hinner : Shows (if besideTag members = [] then []
          else [.element .members (outlineMembers (fun _ => true) (besideTag members))]) s := by
        split
        next he =>
          rw [he] at h
          cases h
          exact shows_nil
        next => exact hmembers.element .members
      rw [outline_tagged ht hc]
      exact ((hsummary tag).append hinner).element .outline
  | scalar value ha ho =>
    cases h with
    | str s => exact shows_ofText s
    | word h => exact word_shows h
    | arr => exact absurd rfl (ha _)
    | untagged | void | contents | tagged => exact absurd rfl (ho _)

theorem exists_itemsTell {items : List Json} (h : ∀ item ∈ items, ∃ s, Tells item s) :
    ∃ s, ItemsTell items s := by
  induction items with
  | nil => exact ⟨[], .nil⟩
  | cons item rest ih =>
    obtain ⟨s, hs⟩ := h item List.mem_cons_self
    obtain ⟨t, ht⟩ := ih fun other hm => h other (List.mem_cons_of_mem _ hm)
    exact ⟨s ++ t, .cons hs ht⟩

theorem exists_membersTell {members : Members Json} (h : ∀ m ∈ members, ∃ s, Tells m.2 s) :
    ∃ s, MembersTell members s := by
  induction members with
  | nil => exact ⟨[], .nil⟩
  | cons m rest ih =>
    obtain ⟨s, hs⟩ := h m List.mem_cons_self
    obtain ⟨t, ht⟩ := ih fun other hm => h other (List.mem_cons_of_mem _ hm)
    exact ⟨m.1.toList ++ s ++ t, .cons hs ht⟩

theorem exists_tells (value : Json) : ∃ s, Tells value s := by
  induction value using induct with
  | arr items ih =>
    obtain ⟨s, hs⟩ := exists_itemsTell ih
    exact ⟨s, .arr hs⟩
  | obj members ih =>
    cases ht : textTag? members with
    | none =>
      obtain ⟨s, hs⟩ := exists_membersTell ih
      exact ⟨s, .untagged ht hs⟩
    | some tag =>
      by_cases hc : ∃ value, besideTag members = [(Text.ofString "contents", value)]
      · obtain ⟨value, hc⟩ := hc
        by_cases hv : value = null ∨ value = obj []
        · exact ⟨_, .void ht hc hv⟩
        · have hm : (Text.ofString "contents", value) ∈ besideTag members := hc ▸ List.mem_cons_self
          obtain ⟨s, hs⟩ := ih _ (mem_of_mem_besideTag hm)
          exact ⟨_, .contents ht hc hv hs⟩
      · obtain ⟨s, hs⟩ := exists_membersTell fun m hm => ih m (mem_of_mem_besideTag hm)
        exact ⟨_, .tagged ht (not_exists.1 hc) hs⟩
  | scalar value ha ho =>
    cases value with
    | str s => exact ⟨_, .str s⟩
    | arr items => exact absurd rfl (ha items)
    | obj members => exact absurd rfl (ho members)
    | null | bool | int | float => exact ⟨_, .word trivial⟩

/-- A value of nothing but empty texts, empty lists and objects, and void contents. -/
inductive Silent : Json → Prop
  | str : Silent (str "")
  | arr {items : List Json} (h : ∀ item ∈ items, Silent item) : Silent (arr items)
  | untagged {members : Members Json} (ht : textTag? members = none)
      (hk : ∀ m ∈ members, m.1 = "") (h : ∀ m ∈ members, Silent m.2) : Silent (obj members)
  | void {members : Members Json} {value : Json} (ht : textTag? members = some (Text.ofString ""))
      (hc : besideTag members = [(Text.ofString "contents", value)])
      (hv : value = null ∨ value = obj []) :
      Silent (obj members)
  | contents {members : Members Json} {value : Json}
      (ht : textTag? members = some (Text.ofString ""))
      (hc : besideTag members = [(Text.ofString "contents", value)]) (h : Silent value) :
      Silent (obj members)
  | tagged {members : Members Json} (ht : textTag? members = some (Text.ofString ""))
      (hc : ∀ value, besideTag members ≠ [(Text.ofString "contents", value)])
      (hk : ∀ m ∈ besideTag members, m.1 = "") (h : ∀ m ∈ besideTag members, Silent m.2) :
      Silent (obj members)

section

variable {s : List CodePoint}

theorem ItemsTell.eq_nil_iff {items : List Json} (h : ItemsTell items s)
    (ih : ∀ item ∈ items, ∀ s, Tells item s → (s = [] ↔ Silent item)) :
    s = [] ↔ ∀ item ∈ items, Silent item := by
  induction items generalizing s with
  | nil =>
    cases h
    exact ⟨fun _ _ hm => absurd hm List.not_mem_nil, fun _ => rfl⟩
  | cons item rest ihrest =>
    cases h with
    | cons h hr =>
      have hitem := ih item List.mem_cons_self _ h
      have hrest := ihrest hr fun other hm => ih other (List.mem_cons_of_mem _ hm)
      rw [List.append_eq_nil_iff, List.forall_mem_cons, hitem, hrest]

theorem MembersTell.eq_nil_iff {members : Members Json} (h : MembersTell members s)
    (ih : ∀ m ∈ members, ∀ s, Tells m.2 s → (s = [] ↔ Silent m.2)) :
    s = [] ↔ (∀ m ∈ members, m.1 = "") ∧ ∀ m ∈ members, Silent m.2 := by
  induction members generalizing s with
  | nil =>
    cases h
    exact ⟨fun _ => ⟨fun _ hm => absurd hm List.not_mem_nil,
      fun _ hm => absurd hm List.not_mem_nil⟩, fun _ => rfl⟩
  | cons m rest ihrest =>
    cases h with
    | cons h hr =>
      have hvalue := ih _ List.mem_cons_self _ h
      have hrest := ihrest hr fun other hm => ih other (List.mem_cons_of_mem _ hm)
      rw [List.append_eq_nil_iff, List.append_eq_nil_iff, List.forall_mem_cons,
        List.forall_mem_cons, Text.toList_eq_nil_iff, hvalue, hrest]
      exact and_and_and_comm

/-- Nothing else is without text. -/
theorem Tells.eq_nil_iff {value : Json} (h : Tells value s) : s = [] ↔ Silent value := by
  induction value using induct generalizing s with
  | arr items ih =>
    cases h with
    | word h => cases h
    | arr h =>
      rw [h.eq_nil_iff fun item hm _ h => ih item hm h]
      refine ⟨.arr, fun hs => ?_⟩
      cases hs with
      | arr h => exact h
  | obj members ih =>
    cases h with
    | word h => cases h
    | untagged ht h =>
      rw [h.eq_nil_iff fun m hm _ h => ih m hm h]
      refine ⟨fun hm => .untagged ht hm.1 hm.2, fun hs => ?_⟩
      cases hs with
      | untagged _ hk h => exact ⟨hk, h⟩
      | void ht' | contents ht' | tagged ht' => cases ht.symm.trans ht'
    | @void _ tag value ht hc hv =>
      rw [Text.toList_eq_nil_iff]
      refine ⟨fun he => .void (he ▸ ht) hc hv, fun hs => ?_⟩
      cases hs with
      | untagged ht' => cases ht.symm.trans ht'
      | void ht' | contents ht' | tagged ht' => exact Option.some.inj (ht.symm.trans ht')
    | @contents _ tag value _ ht hc hv h =>
      have hm : (Text.ofString "contents", value) ∈ besideTag members := hc ▸ List.mem_cons_self
      rw [List.append_eq_nil_iff, Text.toList_eq_nil_iff, ih _ (mem_of_mem_besideTag hm) h]
      refine ⟨fun ⟨he, h⟩ => .contents (he ▸ ht) hc h, fun hs => ?_⟩
      cases hs with
      | untagged ht' => cases ht.symm.trans ht'
      | void ht' hc' hv' =>
        cases hc.symm.trans hc'
        exact absurd hv' hv
      | contents ht' hc' h =>
        cases hc.symm.trans hc'
        exact ⟨Option.some.inj (ht.symm.trans ht'), h⟩
      | tagged _ hc' => exact absurd hc (hc' value)
    | @tagged _ tag _ ht hc h =>
      rw [List.append_eq_nil_iff, Text.toList_eq_nil_iff,
        h.eq_nil_iff fun m hm _ h => ih m (mem_of_mem_besideTag hm) h]
      refine ⟨fun ⟨he, hk, h⟩ => .tagged (he ▸ ht) hc hk h, fun hs => ?_⟩
      cases hs with
      | untagged ht' => cases ht.symm.trans ht'
      | void _ hc' | contents _ hc' => exact absurd hc' (hc _)
      | tagged ht' _ hk h => exact ⟨Option.some.inj (ht.symm.trans ht'), hk, h⟩
  | scalar value ha ho =>
    cases h with
    | str s =>
      rw [Text.toList_eq_nil_iff]
      refine ⟨fun he => he ▸ .str, fun hs => ?_⟩
      cases hs
      rfl
    | word h =>
      refine ⟨fun he => ?_, fun hs => ?_⟩
      · rw [Text.toList_ofChars, List.map_eq_nil_iff] at he
        exact absurd ((print_word h compact spaced).trans he) (print_ne_nil h)
      · cases hs <;> cases h
    | arr => exact absurd rfl (ha _)
    | untagged | void | contents | tagged => exact absurd rfl (ho _)

end

/-- The outline of a value, with its tags deleted and its entities undone once, is the text of the
value, and every value has one. Only values of nothing but empty texts, empty lists and objects, and
void contents have no text. -/
theorem outline_loses_nothing (value : Json) :
    (∀ s, Tells value s ↔
      Text.Escape.decode (Markup.stripTags value.outline.html.toList) = s) ∧
    (Text.Escape.decode (Markup.stripTags value.outline.html.toList) = [] ↔ value.Silent) := by
  obtain ⟨t, ht⟩ := exists_tells value
  have hdecode := ht.shows.decode_stripTags
  refine ⟨fun s => ⟨fun h => h.shows.decode_stripTags, ?_⟩, ?_⟩
  · rintro rfl
    rwa [hdecode]
  · rw [hdecode]
    exact ht.eq_nil_iff

/-- Beside another member, contents without a value are a member like any other. -/
example :
    let value := obj [("contents", null), ("tag", str "<T>"), ("x", bool false)]
    Text.Escape.decode (Markup.stripTags value.outline.html.toList) =
      ("<T>contentsnullxfalse" : Text).toList := by
  decide +kernel

end WebDocs.Json
