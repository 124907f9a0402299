import WebDocs.Proofs.WebPage.PageLink

namespace WebDocs
namespace Text

namespace Utf8

/-- An octet ends something or leaves something to be ended. -/
theorem step_ne_nothing (state : Option Pending) (b : Nat) : step state b ≠ ([], none) := by
  have hstart : start b ≠ ([], none) := by
    unfold start
    split <;> simp
  cases state with
  | none => exact hstart
  | some p =>
    unfold step
    dsimp only
    split
    next => split <;> simp
    next => simp

theorem run_eq_nil {state : Option Pending} {bytes : List UInt8} (h : run state bytes = []) :
    state = none ∧ bytes = [] := by
  induction bytes generalizing state with
  | nil =>
    cases state with
    | none => exact ⟨rfl, rfl⟩
    | some p => cases h
  | cons b rest ih =>
    have hstep := step_ne_nothing state b.toNat
    rw [run] at h
    obtain ⟨hfound, hrun⟩ := List.append_eq_nil_iff.1 h
    obtain ⟨hnext, -⟩ := ih hrun
    exact absurd (Prod.ext hfound hnext) hstep

theorem decodeLossy_eq_nil {bytes : List UInt8} (h : decodeLossy bytes = []) : bytes = [] :=
  (run_eq_nil (List.map_eq_nil_iff.1 h)).2

end Utf8

namespace Percent

theorem octets_eq_nil {s : List Char} (h : octets s = []) : s = [] := by
  unfold octets at h
  split at h
  next => split at h <;> cases h
  next => cases h
  next => rfl

theorem decodeHeld_eq_nil {held : List Char} (h : decodeHeld held = []) : held = [] :=
  List.reverse_eq_nil_iff.1 (octets_eq_nil (Utf8.decodeLossy_eq_nil (List.map_eq_nil_iff.1 h)))

/-- What is held back and what follows are both empty. -/
theorem decodeFrom_eq_nil {held : List Char} {s : List CodePoint} (h : decodeFrom held s = []) :
    held = [] ∧ s = [] := by
  induction s generalizing held with
  | nil => exact ⟨decodeHeld_eq_nil h, rfl⟩
  | cons c rest ih =>
    cases c with
    | scalar c =>
      rw [decodeFrom] at h
      split at h
      next => exact absurd (ih h).1 (List.cons_ne_nil _ _)
      next => exact absurd (List.append_eq_nil_iff.1 h).2 (List.cons_ne_nil _ _)
    | surrogate half => exact absurd (List.append_eq_nil_iff.1 h).2 (List.cons_ne_nil _ _)

theorem decode_eq_nil {s : List CodePoint} (h : decode s = []) : s = [] := (decodeFrom_eq_nil h).2

theorem isScalar_decodeHeld (held : List Char) : ∀ c ∈ decodeHeld held, c.isScalar = true :=
  isScalar_iff_exists.2 ⟨_, rfl⟩

/-- Decoding makes no half of a pair. -/
theorem isScalar_decodeFrom (held : List Char) {s : List CodePoint}
    (h : ∀ c ∈ s, c.isScalar = true) : ∀ c ∈ decodeFrom held s, c.isScalar = true := by
  induction s generalizing held with
  | nil => exact isScalar_decodeHeld held
  | cons c rest ih =>
    obtain ⟨hc, hrest⟩ := List.forall_mem_cons.1 h
    cases c with
    | scalar c =>
      rw [decodeFrom]
      split
      next => exact ih _ hrest
      next =>
        exact List.forall_mem_append.2
          ⟨isScalar_decodeHeld held, List.forall_mem_cons.2 ⟨hc, ih _ hrest⟩⟩
    | surrogate half => exact absurd hc Bool.false_ne_true

theorem encodeChars_injective {s t : List Char} (h : encodeChars s = encodeChars t) : s = t := by
  have hd := decode_encodeChars s
  rw [h, decode_encodeChars t] at hd
  exact (List.map_inj_right fun _ _ => CodePoint.scalar_injective).1 hd.symm

end Percent

theorem mem_of_mem_trimBy {α : Type} {p : α → Bool} {s : List α} {c : α} (h : c ∈ trimBy p s) :
    c ∈ s := by
  obtain ⟨before, after, hs, -, -⟩ := exists_trimBy_frame p s
  rw [hs]
  exact List.mem_append_left _ (List.mem_append_right _ h)

end Text

namespace Route

/-- A route to a page has a text behind its slash that reads as the name of the page. -/
theorem page_of_parse {route page : Text} {view : View}
    (h : parse route = .ok ⟨view, some page⟩) :
    ∃ rest, rest ≠ [] ∧ page = Text.ofList (Text.Percent.decode rest) ∧
      ∀ c ∈ rest, c ∈ route.toList := by
  unfold parse at h
  split at h
  next => cases h
  next =>
    have hrest : ∀ c ∈ (head (path route)).2, c ∈ route.toList := fun c hc =>
      Text.mem_of_mem_trimBy (Text.mem_of_mem_trimBy
        ((List.dropWhile_sublist _).mem (List.mem_of_mem_drop hc)))
    generalize head (path route) = parts at h hrest
    obtain ⟨name, rest⟩ := parts
    dsimp only at h
    split at h
    next => cases h
    next => cases h
    next hne => exact ⟨_, hne, (Option.some.inj (Route.mk.inj (Except.ok.inj h)).2).symm, hrest⟩
    next => cases h

/-- A route does not lead to a page without a name: what follows the slash is not empty, and neither
is what it reads as. -/
theorem page_ne_empty {route page : Text} {view : View}
    (h : parse route = .ok ⟨view, some page⟩) : page ≠ "" := by
  obtain ⟨rest, hne, rfl, -⟩ := page_of_parse h
  exact fun e => hne (Text.Percent.decode_eq_nil (Text.toList_eq_nil_iff.2 e))

theorem isScalar_page {route page : Text} {view : View}
    (h : parse route = .ok ⟨view, some page⟩) (hr : route.IsScalar) : page.IsScalar := by
  obtain ⟨rest, -, rfl, hrest⟩ := page_of_parse h
  exact Text.Percent.isScalar_decodeFrom [] fun c hc => hr c (hrest c hc)

/-- The link of a page with a name of characters leads to the docs view of that page, whatever
characters the name has and however many slashes the base ends with; a name with half of a pair has
no link. Different names have different links. And a route to a page with a link leads where the link
does; it is one if the route is made of characters. -/
theorem links_invert_routes :
    (∀ (name : Text) (slashes : Nat), name ≠ "" → name.IsScalar →
      ∃ href route, pageHref name (docsBase slashes) = .ok href ∧ parse href = .ok route ∧
        route.view = .docs ∧ route.view.sourcePath = "/pages" ∧ route.page = some name) ∧
    (∀ (name : Text) (slashes : Nat), ¬name.IsScalar →
      ∃ cause, pageHref name (docsBase slashes) = .error cause) ∧
    (∀ (name other href : Text) (slashes more : Nat), pageHref name (docsBase slashes) = .ok href →
      pageHref other (docsBase more) = .ok href → name = other) ∧
    ∀ (route page : Text) (slashes : Nat), parse route = .ok ⟨.docs, some page⟩ →
      (route.IsScalar → page.IsScalar) ∧
      (page.IsScalar →
        ∃ href, pageHref page (docsBase slashes) = .ok href ∧ parse href = parse route) := by
  refine ⟨fun name slashes hne hn => ?_, fun name slashes hn => ?_,
    fun name other href slashes more h h' => ?_, fun route page slashes h => ⟨isScalar_page h, ?_⟩⟩
  · obtain ⟨href, hh⟩ := (@exists_pageHref_iff name (docsBase slashes)).2 hn
    have hparse := parse_pageHref hh
    rw [if_neg hne] at hparse
    exact ⟨href, ⟨.docs, some name⟩, hh, hparse, rfl, rfl, rfl⟩
  · cases hh : pageHref name (docsBase slashes) with
    | ok href => exact absurd (exists_pageHref_iff.1 ⟨href, hh⟩) hn
    | error cause => exact ⟨cause, rfl⟩
  · obtain ⟨chars, rfl, rfl⟩ := pageHref_docsBase_eq_ok_iff.1 h
    obtain ⟨others, rfl, he⟩ := pageHref_docsBase_eq_ok_iff.1 h'
    have hchars := (List.map_inj_right fun _ _ => CodePoint.scalar_injective).1
      (congrArg Text.toList he)
    rw [Text.Percent.encodeChars_injective (List.append_cancel_left hchars)]
  · intro hp
    obtain ⟨href, hh⟩ := (@exists_pageHref_iff page (docsBase slashes)).2 hp
    have hparse := parse_pageHref hh
    rw [if_neg (page_ne_empty h)] at hparse
    exact ⟨href, hh, hparse.trans h.symm⟩

/-- A name with blanks at its ends, slashes, a percent sign and text that looks encoded; and a route
with a percent sign that encodes nothing. -/
theorem links_invert_routes_odd_names :
    let name : Text := " ./100%25/é+ "
    let href : Text := "/docs/%20.%2F100%2525%2F%C3%A9%2B%20"
    let route : Text := " docs/%zz/ %c3%a9// "
    let page : Text := "%zz/ é"
    name ≠ "" ∧ name.IsScalar ∧ pageHref name (docsBase 3) = .ok href ∧
      parse href = .ok ⟨.docs, some name⟩ ∧ parse route = .ok ⟨.docs, some page⟩ ∧
      ∃ link, pageHref page docsRoute = .ok link ∧ parse link = parse route := by
  intro name href route page
  have hne : name ≠ "" := by decide
  have hname : name.IsScalar := by decide
  have hlink : pageHref name (docsBase 3) = .ok href := by
    have hread : (pageHref name (docsBase 3)).toOption = some href := by decide +kernel
    cases h : pageHref name (docsBase 3) with
    | ok found => rw [h] at hread; exact congrArg Except.ok (Option.some.inj hread)
    | error e => rw [h] at hread; cases hread
  have hroute : parse route = .ok ⟨.docs, some page⟩ := by
    have hread : (parse route).toOption = some ⟨.docs, some page⟩ := by decide +kernel
    cases h : parse route with
    | ok found => rw [h] at hread; exact congrArg Except.ok (Option.some.inj hread)
    | error e => rw [h] at hread; cases hread
  obtain ⟨found, ⟨view, target⟩, hfound, hparse, rfl, -, rfl⟩ :=
    links_invert_routes.1 name 3 hne hname
  have hback := (links_invert_routes.2.2.2 route page 0 hroute).2 (by decide)
  rw [docsBase_zero] at hback
  rw [hlink] at hfound
  cases hfound
  exact ⟨hne, hname, hlink, hparse, hroute, hback⟩

end Route
end WebDocs
