import WebDocs.Proofs.Dump.Value

namespace WebDocs

theorem relabel_eq_ok {ε ε' α : Type} {f : ε → ε'} {x : Except ε α} {a : α} :
    relabel f x = .ok a ↔ x = .ok a := by
  cases x with
  | error e => exact ⟨(nomatch ·), (nomatch ·)⟩
  | ok b => exact Iff.of_eq (by simp [relabel])

theorem relabel_eq_error {ε ε' α : Type} {f : ε → ε'} {x : Except ε α} {e : ε'} :
    relabel f x = .error e ↔ ∃ cause, x = .error cause ∧ f cause = e := by
  cases x with
  | ok a => exact ⟨(nomatch ·), fun ⟨_, h, _⟩ => nomatch h⟩
  | error cause => simp [relabel]

theorem bind_eq_error {ε α β : Type} {x : Except ε α} {f : α → Except ε β} {e : ε} :
    (x >>= f) = .error e ↔ x = .error e ∨ ∃ a, x = .ok a ∧ f a = .error e := by
  cases x with
  | error cause => simp [bind, Except.bind]
  | ok a => simp [bind, Except.bind]

namespace Json

/-- A scalar that is not empty has no elements and does not stand for none. -/
def Unlistable (value : Json) : Prop := value.isEmpty = false ∧ value.elements? = none

theorem elementsOrNone_eq_error {value : Json} {cause : ShapeError}
    (h : value.elementsOrNone = .error cause) : value.Unlistable := by
  unfold elementsOrNone at h
  split at h
  next => cases h
  next hempty =>
    refine ⟨Bool.eq_false_iff.2 hempty, ?_⟩
    unfold elements at h
    split at h
    next => cases h
    next hnone => exact hnone

theorem elementsOrNone_of_unlistable {value : Json} (h : value.Unlistable) :
    value.elementsOrNone = .error (.notIterable value) := by
  have hempty : ¬value.isEmpty = true := Bool.eq_false_iff.1 h.1
  rw [elementsOrNone, if_neg hempty, elements, h.2]

end Json

namespace Page

/-- A page entry can be taken apart into its data, its name and what it depends on, and its data into
a first part that is not read and its statements. -/
def Entry (raw : Json) (name : Text) (statements : List Json) (deps : Json) : Prop :=
  ∃ data first, raw.unpack3 = .ok (data, .str name, deps) ∧
    data.unpack2 = .ok (first, .arr statements)

/-- A page entry and its page: the statements are read in order, one by one. -/
inductive Reads (raw : Json) : Page → Prop
  | mk {name : Text} {statements deps : List Json} {rawDeps : Json}
      (h : Entry raw name statements rawDeps) (hd : rawDeps.elementsOrNone = .ok deps) :
      Reads raw ⟨name, statements.map Statement.decode, deps.map Json.plainText⟩

/-- A page entry whose dependencies are a scalar that is not empty. -/
def Unlistable (raw : Json) : Prop :=
  ∃ name statements deps, Entry raw name statements deps ∧ deps.Unlistable

theorem parts_eq_ok {raw name statements deps : Json} :
    parts raw = .ok (name, statements, deps) ↔ ∃ data first,
      raw.unpack3 = .ok (data, name, deps) ∧ data.unpack2 = .ok (first, statements) := by
  constructor
  · intro h
    obtain ⟨⟨data, n, d⟩, hraw, h⟩ := bind_eq_ok.1 h
    obtain ⟨⟨first, s⟩, hdata, h⟩ := bind_eq_ok.1 h
    cases h
    exact ⟨data, first, hraw, hdata⟩
  · rintro ⟨data, first, hraw, hdata⟩
    exact bind_eq_ok.2 ⟨_, hraw, bind_eq_ok.2 ⟨_, hdata, rfl⟩⟩

theorem decode_of_entry {raw : Json} {name : Text} {statements : List Json} {deps : Json}
    (h : Entry raw name statements deps) :
    decode raw = relabel .shape deps.elementsOrNone >>= fun deps =>
      pure ⟨name, statements.map Statement.decode, deps.map Json.plainText⟩ := by
  have hparts := parts_eq_ok.2 h
  unfold decode
  rw [hparts]
  rfl

/-- An entry of another structure is malformed. -/
theorem decode_of_not_entry {raw : Json}
    (h : ∀ name statements deps, ¬Entry raw name statements deps) :
    ∃ cause, decode raw = .error (.malformed cause) := by
  unfold decode
  cases hparts : parts raw with
  | error cause => exact ⟨_, rfl⟩
  | ok found =>
    obtain ⟨name, statements, deps⟩ := found
    have hentry := parts_eq_ok.1 hparts
    cases name with
    | str name =>
      cases statements with
      | arr statements => exact absurd hentry (h name statements deps)
      | _ => exact ⟨_, rfl⟩
    | _ => exact ⟨_, rfl⟩

theorem decode_eq_ok_iff {raw : Json} {page : Page} :
    decode raw = .ok page ↔ Reads raw page := by
  constructor
  · intro h
    by_cases he : ∃ name statements deps, Entry raw name statements deps
    · obtain ⟨name, statements, rawDeps, he⟩ := he
      rw [decode_of_entry he] at h
      obtain ⟨deps, hd, h⟩ := bind_eq_ok.1 h
      cases h
      exact .mk he (relabel_eq_ok.1 hd)
    · simp only [not_exists] at he
      obtain ⟨cause, hc⟩ := decode_of_not_entry he
      rw [hc] at h
      cases h
  · rintro ⟨he, hd⟩
    rw [decode_of_entry he, hd]
    rfl

/-- An entry is refused as malformed, or for its dependencies. -/
theorem decode_error_cases {raw : Json} {e : DecodeError} (h : decode raw = .error e) :
    (∃ cause, e = .malformed cause) ∨ Unlistable raw := by
  by_cases he : ∃ name statements deps, Entry raw name statements deps
  · obtain ⟨name, statements, deps, he⟩ := he
    rw [decode_of_entry he] at h
    rcases bind_eq_error.1 h with h | ⟨_, _, h⟩
    · obtain ⟨cause, hd, -⟩ := relabel_eq_error.1 h
      exact .inr ⟨name, statements, deps, he, Json.elementsOrNone_eq_error hd⟩
    · cases h
  · simp only [not_exists] at he
    obtain ⟨cause, hc⟩ := decode_of_not_entry he
    rw [hc] at h
    cases h
    exact .inl ⟨cause, rfl⟩

theorem decode_of_unlistable {raw : Json} (h : Unlistable raw) :
    ∃ cause, decode raw = .error (.shape cause) := by
  obtain ⟨name, statements, deps, he, hd⟩ := h
  rw [decode_of_entry he, Json.elementsOrNone_of_unlistable hd]
  exact ⟨_, rfl⟩

end Page

namespace Annot

/-- An annotation entry is a pair of an expression and a value; the position is the expression's. -/
def Reads (raw : Json) (entry : Annot) : Prop :=
  ∃ expr value, raw.unpack2 = .ok (expr, value) ∧ entry.expr = Expr.decode expr ∧
    entry.position = entry.expr.headPosition ∧ Val.decode value = .ok entry.value

/-- An annotation entry with a value that holds a number of the wrong size. -/
def Overflows (raw : Json) : Prop :=
  ∃ expr value, raw.unpack2 = .ok (expr, value) ∧ Val.Overflows value

theorem decode_eq_ok_iff {raw : Json} {entry : Annot} :
    decode raw = .ok entry ↔ Reads raw entry := by
  constructor
  · intro h
    obtain ⟨⟨expr, value⟩, hu, h⟩ := bind_eq_ok.1 h
    obtain ⟨found, hv, h⟩ := bind_eq_ok.1 h
    cases h
    exact ⟨expr, value, relabel_eq_ok.1 hu, rfl, rfl, relabel_eq_ok.1 hv⟩
  · rintro ⟨expr, value, hu, he, hp, hv⟩
    obtain ⟨position, found, v⟩ := entry
    obtain rfl : found = Expr.decode expr := he
    obtain rfl : position = (Expr.decode expr).headPosition := hp
    exact bind_eq_ok.2 ⟨_, relabel_eq_ok.2 hu, bind_eq_ok.2 ⟨_, relabel_eq_ok.2 hv, rfl⟩⟩

/-- An entry is refused as malformed, or for its value. -/
theorem decode_error_cases {raw : Json} {e : DecodeError} (h : decode raw = .error e) :
    (∃ cause, e = .malformed cause) ∨ Overflows raw := by
  rcases bind_eq_error.1 h with h | ⟨⟨expr, value⟩, hu, h⟩
  · obtain ⟨cause, -, rfl⟩ := relabel_eq_error.1 h
    exact .inl ⟨_, rfl⟩
  · rcases bind_eq_error.1 h with h | ⟨_, _, h⟩
    · obtain ⟨cause, hv, -⟩ := relabel_eq_error.1 h
      exact .inr ⟨expr, value, relabel_eq_ok.1 hu, Val.overflows_of_error hv⟩
    · cases h

theorem decode_of_overflows {raw : Json} (h : Overflows raw) :
    ∃ cause, decode raw = .error (.overflow cause) := by
  obtain ⟨expr, value, hu, hv⟩ := h
  obtain ⟨cause, hc⟩ := Val.error_of_overflows hv
  refine ⟨cause, bind_eq_error.2 (.inr ⟨_, relabel_eq_ok.2 hu, ?_⟩)⟩
  exact bind_eq_error.2 (.inl (relabel_eq_error.2 ⟨cause, hc, rfl⟩))

end Annot

theorem firstRepeated?_eq_none_iff {seen names : List Text} :
    firstRepeated? seen names = none ↔ names.Nodup ∧ ∀ name ∈ names, name ∉ seen := by
  induction names generalizing seen with
  | nil => simp [firstRepeated?]
  | cons name rest ih =>
    rw [firstRepeated?]
    split
    next hm => simp [hm]
    next hm =>
      rw [ih]
      simp only [List.nodup_cons, List.mem_cons, not_or, forall_eq_or_imp]
      constructor
      · rintro ⟨hn, hs⟩
        exact ⟨⟨fun h => (hs name h).1 rfl, hn⟩, hm, fun other h => (hs other h).2⟩
      · rintro ⟨⟨hr, hn⟩, -, hs⟩
        exact ⟨hn, fun other h => ⟨fun he => hr (he ▸ h), hs other h⟩⟩

namespace Document

/-- A payload and its document: two lists, with one page or annotation for each entry, in order, and
no page name twice. -/
def Reads (payload : Json) (document : Document) : Prop :=
  ∃ pages entries, payload = .arr [.arr pages, .arr entries] ∧
    List.Forall₂ Page.Reads pages document.pages ∧ document.pageNames.Nodup ∧
    List.Forall₂ Annot.Reads entries document.annotations

/-- What else can stop the reading of a payload: the first page entry that is not read has a scalar
for its dependencies, or all pages are read, and the first annotation entry that is not read has a
value that overflows. -/
inductive Escapes : Json → Prop
  | dependencies {before after annotations : List Json} {raw : Json} {pages : List Page}
      (hb : List.Forall₂ Page.Reads before pages) (h : Page.Unlistable raw) :
      Escapes (.arr [.arr (before ++ raw :: after), .arr annotations])
  | value {pages before after : List Json} {raw : Json} {found : List Page} {entries : List Annot}
      (hp : List.Forall₂ Page.Reads pages found) (hn : (found.map (·.name)).Nodup)
      (hb : List.Forall₂ Annot.Reads before entries) (h : Annot.Overflows raw) :
      Escapes (.arr [.arr pages, .arr (before ++ raw :: after)])

theorem mapM_decode_pages {raws : List Json} {pages : List Page} :
    raws.mapM Page.decode = .ok pages ↔ List.Forall₂ Page.Reads raws pages := by
  simp only [mapM_eq_ok, Page.decode_eq_ok_iff]

theorem mapM_decode_annotations {raws : List Json} {entries : List Annot} :
    raws.mapM Annot.decode = .ok entries ↔ List.Forall₂ Annot.Reads raws entries := by
  simp only [mapM_eq_ok, Annot.decode_eq_ok_iff]

/-- After the pages come the check of their names and the annotations. -/
theorem decode_of_pages {raws entries : List Json} {pages : List Page}
    (hp : List.Forall₂ Page.Reads raws pages) (hn : (pages.map (·.name)).Nodup) :
    decode (.arr [.arr raws, .arr entries]) =
      entries.mapM Annot.decode >>= fun annotations => pure ⟨pages, annotations⟩ := by
  have hnone : firstRepeated? [] (pages.map (·.name)) = none :=
    firstRepeated?_eq_none_iff.2 ⟨hn, fun _ _ => List.not_mem_nil⟩
  rw [decode, mapM_decode_pages.2 hp, show Except.ok pages = pure pages from rfl, pure_bind, hnone]

theorem decode_of_repeated {raws entries : List Json} {pages : List Page}
    (hp : List.Forall₂ Page.Reads raws pages) (hn : ¬(pages.map (·.name)).Nodup) :
    ∃ cause, decode (.arr [.arr raws, .arr entries]) = .error (.malformed cause) := by
  cases hr : firstRepeated? [] (pages.map (·.name)) with
  | none => exact absurd (firstRepeated?_eq_none_iff.1 hr).1 hn
  | some name =>
    refine ⟨.duplicatePage name, ?_⟩
    rw [decode, mapM_decode_pages.2 hp, show Except.ok pages = pure pages from rfl, pure_bind, hr]
    rfl

/-- A payload that is not a pair of lists is malformed. -/
theorem decode_of_not_pair {payload : Json}
    (h : ∀ pages entries, payload ≠ .arr [.arr pages, .arr entries]) :
    ∃ cause, decode payload = .error (.malformed cause) := by
  unfold decode
  split
  next pages entries => exact absurd rfl (h pages entries)
  next => exact ⟨_, rfl⟩
  next => exact ⟨_, rfl⟩

theorem decode_eq_ok_iff {payload : Json} {document : Document} :
    decode payload = .ok document ↔ Reads payload document := by
  constructor
  · intro h
    by_cases hpair : ∃ pages entries, payload = .arr [.arr pages, .arr entries]
    · obtain ⟨pages, entries, rfl⟩ := hpair
      obtain ⟨found, hp, -⟩ := bind_eq_ok.1 h
      replace hp := mapM_decode_pages.1 hp
      by_cases hn : (found.map (·.name)).Nodup
      · rw [decode_of_pages hp hn] at h
        obtain ⟨annotations, ha, h⟩ := bind_eq_ok.1 h
        cases h
        exact ⟨pages, entries, rfl, hp, hn, mapM_decode_annotations.1 ha⟩
      · obtain ⟨cause, hc⟩ := decode_of_repeated hp hn
        rw [hc] at h
        cases h
    · simp only [not_exists] at hpair
      obtain ⟨cause, hc⟩ := decode_of_not_pair hpair
      rw [hc] at h
      cases h
  · rintro ⟨pages, entries, rfl, hp, hn, ha⟩
    rw [decode_of_pages hp hn, mapM_decode_annotations.2 ha]
    rfl

/-- Every error is a malformed document, or one of the two that escape. -/
theorem decode_error_cases {payload : Json} {e : DecodeError} (h : decode payload = .error e) :
    (∃ cause, e = .malformed cause) ∨ Escapes payload := by
  by_cases hpair : ∃ pages entries, payload = .arr [.arr pages, .arr entries]
  · obtain ⟨pages, entries, rfl⟩ := hpair
    rcases bind_eq_error.1 h with hp | ⟨found, hp, -⟩
    · obtain ⟨before, raw, after, read, rfl, hb, hraw⟩ := mapM_eq_error.1 hp
      simp only [Page.decode_eq_ok_iff] at hb
      exact (Page.decode_error_cases hraw).imp_right (.dependencies hb)
    · replace hp := mapM_decode_pages.1 hp
      by_cases hn : (found.map (·.name)).Nodup
      · rw [decode_of_pages hp hn] at h
        rcases bind_eq_error.1 h with ha | ⟨_, _, h⟩
        · obtain ⟨before, raw, after, read, rfl, hb, hraw⟩ := mapM_eq_error.1 ha
          simp only [Annot.decode_eq_ok_iff] at hb
          exact (Annot.decode_error_cases hraw).imp_right (.value hp hn hb)
        · cases h
      · obtain ⟨cause, hc⟩ := decode_of_repeated hp hn
        rw [hc] at h
        cases h
        exact .inl ⟨cause, rfl⟩
  · simp only [not_exists] at hpair
    obtain ⟨cause, hc⟩ := decode_of_not_pair hpair
    rw [hc] at h
    cases h
    exact .inl ⟨cause, rfl⟩

theorem decode_of_escapes {payload : Json} (h : Escapes payload) :
    ∃ e, decode payload = .error e ∧ ∀ cause, e ≠ .malformed cause := by
  cases h with
  | dependencies hb h =>
    obtain ⟨cause, hc⟩ := Page.decode_of_unlistable h
    replace hb := mapM_eq_ok.1 (mapM_decode_pages.2 hb)
    refine ⟨.shape cause, bind_eq_error.2 (.inl ?_), fun _ => DecodeError.noConfusion⟩
    exact mapM_eq_error.2 ⟨_, _, _, _, rfl, hb, hc⟩
  | value hp hn hb h =>
    obtain ⟨cause, hc⟩ := Annot.decode_of_overflows h
    replace hb := mapM_eq_ok.1 (mapM_decode_annotations.2 hb)
    refine ⟨.overflow cause, ?_, fun _ => DecodeError.noConfusion⟩
    rw [decode_of_pages hp hn]
    exact bind_eq_error.2 (.inl (mapM_eq_error.2 ⟨_, _, _, _, rfl, hb, hc⟩))

/-- With distinct page names, a page is found under its name. -/
theorem page?_name {document : Document} (hn : document.pageNames.Nodup) {page : Page}
    (hp : page ∈ document.pages) : document.page? page.name = some page := by
  unfold pageNames at hn
  unfold page?
  generalize document.pages = pages at hn hp
  induction pages with
  | nil => cases hp
  | cons first rest ih =>
    rw [List.map_cons, List.nodup_cons] at hn
    rcases List.mem_cons.1 hp with rfl | hp
    · rw [List.find?_cons_of_pos (by simp)]
    · have hne : first.name ≠ page.name := fun he => hn.1 (he ▸ List.mem_map_of_mem hp)
      rw [List.find?_cons_of_neg (by simp [hne])]
      exact ih hn.2 hp

/-- A payload is read or refused as malformed unless a scalar stands for the dependencies of a page
or a number does not fit its kind. What is read has the pages and the annotations of the payload,
one for each entry and in order, and each page is found under its name. -/
theorem decode_outcome (payload : Json) :
    (((∃ document, decode payload = .ok document) ∨
        ∃ cause, decode payload = .error (.malformed cause)) ↔ ¬Escapes payload) ∧
    ∀ document, decode payload = .ok document →
      Reads payload document ∧ document.pageNames.Nodup ∧
      ∀ page ∈ document.pages, document.page? page.name = some page := by
  refine ⟨⟨?_, fun hescapes => ?_⟩, fun document h => ?_⟩
  · intro h hescapes
    obtain ⟨e, he, hne⟩ := decode_of_escapes hescapes
    rcases h with ⟨document, h⟩ | ⟨cause, h⟩
    · rw [h] at he
      cases he
    · rw [h] at he
      cases he
      exact hne cause rfl
  · cases h : decode payload with
    | ok document => exact .inl ⟨document, rfl⟩
    | error e =>
      obtain ⟨cause, rfl⟩ := (decode_error_cases h).resolve_right hescapes
      exact .inr ⟨cause, rfl⟩
  · have hr := decode_eq_ok_iff.1 h
    have ⟨_, _, _, _, hn, _⟩ := hr
    exact ⟨hr, hn, fun page hp => page?_name hn hp⟩

/-- Two pages, one with a statement that cannot be read, and an annotation without a value. -/
theorem decode_outcome_two_pages :
    let payload : Json := .arr
      [.arr [.arr [.arr [.null, .arr [.int 1]], .str "a/b", .arr [.str "c", .int 2]],
        .arr [.arr [.null, .arr []], .str "", .null]],
      .arr [.arr [.null, .null]]]
    let document : Document :=
      ⟨[⟨"a/b", [.unknown none (.int 1)], ["c", "2"]⟩, ⟨"", [], []⟩],
        [⟨.null, .unknown none .null, .unknown none .null⟩]⟩
    decode payload = .ok document ∧ Reads payload document ∧ document.page? "" = some ⟨"", [], []⟩ := by
  intro payload document
  have h : decode payload = .ok document := by rfl
  obtain ⟨hr, -, hpage⟩ := (decode_outcome payload).2 document h
  exact ⟨h, hr, hpage ⟨"", [], []⟩ (by simp [document])⟩

/-- A page that depends on the number 5 ends the reading with an error of another kind. -/
theorem decode_scalar_dependencies :
    ¬∀ payload, (∃ document, decode payload = .ok document) ∨
      ∃ cause, decode payload = .error (.malformed cause) := by
  intro h
  let payload : Json := .arr [.arr [.arr [.arr [.null, .arr []], .str "a", .int 5]], .arr []]
  have hshape : decode payload = .error (.shape (.notIterable (.int 5))) := by rfl
  rcases h payload with ⟨document, hd⟩ | ⟨cause, hc⟩
  · rw [hshape] at hd
    cases hd
  · rw [hshape] at hc
    cases hc

end Document
end WebDocs
