import WebDocs.Proofs.Json.Same
import WebDocs.Proofs.Json.StringText
import WebDocs.Proofs.Json.Word

namespace WebDocs.Json

/-- In no text of a value, keys included, does a second half of a pair stand right behind a first
one. -/
inductive Unsplit : Json → Prop
  | str {s : Text} (h : s.Unsplit) : Unsplit (str s)
  | arr {items : List Json} (h : ∀ item ∈ items, Unsplit item) : Unsplit (arr items)
  | obj {members : Members Json} (hk : ∀ m ∈ members, m.1.Unsplit)
      (h : ∀ m ∈ members, Unsplit m.2) : Unsplit (obj members)
  | null : Unsplit null
  | bool (value : Bool) : Unsplit (bool value)
  | int (value : Int) : Unsplit (int value)
  | float (value : Decimal) : Unsplit (float value)

theorem mem_sortedMembers {members : Members Json} {m : Text × Json} :
    m ∈ sortedMembers members ↔ ∃ n ∈ members, m = (n.1, n.2.sorted) := by
  rw [← Members.mem_valuesOf, valuesOf_sortedMembers, List.mem_reverse, List.mem_map]
  constructor
  · rintro ⟨value, hv, he⟩
    exact ⟨_, Members.mem_valuesOf.1 hv, Prod.ext rfl he.symm⟩
  · rintro ⟨⟨key, value⟩, hn, rfl⟩
    exact ⟨value, Members.mem_valuesOf.2 hn, rfl⟩

theorem Unsplit.sorted {value : Json} (h : value.Unsplit) : value.sorted.Unsplit := by
  induction h with
  | arr _ ih =>
    rw [Json.sorted, sortedItems_eq_map]
    exact .arr (List.forall_mem_map.2 ih)
  | obj hk _ ih =>
    rw [Json.sorted]
    refine .obj (fun m hm => ?_) fun m hm => ?_
    · obtain ⟨n, hn, rfl⟩ := mem_sortedMembers.1 hm
      exact hk n hn
    · obtain ⟨n, hn, rfl⟩ := mem_sortedMembers.1 hm
      exact ih n hn
  | str h => exact .str h
  | null => exact .null
  | bool value => exact .bool value
  | int value => exact .int value
  | float value => exact .float value

/-- How the texts of a kind of value begin. -/
def opener : Json → Option Char
  | str _ => some '"'
  | arr _ => some '['
  | obj _ => some '\x7b'
  | _ => none

theorem isWord_of_opener {value : Json} (h : value.opener = none) : value.IsWord := by
  cases value with
  | str | arr | obj => cases h
  | _ => trivial

theorem print_ne_nil {value : Json} (h : value.IsWord) : value.print compact ≠ [] := by
  cases value with
  | null => decide
  | bool b => cases b <;> decide
  | int n =>
    intro hn
    exact Nat.toDigits_ne_nil (List.append_eq_nil_iff.1 hn).2
  | float x =>
    intro hx
    change printFloat x = [] at hx
    rw [printFloat_eq] at hx
    have hparts := (List.append_eq_nil_iff.1 hx).2
    cases x with
    | nan | infinite => cases hparts
    | finite negative digits exponent =>
      obtain ⟨c, rest, hspell, -⟩ := Decimal.spelled_magnitudeText digits exponent
      exact absurd (hspell.symm.trans hparts) (List.cons_ne_nil c rest)
  | str | arr | obj => cases h

theorem print_word_head {value : Json} (h : value.IsWord) :
    ∃ c rest, value.print compact = c :: rest ∧ c ∉ breaks := by
  cases hp : value.print compact with
  | nil => exact absurd hp (print_ne_nil h)
  | cons c rest => exact ⟨c, rest, rfl, print_word_not_mem h c (hp ▸ List.mem_cons_self)⟩

/-- The first character of a text: the opening one of its kind, or the first one of a word. -/
theorem print_head (value : Json) : ∃ c rest, value.print compact = c :: rest ∧
    (value.opener = some c ∧ c ∈ ['"', '[', '\x7b'] ∨ value.opener = none ∧ c ∉ breaks) := by
  cases ho : value.opener with
  | none =>
    obtain ⟨c, rest, hp, hc⟩ := print_word_head (isWord_of_opener ho)
    exact ⟨c, rest, hp, .inr ⟨rfl, hc⟩⟩
  | some c =>
    cases value with
    | str s =>
      cases ho
      exact ⟨'"', _, rfl, .inl ⟨rfl, by decide⟩⟩
    | arr items =>
      cases ho
      cases items <;> exact ⟨'[', _, rfl, .inl ⟨rfl, by decide⟩⟩
    | obj members =>
      cases ho
      cases members <;> exact ⟨'\x7b', _, rfl, .inl ⟨rfl, by decide⟩⟩
    | null | bool | int | float => cases ho

theorem opener_eq {value other : Json} {r s : List Char}
    (h : value.print compact ++ r = other.print compact ++ s) : value.opener = other.opener := by
  have hsub : ∀ c ∈ ['"', '[', '\x7b'], c ∈ breaks :=
    forall_of_all (by decide)
  obtain ⟨c, rest, hc, hv⟩ := print_head value
  obtain ⟨d, rest', hd, ho⟩ := print_head other
  rw [hc, hd] at h
  obtain ⟨rfl, -⟩ := List.cons.inj h
  rcases hv with ⟨hv, hmem⟩ | ⟨hv, hmem⟩
  · rcases ho with ⟨ho, -⟩ | ⟨-, hnot⟩
    · rw [hv, ho]
    · exact absurd (hsub c hmem) hnot
  · rcases ho with ⟨-, hmem'⟩ | ⟨ho, -⟩
    · exact absurd (hsub c hmem') hmem
    · rw [hv, ho]

section

variable {α : Type} (f : α → List Char) (close : Char)

/-- What stands behind the first element of a list. -/
def rests : List α → List Char
  | [] => [close]
  | x :: rest => ',' :: f x ++ rests rest

/-- The elements of a list and the closing bracket. -/
def body : List α → List Char
  | [] => [close]
  | x :: rest => f x ++ rests f close rest

variable {f close} {kind : α → Prop}

/-- The text of an element is not the beginning of the text of another element of a kind. -/
def Delimited (f : α → List Char) (kind : α → Prop) (x : α) : Prop :=
  ∀ y r s, kind y → Ends r → Ends s → f x ++ r = f y ++ s → x = y ∧ r = s

theorem ends_rests (h : close ∈ [']', '\x7d']) (xs : List α) (r : List Char) :
    Ends (rests f close xs ++ r) := by
  cases xs with
  | nil => exact ends_cons (List.mem_cons_of_mem _ h) r
  | cons x rest => exact ends_cons (by decide) _

theorem rests_append_inj (hc : close ∈ [']', '\x7d']) {xs ys : List α} {r s : List Char}
    (hx : ∀ x ∈ xs, Delimited f kind x) (hk : ∀ y ∈ ys, kind y)
    (h : rests f close xs ++ r = rests f close ys ++ s) :
    xs = ys ∧ r = s := by
  have hcomma : close ≠ ',' := by
    rintro rfl
    revert hc
    decide
  induction xs generalizing ys with
  | nil =>
    cases ys with
    | nil => exact ⟨rfl, (List.cons.inj h).2⟩
    | cons y ys => exact absurd (List.cons.inj h).1 hcomma
  | cons x xs ih =>
    cases ys with
    | nil => exact absurd (List.cons.inj h).1.symm hcomma
    | cons y ys =>
      simp only [rests, List.cons_append, List.append_assoc, List.cons.injEq, true_and] at h
      rw [List.forall_mem_cons] at hk
      obtain ⟨rfl, hrest⟩ := hx x List.mem_cons_self y _ _ hk.1 (ends_rests hc xs r)
        (ends_rests hc ys s) h
      obtain ⟨rfl, hr⟩ := ih (fun z hz => hx z (List.mem_cons_of_mem _ hz)) hk.2 hrest
      exact ⟨rfl, hr⟩

theorem body_append_inj (hc : close ∈ [']', '\x7d'])
    (hf : ∀ x t s, f x ++ t ≠ close :: s) {xs ys : List α} {r s : List Char}
    (hx : ∀ x ∈ xs, Delimited f kind x) (hk : ∀ y ∈ ys, kind y)
    (h : body f close xs ++ r = body f close ys ++ s) :
    xs = ys ∧ r = s := by
  cases xs with
  | nil =>
    cases ys with
    | nil => exact ⟨rfl, (List.cons.inj h).2⟩
    | cons y ys =>
      rw [body, body, List.append_assoc] at h
      exact absurd h.symm (hf y _ _)
  | cons x xs =>
    rw [body, List.append_assoc] at h
    cases ys with
    | nil => exact absurd h (hf x _ _)
    | cons y ys =>
      rw [body, List.append_assoc] at h
      rw [List.forall_mem_cons] at hk
      obtain ⟨rfl, hrest⟩ := hx x List.mem_cons_self y _ _ hk.1 (ends_rests hc xs r)
        (ends_rests hc ys s) h
      obtain ⟨rfl, hr⟩ :=
        rests_append_inj hc (fun z hz => hx z (List.mem_cons_of_mem _ hz)) hk.2 hrest
      exact ⟨rfl, hr⟩

end

def printMember (member : Text × Json) : List Char :=
  printString member.1 ++ ':' :: member.2.print compact

theorem printItems_eq (items : List Json) :
    printItems compact items = rests (print compact) ']' items := by
  induction items with
  | nil => rfl
  | cons item rest ih =>
    change ',' :: print compact item ++ printItems compact rest = _
    rw [ih]
    rfl

theorem printMembers_eq (members : Members Json) :
    printMembers compact members = rests printMember '\x7d' members := by
  induction members with
  | nil => rfl
  | cons m rest ih =>
    obtain ⟨key, value⟩ := m
    change ',' :: printString key ++ [':'] ++ print compact value ++ printMembers compact rest = _
    rw [ih]
    simp only [rests, printMember, List.cons_append, List.nil_append, List.append_assoc]

theorem print_arr (items : List Json) :
    (arr items).print compact = '[' :: body (print compact) ']' items := by
  cases items with
  | nil => rfl
  | cons item rest =>
    change '[' :: print compact item ++ printItems compact rest = _
    rw [printItems_eq]
    rfl

theorem print_obj (members : Members Json) :
    (obj members).print compact = '\x7b' :: body printMember '\x7d' members := by
  cases members with
  | nil => rfl
  | cons m rest =>
    obtain ⟨key, value⟩ := m
    change '\x7b' :: printString key ++ [':'] ++ print compact value ++
      printMembers compact rest = _
    rw [printMembers_eq]
    simp only [body, printMember, List.cons_append, List.nil_append, List.append_assoc]

theorem print_append_ne (value : Json) {close : Char} (hc : close ∈ [']', '\x7d'])
    (t s : List Char) : value.print compact ++ t ≠ close :: s := by
  intro h
  have hopen : ∀ c ∈ [']', '\x7d'], c ∉ ['"', '[', '\x7b'] ∧ c ∈ breaks :=
    forall_of_all (by decide)
  obtain ⟨c, rest, hp, hv⟩ := print_head value
  rw [hp] at h
  obtain ⟨rfl, -⟩ := List.cons.inj h
  rcases hv with ⟨-, hmem⟩ | ⟨-, hnot⟩
  · exact (hopen c hc).1 hmem
  · exact hnot (hopen c hc).2

theorem printMember_append_ne (m : Text × Json) (t s : List Char) :
    printMember m ++ t ≠ '\x7d' :: s := fun h => absurd (List.cons.inj h).1 (by decide)

/-- The text of a value is not the beginning of the text of another value. -/
theorem delimited_print {value : Json} (hv : value.Unsplit) :
    Delimited (print compact) Unsplit value := by
  induction hv with
  | arr _ ih =>
    intro other r s ho hr hs h
    have hopener := opener_eq h
    cases ho with
    | arr ho =>
      rw [print_arr, print_arr] at h
      obtain ⟨rfl, hr⟩ := body_append_inj (by decide)
        (fun x => print_append_ne x (by decide)) ih ho (List.cons.inj h).2
      exact ⟨rfl, hr⟩
    | _ => cases hopener
  | @obj members hk _ ih =>
    intro other r s ho hr hs h
    have hopener := opener_eq h
    cases ho with
    | obj hk' ho =>
      let kind (m : Text × Json) : Prop := m.1.Unsplit ∧ m.2.Unsplit
      have hmember : ∀ m ∈ members, Delimited printMember kind m := by
        intro m hm n r s hn hr hs h
        rw [printMember, printMember, List.append_assoc, List.append_assoc] at h
        obtain ⟨hkey, h⟩ := printString_append_inj (hk m hm) hn.1 h
        obtain ⟨hvalue, h⟩ := ih m hm n.2 r s hn.2 hr hs (List.cons.inj h).2
        exact ⟨Prod.ext hkey hvalue, h⟩
      rw [print_obj, print_obj] at h
      obtain ⟨rfl, hr⟩ := body_append_inj (by decide) printMember_append_ne hmember
        (fun m hm => ⟨hk' m hm, ho m hm⟩) (List.cons.inj h).2
      exact ⟨rfl, hr⟩
    | _ => cases hopener
  | str ha =>
    intro other r s ho hr hs h
    have hopener := opener_eq h
    cases ho with
    | str hb =>
      obtain ⟨rfl, hr⟩ := printString_append_inj ha hb h
      exact ⟨rfl, hr⟩
    | _ => cases hopener
  | null | bool | int | float =>
    intro other r s _ hr hs h
    exact print_word_append_inj trivial (isWord_of_opener (opener_eq h).symm) hr hs h

theorem print_injective {value other : Json} (hv : value.Unsplit) (ho : other.Unsplit)
    (h : value.print compact = other.print compact) : value = other :=
  (delimited_print hv other [] [] ho ends_nil ends_nil (by rw [h])).1

end WebDocs.Json

namespace WebDocs

theorem positionKey_of_same {position other : Json} (h : Json.Same position other) :
    positionKey position = positionKey other := by
  rw [positionKey, (Json.sorted_eq_iff position other).2 h, positionKey]

/-- Two positions have one key exactly when they are the same value up to the order of members. -/
theorem positionKey_eq_iff {position other : Json} (hp : position.Unsplit) (ho : other.Unsplit) :
    positionKey position = positionKey other ↔ Json.Same position other := by
  refine ⟨fun h => ?_, positionKey_of_same⟩
  have hchars := List.map_injective_iff.2 (fun _ _ => CodePoint.scalar_injective)
    (Text.ofList_injective h)
  exact (Json.sorted_eq_iff position other).1 (Json.print_injective hp.sorted ho.sorted hchars)

end WebDocs
