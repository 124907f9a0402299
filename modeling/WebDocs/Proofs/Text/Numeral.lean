import WebDocs.Proofs.Text.Trim
import WebDocs.Text.Numeral

namespace WebDocs.Text.Numeral

/-- In ASCII the text is this one with blanks around it. -/
def Framed (s : List CodePoint) (body : List Char) : Prop :=
  ∃ before after, s.mapM plainChar? = some (before ++ body ++ after) ∧
    (∀ c ∈ before, isPadding c = true) ∧ ∀ c ∈ after, isPadding c = true

inductive Sign : List Char → Bool → Prop
  | minus : Sign ['-'] true
  | plus : Sign ['+'] false
  | none : Sign [] false

/-- Digits behind a digit, each with at most one underscore before it. -/
inductive More : List Char → List Nat → Prop
  | nil : More [] []
  | digit {c : Char} {s : List Char} {ds : List Nat} (hc : c.isDigit = true) (hs : More s ds) :
      More (c :: s) (digitOf c :: ds)
  | apart {c : Char} {s : List Char} {ds : List Nat} (hc : c.isDigit = true) (hs : More s ds) :
      More ('_' :: c :: s) (digitOf c :: ds)

/-- Digits, most significant first, with single underscores between them. -/
inductive Digits : List Char → List Nat → Prop
  | mk {c : Char} {s : List Char} {ds : List Nat} (hc : c.isDigit = true) (hs : More s ds) :
      Digits (c :: s) (digitOf c :: ds)

/-- A part of a decimal may have no digits. -/
inductive Part : List Char → List Nat → Prop
  | nil : Part [] []
  | digits {s : List Char} {ds : List Nat} (hs : Digits s ds) : Part s ds

inductive Exponent : List Char → Int → Prop
  | none : Exponent [] 0
  | some {mark : Char} {sign s : List Char} {negative : Bool} {ds : List Nat}
      (hm : mark = 'e' ∨ mark = 'E') (hn : Sign sign negative) (hd : Digits s ds) :
      Exponent (mark :: (sign ++ s)) (signed negative (valueOf ds))

/-- A decimal without its sign, rounded to the nearest binary64 number. -/
inductive Unsigned (negative : Bool) : List Char → Decimal → Prop
  | whole {s tail : List Char} {ds : List Nat} {e : Int} (hd : Digits s ds) (he : Exponent tail e) :
      Unsigned negative (s ++ tail) (.ofScientific negative (valueOf ds) e)
  | point {a b tail : List Char} {as bs : List Nat} {e : Int} (ha : Part a as) (hb : Part b bs)
      (hne : as ++ bs ≠ []) (he : Exponent tail e) :
      Unsigned negative (a ++ '.' :: (b ++ tail))
        (.ofScientific negative (valueOf (as ++ bs)) (e - bs.length))

/-- The text spells a whole number. -/
inductive Integer (s : List CodePoint) : Int → Prop
  | mk {sign body : List Char} {negative : Bool} {ds : List Nat} (hf : Framed s (sign ++ body))
      (hn : Sign sign negative) (hd : Digits body ds) (hl : ds.length ≤ maxDigits) :
      Integer s (signed negative (valueOf ds))

/-- The text spells a decimal; the names of infinity and of no number count in any case. -/
inductive Floating (s : List CodePoint) : Decimal → Prop
  | infinite {sign word : List Char} {negative : Bool} (hf : Framed s (sign ++ word))
      (hn : Sign sign negative)
      (hw : word.map Char.toLower = "inf".toList ∨ word.map Char.toLower = "infinity".toList) :
      Floating s (.infinite negative)
  | nan {sign word : List Char} {negative : Bool} (hf : Framed s (sign ++ word))
      (hn : Sign sign negative) (hw : word.map Char.toLower = "nan".toList) : Floating s .nan
  | number {sign body : List Char} {negative : Bool} {x : Decimal} (hf : Framed s (sign ++ body))
      (hn : Sign sign negative) (hb : Unsigned negative body x) : Floating s x

theorem framed_of_plain? {s : List CodePoint} {body : List Char} (h : plain? s = some body) :
    Framed s body := by
  obtain ⟨t, ht, rfl⟩ := Option.map_eq_some_iff.1 h
  obtain ⟨before, after, hs, hb, ha⟩ := exists_trimBy_frame isPadding t
  exact ⟨before, after, ht.trans (congrArg some hs), hb, ha⟩

theorem plain?_of_framed {s : List CodePoint} {body : List Char} (h : Framed s body)
    (hb : ∀ c ∈ body, isPadding c = false) : plain? s = some body := by
  obtain ⟨before, after, hs, hbefore, hafter⟩ := h
  rw [plain?, hs, Option.map_some, trimBy_frame hbefore hb hafter]

/-- Whether a digit follows, itself or behind an underscore. -/
def Continues : List Char → Prop
  | c :: d :: _ => c.isDigit = true ∨ c = '_' ∧ d.isDigit = true
  | [c] => c.isDigit = true
  | [] => False

theorem exists_more (s : List Char) : ∃ used, s = used ++ (moreDigits s).2 ∧
    More used (moreDigits s).1 := by
  fun_induction moreDigits s with
  | case1 => exact ⟨[], rfl, .nil⟩
  | case2 c hc => exact ⟨[c], rfl, .digit hc .nil⟩
  | case3 c hc => exact ⟨[], rfl, .nil⟩
  | case4 c d rest hc found tail hm ih =>
    obtain ⟨used, hs, hu⟩ := ih
    rw [hm] at hs hu
    exact ⟨c :: used, congrArg (c :: ·) hs, .digit hc hu⟩
  | case5 c d rest hc hd found tail hm ih =>
    obtain ⟨used, hs, hu⟩ := ih
    rw [hm] at hs hu
    rw [Bool.and_eq_true, decide_eq_true_iff] at hd
    obtain ⟨rfl, hd⟩ := hd
    exact ⟨'_' :: d :: used, congrArg ('_' :: d :: ·) hs, .apart hd hu⟩
  | case6 c d rest hc hd => exact ⟨[], rfl, .nil⟩

theorem moreDigits_digit {c : Char} (hc : c.isDigit = true) (s : List Char) :
    moreDigits (c :: s) = (digitOf c :: (moreDigits s).1, (moreDigits s).2) := by
  cases s with
  | nil => exact if_pos hc
  | cons d rest => rw [moreDigits, if_pos hc]

theorem moreDigits_apart {c : Char} (hc : c.isDigit = true) (s : List Char) :
    moreDigits ('_' :: c :: s) = (digitOf c :: (moreDigits s).1, (moreDigits s).2) := by
  have hd : ('_' = '_' && c.isDigit) = true := by rw [hc]; rfl
  rw [moreDigits, if_neg (by decide), if_pos hd]

theorem moreDigits_of_not_continues {tail : List Char} (h : ¬Continues tail) :
    moreDigits tail = ([], tail) := by
  match tail with
  | [] => rfl
  | [c] => exact if_neg h
  | c :: d :: rest =>
    rw [Continues, not_or] at h
    have hd : ¬(c = '_' && d.isDigit) = true := by simpa using h.2
    rw [moreDigits, if_neg h.1, if_neg hd]

theorem moreDigits_append {used tail : List Char} {ds : List Nat} (hu : More used ds)
    (ht : ¬Continues tail) : moreDigits (used ++ tail) = (ds, tail) := by
  induction hu with
  | nil => exact moreDigits_of_not_continues ht
  | digit hc _ ih => rw [List.cons_append, moreDigits_digit hc, ih]
  | apart hc _ ih => rw [List.cons_append, List.cons_append, moreDigits_apart hc, ih]

theorem exists_part (s : List Char) : ∃ used, s = used ++ (digits s).2 ∧ Part used (digits s).1 := by
  unfold digits
  split
  next => exact ⟨[], rfl, .nil⟩
  next c rest =>
    split
    next hc =>
      obtain ⟨used, hs, hu⟩ := exists_more rest
      rw [moreDigits_digit hc]
      exact ⟨c :: used, congrArg (c :: ·) hs, .digits (.mk hc hu)⟩
    next => exact ⟨[], rfl, .nil⟩

theorem digits_append {used tail : List Char} {ds : List Nat} (hu : Part used ds)
    (ht : ¬Continues tail) : digits (used ++ tail) = (ds, tail) := by
  cases hu with
  | nil =>
    cases tail with
    | nil => rfl
    | cons c rest =>
      have hc : ¬c.isDigit = true := by
        cases rest with
        | nil => exact ht
        | cons d rest => exact fun hc => ht (.inl hc)
      rw [List.nil_append, digits, if_neg hc]
  | digits hd =>
    obtain ⟨hc, hs⟩ := hd
    rw [List.cons_append, digits, if_pos hc]
    exact moreDigits_append (.digit hc hs) ht

theorem exists_sign (s : List Char) : ∃ mark, s = mark ++ (sign s).2 ∧ Sign mark (sign s).1 := by
  unfold sign
  split
  next rest => exact ⟨['-'], rfl, .minus⟩
  next rest => exact ⟨['+'], rfl, .plus⟩
  next => exact ⟨[], rfl, .none⟩

theorem sign_append {mark s : List Char} {negative : Bool} (hm : Sign mark negative)
    (hs : ∀ c ∈ s.head?, c ≠ '-' ∧ c ≠ '+') : sign (mark ++ s) = (negative, s) := by
  cases hm with
  | minus => rfl
  | plus => rfl
  | none =>
    rw [List.nil_append]
    unfold sign
    split
    next => exact absurd rfl (hs '-' rfl).1
    next => exact absurd rfl (hs '+' rfl).2
    next => rfl

/-- No character of the text is a blank that would be cut off. -/
def Solid (s : List Char) : Prop := ∀ c ∈ s, isPadding c = false

instance (s : List Char) : Decidable (Solid s) :=
  decidable_of_iff (s.all (fun c => !isPadding c) = true) (by simp [Solid])

theorem solid_of_digit {c : Char} (h : c.isDigit = true) : isPadding c = false := by
  rw [isPadding, Bool.or_eq_false_iff, Bool.and_eq_false_iff]
  rw [Char.isDigit, Bool.and_eq_true, decide_eq_true_iff, decide_eq_true_iff] at h
  have hlow : 48 ≤ c.toNat := UInt32.le_iff_toNat_le.1 h.1
  refine ⟨decide_eq_false fun hc => ?_, .inr (decide_eq_false (by omega))⟩
  subst hc
  exact absurd hlow (by decide)

theorem Solid.append {s t : List Char} (hs : Solid s) (ht : Solid t) : Solid (s ++ t) := fun c hc =>
  (List.mem_append.1 hc).elim (hs c) (ht c)

theorem solid_cons {c : Char} {s : List Char} (hc : isPadding c = false) (hs : Solid s) :
    Solid (c :: s) := List.forall_mem_cons.2 ⟨hc, hs⟩

theorem solid_nil : Solid [] := fun _ h => nomatch h

theorem More.solid {s : List Char} {ds : List Nat} (h : More s ds) : Solid s := by
  induction h with
  | nil => exact solid_nil
  | digit hc _ ih => exact solid_cons (solid_of_digit hc) ih
  | apart hc _ ih => exact solid_cons (by decide) (solid_cons (solid_of_digit hc) ih)

theorem Digits.solid {s : List Char} {ds : List Nat} (h : Digits s ds) : Solid s := by
  cases h with
  | mk hc hs => exact solid_cons (solid_of_digit hc) hs.solid

theorem Sign.solid {s : List Char} {negative : Bool} (h : Sign s negative) : Solid s := by
  cases h with
  | minus => exact solid_cons (by decide) solid_nil
  | plus => exact solid_cons (by decide) solid_nil
  | none => exact solid_nil

theorem Digits.head {s : List Char} {ds : List Nat} (h : Digits s ds) :
    ∀ c ∈ s.head?, c.isDigit = true := by
  cases h with
  | mk hc _ =>
    intro d hd
    cases hd
    exact hc

theorem not_sign_of_digit {c : Char} (h : c.isDigit = true) : c ≠ '-' ∧ c ≠ '+' :=
  ⟨fun hc => absurd (hc ▸ h) (by decide), fun hc => absurd (hc ▸ h) (by decide)⟩

theorem Digits.ne_nil {s : List Char} {ds : List Nat} (h : Digits s ds) : ds ≠ [] := by
  cases h with
  | mk => exact List.cons_ne_nil _ _

theorem Part.digits_of_ne_nil {s : List Char} {ds : List Nat} (h : Part s ds) (hn : ds ≠ []) :
    Digits s ds := by
  cases h with
  | nil => exact absurd rfl hn
  | digits hs => exact hs

/-- Digits up to the end of the text. -/
theorem digits_eq_iff {s : List Char} {ds : List Nat} (hn : ds ≠ []) :
    digits s = (ds, []) ↔ Digits s ds := by
  refine ⟨fun h => ?_, fun h => ?_⟩
  · obtain ⟨used, hs, hu⟩ := exists_part s
    rw [h] at hs hu
    rw [List.append_nil] at hs
    exact hs ▸ hu.digits_of_ne_nil hn
  · have hd := @digits_append s [] ds (.digits h) id
    rwa [List.append_nil] at hd

theorem int?_eq_some_iff {s : List CodePoint} {n : Int} : int? s = some n ↔ Integer s n := by
  refine ⟨fun h => ?_, fun ⟨hf, hn, hd, hl⟩ => ?_⟩
  · unfold int? at h
    obtain ⟨body, hb, h⟩ := Option.bind_eq_some_iff.1 h
    have hframed := framed_of_plain? hb
    obtain ⟨mark, hm, hsign⟩ := exists_sign body
    rw [hm] at hframed
    cases hs : sign body with
    | mk negative rest =>
      rw [hs] at h hframed hsign
      dsimp only at h
      split at h
      next => cases h
      next ds hn hd =>
        split at h
        next hl =>
          cases h
          exact .mk hframed hsign ((digits_eq_iff hn).1 hd) hl
        next => cases h
      next => cases h
  · have hplain := plain?_of_framed hf (hn.solid.append hd.solid)
    have hsign := sign_append hn fun c hc => not_sign_of_digit (hd.head c hc)
    have hdigits := (digits_eq_iff hd.ne_nil).2 hd
    simp only [int?, hplain, Option.bind_eq_bind, Option.bind_some, hsign, hdigits]
    cases hd with
    | mk => exact if_pos hl

theorem not_continues_cons {c : Char} (hd : c.isDigit = false) (hu : c ≠ '_') (rest : List Char) :
    ¬Continues (c :: rest) := by
  have hc : ¬c.isDigit = true := by rw [hd]; exact Bool.false_ne_true
  cases rest with
  | nil => exact hc
  | cons d rest => exact fun h => h.elim hc fun h => hu h.1

theorem Exponent.not_continues {s : List Char} {e : Int} (h : Exponent s e) : ¬Continues s := by
  cases h with
  | none => exact id
  | some hm =>
    rcases hm with rfl | rfl
    · exact not_continues_cons (by decide) (by decide) _
    · exact not_continues_cons (by decide) (by decide) _

theorem exponent?_eq_some_iff {s : List Char} {e : Int} : exponent? s = some e ↔ Exponent s e := by
  refine ⟨fun h => ?_, fun h => ?_⟩
  · cases s with
    | nil =>
      cases h
      exact .none
    | cons c rest =>
      rw [exponent?] at h
      split at h
      next hc =>
        rw [Bool.or_eq_true, decide_eq_true_iff, decide_eq_true_iff] at hc
        obtain ⟨mark, hm, hsign⟩ := exists_sign rest
        cases hs : sign rest with
        | mk negative rest =>
          rw [hs] at h hm hsign
          dsimp only at h
          split at h
          next => cases h
          next ds hn hd =>
            cases h
            rw [hm]
            exact .some hc hsign ((digits_eq_iff hn).1 hd)
          next => cases h
      next => cases h
  · cases h with
    | none => rfl
    | @some c mark body negative ds hm hn hd =>
      have hc : (c = 'e' || c = 'E') = true := by
        rw [Bool.or_eq_true, decide_eq_true_iff, decide_eq_true_iff]
        exact hm
      have hsign := sign_append hn fun c hc => not_sign_of_digit (hd.head c hc)
      have hdigits := (digits_eq_iff hd.ne_nil).2 hd
      simp only [exponent?, if_pos hc, hsign, hdigits]
      cases hd with
      | mk => rfl

theorem unsigned_of_unsigned? {negative : Bool} {s : List Char} {x : Decimal}
    (h : unsigned? negative s = some x) : Unsigned negative s x := by
  obtain ⟨a, hs, ha⟩ := exists_part s
  cases hw : digits s with
  | mk whole rest =>
    rw [hw] at hs ha
    rw [unsigned?, hw] at h
    dsimp only at h
    split at h
    next tail =>
      obtain ⟨b, ht, hb⟩ := exists_part tail
      cases hf : digits tail with
      | mk fraction rest =>
        rw [hf] at h ht hb
        dsimp only at h
        split at h
        next => exact nomatch h
        next hne =>
          obtain ⟨e, he, hx⟩ := Option.bind_eq_some_iff.1 h
          cases hx
          have hdigits : whole ++ fraction ≠ [] := by simpa using hne
          rw [hs, ht]
          exact .point ha hb hdigits (exponent?_eq_some_iff.1 he)
    next =>
      dsimp only at h
      split at h
      next => exact nomatch h
      next hne =>
        obtain ⟨e, he, hx⟩ := Option.bind_eq_some_iff.1 h
        cases hx
        have hdigits : whole ≠ [] := by simpa using hne
        rw [hs, List.append_nil, List.length_nil, Int.natCast_zero, Int.sub_zero]
        exact .whole (ha.digits_of_ne_nil hdigits) (exponent?_eq_some_iff.1 he)

theorem unsigned?_of_unsigned {negative : Bool} {s : List Char} {x : Decimal}
    (h : Unsigned negative s x) : unsigned? negative s = some x := by
  cases h with
  | @whole s tail ds e hd he =>
    have hdigits := digits_append (.digits hd) he.not_continues
    have hexponent := exponent?_eq_some_iff.2 he
    have hne : ¬(ds.isEmpty && ([] : List Nat).isEmpty) = true := by simpa using hd.ne_nil
    rw [unsigned?, hdigits]
    dsimp only
    split
    next =>
      cases he with
      | some hm => exact absurd hm (by decide)
    next =>
      rw [if_neg hne]
      simp [hexponent]
  | @point a b tail as bs e ha hb hne he =>
    have hdot : ¬Continues ('.' :: (b ++ tail)) := not_continues_cons (by decide) (by decide) _
    have hwhole := digits_append ha hdot
    have hfraction := digits_append hb he.not_continues
    have hexponent := exponent?_eq_some_iff.2 he
    have hne : ¬(as.isEmpty && bs.isEmpty) = true := by simpa using hne
    simp only [unsigned?, hwhole, hfraction, if_neg hne, hexponent]
    rfl

theorem toLower_of_lt {c : Char} (h : c.toNat < 65) : c.toLower = c := by
  have hc : ¬(c.val ≥ 'A'.val ∧ c.val ≤ 'Z'.val) := fun hc => by
    have hlow : 65 ≤ c.toNat := UInt32.le_iff_toNat_le.1 hc.1
    omega
  exact dif_neg hc

theorem lt_of_padding {c : Char} (h : isPadding c = true) : c.toNat < 65 := by
  rw [isPadding, Bool.or_eq_true, decide_eq_true_iff, Bool.and_eq_true, decide_eq_true_iff,
    decide_eq_true_iff] at h
  rcases h with rfl | h
  · decide
  · omega

/-- A word in any case has no blanks if it has none in lower case. -/
theorem solid_of_lower {word letters : List Char} (hw : word.map Char.toLower = letters)
    (hl : Solid letters) : Solid word := by
  intro c hc
  cases hp : isPadding c with
  | false => rfl
  | true =>
    have hm : c.toLower ∈ letters := hw ▸ List.mem_map_of_mem hc
    rw [toLower_of_lt (lt_of_padding hp)] at hm
    exact hp.symm.trans (hl c hm)

theorem not_sign_of_lower {word letters : List Char} (hw : word.map Char.toLower = letters)
    (hl : letters.head? ≠ some '-' ∧ letters.head? ≠ some '+') :
    ∀ c ∈ word.head?, c ≠ '-' ∧ c ≠ '+' := by
  intro c hc
  have hm : letters.head? = some c.toLower := by
    rw [← hw, List.head?_map, hc, Option.map_some]
  refine ⟨?_, ?_⟩
  · rintro rfl
    exact hl.1 hm
  · rintro rfl
    exact hl.2 hm

theorem Exponent.solid {s : List Char} {e : Int} (h : Exponent s e) : Solid s := by
  cases h with
  | none => exact solid_nil
  | some hm hn hd =>
    refine solid_cons ?_ (hn.solid.append hd.solid)
    rcases hm with rfl | rfl <;> decide

theorem Part.solid {s : List Char} {ds : List Nat} (h : Part s ds) : Solid s := by
  cases h with
  | nil => exact solid_nil
  | digits hs => exact hs.solid

theorem Unsigned.solid {negative : Bool} {s : List Char} {x : Decimal}
    (h : Unsigned negative s x) : Solid s := by
  cases h with
  | whole hd he => exact hd.solid.append he.solid
  | point ha hb _ he => exact ha.solid.append (solid_cons (by decide) (hb.solid.append he.solid))

/-- A decimal begins with a digit or its point. -/
theorem Unsigned.head {negative : Bool} {s : List Char} {x : Decimal}
    (h : Unsigned negative s x) : ∀ c ∈ s.head?, c.isDigit = true ∨ c = '.' := by
  intro c hc
  cases h with
  | whole hd =>
    cases hd with
    | mk hdigit =>
      cases hc
      exact .inl hdigit
  | point ha =>
    cases ha with
    | nil =>
      cases hc
      exact .inr rfl
    | digits hd =>
      cases hd with
      | mk hdigit =>
        cases hc
        exact .inl hdigit

theorem lower_ne_of_head {body letters : List Char}
    (hb : ∀ c ∈ body.head?, c.isDigit = true ∨ c = '.')
    (hl : ∃ c ∈ letters.head?, c.isDigit = false ∧ c ≠ '.') : body.map Char.toLower ≠ letters := by
  rintro rfl
  obtain ⟨c, hc, hdigit, hdot⟩ := hl
  rw [List.head?_map] at hc
  obtain ⟨d, hd, rfl⟩ := Option.map_eq_some_iff.1 hc
  have hlt : d.toNat < 65 := by
    rcases hb d hd with h | rfl
    · rw [Char.isDigit, Bool.and_eq_true, decide_eq_true_iff, decide_eq_true_iff] at h
      have hhigh : d.toNat ≤ 57 := UInt32.le_iff_toNat_le.1 h.2
      omega
    · decide
  rw [toLower_of_lt hlt] at hdigit hdot
  rcases hb d hd with h | h
  · exact absurd (h.symm.trans hdigit) (by decide)
  · exact hdot h

theorem decimal?_eq {s : List CodePoint} {mark body : List Char} {negative : Bool}
    (hf : Framed s (mark ++ body)) (hm : Sign mark negative) (hb : Solid body)
    (hh : ∀ c ∈ body.head?, c ≠ '-' ∧ c ≠ '+') : decimal? s =
      (let word := String.ofList (body.map Char.toLower)
      if word = "inf" || word = "infinity" then some (.infinite negative)
      else if word = "nan" then some .nan
      else unsigned? negative body) := by
  have hplain := plain?_of_framed hf (hm.solid.append hb)
  simp only [decimal?, hplain, Option.bind_eq_bind, Option.bind_some, sign_append hm hh]

theorem decimal?_of_floating {s : List CodePoint} {x : Decimal} (h : Floating s x) :
    decimal? s = some x := by
  cases h with
  | @infinite mark word negative hf hm hw =>
    have hsolid : Solid word :=
      hw.elim (solid_of_lower · (by decide)) (solid_of_lower · (by decide))
    have hhead : ∀ c ∈ word.head?, c ≠ '-' ∧ c ≠ '+' :=
      hw.elim (not_sign_of_lower · (by decide)) (not_sign_of_lower · (by decide))
    rw [decimal?_eq hf hm hsolid hhead]
    rcases hw with hw | hw
    · rw [hw, String.ofList_toList]
      rfl
    · rw [hw, String.ofList_toList]
      rfl
  | @nan mark word negative hf hm hw =>
    have hsolid := solid_of_lower hw (by decide)
    have hhead := not_sign_of_lower hw (by decide)
    rw [decimal?_eq hf hm hsolid hhead, hw, String.ofList_toList]
    rfl
  | @number mark body negative x hf hm hb =>
    have hhead : ∀ c ∈ body.head?, c ≠ '-' ∧ c ≠ '+' := fun c hc =>
      (hb.head c hc).elim not_sign_of_digit fun hdot => hdot ▸ by decide
    have hword (letters : String) (hl : ∃ c ∈ letters.toList.head?, c.isDigit = false ∧ c ≠ '.') :
        String.ofList (body.map Char.toLower) ≠ letters := fun h =>
      lower_ne_of_head hb.head hl (by rw [← h, String.toList_ofList])
    rw [decimal?_eq hf hm hb.solid hhead]
    have hinf := hword "inf" ⟨'i', by decide, by decide⟩
    have hinfinity := hword "infinity" ⟨'i', by decide, by decide⟩
    have hnan := hword "nan" ⟨'n', by decide, by decide⟩
    simp only [hinf, hinfinity, hnan, decide_false, Bool.or_self, Bool.false_eq_true, if_false]
    exact unsigned?_of_unsigned hb

theorem floating_of_decimal? {s : List CodePoint} {x : Decimal} (h : decimal? s = some x) :
    Floating s x := by
  unfold decimal? at h
  obtain ⟨body, hb, h⟩ := Option.bind_eq_some_iff.1 h
  have hframed := framed_of_plain? hb
  obtain ⟨mark, hm, hsign⟩ := exists_sign body
  rw [hm] at hframed
  cases hs : sign body with
  | mk negative rest =>
    rw [hs] at h hframed hsign
    dsimp only at h
    have hlower {letters : String} (hl : String.ofList (rest.map Char.toLower) = letters) :
        rest.map Char.toLower = letters.toList := by rw [← hl, String.toList_ofList]
    split at h
    next hw =>
      rw [Bool.or_eq_true, decide_eq_true_iff, decide_eq_true_iff] at hw
      cases h
      exact .infinite hframed hsign (hw.imp hlower hlower)
    next =>
      split at h
      next hw =>
        cases h
        exact .nan hframed hsign (hlower hw)
      next => exact .number hframed hsign (unsigned_of_unsigned? h)

theorem decimal?_eq_some_iff {s : List CodePoint} {x : Decimal} :
    decimal? s = some x ↔ Floating s x :=
  ⟨floating_of_decimal?, decimal?_of_floating⟩

end WebDocs.Text.Numeral
