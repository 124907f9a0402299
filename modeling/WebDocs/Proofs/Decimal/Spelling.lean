import Mathlib.Data.List.TakeWhile
import Mathlib.Tactic.Ring
import WebDocs.Decimal.Basic

namespace WebDocs.Decimal

def AllDigits (s : List Char) : Prop := ∀ c ∈ s, c.isDigit

theorem allDigits_digitsOf (n : Nat) : AllDigits (digitsOf n) := fun _ h =>
  Nat.isDigit_of_mem_toDigits (by decide) (by decide) h

theorem allDigits_zeros (n : Nat) : AllDigits (List.replicate n '0') := fun c h => by
  rw [List.eq_of_mem_replicate h]
  rfl

theorem allDigits_zero : AllDigits ['0'] := allDigits_zeros 1

theorem AllDigits.append {a b : List Char} (ha : AllDigits a) (hb : AllDigits b) :
    AllDigits (a ++ b) := fun c h => (List.mem_append.1 h).elim (ha c) (hb c)

theorem AllDigits.not_mem {s : List Char} (h : AllDigits s) {c : Char} (hc : c.isDigit = false) :
    c ∉ s := fun hm => by
  rw [h c hm] at hc
  cases hc

theorem ofDigitChars_digitsOf (n : Nat) : Nat.ofDigitChars 10 (digitsOf n) 0 = n :=
  Nat.ofDigitChars_ten_toDigits

theorem digitsOf_injective {m n : Nat} (h : digitsOf m = digitsOf n) : m = n := by
  rw [← ofDigitChars_digitsOf m, h, ofDigitChars_digitsOf]

/-- The number in front of which `e` stands. -/
def readExponent : List Char → Int
  | [] => 0
  | '-' :: digits => -(Nat.ofDigitChars 10 digits 0 : Nat)
  | _ :: digits => (Nat.ofDigitChars 10 digits 0 : Nat)

theorem readExponent_exponentText (e : Int) : readExponent (exponentText e) = e := by
  have hpad : ∀ digits, Nat.ofDigitChars 10
      (if digits.length < 2 then '0' :: digits else digits) 0 = Nat.ofDigitChars 10 digits 0 := by
    intro digits
    split
    · rfl
    · rfl
  unfold exponentText
  by_cases h : e < 0
  · rw [if_pos h]
    change -((Nat.ofDigitChars 10 _ 0 : Nat) : Int) = e
    rw [hpad, ofDigitChars_digitsOf]
    omega
  · rw [if_neg h]
    change ((Nat.ofDigitChars 10 _ 0 : Nat) : Int) = e
    rw [hpad, ofDigitChars_digitsOf]
    omega

def significand (mantissa : List Char) : Nat :=
  Nat.ofDigitChars 10 (mantissa.filter Char.isDigit) 0

/-- How many digits stand behind the point. -/
def decimals (mantissa : List Char) : Nat := (mantissa.dropWhile (· ≠ '.')).length - 1

/-- A whole number and the power of ten that it is multiplied with. -/
def reading (s : List Char) : Nat × Int :=
  (significand (s.takeWhile (· ≠ 'e')),
    readExponent ((s.dropWhile (· ≠ 'e')).drop 1) - decimals (s.takeWhile (· ≠ 'e')))

section

variable {a b : List Char}

theorem forall_ne {c : Char} (h : c ∉ a) : ∀ d ∈ a, decide (d ≠ c) = true := fun _ hd =>
  decide_eq_true fun he => h (he ▸ hd)

theorem reading_mantissa (h : 'e' ∉ a) : reading a = (significand a, -(decimals a : Int)) := by
  have ht : a.takeWhile (· ≠ 'e') = a := List.takeWhile_eq_self_iff.2 (forall_ne h)
  have hd : a.dropWhile (· ≠ 'e') = [] := List.dropWhile_eq_nil_iff.2 (forall_ne h)
  rw [reading, ht, hd]
  exact congrArg _ (Int.zero_sub _)

theorem reading_exponent (h : 'e' ∉ a) (e : Int) :
    reading (a ++ 'e' :: exponentText e) = (significand a, e - decimals a) := by
  have ht : (a ++ 'e' :: exponentText e).takeWhile (· ≠ 'e') = a := by
    rw [List.takeWhile_append_of_pos (forall_ne h)]
    exact List.append_nil a
  have hd : (a ++ 'e' :: exponentText e).dropWhile (· ≠ 'e') = 'e' :: exponentText e :=
    List.dropWhile_append_of_pos (forall_ne h)
  rw [reading, ht, hd, List.drop_one, List.tail_cons, readExponent_exponentText]

theorem significand_digits (h : AllDigits a) : significand a = Nat.ofDigitChars 10 a 0 := by
  rw [significand, List.filter_eq_self.2 h]

theorem significand_point (ha : AllDigits a) (hb : AllDigits b) :
    significand (a ++ '.' :: b) = Nat.ofDigitChars 10 (a ++ b) 0 := by
  rw [significand, List.filter_append, List.filter_cons_of_neg (by decide),
    List.filter_eq_self.2 ha, List.filter_eq_self.2 hb]

theorem decimals_digits (h : AllDigits a) : decimals a = 0 := by
  rw [decimals, List.dropWhile_eq_nil_iff.2 (forall_ne (h.not_mem rfl))]
  rfl

theorem decimals_point (h : AllDigits a) : decimals (a ++ '.' :: b) = b.length := by
  have hd : (a ++ '.' :: b).dropWhile (· ≠ '.') = '.' :: b :=
    List.dropWhile_append_of_pos (forall_ne (h.not_mem rfl))
  rw [decimals, hd, List.length_cons, Nat.add_sub_cancel]

theorem not_mem_point (ha : AllDigits a) (hb : AllDigits b) : 'e' ∉ a ++ '.' :: b := by
  simp only [List.mem_append, List.mem_cons, not_or]
  exact ⟨ha.not_mem rfl, by decide, hb.not_mem rfl⟩

theorem reading_point (ha : AllDigits a) (hb : AllDigits b) :
    reading (a ++ '.' :: b) = (Nat.ofDigitChars 10 (a ++ b) 0, -(b.length : Int)) := by
  rw [reading_mantissa (not_mem_point ha hb), significand_point ha hb, decimals_point ha]

theorem reading_point_exponent (ha : AllDigits a) (hb : AllDigits b) (e : Int) :
    reading (a ++ '.' :: b ++ 'e' :: exponentText e) =
      (Nat.ofDigitChars 10 (a ++ b) 0, e - b.length) := by
  rw [reading_exponent (not_mem_point ha hb), significand_point ha hb, decimals_point ha]

theorem reading_digits_exponent (h : AllDigits a) (e : Int) :
    reading (a ++ 'e' :: exponentText e) = (Nat.ofDigitChars 10 a 0, e) := by
  rw [reading_exponent (h.not_mem rfl), significand_digits h, decimals_digits h]
  exact congrArg _ (Int.sub_zero e)

end

section

variable {digits : List Char} {point : Int}

theorem reading_place_below (h : AllDigits digits) (hl : -4 < point) (hp : point ≤ 0) :
    reading (place digits point) =
      (Nat.ofDigitChars 10 digits 0, point - digits.length) := by
  rw [place.eq_def, if_pos ⟨hl, by omega⟩, if_pos hp]
  change reading (['0'] ++ '.' :: (List.replicate (-point).toNat '0' ++ digits)) = _
  have hz := allDigits_zeros (-point).toNat
  rw [reading_point allDigits_zero (hz.append h), List.length_append, List.length_replicate,
    ← List.append_assoc, Nat.ofDigitChars_append, Nat.ofDigitChars_append,
    Nat.ofDigitChars_replicate_zero]
  simp only [Prod.mk.injEq]
  exact ⟨rfl, by omega⟩

theorem reading_place_behind (h : AllDigits digits) (hl : digits.length ≤ point)
    (hpos : 0 < point) (hp : point ≤ 16) :
    reading (place digits point) =
      (Nat.ofDigitChars 10 digits 0 * 10 ^ (point - digits.length + 1).toNat, -1) := by
  have hwhole : digits.length ≤ point.toNat := by omega
  rw [place.eq_def, if_pos ⟨by omega, hp⟩, if_neg (by omega)]
  simp only [if_pos hwhole]
  rw [reading_point (h.append (allDigits_zeros _)) allDigits_zero, Nat.ofDigitChars_append,
    Nat.ofDigitChars_append, Nat.ofDigitChars_replicate_zero]
  have hzeros : (point - digits.length + 1).toNat = point.toNat - digits.length + 1 := by omega
  rw [hzeros, Nat.pow_succ]
  simp only [Prod.mk.injEq]
  constructor
  · change 10 * (10 ^ _ * _) + 0 = _
    ring
  · rfl

theorem reading_place_inside (h : AllDigits digits) (hl : point < digits.length)
    (hpos : 0 < point) (hp : point ≤ 16) :
    reading (place digits point) =
      (Nat.ofDigitChars 10 digits 0, point - digits.length) := by
  have hwhole : ¬digits.length ≤ point.toNat := by omega
  rw [place.eq_def, if_pos ⟨by omega, hp⟩, if_neg (by omega)]
  simp only [if_neg hwhole]
  rw [reading_point (fun c hc => h c (List.mem_of_mem_take hc))
    (fun c hc => h c (List.mem_of_mem_drop hc)), List.take_append_drop, List.length_drop]
  simp only [Prod.mk.injEq, true_and]
  omega

theorem reading_place_scientific (h : AllDigits digits) (hn : digits ≠ [])
    (hp : ¬(-4 < point ∧ point ≤ 16)) :
    reading (place digits point) =
      (Nat.ofDigitChars 10 digits 0, point - digits.length) := by
  rw [place.eq_def, if_neg hp]
  match digits with
  | [] => exact absurd rfl hn
  | [d] => exact reading_digits_exponent h (point - 1)
  | d :: e :: rest =>
    have hd : AllDigits [d] := fun c hc => h c (by simp_all)
    have hr : AllDigits (e :: rest) := fun c hc => h c (List.mem_cons_of_mem _ hc)
    change reading ([d] ++ '.' :: (e :: rest) ++ 'e' :: exponentText (point - 1)) = _
    rw [reading_point_exponent hd hr]
    simp only [Prod.mk.injEq, List.length_cons]
    exact ⟨rfl, by omega⟩

end

/-- The spelling of digits and an exponent reads as the same number; the zeros that are filled in
behind the digits only change the power of ten. -/
theorem reading_magnitudeText {digits : Nat} (h : digits ≠ 0) (exponent : Int) : ∃ zeros : Nat,
    reading (magnitudeText digits exponent) = (digits * 10 ^ zeros, exponent - zeros) := by
  have hn := allDigits_digitsOf digits
  have hne : digitsOf digits ≠ [] := Nat.toDigits_ne_nil
  rw [magnitudeText, if_neg h]
  have hexact : ∀ s, reading s = (Nat.ofDigitChars 10 (digitsOf digits) 0,
      (digitsOf digits).length + exponent - (digitsOf digits).length) →
      ∃ zeros : Nat, reading s = (digits * 10 ^ zeros, exponent - zeros) := by
    intro s hs
    refine ⟨0, ?_⟩
    rw [hs, ofDigitChars_digitsOf]
    simp
  by_cases hp : -4 < (digitsOf digits).length + exponent ∧ (digitsOf digits).length + exponent ≤ 16
  · obtain hb | hb := Int.lt_or_le 0 ((digitsOf digits).length + exponent)
    · obtain hi | hi := Int.lt_or_le exponent 0
      · exact hexact _ (reading_place_inside hn (by omega) hb hp.2)
      · refine ⟨(exponent + 1).toNat, ?_⟩
        rw [reading_place_behind hn (by omega) hb hp.2, ofDigitChars_digitsOf]
        have hz : (digitsOf digits).length + exponent - (digitsOf digits).length + 1 =
            exponent + 1 := by omega
        rw [hz]
        simp only [Prod.mk.injEq, true_and]
        omega
    · exact hexact _ (reading_place_below hn hp.1 hb)
  · exact hexact _ (reading_place_scientific hn hne hp)

theorem reading_zero : reading (magnitudeText 0 0) = (0, -1) := rfl

theorem significand_ne_zero {digits : Nat} (h : digits ≠ 0) (zeros : Nat) :
    digits * 10 ^ zeros ≠ 0 := Nat.mul_ne_zero h (Nat.pow_pos (by decide)).ne'

/-- Digits without a trailing zero are not those of a larger power of ten. -/
theorem pow_le_of_mul_eq {m n j k : Nat} (hm : m % 10 ≠ 0) (h : m * 10 ^ j = n * 10 ^ k) :
    k ≤ j := by
  by_contra hlt
  obtain ⟨i, rfl⟩ : ∃ i, k = j + 1 + i := ⟨k - (j + 1), by omega⟩
  have hpos : 0 < 10 ^ j := Nat.pow_pos (by decide)
  have hmul : m * 10 ^ j = n * 10 ^ i * 10 * 10 ^ j := by
    rw [h]
    ring
  have hm' : m = n * 10 ^ i * 10 := Nat.eq_of_mul_eq_mul_right hpos hmul
  omega

theorem magnitudeText_injective {m n : Nat} {d e : Int} (hm : Reduced m d) (hn : Reduced n e)
    (h : magnitudeText m d = magnitudeText n e) : m = n ∧ d = e := by
  have hread : reading (magnitudeText m d) = reading (magnitudeText n e) := by rw [h]
  rcases hm with ⟨rfl, rfl⟩ | hm
  · rcases hn with ⟨rfl, rfl⟩ | hn
    · exact ⟨rfl, rfl⟩
    · have hn0 : n ≠ 0 := fun h0 => hn (by rw [h0])
      obtain ⟨k, hk⟩ := reading_magnitudeText hn0 e
      rw [reading_zero, hk] at hread
      exact absurd (congrArg Prod.fst hread).symm (significand_ne_zero hn0 k)
  · have hm0 : m ≠ 0 := fun h0 => hm (by rw [h0])
    obtain ⟨j, hj⟩ := reading_magnitudeText hm0 d
    rcases hn with ⟨rfl, rfl⟩ | hn
    · rw [reading_zero, hj] at hread
      exact absurd (congrArg Prod.fst hread) (significand_ne_zero hm0 j)
    · have hn0 : n ≠ 0 := fun h0 => hn (by rw [h0])
      obtain ⟨k, hk⟩ := reading_magnitudeText hn0 e
      rw [hj, hk, Prod.mk.injEq] at hread
      obtain ⟨hmul, hexp⟩ := hread
      have hjk : j = k :=
        Nat.le_antisymm (pow_le_of_mul_eq hn hmul.symm) (pow_le_of_mul_eq hm hmul)
      subst hjk
      exact ⟨Nat.eq_of_mul_eq_mul_right (Nat.pow_pos (by decide)) hmul, by omega⟩

/-- The characters that digits, a point, an exponent and signs are written with. -/
def Plain (c : Char) : Prop := c.isDigit ∨ c = '.' ∨ c = 'e' ∨ c = '+' ∨ c = '-'

theorem plain_exponentText (e : Int) : ∀ c ∈ exponentText e, Plain c := by
  intro c hc
  rcases List.mem_cons.1 hc with rfl | hc
  · split
    · exact .inr (.inr (.inr (.inr rfl)))
    · exact .inr (.inr (.inr (.inl rfl)))
  · have hd := allDigits_digitsOf e.natAbs
    split at hc
    · exact .inl ((allDigits_zero.append hd) c hc)
    · exact .inl (hd c hc)

/-- A digit, then more of a spelling with a point or an exponent. -/
def Spelled (s : List Char) : Prop :=
  ∃ first rest, s = first :: rest ∧ first.isDigit ∧ (∀ c ∈ rest, Plain c) ∧
    ∃ c ∈ rest, c.isDigit = false

theorem Spelled.of_point {a b c : List Char} (ha : AllDigits a) (hn : a ≠ []) (hb : AllDigits b)
    (hc : ∀ x ∈ c, Plain x) : Spelled (a ++ '.' :: b ++ c) := by
  match a with
  | [] => exact absurd rfl hn
  | first :: a =>
    refine ⟨first, a ++ '.' :: b ++ c, rfl, ha _ List.mem_cons_self, fun x hx => ?_,
      '.', by simp, rfl⟩
    simp only [List.mem_append, List.mem_cons] at hx
    rcases hx with (hx | rfl | hx) | hx
    · exact .inl (ha x (List.mem_cons_of_mem _ hx))
    · exact .inr (.inl rfl)
    · exact .inl (hb x hx)
    · exact hc x hx

theorem Spelled.of_point_only {a b : List Char} (ha : AllDigits a) (hn : a ≠ [])
    (hb : AllDigits b) : Spelled (a ++ '.' :: b) := by
  have h := Spelled.of_point (c := []) ha hn hb fun x hx => absurd hx List.not_mem_nil
  rw [List.append_nil] at h
  exact h

theorem spelled_place {digits : List Char} (h : AllDigits digits) (hn : digits ≠ [])
    (point : Int) : Spelled (place digits point) := by
  have hz := allDigits_zeros
  rw [place.eq_def]
  split
  next hp =>
    split
    next hpoint =>
      exact .of_point_only allDigits_zero (by simp) ((hz (-point).toNat).append h)
    next hpoint =>
      simp only
      split
      next hl =>
        exact .of_point_only (h.append (hz _)) (by simp [hn]) allDigits_zero
      next hl =>
        exact .of_point_only (fun c hc => h c (List.mem_of_mem_take hc)) (by simp [hn]; omega)
          fun c hc => h c (List.mem_of_mem_drop hc)
  next hp =>
    have hexp : ∀ c ∈ 'e' :: exponentText (point - 1), Plain c := by
      intro c hc
      rcases List.mem_cons.1 hc with rfl | hc
      · exact .inr (.inr (.inl rfl))
      · exact plain_exponentText _ c hc
    match digits with
    | [] => exact absurd rfl hn
    | [d] => exact ⟨d, _, rfl, h d List.mem_cons_self, hexp, 'e', List.mem_cons_self, rfl⟩
    | d :: e :: rest =>
      have hd : AllDigits [d] := fun c hc => h c (by simp_all)
      have hr : AllDigits (e :: rest) := fun c hc => h c (List.mem_cons_of_mem _ hc)
      exact .of_point hd (by simp) hr hexp

theorem spelled_magnitudeText (digits : Nat) (exponent : Int) :
    Spelled (magnitudeText digits exponent) := by
  unfold magnitudeText
  split
  · exact .of_point_only allDigits_zero (by simp) allDigits_zero
  · exact spelled_place (allDigits_digitsOf digits) Nat.toDigits_ne_nil _

end WebDocs.Decimal
