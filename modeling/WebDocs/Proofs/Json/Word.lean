import WebDocs.Json.Printer
import WebDocs.Proofs.Decimal.Spelling

namespace WebDocs.Json

open Decimal (Plain Spelled signText digitsOf magnitudeText)

theorem signText_append_inj {a b : Bool} {s t : List Char} (hs : s.head? ≠ some '-')
    (ht : t.head? ≠ some '-') (h : signText a ++ s = signText b ++ t) : a = b ∧ s = t := by
  cases a with
  | false =>
    cases b with
    | false => exact ⟨rfl, h⟩
    | true =>
      change s = '-' :: t at h
      exact absurd (congrArg List.head? h) hs
  | true =>
    cases b with
    | false =>
      change '-' :: s = t at h
      exact absurd (congrArg List.head? h).symm ht
    | true => exact ⟨rfl, (List.cons.inj h).2⟩

theorem head_digit {c : Char} {rest : List Char} (h : c.isDigit) :
    (c :: rest).head? ≠ some '-' := by
  intro hc
  cases hc
  cases h

theorem head_digitsOf (n : Nat) : ∃ c rest, digitsOf n = c :: rest ∧ c.isDigit := by
  cases hd : digitsOf n with
  | nil => exact absurd hd Nat.toDigits_ne_nil
  | cons c rest =>
    exact ⟨c, rest, rfl, Decimal.allDigits_digitsOf n c (hd ▸ List.mem_cons_self)⟩

theorem head_digitsOf_ne (n : Nat) : (digitsOf n).head? ≠ some '-' := by
  obtain ⟨c, rest, hd, hc⟩ := head_digitsOf n
  rw [hd]
  exact head_digit hc

theorem head_magnitudeText_ne (digits : Nat) (exponent : Int) :
    (magnitudeText digits exponent).head? ≠ some '-' := by
  obtain ⟨c, rest, hd, hc, -⟩ := Decimal.spelled_magnitudeText digits exponent
  rw [hd]
  exact head_digit hc

theorem printInt_injective {m n : Int} (h : printInt m = printInt n) : m = n := by
  obtain ⟨hsign, hdigits⟩ := signText_append_inj (head_digitsOf_ne _) (head_digitsOf_ne _) h
  have habs := Decimal.digitsOf_injective hdigits
  have hneg : m < 0 ↔ n < 0 := by simpa using hsign
  omega

/-- The beginning of a number that is no finite one. -/
theorem magnitudeText_ne_word {digits : Nat} {exponent : Int} {c : Char} {rest : List Char}
    (hc : c.isDigit = false) : magnitudeText digits exponent ≠ c :: rest := by
  intro h
  obtain ⟨d, rest', hd, hdigit, -⟩ := Decimal.spelled_magnitudeText digits exponent
  rw [hd] at h
  obtain ⟨rfl, -⟩ := List.cons.inj h
  rw [hdigit] at hc
  cases hc

/-- The sign of a number and its text without the sign. -/
def floatParts : Decimal → Bool × List Char
  | .nan => (false, "NaN".toList)
  | .infinite negative => (negative, "Infinity".toList)
  | .finite negative digits exponent _ => (negative, magnitudeText digits exponent)

theorem printFloat_eq (x : Decimal) : printFloat x = signText (floatParts x).1 ++ (floatParts x).2 := by
  cases x with
  | nan | infinite | finite => rfl

theorem head_floatParts_ne (x : Decimal) : (floatParts x).2.head? ≠ some '-' := by
  cases x with
  | nan => decide
  | infinite => exact (by decide : "Infinity".toList.head? ≠ some '-')
  | finite negative digits exponent => exact head_magnitudeText_ne digits exponent

theorem printFloat_injective {x y : Decimal} (h : printFloat x = printFloat y) : x = y := by
  rw [printFloat_eq, printFloat_eq] at h
  obtain ⟨hsign, htext⟩ := signText_append_inj (head_floatParts_ne x) (head_floatParts_ne y) h
  cases x with
  | nan =>
    cases y with
    | nan => rfl
    | infinite => exact absurd htext (by decide : "NaN".toList ≠ "Infinity".toList)
    | finite => exact absurd htext.symm (magnitudeText_ne_word rfl)
  | infinite negative =>
    cases y with
    | nan => exact absurd htext (by decide : "Infinity".toList ≠ "NaN".toList)
    | infinite other => exact congrArg Decimal.infinite hsign
    | finite => exact absurd htext.symm (magnitudeText_ne_word rfl)
  | finite negative digits exponent reduced =>
    cases y with
    | nan | infinite => exact absurd htext (magnitudeText_ne_word rfl)
    | finite other digits' exponent' reduced' =>
      obtain ⟨rfl, rfl⟩ := Decimal.magnitudeText_injective reduced reduced' htext
      cases hsign
      rfl

theorem printInt_ne_printFloat (n : Int) (x : Decimal) : printInt n ≠ printFloat x := by
  intro h
  rw [printFloat_eq] at h
  obtain ⟨-, htext⟩ := signText_append_inj (head_digitsOf_ne _) (head_floatParts_ne x) h
  obtain ⟨c, rest, hd, hc⟩ := head_digitsOf n.natAbs
  cases x with
  | nan | infinite =>
    rw [hd] at htext
    obtain ⟨rfl, -⟩ := List.cons.inj htext
    cases hc
  | finite negative digits exponent =>
    obtain ⟨d, rest', hspell, -, -, e, he, hdigit⟩ := Decimal.spelled_magnitudeText digits exponent
    change digitsOf n.natAbs = magnitudeText digits exponent at htext
    have hmem : e ∈ digitsOf n.natAbs := by
      rw [htext, hspell]
      exact List.mem_cons_of_mem _ he
    rw [Decimal.allDigits_digitsOf _ e hmem] at hdigit
    cases hdigit

theorem forall_of_all {p : Char → Prop} [DecidablePred p] {s : List Char}
    (h : s.all (p ·) = true) : ∀ c ∈ s, p c := fun c hc =>
  of_decide_eq_true (List.all_eq_true.1 h c hc)

/-- The characters of numbers. -/
def Numeric (c : Char) : Prop := Plain c ∨ c ∈ "NaInfity".toList

instance (c : Char) : Decidable (Numeric c) :=
  inferInstanceAs (Decidable ((_ ∨ _ ∨ _ ∨ _ ∨ _) ∨ _))

theorem numeric_signText (negative : Bool) : ∀ c ∈ signText negative, Numeric c := by
  cases negative with
  | false => exact fun _ h => absurd h List.not_mem_nil
  | true => exact fun _ h => .inl (.inr (.inr (.inr (.inr (List.mem_singleton.1 h)))))

theorem numeric_printInt (n : Int) : ∀ c ∈ printInt n, Numeric c := by
  intro c hc
  rcases List.mem_append.1 hc with hc | hc
  · exact numeric_signText _ c hc
  · exact .inl (.inl (Decimal.allDigits_digitsOf _ c hc))

theorem numeric_printFloat (x : Decimal) : ∀ c ∈ printFloat x, Numeric c := by
  intro c hc
  rw [printFloat_eq] at hc
  rcases List.mem_append.1 hc with hc | hc
  · exact numeric_signText _ c hc
  · cases x with
    | nan => exact forall_of_all (s := "NaN".toList) (by decide) c hc
    | infinite => exact forall_of_all (s := "Infinity".toList) (by decide) c hc
    | finite negative digits exponent =>
      obtain ⟨d, rest, hspell, hdigit, hplain, -⟩ := Decimal.spelled_magnitudeText digits exponent
      change c ∈ magnitudeText digits exponent at hc
      rw [hspell] at hc
      rcases List.mem_cons.1 hc with rfl | hc
      · exact .inl (.inl hdigit)
      · exact .inl (hplain c hc)

/-- Values that are written as one word. -/
def IsWord : Json → Prop
  | str _ | arr _ | obj _ => False
  | _ => True

/-- What may stand behind a value: nothing, a comma or a closing bracket. -/
def Ends (s : List Char) : Prop := ∀ c rest, s = c :: rest → c ∈ [',', ']', '\x7d']

theorem ends_nil : Ends [] := fun _ _ h => nomatch h

theorem ends_cons {c : Char} (h : c ∈ [',', ']', '\x7d']) (rest : List Char) : Ends (c :: rest) :=
  fun _ _ he => (List.cons.inj he).1 ▸ h

/-- The characters that do not stand in words: what ends a word and what begins other values. -/
def breaks : List Char := [',', ']', '\x7d', '"', '[', '\x7b']

theorem not_numeric_breaks : ∀ c ∈ breaks, ¬Numeric c := forall_of_all (by decide)

theorem print_word_not_mem {value : Json} (h : value.IsWord) :
    ∀ c ∈ value.print compact, c ∉ breaks := by
  cases value with
  | null => exact forall_of_all (by decide)
  | bool b => cases b <;> exact forall_of_all (by decide)
  | int n => exact fun c hc hb => not_numeric_breaks c hb (numeric_printInt n c hc)
  | float x => exact fun c hc hb => not_numeric_breaks c hb (numeric_printFloat x c hc)
  | str | arr | obj => cases h

theorem ne_of_numeric {s t : List Char} (hs : ∃ c ∈ s, ¬Numeric c) (ht : ∀ c ∈ t, Numeric c) :
    s ≠ t := by
  rintro rfl
  obtain ⟨c, hc, hn⟩ := hs
  exact hn (ht c hc)

theorem print_bool_not_numeric (b : Bool) : ∃ c ∈ (bool b).print compact, ¬Numeric c := by
  cases b with
  | false => exact ⟨'l', by decide⟩
  | true => exact ⟨'u', by decide⟩

theorem print_null_not_numeric : ∃ c ∈ null.print compact, ¬Numeric c := ⟨'u', by decide⟩

theorem print_word_injective {value other : Json} (h : value.IsWord) (h' : other.IsWord)
    (he : value.print compact = other.print compact) : value = other := by
  cases value with
  | null =>
    cases other with
    | null => rfl
    | bool b => cases b <;> exact absurd he (by decide)
    | int n => exact absurd he (ne_of_numeric print_null_not_numeric (numeric_printInt n))
    | float x => exact absurd he (ne_of_numeric print_null_not_numeric (numeric_printFloat x))
    | str | arr | obj => cases h'
  | bool b =>
    cases other with
    | null => cases b <;> exact absurd he (by decide)
    | bool c => cases b <;> cases c <;> first | rfl | exact absurd he (by decide)
    | int n => exact absurd he (ne_of_numeric (print_bool_not_numeric b) (numeric_printInt n))
    | float x => exact absurd he (ne_of_numeric (print_bool_not_numeric b) (numeric_printFloat x))
    | str | arr | obj => cases h'
  | int n =>
    cases other with
    | null => exact absurd he.symm (ne_of_numeric print_null_not_numeric (numeric_printInt n))
    | bool b => exact absurd he.symm (ne_of_numeric (print_bool_not_numeric b) (numeric_printInt n))
    | int m => exact congrArg int (printInt_injective he)
    | float x => exact absurd he (printInt_ne_printFloat n x)
    | str | arr | obj => cases h'
  | float x =>
    cases other with
    | null => exact absurd he.symm (ne_of_numeric print_null_not_numeric (numeric_printFloat x))
    | bool b =>
      exact absurd he.symm (ne_of_numeric (print_bool_not_numeric b) (numeric_printFloat x))
    | int n => exact absurd he.symm (printInt_ne_printFloat n x)
    | float y => exact congrArg float (printFloat_injective he)
    | str | arr | obj => cases h'
  | str | arr | obj => cases h

theorem takeWhile_word {word s : List Char} (h : ∀ c ∈ word, c ∉ breaks) (hs : Ends s) :
    (word ++ s).takeWhile (· ∉ breaks) = word := by
  rw [List.takeWhile_append_of_pos fun c hc => decide_eq_true (h c hc)]
  cases s with
  | nil => exact List.append_nil word
  | cons c rest =>
    have hc : c ∈ breaks := List.mem_append_left ['"', '[', '\x7b'] (hs c rest rfl)
    rw [List.takeWhile_cons_of_neg (by simpa using hc), List.append_nil]

theorem print_word_append_inj {value other : Json} {r s : List Char} (h : value.IsWord)
    (h' : other.IsWord) (hr : Ends r) (hs : Ends s)
    (he : value.print compact ++ r = other.print compact ++ s) : value = other ∧ r = s := by
  have hword : value.print compact = other.print compact := by
    rw [← takeWhile_word (print_word_not_mem h) hr, he,
      takeWhile_word (print_word_not_mem h') hs]
  refine ⟨print_word_injective h h' hword, ?_⟩
  rw [hword] at he
  exact List.append_cancel_left he

end WebDocs.Json
