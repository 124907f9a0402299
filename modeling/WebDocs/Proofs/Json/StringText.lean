import Mathlib.Data.List.Chain
import WebDocs.Json.Printer
import WebDocs.Json.Reader

namespace WebDocs

def CodePoint.IsFirstHalf (c : CodePoint) : Prop := 0xd800 ≤ c.toNat ∧ c.toNat < 0xdc00

def CodePoint.IsSecondHalf (c : CodePoint) : Prop := 0xdc00 ≤ c.toNat ∧ c.toNat < 0xe000

/-- Nowhere does a second half of a pair stand right behind a first one. Printed, such halves are no
different from the character of the pair. -/
def Text.Unsplit (s : Text) : Prop :=
  s.toList.IsChain fun a b => ¬(a.IsFirstHalf ∧ b.IsSecondHalf)

theorem Text.IsScalar.unsplit {s : Text} (h : s.IsScalar) : s.Unsplit := by
  obtain ⟨chars⟩ := s
  induction chars with
  | nil => exact .nil
  | cons a rest ih =>
    obtain ⟨ha, hrest⟩ := List.forall_mem_cons.1 h
    cases rest with
    | nil => exact .singleton a
    | cons b rest =>
      refine .cons_cons (fun ⟨hfirst, _⟩ => ?_) (ih hrest)
      cases a with
      | scalar a =>
        have hv := a.valid
        simp only [UInt32.isValidChar, Nat.isValidChar] at hv
        have hn : a.val.toNat = a.toNat := rfl
        simp only [CodePoint.IsFirstHalf, CodePoint.toNat_scalar] at hfirst
        omega
      | surrogate => cases ha

theorem Text.isScalar_ofString (s : String) : (Text.ofString s).IsScalar := by
  intro c hc
  obtain ⟨_, -, rfl⟩ := List.mem_map.1 hc
  rfl

theorem Text.unsplit_ofString (s : String) : (Text.ofString s).Unsplit :=
  (isScalar_ofString s).unsplit

namespace Json

theorem digitChar_injective {m n : Nat} (hm : m < 16) (hn : n < 16)
    (h : Nat.digitChar m = Nat.digitChar n) : m = n := by
  have hall : ∀ i < 16, ∀ j < 16, Nat.digitChar i = Nat.digitChar j → i = j := by decide
  exact hall m hm n hn h

theorem hex_four {n : Nat} (h : n < 0x10000) : Text.Quoted.hex 4 n =
    [Nat.digitChar (n / 4096), Nat.digitChar (n / 256 % 16), Nat.digitChar (n / 16 % 16),
      Nat.digitChar (n % 16)] := by
  unfold Text.Quoted.hex
  obtain h₁ | h₁ := Nat.lt_or_ge n 16
  · rw [Nat.toDigits_of_lt_base h₁, Nat.div_eq_of_lt (by omega : n < 4096),
      Nat.div_eq_of_lt (by omega : n < 256), Nat.div_eq_of_lt h₁, Nat.mod_eq_of_lt h₁]
    rfl
  rw [Nat.toDigits_of_base_le (by decide) h₁]
  obtain h₂ | h₂ := Nat.lt_or_ge (n / 16) 16
  · rw [Nat.toDigits_of_lt_base h₂, Nat.div_eq_of_lt (by omega : n < 4096),
      Nat.div_eq_of_lt (by omega : n < 256), Nat.mod_eq_of_lt h₂]
    rfl
  rw [Nat.toDigits_of_base_le (by decide) h₂]
  have hdiv : n / 16 / 16 = n / 256 := by omega
  have hdiv' : n / 256 / 16 = n / 4096 := by omega
  rw [hdiv]
  obtain h₃ | h₃ := Nat.lt_or_ge (n / 256) 16
  · rw [Nat.toDigits_of_lt_base h₃, Nat.div_eq_of_lt (by omega : n < 4096),
      Nat.mod_eq_of_lt h₃]
    rfl
  rw [Nat.toDigits_of_base_le (by decide) h₃, hdiv',
    Nat.toDigits_of_lt_base (by omega : n / 4096 < 16)]
  rfl

theorem unitEscape_append_inj {m n : Nat} {r s : List Char} (hm : m < 0x10000) (hn : n < 0x10000)
    (h : unitEscape m ++ r = unitEscape n ++ s) : m = n ∧ r = s := by
  rw [unitEscape, unitEscape, hex_four hm, hex_four hn] at h
  simp only [List.cons_append, List.nil_append, List.cons.injEq, true_and] at h
  obtain ⟨h₁, h₂, h₃, h₄, hr⟩ := h
  have h₁ := digitChar_injective (by omega) (by omega) h₁
  have h₂ := digitChar_injective (by omega) (by omega) h₂
  have h₃ := digitChar_injective (by omega) (by omega) h₃
  have h₄ := digitChar_injective (by omega) (by omega) h₄
  exact ⟨by omega, hr⟩

/-- The ways a code point is written in a string. -/
inductive Escape : CodePoint → List Char → Prop
  | itself {c : Char} (hq : c ≠ '"') (hb : c ≠ '\\') : Escape c [c]
  | letter {c : CodePoint} (x : Char) (h : Reader.escaped? x = some c) : Escape c ['\\', x]
  | unit {c : CodePoint} (h : c.toNat < 0x10000) : Escape c (unitEscape c.toNat)
  | pair {c : CodePoint} {high low : Nat} (hh : 0xd800 ≤ high ∧ high < 0xdc00)
      (hl : 0xdc00 ≤ low ∧ low < 0xe000)
      (h : c.toNat = 0x10000 + 0x400 * (high - 0xd800) + (low - 0xdc00)) :
      Escape c (unitEscape high ++ unitEscape low)

theorem toNat_lt (c : Char) : c.toNat < 0xd800 ∨ 0xdfff < c.toNat ∧ c.toNat < 0x110000 := by
  have h := c.valid
  unfold UInt32.isValidChar Nat.isValidChar at h
  exact h

theorem escape_escapeChar (c : Char) : Escape c (escapeChar c) := by
  have hc := toNat_lt c
  unfold escapeChar
  by_cases h1 : c = '"'
  · rw [if_pos h1]
    exact .letter '"' (by rw [h1]; rfl)
  rw [if_neg h1]
  by_cases h2 : c = '\\'
  · rw [if_pos h2]
    exact .letter '\\' (by rw [h2]; rfl)
  rw [if_neg h2]
  by_cases h3 : c = '\n'
  · rw [if_pos h3]
    exact .letter 'n' (by rw [h3]; rfl)
  rw [if_neg h3]
  by_cases h4 : c = '\r'
  · rw [if_pos h4]
    exact .letter 'r' (by rw [h4]; rfl)
  rw [if_neg h4]
  by_cases h5 : c = '\t'
  · rw [if_pos h5]
    exact .letter 't' (by rw [h5]; rfl)
  rw [if_neg h5]
  by_cases h6 : c.toNat = 0x0c
  · rw [if_pos h6]
    obtain rfl : c = '\x0c' := Char.toNat_inj.1 h6
    exact .letter 'f' rfl
  rw [if_neg h6]
  by_cases h7 : c.toNat = 0x08
  · rw [if_pos h7]
    obtain rfl : c = '\x08' := Char.toNat_inj.1 h7
    exact .letter 'b' rfl
  rw [if_neg h7]
  by_cases hp : 0x20 ≤ c.toNat ∧ c.toNat < 0x7f
  · rw [if_pos hp]
    exact .itself h1 h2
  rw [if_neg hp]
  by_cases hu : c.toNat < 0x10000
  · rw [if_pos hu]
    exact .unit hu
  · rw [if_neg hu]
    exact .pair (by omega) (by omega) (by rw [CodePoint.toNat_scalar]; omega)

theorem escape_escapeCode (c : CodePoint) : Escape c (escapeCode c) := by
  cases c with
  | scalar c => exact escape_escapeChar c
  | surrogate half => exact .unit (c := .surrogate half) (by simp only [CodePoint.toNat]; omega)

/-- The escapes with a letter of their own are none with a number. -/
theorem letter_ne_unit {c : CodePoint} {x : Char} {r s : List Char}
    (h : Reader.escaped? x = some c) : ['\\', x] ++ r ≠ '\\' :: 'u' :: s := by
  intro he
  obtain ⟨-, he⟩ := List.cons.inj he
  obtain ⟨rfl, -⟩ := List.cons.inj he
  cases h

/-- Two texts that begin with an escape begin with the same code point, or one begins with the first
half of the character that the other begins with. -/
theorem escape_append_inj {c d : CodePoint} {a b r s : List Char} (ha : Escape c a)
    (hb : Escape d b) (h : a ++ r = b ++ s) :
    c = d ∧ r = s ∨ ∃ low, (0xdc00 ≤ low ∧ low < 0xe000) ∧
      (c.IsFirstHalf ∧ r = unitEscape low ++ s ∨ d.IsFirstHalf ∧ s = unitEscape low ++ r) := by
  cases ha with
  | itself _ hc' =>
    cases hb with
    | itself =>
      obtain ⟨rfl, hr⟩ := List.cons.inj h
      exact .inl ⟨rfl, hr⟩
    | letter | unit | pair => exact absurd (List.cons.inj h).1 hc'
  | letter x hx =>
    cases hb with
    | itself _ hd' => exact absurd (List.cons.inj h).1.symm hd'
    | letter y hy =>
      obtain ⟨-, h⟩ := List.cons.inj h
      obtain ⟨rfl, h'⟩ := List.cons.inj h
      exact .inl ⟨Option.some.inj (hx.symm.trans hy), h'⟩
    | unit | pair => exact absurd h (letter_ne_unit hx)
  | unit hlt =>
    cases hb with
    | itself _ hd' => exact absurd (List.cons.inj h).1.symm hd'
    | letter y hy => exact absurd h.symm (letter_ne_unit hy)
    | unit hlt' =>
      obtain ⟨hn, hr⟩ := unitEscape_append_inj hlt hlt' h
      exact .inl ⟨CodePoint.toNat_injective hn, hr⟩
    | pair hh hl =>
      rw [List.append_assoc] at h
      obtain ⟨hn, hr⟩ := unitEscape_append_inj hlt (by omega) h
      exact .inr ⟨_, hl, .inl ⟨by rwa [CodePoint.IsFirstHalf, hn], hr⟩⟩
  | pair hh hl hn =>
    rw [List.append_assoc] at h
    cases hb with
    | itself _ hd' => exact absurd (List.cons.inj h).1.symm hd'
    | letter y hy => exact absurd h.symm (letter_ne_unit hy)
    | unit hlt =>
      obtain ⟨hn, hr⟩ := unitEscape_append_inj (by omega) hlt h
      exact .inr ⟨_, hl, .inr ⟨by rwa [CodePoint.IsFirstHalf, ← hn], hr.symm⟩⟩
    | pair hh' hl' hn' =>
      rw [List.append_assoc] at h
      obtain ⟨hhigh, h⟩ := unitEscape_append_inj (by omega) (by omega) h
      obtain ⟨hlow, h⟩ := unitEscape_append_inj (by omega) (by omega) h
      exact .inl ⟨CodePoint.toNat_injective (by omega), h⟩

/-- An escape does not look like the end of a string. -/
theorem escape_ne_quote {c : CodePoint} {a r s : List Char} (ha : Escape c a) :
    a ++ r ≠ '"' :: s := by
  intro h
  cases ha with
  | itself hq => exact hq (List.cons.inj h).1
  | letter => exact absurd (List.cons.inj h).1 (by decide)
  | unit | pair => exact absurd (List.cons.inj h).1 (by decide)

/-- Only the second half of a pair begins as one. -/
theorem isSecondHalf_of_escape {c : CodePoint} {a r s : List Char} {low : Nat} (ha : Escape c a)
    (hl : 0xdc00 ≤ low ∧ low < 0xe000) (h : a ++ r = unitEscape low ++ s) : c.IsSecondHalf := by
  cases ha with
  | itself _ hb => exact absurd (List.cons.inj h).1 hb
  | letter x hx => exact absurd h (letter_ne_unit hx)
  | unit hlt =>
    obtain ⟨hn, -⟩ := unitEscape_append_inj hlt (by omega) h
    rwa [CodePoint.IsSecondHalf, hn]
  | pair hh =>
    rw [List.append_assoc] at h
    obtain ⟨hn, -⟩ := unitEscape_append_inj (by omega) (by omega) h
    omega

/-- No second half of a pair begins what stands behind a first one. -/
theorem escapes_ne_low {c : CodePoint} {a : List CodePoint} {r s : List Char} {low : Nat}
    (hc : c.IsFirstHalf) (ha : (Text.ofList (c :: a)).Unsplit)
    (hl : 0xdc00 ≤ low ∧ low < 0xe000) :
    a.flatMap escapeCode ++ '"' :: r ≠ unitEscape low ++ s := by
  intro h
  cases a with
  | nil => exact absurd (List.cons.inj h).1 (by decide)
  | cons d a =>
    rw [List.flatMap_cons, List.append_assoc] at h
    exact (List.isChain_cons_cons.1 ha).1 ⟨hc, isSecondHalf_of_escape (escape_escapeCode d) hl h⟩

theorem escapes_append_inj {a b : List CodePoint} {r s : List Char}
    (ha : (Text.ofList a).Unsplit) (hb : (Text.ofList b).Unsplit)
    (h : a.flatMap escapeCode ++ '"' :: r = b.flatMap escapeCode ++ '"' :: s) :
    a = b ∧ r = s := by
  induction a generalizing b with
  | nil =>
    cases b with
    | nil => exact ⟨rfl, (List.cons.inj h).2⟩
    | cons d b =>
      rw [List.flatMap_cons, List.append_assoc] at h
      exact absurd h.symm (escape_ne_quote (escape_escapeCode d))
  | cons c a ih =>
    rw [List.flatMap_cons, List.append_assoc] at h
    cases b with
    | nil => exact absurd h (escape_ne_quote (escape_escapeCode c))
    | cons d b =>
      rw [List.flatMap_cons, List.append_assoc] at h
      obtain ⟨rfl, ht⟩ | ⟨low, hl, ⟨hc, ht⟩ | ⟨hd, ht⟩⟩ :=
        escape_append_inj (escape_escapeCode c) (escape_escapeCode d) h
      · obtain ⟨rfl, hr⟩ := ih ha.of_cons hb.of_cons ht
        exact ⟨rfl, hr⟩
      · exact absurd ht (escapes_ne_low hc ha hl)
      · exact absurd ht (escapes_ne_low hd hb hl)

theorem printString_append_inj {a b : Text} {r s : List Char} (ha : a.Unsplit) (hb : b.Unsplit)
    (h : printString a ++ r = printString b ++ s) : a = b ∧ r = s := by
  simp only [printString, List.append_assoc, List.cons_append, List.nil_append] at h
  obtain ⟨hl, hr⟩ := escapes_append_inj ha hb (List.cons.inj h).2
  exact ⟨Text.toList_inj.1 hl, hr⟩

end Json
end WebDocs
