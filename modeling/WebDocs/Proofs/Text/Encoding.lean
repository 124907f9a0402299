import WebDocs.Text.Utf8

namespace WebDocs.Text

theorem isScalar_iff_exists {s : List CodePoint} :
    (∀ c ∈ s, c.isScalar = true) ↔ ∃ chars : List Char, s = chars.map .scalar := by
  constructor
  · intro h
    induction s with
    | nil => exact ⟨[], rfl⟩
    | cons c rest ih =>
      obtain ⟨chars, rfl⟩ := ih fun c hc => h c (List.mem_cons_of_mem _ hc)
      cases c with
      | scalar c => exact ⟨c :: chars, rfl⟩
      | surrogate half => exact absurd (h _ List.mem_cons_self) Bool.false_ne_true
  · rintro ⟨chars, rfl⟩ c hc
    obtain ⟨char, -, rfl⟩ := List.mem_map.1 hc
    rfl

namespace Utf8

variable {α : Type} {isRefused : Fin 0x800 → Bool} {s : List CodePoint}

theorem refusal?_eq_none_iff (position : Nat) :
    refusal? isRefused position s = none ↔
      ∀ half, .surrogate half ∈ s → isRefused half = false := by
  induction s generalizing position with
  | nil => simp [refusal?]
  | cons c rest ih =>
    cases c with
    | scalar c => simp [refusal?, ih]
    | surrogate half =>
      cases h : isRefused half with
      | true => simp [refusal?, h]
      | false => simp [refusal?, h, ih]

theorem unlessRefused_eq_ok_iff {result found : α} :
    unlessRefused isRefused s result = .ok found ↔
      (∀ half, .surrogate half ∈ s → isRefused half = false) ∧ result = found := by
  rw [unlessRefused, ← refusal?_eq_none_iff 0]
  cases refusal? isRefused 0 s with
  | none => simp
  | some cause => simp

/-- Where every half is refused, a result there is only for characters. -/
theorem unlessRefused_all_eq_ok_iff {result found : α} :
    unlessRefused (fun _ => true) s result = .ok found ↔
      (∀ c ∈ s, c.isScalar = true) ∧ result = found := by
  rw [unlessRefused_eq_ok_iff]
  refine and_congr_left fun _ => ⟨fun h c hc => ?_, fun h half hh => ?_⟩
  · cases c with
    | scalar c => rfl
    | surrogate half => exact absurd (h half hc) (by decide)
  · exact absurd (h _ hh) Bool.false_ne_true

theorem encode_eq_ok_iff {bytes : List UInt8} :
    encode s = .ok bytes ↔ (∀ c ∈ s, c.isScalar = true) ∧ s.flatMap octets = bytes :=
  unlessRefused_all_eq_ok_iff

theorem exists_encode_iff : (∃ bytes, encode s = .ok bytes) ↔ ∀ c ∈ s, c.isScalar = true := by
  simp [encode_eq_ok_iff]

end Utf8
end WebDocs.Text
