import WebDocs.Proofs.Dump.Reading
import WebDocs.Proofs.Text.Encoding
import WebDocs.Proofs.Text.Trim
import WebDocs.Route

namespace WebDocs
namespace Text

namespace Utf8

theorem toNat_ofNat {n : Nat} (h : n < 256) : (UInt8.ofNat n).toNat = n := by
  rw [UInt8.toNat_ofNat']
  omega

theorem run_ascii {n : Nat} (h : n < 0x80) (rest : List UInt8) :
    run none (UInt8.ofNat n :: rest) = .char (Char.ofNat n) :: run none rest := by
  have hl : lead n = .ascii := if_pos h
  have hs : step none n = ([.char (Char.ofNat n)], none) := by
    show start n = _
    unfold start
    rw [hl]
  rw [run, toNat_ofNat (by omega), hs]
  rfl

theorem run_lead {n : Nat} {p : Pending} (hn : n < 256) (h : lead n = .sequence p)
    (rest : List UInt8) : run none (UInt8.ofNat n :: rest) = run (some p) rest := by
  have hs : step none n = ([], some p) := by
    show start n = _
    unfold start
    rw [h]
  rw [run, toNat_ofNat hn, hs]
  rfl

variable {p : Pending} {n : Nat}

theorem run_next (hn : n < 64) (hl : p.low ≤ n + 128) (hh : n + 128 ≤ p.high) (hm : 1 < p.missing)
    (rest : List UInt8) : run (some p) (UInt8.ofNat (n + 128) :: rest) =
      run (some ⟨p.missing - 1, 0x80, 0xbf, p.code * 64 + n, p.taken + 1⟩) rest := by
  have hm' : ¬p.missing ≤ 1 := by omega
  have hs : step (some p) (n + 128) =
      ([], some ⟨p.missing - 1, 0x80, 0xbf, p.code * 64 + n, p.taken + 1⟩) := by
    simp only [step, hl, hh, and_self, if_true, hm', if_false, Nat.add_sub_cancel]
  rw [run, toNat_ofNat (by omega), hs]
  rfl

theorem run_last (hn : n < 64) (hl : p.low ≤ n + 128) (hh : n + 128 ≤ p.high) (hm : p.missing ≤ 1)
    (rest : List UInt8) : run (some p) (UInt8.ofNat (n + 128) :: rest) =
      .char (Char.ofNat (p.code * 64 + n)) :: run none rest := by
  have hs : step (some p) (n + 128) = ([.char (Char.ofNat (p.code * 64 + n))], none) := by
    simp only [step, hl, hh, and_self, if_true, hm, Nat.add_sub_cancel]
  rw [run, toNat_ofNat (by omega), hs]
  rfl

theorem run_two (hl : 0x80 ≤ n) (hh : n < 0x800) (rest : List UInt8) :
    run none (UInt8.ofNat (n / 64 + 192) :: UInt8.ofNat (n % 64 + 128) :: rest) =
      .char (Char.ofNat n) :: run none rest := by
  have hlead : lead (n / 64 + 192) = .sequence ⟨1, 0x80, 0xbf, n / 64, 1⟩ := by
    unfold lead
    rw [if_neg (by omega), if_neg (by omega), if_pos (by omega), Nat.add_sub_cancel]
  have hn : n / 64 * 64 + n % 64 = n := by omega
  rw [run_lead (by omega) hlead,
    run_last (by omega) (Nat.le_add_left ..) (by dsimp only; omega) (Nat.le_refl 1), hn]

theorem run_three (hl : 0x800 ≤ n) (hh : n < 0x10000) (hp : n < 0xd800 ∨ 0xdfff < n)
    (rest : List UInt8) :
    run none (UInt8.ofNat (n / 4096 + 224) :: UInt8.ofNat (n / 64 % 64 + 128) ::
      UInt8.ofNat (n % 64 + 128) :: rest) = .char (Char.ofNat n) :: run none rest := by
  have hlead : lead (n / 4096 + 224) =
      .sequence ⟨2, if n / 4096 + 224 = 0xe0 then 0xa0 else 0x80,
        if n / 4096 + 224 = 0xed then 0x9f else 0xbf, n / 4096, 1⟩ := by
    unfold lead
    rw [if_neg (by omega), if_neg (by omega), if_neg (by omega), if_pos (by omega),
      Nat.add_sub_cancel]
  have hlow : (if n / 4096 + 224 = 0xe0 then 0xa0 else 0x80) ≤ n / 64 % 64 + 128 := by
    split <;> omega
  have hhigh : n / 64 % 64 + 128 ≤ if n / 4096 + 224 = 0xed then 0x9f else 0xbf := by
    split <;> omega
  have hn : (n / 4096 * 64 + n / 64 % 64) * 64 + n % 64 = n := by omega
  rw [run_lead (by omega) hlead, run_next (by omega) hlow hhigh (Nat.lt_succ_self 1),
    run_last (by omega) (Nat.le_add_left ..) (by dsimp only; omega) (Nat.le_refl 1), hn]

theorem run_four (hl : 0x10000 ≤ n) (hh : n < 0x110000) (rest : List UInt8) :
    run none (UInt8.ofNat (n / 262144 + 240) :: UInt8.ofNat (n / 4096 % 64 + 128) ::
      UInt8.ofNat (n / 64 % 64 + 128) :: UInt8.ofNat (n % 64 + 128) :: rest) =
      .char (Char.ofNat n) :: run none rest := by
  have hlead : lead (n / 262144 + 240) =
      .sequence ⟨3, if n / 262144 + 240 = 0xf0 then 0x90 else 0x80,
        if n / 262144 + 240 = 0xf4 then 0x8f else 0xbf, n / 262144, 1⟩ := by
    unfold lead
    rw [if_neg (by omega), if_neg (by omega), if_neg (by omega), if_neg (by omega),
      if_pos (by omega), Nat.add_sub_cancel]
  have hlow : (if n / 262144 + 240 = 0xf0 then 0x90 else 0x80) ≤ n / 4096 % 64 + 128 := by
    split <;> omega
  have hhigh : n / 4096 % 64 + 128 ≤ if n / 262144 + 240 = 0xf4 then 0x8f else 0xbf := by
    split <;> omega
  have hn : ((n / 262144 * 64 + n / 4096 % 64) * 64 + n / 64 % 64) * 64 + n % 64 = n := by omega
  rw [run_lead (by omega) hlead, run_next (by omega) hlow hhigh (Nat.lt_succ_of_lt (by decide)),
    run_next (by omega) (Nat.le_add_left ..) (by dsimp only; omega) (Nat.lt_succ_self 1),
    run_last (by omega) (Nat.le_add_left ..) (by dsimp only; omega) (Nat.le_refl 1), hn]

/-- The octets of a character read as that character, whatever follows. -/
theorem run_encodeChar (c : Char) (rest : List UInt8) :
    run none (String.utf8EncodeChar c ++ rest) = .char c :: run none rest := by
  have hv : c.val.toNat < 0xd800 ∨ 0xdfff < c.val.toNat ∧ c.val.toNat < 0x110000 := c.valid
  have hc : Char.ofNat c.val.toNat = c := Char.ofNat_toNat c
  unfold String.utf8EncodeChar
  revert hv hc
  generalize c.val.toNat = n
  intro hv hc
  by_cases h1 : n ≤ 127
  · rw [if_pos h1, List.cons_append, run_ascii (by omega), hc, List.nil_append]
  by_cases h2 : n ≤ 2047
  · have hb : n / 64 % 32 = n / 64 := by omega
    rw [if_neg h1, if_pos h2, hb, List.cons_append, List.cons_append, run_two (by omega) (by omega),
      hc, List.nil_append]
  by_cases h3 : n ≤ 65535
  · have hb : n / 4096 % 16 = n / 4096 := by omega
    rw [if_neg h1, if_neg h2, if_pos h3, hb, List.cons_append, List.cons_append, List.cons_append,
      run_three (by omega) (by omega) (by omega), hc, List.nil_append]
  · have hb : n / 262144 % 8 = n / 262144 := by omega
    rw [if_neg h1, if_neg h2, if_neg h3, hb, List.cons_append, List.cons_append, List.cons_append,
      List.cons_append, run_four (by omega) (by omega), hc, List.nil_append]

theorem units_flatMap_encodeChar (s : List Char) :
    units (s.flatMap String.utf8EncodeChar) = s.map .char := by
  induction s with
  | nil => rfl
  | cons c rest ih =>
    rw [units, List.flatMap_cons, run_encodeChar, List.map_cons, ← ih]
    rfl

theorem decodeLossy_flatMap_encodeChar (s : List Char) :
    decodeLossy (s.flatMap String.utf8EncodeChar) = s := by
  rw [decodeLossy, units_flatMap_encodeChar, List.map_map]
  exact List.map_id s

end Utf8

namespace Percent

theorem hexValue?_hexDigit {n : Nat} (h : n < 16) : hexValue? (hexDigit n) = some n := by
  revert n
  decide

theorem octets_encodeByte (b : UInt8) (rest : List Char) :
    octets (encodeByte b ++ rest) = b :: octets rest := by
  have hb : b.toNat < 256 := b.toNat_lt
  have hn : 16 * (b.toNat / 16) + b.toNat % 16 = b.toNat := by omega
  show octets ('%' :: _ :: _ :: rest) = _
  rw [octets, hexValue?_hexDigit (by omega), hexValue?_hexDigit (by omega)]
  show UInt8.ofNat _ :: _ = _
  rw [hn, UInt8.ofNat_toNat]

theorem octets_cons {c : Char} (h : c ≠ '%') (rest : List Char) :
    octets (c :: rest) = UInt8.ofNat c.toNat :: octets rest := by
  rw [octets]
  intro a b tail hc
  exact absurd hc h

/-- What a component keeps is ASCII and neither a percent sign nor a slash nor a blank. -/
theorem isComponentChar_bounds {c : Char} (h : isComponentChar c = true) :
    c.toNat < 128 ∧ c ≠ '%' ∧ c ≠ '/' ∧ isBlank c = false := by
  rcases Bool.or_eq_true .. ▸ h with h | h
  · unfold Char.isAlphanum Char.isAlpha Char.isUpper Char.isLower Char.isDigit at h
    simp only [Bool.or_eq_true, Bool.and_eq_true, decide_eq_true_eq, UInt32.le_iff_toNat_le,
      ge_iff_le] at h
    change ((65 ≤ c.toNat ∧ c.toNat ≤ 90) ∨ 97 ≤ c.toNat ∧ c.toNat ≤ 122) ∨
      48 ≤ c.toNat ∧ c.toNat ≤ 57 at h
    have hne : ∀ d : Char, d.toNat < 48 → c ≠ d := by
      rintro d hd rfl
      omega
    have hblank : isBlank c = false := by
      simp only [isBlank, Bool.or_eq_false_iff, Bool.and_eq_false_iff, decide_eq_false_iff_not,
        beq_eq_false_iff_ne]
      rw [CodePoint.toNat_scalar]
      omega
    exact ⟨by omega, hne '%' (by decide), hne '/' (by decide), hblank⟩
  · have hc : c ∈ ['_', '.', '-', '~', '!', '*', '\'', '(', ')'] := List.contains_iff_mem.1 h
    simp only [List.mem_cons, List.not_mem_nil, or_false] at hc
    rcases hc with rfl | rfl | rfl | rfl | rfl | rfl | rfl | rfl | rfl
    all_goals decide

theorem hexDigit_bounds {n : Nat} (h : n < 16) :
    (hexDigit n).toNat < 128 ∧ hexDigit n ≠ '/' ∧ isBlank (hexDigit n) = false := by
  revert n
  decide

/-- The characters of a component, written one after the other. -/
def encodeChars (s : List Char) : List Char := s.flatMap (encodeChar isComponentChar)

theorem encodeChars_bounds {s : List Char} {c : Char} (h : c ∈ encodeChars s) :
    c.toNat < 128 ∧ c ≠ '/' ∧ isBlank c = false := by
  obtain ⟨x, -, hx⟩ := List.mem_flatMap.1 h
  unfold encodeChar at hx
  split at hx
  next hk =>
    obtain ⟨ha, -, hs, hb⟩ := isComponentChar_bounds hk
    exact List.mem_singleton.1 hx ▸ ⟨ha, hs, hb⟩
  next =>
    obtain ⟨b, -, hb⟩ := List.mem_flatMap.1 hx
    have hlt : b.toNat < 256 := b.toNat_lt
    simp only [encodeByte, List.mem_cons, List.not_mem_nil, or_false] at hb
    rcases hb with rfl | rfl | rfl
    · decide
    · exact hexDigit_bounds (by omega)
    · exact hexDigit_bounds (by omega)

theorem octets_flatMap_encodeByte (bytes : List UInt8) (rest : List Char) :
    octets (bytes.flatMap encodeByte ++ rest) = bytes ++ octets rest := by
  induction bytes with
  | nil => rfl
  | cons b bytes ih =>
    rw [List.flatMap_cons, List.append_assoc, octets_encodeByte, ih, List.cons_append]

theorem octets_encodeChar (c : Char) (rest : List Char) :
    octets (encodeChar isComponentChar c ++ rest) = String.utf8EncodeChar c ++ octets rest := by
  unfold encodeChar
  split
  next hk =>
    obtain ⟨ha, hp, -, -⟩ := isComponentChar_bounds hk
    have hle : c.val.toNat ≤ 127 := Nat.le_of_lt_succ ha
    rw [List.cons_append, List.nil_append, octets_cons hp, String.utf8EncodeChar]
    simp only [hle, if_true]
    rfl
  next => exact octets_flatMap_encodeByte _ rest

theorem octets_encodeChars (s : List Char) :
    octets (encodeChars s) = s.flatMap String.utf8EncodeChar := by
  induction s with
  | nil => rfl
  | cons c rest ih =>
    rw [encodeChars, List.flatMap_cons, octets_encodeChar, List.flatMap_cons, ← ih]
    rfl

theorem decodeFrom_ascii (held : List Char) {s : List Char} (h : ∀ c ∈ s, c.toNat < 128) :
    decodeFrom held (s.map .scalar) = decodeHeld (s.reverse ++ held) := by
  induction s generalizing held with
  | nil => rfl
  | cons c rest ih =>
    rw [List.map_cons, decodeFrom, if_pos (h c List.mem_cons_self),
      ih (c :: held) fun d hd => h d (List.mem_cons_of_mem _ hd), List.reverse_cons,
      List.append_assoc]
    rfl

theorem decode_encodeChars (s : List Char) :
    decode ((encodeChars s).map .scalar) = s.map .scalar := by
  rw [decode, decodeFrom_ascii [] fun c hc => (encodeChars_bounds hc).1, List.append_nil,
    decodeHeld, List.reverse_reverse, octets_encodeChars, Utf8.decodeLossy_flatMap_encodeChar]

theorem encodeChars_eq_nil_iff {s : List Char} : encodeChars s = [] ↔ s = [] := by
  constructor
  · intro h
    have hd := decode_encodeChars s
    rw [h] at hd
    exact List.map_eq_nil_iff.1 hd.symm
  · rintro rfl
    rfl

/-- A component is written exactly if it is made of characters. -/
theorem encodeComponent_eq_ok_iff {s : List CodePoint} {encoded : List Char} :
    encodeComponent s = .ok encoded ↔
      ∃ chars : List Char, s = chars.map .scalar ∧ encodeChars chars = encoded := by
  have hencode (chars : List Char) :
      encode isComponentChar (chars.map .scalar) = encodeChars chars :=
    List.flatMap_map ..
  rw [encodeComponent, Utf8.unlessRefused_all_eq_ok_iff, isScalar_iff_exists]
  constructor
  · rintro ⟨⟨chars, rfl⟩, he⟩
    exact ⟨chars, rfl, (hencode chars).symm.trans he⟩
  · rintro ⟨chars, rfl, he⟩
    exact ⟨⟨chars, rfl⟩, (hencode chars).trans he⟩

end Percent

end Text

/-- There is a link for every name that is made of characters, and only for these. -/
theorem pageHref_eq_ok_iff {name base href : Text} :
    pageHref name base = .ok href ↔ ∃ chars : List Char, name = Text.ofChars chars ∧
      href = Text.ofList (Text.dropEndWhile (· = .scalar '/') base.toList ++
        .scalar '/' :: (Text.Percent.encodeChars chars).map .scalar) := by
  rw [pageHref, map_eq_ok]
  constructor
  · rintro ⟨encoded, he, rfl⟩
    obtain ⟨chars, hn, rfl⟩ := Text.Percent.encodeComponent_eq_ok_iff.1 he
    exact ⟨chars, Text.toList_inj.1 hn, rfl⟩
  · rintro ⟨chars, rfl, rfl⟩
    exact ⟨_, Text.Percent.encodeComponent_eq_ok_iff.2 ⟨chars, rfl, rfl⟩, rfl⟩

theorem exists_pageHref_iff {name base : Text} :
    (∃ href, pageHref name base = .ok href) ↔ name.IsScalar := by
  constructor
  · rintro ⟨href, h⟩
    obtain ⟨chars, rfl, -⟩ := pageHref_eq_ok_iff.1 h
    exact Text.isScalar_iff_exists.2 ⟨chars, rfl⟩
  · intro h
    obtain ⟨chars, hc⟩ := Text.isScalar_iff_exists.1 h
    exact ⟨_, pageHref_eq_ok_iff.2 ⟨chars, Text.toList_inj.1 hc, rfl⟩⟩

/-- The base of the docs links with slashes behind it. -/
def docsBase (slashes : Nat) : Text :=
  docsRoute ++ Text.ofList (List.replicate slashes (.scalar '/'))

@[simp] theorem docsBase_zero : docsBase 0 = docsRoute := Text.append_empty _

theorem pageHref_docsBase_eq_ok_iff {name href : Text} {slashes : Nat} :
    pageHref name (docsBase slashes) = .ok href ↔ ∃ chars : List Char, name = Text.ofChars chars ∧
      href = Text.ofChars ("/docs/".toList ++ Text.Percent.encodeChars chars) := by
  have hbase : Text.dropEndWhile (· = CodePoint.scalar '/') (docsBase slashes).toList =
      Text.dropEndWhile (· = CodePoint.scalar '/') docsRoute.toList := by
    rw [docsBase, Text.toList_append, Text.toList_ofList, Text.dropEndWhile_append]
    exact fun c hc => decide_eq_true (List.eq_of_mem_replicate hc)
  rw [pageHref_eq_ok_iff, hbase]
  rfl

namespace Route

/-- A link keeps its ends when the blanks around a route are cut off, and loses its slashes there. -/
theorem path_link {chars : List Char} (hn : chars ≠ []) :
    path (Text.ofChars ("/docs/".toList ++ Text.Percent.encodeChars chars)) =
      ("docs/".toList ++ Text.Percent.encodeChars chars).map .scalar := by
  have hne : Text.Percent.encodeChars chars ≠ [] :=
    fun h => hn (Text.Percent.encodeChars_eq_nil_iff.1 h)
  have hblank : ∀ c ∈ ("/docs/".toList ++ Text.Percent.encodeChars chars).map CodePoint.scalar,
      Text.isBlank c = false := by
    intro c hc
    obtain ⟨char, hm, rfl⟩ := List.mem_map.1 hc
    rcases List.mem_append.1 hm with hm | hm
    · have hprefix : ("/docs/".toList.all fun char => !Text.isBlank (.scalar char)) = true := rfl
      simpa using List.all_eq_true.1 hprefix char hm
    · exact (Text.Percent.encodeChars_bounds hm).2.2
  have hlast : ∀ h, (("docs/".toList ++ Text.Percent.encodeChars chars).map
      CodePoint.scalar).getLast h ≠ .scalar '/' := by
    intro h
    rw [List.getLast_map, List.getLast_append_of_ne_nil _ hne]
    have hm := List.getLast_mem hne
    exact fun e => (Text.Percent.encodeChars_bounds hm).2.1 (CodePoint.scalar_injective e)
  have hblanks : Text.trimBlanks
      (("/docs/".toList ++ Text.Percent.encodeChars chars).map .scalar) =
        ("/docs/".toList ++ Text.Percent.encodeChars chars).map .scalar := by
    have hnone : ∀ c ∈ ([] : List CodePoint), Text.isBlank c = true := by simp
    have hframe := Text.trimBy_frame hnone hblank hnone
    rwa [List.nil_append, List.append_nil] at hframe
  rw [path, Text.toList_ofChars, hblanks, Text.trimBy]
  show Text.dropEndWhile _ (("docs/".toList ++ Text.Percent.encodeChars chars).map
    CodePoint.scalar) = _
  rw [Text.dropEndWhile_eq_rdropWhile, List.rdropWhile_eq_self_iff]
  exact fun h => mt of_decide_eq_true (hlast h)

/-- The link of a page is a route to that page; a page without a name can not be told from the docs
view as a whole. -/
theorem parse_pageHref {name href : Text} {slashes : Nat}
    (h : pageHref name (docsBase slashes) = .ok href) :
    parse href = .ok ⟨.docs, if name = "" then none else some name⟩ := by
  obtain ⟨chars, rfl, rfl⟩ := pageHref_docsBase_eq_ok_iff.1 h
  by_cases hn : chars = []
  · subst hn
    rfl
  · have hname : Text.ofChars chars ≠ "" :=
      fun e => hn (List.map_eq_nil_iff.1 (Text.toList_eq_nil_iff.2 e))
    obtain ⟨c, rest, hc⟩ := List.exists_cons_of_ne_nil
      fun e => hn (Text.Percent.encodeChars_eq_nil_iff.1 e)
    have hread :
        Text.ofList (Text.Percent.decode ((c :: rest).map .scalar)) = Text.ofChars chars := by
      rw [← hc, Text.Percent.decode_encodeChars]
      rfl
    rw [parse, path_link hn, if_neg hname, hc]
    show Except.ok (Route.mk .docs (some (Text.ofList (Text.Percent.decode
      ((c :: rest).map .scalar))))) = _
    rw [hread]

end Route
end WebDocs
