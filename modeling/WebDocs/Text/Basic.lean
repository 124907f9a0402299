namespace WebDocs

/-- A code point of a text. Texts that come in as escapes or octets may hold half of a pair alone,
which is no character. -/
inductive CodePoint
  | scalar (c : Char)
  | surrogate (half : Fin 0x800)
  deriving DecidableEq

namespace CodePoint

instance : Coe Char CodePoint := ⟨scalar⟩

def toNat : CodePoint → Nat
  | scalar c => c.toNat
  | surrogate half => 0xd800 + half

/-- The code point of a number; a number that is too large has the code point zero. -/
def ofNat (n : Nat) : CodePoint :=
  if 0xd800 ≤ n ∧ n < 0xe000 then surrogate (Fin.ofNat 0x800 (n - 0xd800))
  else scalar (Char.ofNat n)

instance : LT CodePoint := ⟨fun a b => a.toNat < b.toNat⟩

instance : LE CodePoint := ⟨fun a b => a.toNat ≤ b.toNat⟩

instance (a b : CodePoint) : Decidable (a < b) := inferInstanceAs (Decidable (a.toNat < b.toNat))

instance (a b : CodePoint) : Decidable (a ≤ b) := inferInstanceAs (Decidable (a.toNat ≤ b.toNat))

/-- A property of characters; no half of a pair has it. -/
def satisfies (p : Char → Bool) : CodePoint → Bool
  | scalar c => p c
  | surrogate _ => false

def isDigit : CodePoint → Bool := satisfies Char.isDigit

def isAlpha : CodePoint → Bool := satisfies Char.isAlpha

def isAlphanum : CodePoint → Bool := satisfies Char.isAlphanum

def isScalar : CodePoint → Bool := satisfies fun _ => true

/-- One of the characters of a literal. -/
def isAmong (chars : String) : CodePoint → Bool := satisfies chars.toList.contains

def mapChar (f : Char → Char) : CodePoint → CodePoint
  | scalar c => f c
  | half => half

def toLower : CodePoint → CodePoint := mapChar Char.toLower

def toUpper : CodePoint → CodePoint := mapChar Char.toUpper

@[simp] theorem toNat_scalar (c : Char) : (scalar c).toNat = c.toNat := rfl

theorem toNat_injective {a b : CodePoint} (h : a.toNat = b.toNat) : a = b := by
  have hne (c : Char) (half : Fin 0x800) : c.toNat ≠ 0xd800 + half := by
    have hv := c.valid
    simp only [UInt32.isValidChar, Nat.isValidChar] at hv
    have hn : c.val.toNat = c.toNat := rfl
    omega
  cases a with
  | scalar a =>
    cases b with
    | scalar b => exact congrArg scalar (Char.toNat_inj.1 h)
    | surrogate half => exact absurd h (hne a half)
  | surrogate half =>
    cases b with
    | scalar b => exact absurd h.symm (hne b half)
    | surrogate other => exact congrArg surrogate (Fin.ext (Nat.add_left_cancel h))

theorem scalar_injective {a b : Char} (h : scalar a = scalar b) : a = b := CodePoint.scalar.inj h

instance : Std.Irrefl (α := CodePoint) (· < ·) := ⟨fun a => Nat.lt_irrefl a.toNat⟩

instance : Std.Asymm (α := CodePoint) (· < ·) := ⟨fun _ _ => Nat.lt_asymm⟩

instance : Trans (α := CodePoint) (· < ·) (· < ·) (· < ·) := ⟨fun h h' => Nat.lt_trans h h'⟩

instance : Std.Trichotomous (α := CodePoint) (· < ·) :=
  ⟨fun _ _ h h' => toNat_injective (Nat.le_antisymm (Nat.not_lt.1 h') (Nat.not_lt.1 h))⟩

end CodePoint

/-- A text is the list of its code points. -/
structure Text where
  toList : List CodePoint
  deriving DecidableEq

namespace Text

def ofList (s : List CodePoint) : Text := ⟨s⟩

def ofChars (s : List Char) : Text := ⟨s.map .scalar⟩

def ofString (s : String) : Text := ofChars s.toList

instance : Coe String Text := ⟨ofString⟩

instance : Inhabited Text := ⟨""⟩

instance : Append Text := ⟨fun s t => ⟨s.toList ++ t.toList⟩⟩

instance : LT Text := ⟨fun s t => s.toList < t.toList⟩

instance : LE Text := ⟨fun s t => s.toList ≤ t.toList⟩

instance (s t : Text) : Decidable (s < t) := inferInstanceAs (Decidable (s.toList < t.toList))

instance (s t : Text) : Decidable (s ≤ t) := inferInstanceAs (Decidable (s.toList ≤ t.toList))

def length (s : Text) : Nat := s.toList.length

/-- Texts with a text between neighbours. -/
def intercalate (separator : Text) (parts : List Text) : Text :=
  ⟨separator.toList.intercalate (parts.map toList)⟩

def join (parts : List Text) : Text := ⟨parts.flatMap toList⟩

def startsWith (s start : Text) : Bool := start.toList.isPrefixOf s.toList

/-- The characters of code points, if none of them is half of a pair. -/
def chars? : List CodePoint → Option (List Char)
  | [] => some []
  | .scalar c :: rest => (chars? rest).map (c :: ·)
  | .surrogate _ :: _ => none

/-- A text without halves of pairs, as literals are written. -/
def toString? (s : Text) : Option String := (chars? s.toList).map String.ofList

/-- No code point of the text is half of a pair. -/
def IsScalar (s : Text) : Prop := ∀ c ∈ s.toList, c.isScalar = true

instance (s : Text) : Decidable s.IsScalar :=
  inferInstanceAs (Decidable (∀ c ∈ s.toList, c.isScalar = true))

@[simp] theorem toList_ofList (s : List CodePoint) : (ofList s).toList = s := rfl

@[simp] theorem ofList_toList (s : Text) : ofList s.toList = s := rfl

@[simp] theorem toList_ofChars (s : List Char) : (ofChars s).toList = s.map .scalar := rfl

theorem toList_ofString (s : String) : (ofString s).toList = s.toList.map .scalar := rfl

theorem ofString_ofList (s : List Char) : ofString (String.ofList s) = ofChars s := by
  rw [ofString, String.toList_ofList]

@[simp] theorem toList_append (s t : Text) : (s ++ t).toList = s.toList ++ t.toList := rfl

theorem ofString_append (s t : String) : ofString (s ++ t) = ofString s ++ ofString t := by
  rw [ofString, String.toList_append, ofChars, List.map_append]
  rfl

theorem toList_inj {s t : Text} : s.toList = t.toList ↔ s = t :=
  ⟨fun h => congrArg ofList h, congrArg toList⟩

theorem ofList_injective {s t : List CodePoint} (h : ofList s = ofList t) : s = t :=
  congrArg toList h

@[simp] theorem ofString_inj {s t : String} : ofString s = ofString t ↔ s = t := by
  refine ⟨fun h => String.toList_inj.1 ?_, congrArg ofString⟩
  exact (List.map_inj_right fun _ _ => CodePoint.scalar_injective).1 (congrArg toList h)

@[simp] theorem toList_eq_nil_iff {s : Text} : s.toList = [] ↔ s = "" :=
  toList_inj (t := ofString "")

theorem append_assoc (s t u : Text) : s ++ t ++ u = s ++ (t ++ u) :=
  congrArg ofList (List.append_assoc ..)

@[simp] theorem append_empty (s : Text) : s ++ ofString "" = s :=
  congrArg ofList (List.append_nil _)

theorem append_eq_empty_iff {s t : Text} : s ++ t = "" ↔ s = "" ∧ t = "" := by
  rw [← toList_eq_nil_iff, ← toList_eq_nil_iff, ← toList_eq_nil_iff]
  exact List.append_eq_nil_iff

theorem toList_intercalate (separator : Text) (parts : List Text) :
    (separator.intercalate parts).toList = separator.toList.intercalate (parts.map toList) := rfl

theorem intercalate_cons_cons (separator first second : Text) (rest : List Text) :
    separator.intercalate (first :: second :: rest) =
      first ++ separator ++ separator.intercalate (second :: rest) := by
  rw [← toList_inj]
  exact List.intercalate_cons_cons

theorem not_lt {s t : Text} : ¬s < t ↔ t ≤ s := Iff.rfl

theorem lt_irrefl (s : Text) : ¬s < s := List.lt_irrefl s.toList

theorem lt_asymm {s t : Text} (h : s < t) : ¬t < s := List.lt_asymm h

instance : Std.Asymm (α := Text) (· < ·) := ⟨fun _ _ => lt_asymm⟩

theorem lt_trans {s t u : Text} (h : s < t) (h' : t < u) : s < u := List.lt_trans h h'

theorem le_refl (s : Text) : s ≤ s := List.le_refl s.toList

theorem le_antisymm {s t : Text} (h : s ≤ t) (h' : t ≤ s) : s = t :=
  toList_inj.1 (List.le_antisymm h h')

theorem le_trans {s t u : Text} (h : s ≤ t) (h' : t ≤ u) : s ≤ u := fun hlt => by
  by_cases hst : s < t
  · exact h' (lt_trans hlt hst)
  · exact h' (le_antisymm h (not_lt.1 hst) ▸ hlt)

theorem lt_of_le_of_ne {s t : Text} (h : s ≤ t) (hne : s ≠ t) : s < t :=
  Decidable.byContradiction fun hlt => hne (le_antisymm h (not_lt.1 hlt))

theorem ne_of_lt {s t : Text} (h : s < t) : s ≠ t := fun he => lt_irrefl t (he ▸ h)

theorem chars?_map (s : List Char) : chars? (s.map .scalar) = some s := by
  induction s with
  | nil => rfl
  | cons c rest ih => rw [List.map_cons, chars?, ih]; rfl

theorem chars?_eq_some_iff {s : List CodePoint} {chars : List Char} :
    chars? s = some chars ↔ s = chars.map .scalar := by
  constructor
  · intro h
    induction s generalizing chars with
    | nil => cases h; rfl
    | cons c rest ih =>
      cases c with
      | scalar c =>
        obtain ⟨tail, ht, rfl⟩ := Option.map_eq_some_iff.1 h
        rw [List.map_cons, ih ht]
      | surrogate half => cases h
  · rintro rfl
    exact chars?_map chars

theorem toString?_eq_some_iff {s : Text} {word : String} : s.toString? = some word ↔ s = word := by
  rw [toString?, Option.map_eq_some_iff]
  constructor
  · rintro ⟨chars, h, rfl⟩
    rw [← toList_inj, chars?_eq_some_iff.1 h, toList_ofString, String.toList_ofList]
  · rintro rfl
    exact ⟨word.toList, chars?_map _, String.ofList_toList⟩

@[simp] theorem toString?_ofString (word : String) : (ofString word).toString? = some word :=
  toString?_eq_some_iff.2 rfl

end Text
end WebDocs
