import WebDocs.Proofs.Dump.Document
import WebDocs.Proofs.Json.Aligned
import WebDocs.Proofs.Text.Numeral

namespace WebDocs

namespace Json

/-- The whole number of a value: of a number its integer part, of a text the number it spells. -/
inductive Whole : Json → Int → Prop
  | int (n : Int) : Whole (.int n) n
  | bool (b : Bool) : Whole (.bool b) (if b then 1 else 0)
  | float {x : Decimal} {n : Int} (h : x.truncate? = some n) : Whole (.float x) n
  | text {s : Text} {n : Int} (h : Text.Numeral.Integer s.toList n) : Whole (.str s) n

/-- The binary64 number of a value; a whole number can be too large to have one. -/
inductive Real : Json → Decimal → Prop
  | float (x : Decimal) : Real (.float x) x
  | int {n : Int} {x : Decimal} (h : Decimal.ofInt? n = some x) : Real (.int n) x
  | bool {b : Bool} {x : Decimal} (h : Decimal.ofInt? (if b then 1 else 0) = some x) :
      Real (.bool b) x
  | text {s : Text} {x : Decimal} (h : Text.Numeral.Floating s.toList x) : Real (.str s) x

theorem toInt_eq_some_iff {raw : Json} {n : Int} :
    Val.toInt raw = .ok (some n) ↔ raw.Whole n := by
  refine ⟨fun h => ?_, fun h => ?_⟩
  · cases raw with
    | int m =>
      cases h
      exact .int _
    | bool b =>
      cases h
      exact .bool b
    | float x =>
      cases x with
      | infinite => cases h
      | nan => cases h
      | finite => exact .float (Except.ok.inj h)
    | str s => exact .text (Text.Numeral.int?_eq_some_iff.1 (Except.ok.inj h))
    | _ => cases h
  · cases h with
    | int | bool => rfl
    | @float x n h =>
      cases x with
      | infinite => cases h
      | nan => cases h
      | finite => exact congrArg Except.ok h
    | text h => exact congrArg Except.ok (Text.Numeral.int?_eq_some_iff.2 h)

theorem toFloat_eq_some_iff {raw : Json} {x : Decimal} :
    Val.toFloat raw = .ok (some x) ↔ raw.Real x := by
  refine ⟨fun h => ?_, fun h => ?_⟩
  · cases raw with
    | float y =>
      cases h
      exact .float _
    | int n =>
      cases hn : Decimal.ofInt? n with
      | none =>
        simp only [Val.toFloat, hn] at h
        cases h
      | some y =>
        simp only [Val.toFloat, hn] at h
        cases h
        exact .int hn
    | bool b => exact .bool (Except.ok.inj h)
    | str s => exact .text (Text.Numeral.decimal?_eq_some_iff.1 (Except.ok.inj h))
    | _ => cases h
  · cases h with
    | float => rfl
    | int h => rw [Val.toFloat, h]; rfl
    | bool h => exact congrArg Except.ok h
    | text h => exact congrArg Except.ok (Text.Numeral.decimal?_eq_some_iff.2 h)

end Json

namespace Val

/-- The arguments of a tuple; missing arguments are none. -/
def Args (raw : Json) (args : Members Json) : Prop :=
  ((raw.member? "args").getD .null).mapping = .ok args

/-- The payload of a value fits a form. -/
def Form.Fits (raw : Json) : Form → Prop
  | tuple => (∃ name, raw.member? "name" = some name) ∧ ∃ args, Args raw args
  | str => ∃ contents, raw.member? "contents" = some contents
  | int => ∃ contents n, raw.member? "contents" = some contents ∧ contents.Whole n
  | float => ∃ contents x, raw.member? "contents" = some contents ∧ contents.Real x

/-- The payload of a value fits its tag. -/
def Fits (raw : Json) : Prop :=
  ∃ form : Form, raw.tag? = some (Text.ofString form.tag) ∧ form.Fits raw

/-- What a value is to be read as. -/
inductive Reads : Json → Val → Prop
  | tuple {raw name : Json} {args : Members Json} {values : Members Val}
      (ht : raw.tag? = some (Text.ofString "TupleVal")) (hn : raw.member? "name" = some name)
      (ha : Args raw args)
      (hk : args.keys = values.keys)
      (hv : List.Forall₂ Reads (args.map (·.2)) (values.map (·.2))) :
      Reads raw (.tuple name.plainText values)
  | str {raw contents : Json} (ht : raw.tag? = some (Text.ofString "StrVal"))
      (hc : raw.member? "contents" = some contents) : Reads raw (.str contents.plainText)
  | int {raw contents : Json} {n : Int} (ht : raw.tag? = some (Text.ofString "IntVal"))
      (hc : raw.member? "contents" = some contents) (hn : contents.Whole n) : Reads raw (.int n)
  | float {raw contents : Json} {x : Decimal} (ht : raw.tag? = some (Text.ofString "FloatVal"))
      (hc : raw.member? "contents" = some contents) (hx : contents.Real x) : Reads raw (.float x)
  | unknown {raw : Json} (h : ¬Fits raw) : Reads raw (.unknown raw.tag? raw)

theorem decodeArgs_eq_ok {self : Json → Except Overflow Val} {args : Members Json}
    {values : Members Val} :
    decodeArgs self args = .ok values ↔
      Members.Aligned (fun raw value => self raw = .ok value) args values := by
  induction args generalizing values with
  | nil =>
    rw [Members.Aligned, List.forall₂_nil_left_iff]
    exact ⟨fun h => (Except.ok.inj h).symm, fun h => h ▸ rfl⟩
  | cons arg rest ih =>
    obtain ⟨name, raw⟩ := arg
    constructor
    · intro h
      obtain ⟨value, hv, h⟩ := bind_eq_ok.1 h
      obtain ⟨others, hr, h⟩ := bind_eq_ok.1 h
      cases h
      exact .cons ⟨rfl, hv⟩ (ih.1 hr)
    · intro h
      cases h with
      | @cons _ value _ others hv hr =>
        obtain ⟨key, value⟩ := value
        obtain ⟨hk, hv⟩ := hv
        obtain rfl : name = key := hk
        exact bind_eq_ok.2 ⟨value, hv, bind_eq_ok.2 ⟨others, ih.2 hr, rfl⟩⟩

/-- The arguments of a tuple are read one by one, each as if it stood alone. -/
theorem decode_tuple_iff {raw name : Json} {args : Members Json}
    (ht : raw.tag? = some (Text.ofString "TupleVal"))
    (hn : raw.member? "name" = some name) (ha : Args raw args) {value : Val} :
    decode raw = .ok value ↔ ∃ values, value = .tuple name.plainText values ∧
      Members.Aligned (fun raw value => decode raw = .ok value) args values := by
  have hform : form? raw = some .tuple := form_eq_some_iff.2 ht
  rw [decode_eq]
  simp only [step, hform, build, hn, show _ = Except.ok args from ha]
  constructor
  · intro h
    obtain ⟨built, hb, h⟩ := bind_eq_ok.1 h
    obtain ⟨values, hv, hb⟩ := bind_eq_ok.1 hb
    cases hb
    cases h
    exact ⟨values, rfl, decodeArgs_eq_ok.1 hv⟩
  · rintro ⟨values, rfl, hv⟩
    exact bind_eq_ok.2 ⟨_, bind_eq_ok.2 ⟨values, decodeArgs_eq_ok.2 hv, rfl⟩, rfl⟩

theorem Form.tag_injective {form other : Form} (h : form.tag = other.tag) : form = other := by
  cases form <;> cases other <;> first | rfl | exact absurd h (by decide)

theorem fits_iff {raw : Json} {form : Form} (ht : raw.tag? = some (Text.ofString form.tag)) :
    Fits raw ↔ form.Fits raw := by
  refine ⟨fun ⟨other, ho, hf⟩ => ?_, fun hf => ⟨form, ht, hf⟩⟩
  obtain rfl := Form.tag_injective (Text.ofString_inj.1 (Option.some.inj (ht.symm.trans ho)))
  exact hf

/-- A value of a form is what is built for it, or unknown. -/
theorem decode_eq_build {raw : Json} {form : Form} (ht : raw.tag? = some (Text.ofString form.tag)) :
    decode raw = (build decode raw form).map (·.getD (unknown raw.tag? raw)) := by
  conv_lhs => rw [decode_eq]
  simp only [step, form_eq_some_iff.2 ht]
  rfl

theorem decode_of_no_form {raw : Json}
    (h : ∀ form : Form, raw.tag? ≠ some (Text.ofString form.tag)) :
    decode raw = .ok (unknown raw.tag? raw) := by
  rw [decode_eq, step]
  cases hf : form? raw with
  | none => rfl
  | some form => exact absurd (form_eq_some_iff.1 hf) (h form)

/-- The arguments of a tuple are shallower than the tuple. -/
theorem reads_args {raw : Json} {args : Members Json} {values : Members Val}
    (ht : raw.tag? = some (Text.ofString "TupleVal")) (ha : Args raw args)
    (ih : ∀ part value, part.depth < raw.depth → decode part = .ok value → Reads part value)
    (hv : Members.Aligned (fun part value => decode part = .ok value) args values) :
    args.keys = values.keys ∧ List.Forall₂ Reads (args.map (·.2)) (values.map (·.2)) := by
  obtain ⟨hk, hv⟩ := Members.aligned_iff.1 hv
  have hbelow : ∀ part ∈ args.map (·.2), ∀ value, decode part = .ok value → Reads part value := by
    intro part hp value hd
    obtain ⟨arg, hm, rfl⟩ := List.mem_map.1 hp
    exact ih arg.2 value (depth_lt_of_args ht ha arg hm) hd
  have hboth : List.Forall₂ (fun part value => (∀ value, decode part = .ok value →
      Reads part value) ∧ decode part = .ok value) (args.map (·.2)) (values.map (·.2)) :=
    (List.forall₂_and_left _ _).2 ⟨hbelow, hv⟩
  exact ⟨hk, hboth.imp fun _ value h => h.1 value h.2⟩

/-- What is built for a form: the reading, or nothing if the payload does not fit. -/
def Form.Yields (raw : Json) (form : Form) (built : Option Val) : Prop :=
  (∃ value, built = some value ∧ Reads raw value) ∨ built = none ∧ ¬form.Fits raw

section

variable {raw contents : Json} {built : Option Val}

theorem yields_tuple (ht : raw.tag? = some (Text.ofString "TupleVal"))
    (ih : ∀ part value, part.depth < raw.depth → decode part = .ok value → Reads part value)
    (h : build decode raw .tuple = .ok built) : Form.tuple.Yields raw built := by
  rw [build] at h
  split at h
  next name args hn ha =>
    obtain ⟨values, hv, h⟩ := bind_eq_ok.1 h
    cases h
    obtain ⟨hk, hr⟩ := reads_args ht ha ih (decodeArgs_eq_ok.1 hv)
    exact .inl ⟨_, rfl, .tuple ht hn ha hk hr⟩
  next hnone =>
    cases h
    refine .inr ⟨rfl, ?_⟩
    rintro ⟨⟨name, hn⟩, args, ha⟩
    exact hnone name args hn ha

/-- Without contents there is no value but a tuple. -/
theorem yields_none {form : Form} (hf : form ≠ .tuple) (hc : raw.member? "contents" = none)
    (h : build decode raw form = .ok built) : form.Yields raw built := by
  have hmissing : ∀ contents, raw.member? "contents" ≠ some contents :=
    Option.eq_none_iff_forall_ne_some.1 hc
  cases form with
  | tuple => exact absurd rfl hf
  | str =>
    rw [build, hc] at h
    cases h
    refine .inr ⟨rfl, ?_⟩
    rintro ⟨contents, hm⟩
    exact hmissing contents hm
  | int | float =>
    rw [build, hc] at h
    cases h
    refine .inr ⟨rfl, ?_⟩
    rintro ⟨contents, number, hm, -⟩
    exact hmissing contents hm

theorem yields_str (ht : raw.tag? = some (Text.ofString "StrVal"))
    (hc : raw.member? "contents" = some contents)
    (h : build decode raw .str = .ok built) : Form.str.Yields raw built := by
  rw [build, hc] at h
  cases h
  exact .inl ⟨_, rfl, .str ht hc⟩

theorem yields_int (ht : raw.tag? = some (Text.ofString "IntVal"))
    (hc : raw.member? "contents" = some contents)
    (h : build decode raw .int = .ok built) : Form.int.Yields raw built := by
  rw [build, hc] at h
  obtain ⟨found, hf, h⟩ := bind_eq_ok.1 h
  change Val.toInt contents = .ok found at hf
  cases h
  cases found with
  | none =>
    refine .inr ⟨rfl, ?_⟩
    rintro ⟨_, n, hm, hn⟩
    cases hc.symm.trans hm
    cases hf.symm.trans (Json.toInt_eq_some_iff.2 hn)
  | some n => exact .inl ⟨_, rfl, .int ht hc (Json.toInt_eq_some_iff.1 hf)⟩

theorem yields_float (ht : raw.tag? = some (Text.ofString "FloatVal"))
    (hc : raw.member? "contents" = some contents) (h : build decode raw .float = .ok built) :
    Form.float.Yields raw built := by
  rw [build, hc] at h
  obtain ⟨found, hf, h⟩ := bind_eq_ok.1 h
  change Val.toFloat contents = .ok found at hf
  cases h
  cases found with
  | none =>
    refine .inr ⟨rfl, ?_⟩
    rintro ⟨_, x, hm, hx⟩
    cases hc.symm.trans hm
    cases hf.symm.trans (Json.toFloat_eq_some_iff.2 hx)
  | some x => exact .inl ⟨_, rfl, .float ht hc (Json.toFloat_eq_some_iff.1 hf)⟩

theorem yields_build {form : Form} (ht : raw.tag? = some (Text.ofString form.tag))
    (ih : ∀ part value, part.depth < raw.depth → decode part = .ok value → Reads part value)
    (h : build decode raw form = .ok built) : form.Yields raw built := by
  by_cases hf : form = .tuple
  · subst hf
    exact yields_tuple ht ih h
  cases hc : raw.member? "contents" with
  | none => exact yields_none hf hc h
  | some contents =>
    cases form with
    | tuple => exact absurd rfl hf
    | str => exact yields_str ht hc h
    | int => exact yields_int ht hc h
    | float => exact yields_float ht hc h

end

theorem reads_of_decode {raw : Json} {value : Val} (h : decode raw = .ok value) :
    Reads raw value := by
  induction hd : raw.depth using Nat.strongRecOn generalizing raw value with
  | ind depth ih =>
    have hbelow : ∀ part value, part.depth < raw.depth → decode part = .ok value →
        Reads part value := fun part value hlt hp => ih _ (hd ▸ hlt) hp rfl
    by_cases hform : ∃ form : Form, raw.tag? = some (Text.ofString form.tag)
    · obtain ⟨form, ht⟩ := hform
      rw [decode_eq_build ht] at h
      obtain ⟨built, hb, rfl⟩ := map_eq_ok.1 h
      rcases yields_build ht hbelow hb with ⟨value, rfl, hr⟩ | ⟨rfl, hf⟩
      · exact hr
      · exact .unknown fun hfits => hf ((fits_iff ht).1 hfits)
    · rw [decode_of_no_form (not_exists.1 hform)] at h
      cases h
      exact .unknown fun ⟨form, ht, _⟩ => hform ⟨form, ht⟩

theorem whole_unique {raw : Json} {m n : Int} (hm : raw.Whole m) (hn : raw.Whole n) : m = n := by
  have h := (Json.toInt_eq_some_iff.2 hm).symm.trans (Json.toInt_eq_some_iff.2 hn)
  exact Option.some.inj (Except.ok.inj h)

theorem real_unique {raw : Json} {x y : Decimal} (hx : raw.Real x) (hy : raw.Real y) : x = y := by
  have h := (Json.toFloat_eq_some_iff.2 hx).symm.trans (Json.toFloat_eq_some_iff.2 hy)
  exact Option.some.inj (Except.ok.inj h)

theorem reads_unique {raw : Json} {value other : Val} (hv : Reads raw value)
    (ho : Reads raw other) : value = other := by
  induction hd : raw.depth using Nat.strongRecOn generalizing raw value other with
  | ind depth ih =>
    cases hv with
    | tuple ht hn ha hk hr =>
      cases ho with
      | tuple ht' hn' ha' hk' hr' =>
        cases hn.symm.trans hn'
        cases ha.symm.trans ha'
        have hvalues := forall₂_unique hr hr' fun part hp value other hv ho => by
          obtain ⟨arg, hm, rfl⟩ := List.mem_map.1 hp
          exact ih _ (hd ▸ depth_lt_of_args ht ha arg hm) hv ho rfl
        rw [Members.eq_of_keys_eq (hk.symm.trans hk') hvalues]
      | unknown hf => exact absurd ⟨.tuple, ht, ⟨_, hn⟩, _, ha⟩ hf
      | str ht' | int ht' | float ht' => exact absurd (ht.symm.trans ht') (by decide)
    | str ht hc =>
      cases ho with
      | str ht' hc' =>
        cases hc.symm.trans hc'
        rfl
      | unknown hf => exact absurd ⟨.str, ht, _, hc⟩ hf
      | tuple ht' | int ht' | float ht' => exact absurd (ht.symm.trans ht') (by decide)
    | int ht hc hn =>
      cases ho with
      | int ht' hc' hn' =>
        cases hc.symm.trans hc'
        rw [whole_unique hn hn']
      | unknown hf => exact absurd ⟨.int, ht, _, _, hc, hn⟩ hf
      | tuple ht' | str ht' | float ht' => exact absurd (ht.symm.trans ht') (by decide)
    | float ht hc hx =>
      cases ho with
      | float ht' hc' hx' =>
        cases hc.symm.trans hc'
        rw [real_unique hx hx']
      | unknown hf => exact absurd ⟨.float, ht, _, _, hc, hx⟩ hf
      | tuple ht' | str ht' | int ht' => exact absurd (ht.symm.trans ht') (by decide)
    | unknown hf =>
      cases ho with
      | tuple ht hn ha => exact absurd ⟨.tuple, ht, ⟨_, hn⟩, _, ha⟩ hf
      | str ht hc => exact absurd ⟨.str, ht, _, hc⟩ hf
      | int ht hc hn => exact absurd ⟨.int, ht, _, _, hc, hn⟩ hf
      | float ht hc hx => exact absurd ⟨.float, ht, _, _, hc, hx⟩ hf
      | unknown => rfl

theorem exists_reads (raw : Json) : ∃ value, Reads raw value := by
  induction hd : raw.depth using Nat.strongRecOn generalizing raw with
  | ind depth ih =>
    by_cases hf : Fits raw
    · obtain ⟨form, ht, hf⟩ := hf
      cases form with
      | tuple =>
        obtain ⟨⟨name, hn⟩, args, ha⟩ := hf
        obtain ⟨values, hv⟩ := Members.exists_aligned fun arg hm =>
          ih _ (hd ▸ depth_lt_of_args ht ha arg hm) arg.2 rfl
        obtain ⟨hk, hr⟩ := Members.aligned_iff.1 hv
        exact ⟨_, .tuple ht hn ha hk hr⟩
      | str =>
        obtain ⟨contents, hc⟩ := hf
        exact ⟨_, .str ht hc⟩
      | int =>
        obtain ⟨contents, n, hc, hn⟩ := hf
        exact ⟨_, .int ht hc hn⟩
      | float =>
        obtain ⟨contents, x, hc, hx⟩ := hf
        exact ⟨_, .float ht hc hx⟩
    · exact ⟨_, .unknown hf⟩

theorem exists_decode {raw : Json} (h : ¬Overflows raw) : ∃ value, decode raw = .ok value := by
  cases hd : decode raw with
  | ok value => exact ⟨value, rfl⟩
  | error cause => exact absurd (overflows_of_error hd) h

theorem not_overflows {raw : Json} {value : Val} (h : decode raw = .ok value) : ¬Overflows raw := by
  intro ho
  obtain ⟨cause, hc⟩ := error_of_overflows ho
  cases h.symm.trans hc

/-- Two values that differ in one place only, where one has `old` and the other `new`: an argument
of a tuple, or of one of its arguments, and so on. -/
inductive Replaced (old new : Json) : Json → Json → Prop
  | here : Replaced old new old new
  | argument {raw raw' name name' part part' : Json} {key : Text} {before after : Members Json}
      (ht : raw.tag? = some (Text.ofString "TupleVal"))
      (ht' : raw'.tag? = some (Text.ofString "TupleVal"))
      (hn : raw.member? "name" = some name) (hn' : raw'.member? "name" = some name')
      (hs : name.plainText = name'.plainText) (ha : Args raw (before ++ (key, part) :: after))
      (ha' : Args raw' (before ++ (key, part') :: after)) (h : Replaced old new part part') :
      Replaced old new raw raw'

/-- The same for what is read. -/
inductive ReplacedVal (old new : Val) : Val → Val → Prop
  | here : ReplacedVal old new old new
  | argument {name key : Text} {part part' : Val} {before after : Members Val}
      (h : ReplacedVal old new part part') :
      ReplacedVal old new (.tuple name (before ++ (key, part) :: after))
        (.tuple name (before ++ (key, part') :: after))

/-- Another value in one place is read there and changes nothing else. -/
theorem Replaced.decode {old new raw raw' : Json} (h : Replaced old new raw raw') {value : Val}
    (hv : Val.decode raw = .ok value) (hnew : ¬Overflows new) : ∃ value' was is,
      Val.decode raw' = .ok value' ∧ Val.decode old = .ok was ∧ Val.decode new = .ok is ∧
        ReplacedVal was is value value' := by
  induction h generalizing value with
  | here =>
    obtain ⟨is, hi⟩ := exists_decode hnew
    exact ⟨is, value, is, hi, hv, hi, .here⟩
  | @argument raw raw' name name' part part' key before after ht ht' hn hn' hs ha ha' _ ih =>
    obtain ⟨values, rfl, hvalues⟩ := (decode_tuple_iff ht hn ha).1 hv
    obtain ⟨front, found, back, rfl, hfront, hp, hback⟩ := Members.aligned_middle.1 hvalues
    obtain ⟨found', was, is, hp', hw, hi, hr⟩ := ih hp
    have hdecode : Val.decode raw' =
        .ok (.tuple name'.plainText (front ++ (key, found') :: back)) :=
      (decode_tuple_iff ht' hn' ha').2 ⟨_, rfl,
        Members.aligned_middle.2 ⟨front, found', back, rfl, hfront, hp', hback⟩⟩
    exact ⟨_, was, is, hdecode, hw, hi, hs ▸ .argument hr⟩

end Val

/-- Another value for an annotation changes the value of this annotation and nothing else. -/
theorem Document.decode_of_value {pages before after : List Json} {expr old new : Json}
    {document : Document} {value : Val}
    (h : decode (.arr [.arr pages, .arr (before ++ .arr [expr, old] :: after)]) = .ok document)
    (hv : Val.decode new = .ok value) : ∃ front entry back,
      document.annotations = front ++ entry :: back ∧ front.length = before.length ∧
        decode (.arr [.arr pages, .arr (before ++ .arr [expr, new] :: after)]) =
          .ok ⟨document.pages, front ++ { entry with value := value } :: back⟩ := by
  obtain ⟨_, _, he, hp, hn, ha⟩ := decode_eq_ok_iff.1 h
  cases he
  obtain ⟨front, entry, back, hd, hfront, ⟨_, _, hu, hexpr, hposition, -⟩, hback⟩ :=
    forall₂_middle.1 ha
  cases hu
  refine ⟨front, entry, back, hd, hfront.length_eq.symm, decode_eq_ok_iff.2 ⟨_, _, rfl, hp, hn, ?_⟩⟩
  exact forall₂_middle.2 ⟨front, _, back, rfl, hfront, ⟨_, _, rfl, hexpr, hposition, hv⟩, hback⟩

namespace Val

/-- Every value has one reading: by its tag if the payload fits, and unknown if not. It is read so
unless a number in it overflows, which ends the reading with an error. An argument of a tuple is
read under its key as it would be alone, so another value in its place, or in place of the value of
an annotation, changes what is read in this place only. -/
theorem decode_total_local (raw : Json) :
    (∃! value, Reads raw value) ∧ ((∃ cause, decode raw = .error cause) ↔ Overflows raw) ∧
    (¬Overflows raw → ∃ value, decode raw = .ok value ∧ Reads raw value ∧
      (∀ name args, raw.tag? = some (Text.ofString "TupleVal") →
        raw.member? "name" = some name → Args raw args →
        ∃ values : Members Val, value = .tuple name.plainText values ∧ values.keys = args.keys ∧
          Members.Aligned (fun part value => decode part = .ok value) args values) ∧
      (∀ old new raw', Replaced old new raw raw' → ¬Overflows new → ∃ value' was is,
        decode raw' = .ok value' ∧ decode old = .ok was ∧ decode new = .ok is ∧
          ReplacedVal was is value value') ∧
      ∀ pages before after expr old document,
        Document.decode (.arr [.arr pages, .arr (before ++ .arr [expr, old] :: after)]) =
          .ok document →
        ∃ front entry back, document.annotations = front ++ entry :: back ∧
          front.length = before.length ∧
          Document.decode (.arr [.arr pages, .arr (before ++ .arr [expr, raw] :: after)]) =
            .ok ⟨document.pages, front ++ { entry with value := value } :: back⟩) := by
  obtain ⟨reading, hreading⟩ := exists_reads raw
  refine ⟨⟨reading, hreading, fun other ho => reads_unique ho hreading⟩, decode_fails_iff raw,
    fun h => ?_⟩
  obtain ⟨value, hv⟩ := exists_decode h
  refine ⟨value, hv, reads_of_decode hv, fun name args ht hn ha => ?_,
    fun old new raw' hr hnew => hr.decode hv hnew,
    fun pages before after expr old document hd => Document.decode_of_value hd hv⟩
  obtain ⟨values, hvalue, hvalues⟩ := (decode_tuple_iff ht hn ha).1 hv
  exact ⟨values, hvalue, (Members.aligned_iff.1 hvalues).1.symm, hvalues⟩

/-- A tuple of a number with a sign, an underscore and blanks, and of a text that is no number. -/
theorem decode_total_local_blanks :
    let number : Json := .obj [("tag", .str "IntVal"), ("contents", .str " +1_000\n")]
    let word : Json := .obj [("tag", .str "IntVal"), ("contents", .str "1__0")]
    let raw : Json := .obj [("tag", .str "TupleVal"), ("name", .str "t"),
      ("args", .obj [("b", word), ("a", number)])]
    let value : Val := .tuple "t" [("b", .unknown (some "IntVal") word), ("a", .int 1000)]
    ¬Overflows raw ∧ decode raw = .ok value ∧ Reads raw value := by
  intro number word raw value
  have hv : decode raw = .ok value := by rfl
  obtain ⟨found, hf, hr, -⟩ := (decode_total_local raw).2.2 (not_overflows hv)
  cases hv.symm.trans hf
  exact ⟨not_overflows hv, hv, hr⟩

/-- An infinite number where a whole one is asked for is no value: it should be read as unknown. -/
theorem decode_infinite_integer :
    let raw : Json := .obj [("tag", .str "IntVal"), ("contents", .float (.infinite false))]
    Reads raw (.unknown (some "IntVal") raw) ∧ ¬∃ value, decode raw = .ok value := by
  intro raw
  have herror : decode raw = .error .infinity := by rfl
  refine ⟨.unknown fun ⟨form, ht, hf⟩ => ?_, fun ⟨value, hv⟩ => (nomatch herror.symm.trans hv)⟩
  obtain rfl : form = .int := Form.tag_injective (Text.ofString_inj.1 (Option.some.inj ht.symm))
  obtain ⟨contents, n, hc, hn⟩ := hf
  cases hc
  cases Json.toInt_eq_some_iff.2 hn

end Val
end WebDocs
