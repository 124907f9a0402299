import WebDocs.Proofs.Dump.Reading

namespace WebDocs

namespace Val

theorem decodeArgs_congr {f g : Json → Except Overflow Val} {args : Members Json}
    (h : ∀ m ∈ args, f m.2 = g m.2) : decodeArgs f args = decodeArgs g args := by
  induction args with
  | nil => rfl
  | cons m rest ih =>
    obtain ⟨name, raw⟩ := m
    have hm : f raw = g raw := h (name, raw) List.mem_cons_self
    have hr := ih fun m hm => h m (List.mem_cons_of_mem _ hm)
    simp only [decodeArgs, hm, hr]

theorem depth_lt_of_args {raw : Json} {args : Members Json} {tag : Text}
    (ht : raw.tag? = some tag) (ha : ((raw.member? "args").getD .null).mapping = .ok args) :
    ∀ m ∈ args, m.2.depth < raw.depth := by
  intro m hm
  have hle := Json.depth_le_of_mapping ha m hm
  cases raw with
  | obj members =>
    cases hg : (Json.obj members).member? "args" with
    | none =>
      rw [hg] at ha
      cases ha
      cases hm
    | some value =>
      rw [hg] at hle
      have hd := Json.depth_le_depthMembers (Members.mem_of_get? hg)
      change m.2.depth ≤ value.depth at hle
      change value.depth ≤ _ at hd
      rw [Json.depth]
      omega
  | _ => cases ht

theorem step_local : Json.Local step := by
  intro f g raw h
  unfold step
  cases hf : form? raw with
  | none => rfl
  | some form =>
    obtain ⟨tag, ht, -⟩ := Option.bind_eq_some_iff.1 hf
    have hb : build f raw form = build g raw form := by
      cases form with
      | tuple =>
        unfold build
        cases hn : raw.member? "name" with
        | none => rfl
        | some name =>
          cases ha : ((raw.member? "args").getD .null).mapping with
          | error e => rfl
          | ok args =>
            have hargs := decodeArgs_congr fun m hm => h m.2 (depth_lt_of_args ht ha m hm)
            simp only [hargs]
      | _ => rfl
    simp only [hb]

theorem decode_eq (raw : Json) : decode raw = step decode raw := Json.descend_eq step_local ..

/-- An infinite number is asked to be whole, or a whole number is too large to be a binary64 number,
in the value itself or in an argument. -/
inductive Overflows : Json → Prop
  | infinity {raw : Json} {negative : Bool} (ht : raw.tag? = some (Text.ofString "IntVal"))
      (hc : raw.member? "contents" = some (.float (.infinite negative))) : Overflows raw
  | tooLarge {raw : Json} {n : Int} (ht : raw.tag? = some (Text.ofString "FloatVal"))
      (hc : raw.member? "contents" = some (.int n)) (hn : Decimal.ofInt? n = none) : Overflows raw
  | argument {raw name value : Json} {args : Members Json} {key : Text}
      (ht : raw.tag? = some (Text.ofString "TupleVal")) (hn : raw.member? "name" = some name)
      (ha : ((raw.member? "args").getD .null).mapping = .ok args) (hm : (key, value) ∈ args)
      (h : Overflows value) : Overflows raw

theorem toInt_eq_error {raw : Json} {cause : Overflow} (h : toInt raw = .error cause) :
    ∃ negative, raw = .float (.infinite negative) := by
  cases raw with
  | float x =>
    cases x with
    | infinite negative => exact ⟨negative, rfl⟩
    | nan => cases h
    | finite => cases h
  | _ => cases h

theorem toFloat_eq_error {raw : Json} {cause : Overflow} (h : toFloat raw = .error cause) :
    ∃ n, raw = .int n ∧ Decimal.ofInt? n = none := by
  cases raw with
  | int n =>
    refine ⟨n, rfl, ?_⟩
    cases hn : Decimal.ofInt? n with
    | none => rfl
    | some x =>
      simp only [toFloat, hn] at h
      cases h
  | _ => cases h

theorem decodeArgs_eq_error {self : Json → Except Overflow Val} {args : Members Json}
    {cause : Overflow} (h : decodeArgs self args = .error cause) :
    ∃ m ∈ args, self m.2 = .error cause := by
  induction args with
  | nil => cases h
  | cons m rest ih =>
    obtain ⟨name, raw⟩ := m
    unfold decodeArgs at h
    cases hv : self raw with
    | error e =>
      rw [hv] at h
      cases h
      exact ⟨(name, raw), List.mem_cons_self, hv⟩
    | ok value =>
      cases hr : decodeArgs self rest with
      | error e =>
        rw [hv, hr] at h
        cases h
        obtain ⟨m, hm, he⟩ := ih hr
        exact ⟨m, List.mem_cons_of_mem _ hm, he⟩
      | ok values =>
        rw [hv, hr] at h
        cases h

theorem decodeArgs_of_error {self : Json → Except Overflow Val} {args : Members Json}
    {m : Text × Json} (hm : m ∈ args) {cause : Overflow} (h : self m.2 = .error cause) :
    ∃ first, decodeArgs self args = .error first := by
  induction args with
  | nil => cases hm
  | cons other rest ih =>
    obtain ⟨name, raw⟩ := other
    unfold decodeArgs
    cases hv : self raw with
    | error e => exact ⟨e, rfl⟩
    | ok value =>
      rcases List.mem_cons.1 hm with rfl | hm
      · rw [hv] at h
        cases h
      · obtain ⟨first, hf⟩ := ih hm
        rw [hf]
        exact ⟨first, rfl⟩

/-- The one spelling of a form's tag. -/
def Form.tag : Form → String
  | tuple => "TupleVal"
  | str => "StrVal"
  | int => "IntVal"
  | float => "FloatVal"

theorem form_eq_some_iff {raw : Json} {form : Form} :
    form? raw = some form ↔ raw.tag? = some (Text.ofString form.tag) := by
  constructor
  · intro h
    obtain ⟨tag, ht, hf⟩ := Option.bind_eq_some_iff.1 h
    obtain ⟨word, hw, hword⟩ := Option.bind_eq_some_iff.1 hf
    obtain rfl := Text.toString?_eq_some_iff.1 hw
    rw [ht]
    unfold Form.ofTag? at hword
    split at hword <;> cases hword <;> rfl
  · intro ht
    refine Option.bind_eq_some_iff.2 ⟨_, ht, ?_⟩
    rw [Text.toString?_ofString]
    cases form <;> rfl

theorem step_eq_error {self : Json → Except Overflow Val} {raw : Json} {cause : Overflow}
    (h : step self raw = .error cause) :
    ∃ form : Form, raw.tag? = some (Text.ofString form.tag) ∧
      build self raw form = .error cause := by
  unfold step at h
  split at h
  next => cases h
  next form hf =>
    refine ⟨form, form_eq_some_iff.1 hf, ?_⟩
    cases hb : build self raw form with
    | ok value =>
      rw [hb] at h
      cases h
    | error e =>
      rw [hb] at h
      cases h
      rfl

theorem step_of_build {self : Json → Except Overflow Val} {raw : Json} {form : Form}
    (ht : raw.tag? = some (Text.ofString form.tag)) {cause : Overflow}
    (hb : build self raw form = .error cause) : step self raw = .error cause := by
  simp only [step, form_eq_some_iff.2 ht, hb]
  rfl

theorem overflows_of_error {raw : Json} {cause : Overflow} (h : decode raw = .error cause) :
    Overflows raw := by
  induction hd : raw.depth using Nat.strongRecOn generalizing raw cause with
  | ind depth ih =>
    rw [decode_eq] at h
    obtain ⟨form, ht, hb⟩ := step_eq_error h
    cases form with
    | tuple =>
      simp only [build] at hb
      split at hb
      next name args hn ha =>
        cases hargs : decodeArgs decode args with
        | ok values =>
          rw [hargs] at hb
          cases hb
        | error e =>
          obtain ⟨m, hm, he⟩ := decodeArgs_eq_error hargs
          have hlt := depth_lt_of_args ht ha m hm
          exact .argument ht hn ha hm (ih _ (hd ▸ hlt) he rfl)
      next => cases hb
    | str => cases hb
    | int =>
      cases hc : raw.member? "contents" with
      | none =>
        simp only [build, hc] at hb
        cases hb
      | some value =>
        cases hv : toInt value with
        | ok found =>
          simp only [build, hc, Option.elim, hv] at hb
          cases hb
        | error e =>
          obtain ⟨negative, rfl⟩ := toInt_eq_error hv
          exact .infinity ht hc
    | float =>
      cases hc : raw.member? "contents" with
      | none =>
        simp only [build, hc] at hb
        cases hb
      | some value =>
        cases hv : toFloat value with
        | ok found =>
          simp only [build, hc, Option.elim, hv] at hb
          cases hb
        | error e =>
          obtain ⟨n, rfl, hn⟩ := toFloat_eq_error hv
          exact .tooLarge ht hc hn

theorem error_of_overflows {raw : Json} (h : Overflows raw) :
    ∃ cause, decode raw = .error cause := by
  induction h with
  | infinity ht hc =>
    refine ⟨.infinity, ?_⟩
    rw [decode_eq]
    refine @step_of_build _ _ .int ht _ ?_
    simp only [build, hc]
    rfl
  | tooLarge ht hc hn =>
    refine ⟨.tooLarge, ?_⟩
    rw [decode_eq]
    refine @step_of_build _ _ .float ht _ ?_
    simp only [build, hc, Option.elim, toFloat, hn]
    rfl
  | argument ht hn ha hm _ ih =>
    obtain ⟨cause, hv⟩ := ih
    obtain ⟨first, hargs⟩ := decodeArgs_of_error hm hv
    refine ⟨first, ?_⟩
    rw [decode_eq]
    refine @step_of_build _ _ .tuple ht _ ?_
    simp only [build, hn, ha, hargs]
    rfl

/-- Reading a value fails exactly when it overflows. -/
theorem decode_fails_iff (raw : Json) : (∃ cause, decode raw = .error cause) ↔ Overflows raw :=
  ⟨fun ⟨_, h⟩ => overflows_of_error h, error_of_overflows⟩

end Val
end WebDocs
