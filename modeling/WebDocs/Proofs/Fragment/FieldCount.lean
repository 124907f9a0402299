import WebDocs.Fragment.Node
import WebDocs.Proofs.Dump.RoundTrip

namespace WebDocs

open Json (Tagged Names)

namespace Json

mutual

theorem names_of_name {text : Text} : (raw : Json) → raw.name = .ok text → Names text raw
  | .str _, h => by
    cases h
    exact .plain
  | .obj members, h => by
    obtain ⟨inner, hc, hn⟩ := names_of_nameAmong members h
    exact .wrapped hc hn

theorem names_of_nameAmong {text : Text} : (members : List (Text × Json)) →
    nameAmong members = .ok text →
      ∃ inner, Members.get? "contents" members = some inner ∧ Names text inner
  | (key, value) :: rest, h => by
    unfold nameAmong at h
    by_cases hk : key = "contents"
    · rw [if_pos hk] at h
      exact ⟨value, if_pos hk, names_of_name value h⟩
    · rw [if_neg hk] at h
      obtain ⟨inner, hc, hn⟩ := names_of_nameAmong rest h
      exact ⟨inner, (if_neg hk).trans hc, hn⟩

end

theorem name_eq_ok_iff {raw : Json} {text : Text} : raw.name = .ok text ↔ Names text raw :=
  ⟨names_of_name raw, Names.name_eq⟩

theorem constant_eq_ok_iff {raw value : Json} : raw.constant = .ok value ↔ Constant value raw := by
  refine ⟨fun h => ?_, Constant.constant_eq⟩
  cases raw with
  | obj members =>
    cases hc : Members.get? "contents" members with
    | none =>
      rw [constant, hc] at h
      cases h
    | some inner =>
      rw [constant, hc] at h
      cases h
      exact .wrapped hc
  | _ =>
    cases h
    exact .bare fun _ => Json.noConfusion

variable {items : List Json}

theorem length_of_unpack2 {fields : Json × Json} (h : (arr items).unpack2 = .ok fields) :
    items.length = 2 :=
  congrArg List.length (Option.some.inj (elements?_of_unpack2 h))

theorem length_of_unpack3 {fields : Json × Json × Json} (h : (arr items).unpack3 = .ok fields) :
    items.length = 3 :=
  congrArg List.length (Option.some.inj (elements?_of_unpack3 h))

theorem length_of_unpack4 {fields : Json × Json × Json × Json}
    (h : (arr items).unpack4 = .ok fields) : items.length = 4 :=
  congrArg List.length (Option.some.inj (elements?_of_unpack4 h))

theorem eq_cons_of_item {first second : Json} (h : (arr items).item 0 = .ok first)
    (hs : (arr items).item 1 = .ok second) : ∃ rest, items = first :: second :: rest := by
  match items with
  | [] => cases h
  | [_] => cases hs
  | _ :: _ :: rest =>
    cases h
    cases hs
    exact ⟨rest, rfl⟩

end Json

/-- The spellings of the tag of an expression. -/
def Expr.Form.tags : Expr.Form → List Text
  | constant => ["CExpr", "RawCExpr"]
  | name => ["Value", "RawValue"]
  | apply => ["TupleApply", "RawTupleApply"]
  | paren => ["Paren", "RawParen"]
  | methods => ["Methods", "RawMethods"]
  | ifThenElse => ["IfThenElse", "RawIfThenElse"]
  | branch kind => kind.tags

theorem Expr.Form.form?_eq_some_iff {tag : Text} {form : Expr.Form} :
    Kind.expr.form? tag = some form ↔ tag ∈ form.tags := by
  constructor
  · intro h
    obtain ⟨word, hw, hword⟩ := Option.bind_eq_some_iff.1 h
    obtain rfl := Text.toString?_eq_some_iff.1 hw
    change ofTag? word = some form at hword
    unfold ofTag? at hword
    split at hword <;> cases hword <;> decide
  · intro h
    have hall : form.tags.map Kind.expr.form? = form.tags.map fun _ => some form := by
      cases form with
      | branch kind => cases kind <;> rfl
      | _ => rfl
    exact List.map_inj_left.1 hall tag h

/-- The number of fields of an expression; none if its contents are no list of fields. -/
def Expr.Form.fields? : Expr.Form → Option Nat
  | constant => some 2
  | name => some 2
  | apply => some 3
  | paren => none
  | methods => some 2
  | ifThenElse => some 4
  | branch _ => some 3

def Arg.Form.fields? : Arg.Form → Option Nat
  | named => some 2
  | positional => none

def Statement.Form.fields? : Statement.Form → Option Nat
  | decl => some 3
  | multiTypeDef => some 3
  | typeDef => none
  | classInstance => some 2
  | classDecl => some 2
  | globalAnnot => none
  | comment => none

def SubStatement.Form.fields? : SubStatement.Form → Option Nat
  | decl => some 3
  | annot => none

namespace Kind

def fields? : (kind : Kind) → kind.Form → Option Nat
  | type => fun _ => none
  | guard => fun _ => none
  | expr => Expr.Form.fields?
  | arg => Arg.Form.fields?
  | statement => Statement.Form.fields?
  | subStatement => SubStatement.Form.fields?

/-- The tags of the nodes with fields, in every spelling, each with the number of its fields. -/
def fieldCounts : Kind → List (Text × Nat)
  | type => []
  | guard => []
  | expr => [("CExpr", 2), ("RawCExpr", 2), ("Value", 2), ("RawValue", 2), ("TupleApply", 3),
      ("RawTupleApply", 3), ("Methods", 2), ("RawMethods", 2), ("IfThenElse", 4),
      ("RawIfThenElse", 4), ("Match", 3), ("RawMatch", 3), ("Case", 3), ("RawCase", 3)]
  | arg => [("TupleArgNamed", 2), ("RawTupleArgNamed", 2), ("Named", 2), ("RawNamed", 2)]
  | statement => [("RawDeclStatement", 3), ("Decl", 3), ("MultiTypeDefStatement", 3),
      ("MultiTypeDef", 3), ("RawClassDefStatement", 2), ("ClassInstance", 2),
      ("RawClassDeclStatement", 2), ("ClassDecl", 2)]
  | subStatement => [("RawDeclSubStatementDecl", 3), ("Decl", 3)]

/-- These are all the tags that are known and stand for a form with fields. -/
theorem mem_fieldCounts_iff {kind : Kind} {tag : Text} {n : Nat} :
    (tag, n) ∈ kind.fieldCounts ↔
      ∃ form, kind.form? tag = some form ∧ kind.fields? form = some n := by
  constructor
  · intro h
    have hall : ∀ entry ∈ kind.fieldCounts,
        (kind.form? entry.1).bind kind.fields? = some entry.2 := by
      cases kind <;> decide
    exact Option.bind_eq_some_iff.1 (hall _ h)
  · rintro ⟨form, hform, hfields⟩
    obtain ⟨word, hw, hword⟩ := Option.bind_eq_some_iff.1 hform
    obtain rfl := Text.toString?_eq_some_iff.1 hw
    cases kind with
    | type | guard => cases hfields
    | expr =>
      change Expr.Form.ofTag? word = some form at hword
      unfold Expr.Form.ofTag? at hword
      split at hword <;> cases hword <;> cases hfields <;> decide
    | arg =>
      change Arg.Form.ofTag? word = some form at hword
      unfold Arg.Form.ofTag? at hword
      split at hword <;> cases hword <;> cases hfields <;> decide
    | statement =>
      change Statement.Form.ofTag? word = some form at hword
      unfold Statement.Form.ofTag? at hword
      split at hword <;> cases hword <;> cases hfields <;> decide
    | subStatement =>
      change SubStatement.Form.ofTag? word = some form at hword
      unfold SubStatement.Form.ofTag? at hword
      split at hword <;> cases hword <;> cases hfields <;> decide

end Kind

/-- Fields that go unnoticed: those behind the two of a constant or of a name. -/
inductive Overlooked : Kind → Text → List Json → Prop
  | constant {tag : Text} {value info field extra : Json} {rest : List Json}
      (ht : tag ∈ (["CExpr", "RawCExpr"] : List Text)) (hc : Json.Constant value field) :
      Overlooked .expr tag (info :: field :: extra :: rest)
  | name {tag name : Text} {info field extra : Json} {rest : List Json}
      (ht : tag ∈ (["Value", "RawValue"] : List Text)) (hn : Names name field) :
      Overlooked .expr tag (info :: field :: extra :: rest)

section

variable {items : List Json} {n : Nat}

/-- What is built from the first two fields by their places, with any others behind them. -/
theorem Expr.placed_eq_ok {α : Type} {read : Json → Except ShapeError α} {node : Meta → α → Expr}
    {expr : Expr} :
    ((Json.arr items).item 0 >>= fun info => (Json.arr items).item 1 >>= fun field =>
        read field >>= fun a => pure (node (Meta.decode info) a)) = .ok expr ↔
      ∃ info field rest a, items = info :: field :: rest ∧ read field = .ok a ∧
        expr = node (Meta.decode info) a := by
  constructor
  · intro h
    obtain ⟨info, hi, h⟩ := bind_eq_ok.1 h
    obtain ⟨field, hf, h⟩ := bind_eq_ok.1 h
    obtain ⟨a, ha, h⟩ := bind_eq_ok.1 h
    cases h
    obtain ⟨rest, hitems⟩ := Json.eq_cons_of_item hi hf
    exact ⟨info, field, rest, a, hitems, ha, rfl⟩
  · rintro ⟨info, field, rest, a, rfl, ha, rfl⟩
    exact bind_eq_ok.2 ⟨info, rfl, bind_eq_ok.2 ⟨field, rfl, bind_eq_ok.2 ⟨a, ha, rfl⟩⟩⟩

theorem Expr.build_constant_eq_ok {expr : Expr} :
    Expr.build Expr.decode .constant (.arr items) = .ok expr ↔
      ∃ info field rest value, items = info :: field :: rest ∧ Json.Constant value field ∧
        expr = .constant (Meta.decode info) value := by
  simp only [← Json.constant_eq_ok_iff]
  exact placed_eq_ok

theorem Expr.build_name_eq_ok {expr : Expr} :
    Expr.build Expr.decode .name (.arr items) = .ok expr ↔
      ∃ info field rest text, items = info :: field :: rest ∧ Names text field ∧
        expr = .name (Meta.decode info) text := by
  simp only [← Json.name_eq_ok_iff]
  exact placed_eq_ok

/-- An expression that is built from a list of another length is a constant or a name. -/
theorem Expr.overlooked_of_build {form : Expr.Form} {tag : Text} {expr : Expr}
    (ht : Kind.expr.form? tag = some form) (hf : form.fields? = some n) (hn : items.length ≠ n)
    (hb : Expr.build Expr.decode form (.arr items) = .ok expr) : Overlooked .expr tag items := by
  cases form with
  | constant =>
    obtain ⟨info, field, rest, value, rfl, hc, -⟩ := build_constant_eq_ok.1 hb
    cases hf
    cases rest with
    | nil => exact absurd rfl hn
    | cons extra rest => exact .constant (Form.form?_eq_some_iff.1 ht) hc
  | name =>
    obtain ⟨info, field, rest, text, rfl, hname, -⟩ := build_name_eq_ok.1 hb
    cases hf
    cases rest with
    | nil => exact absurd rfl hn
    | cons extra rest => exact .name (Form.form?_eq_some_iff.1 ht) hname
  | apply =>
    obtain ⟨fields, hu, -⟩ := bind_eq_ok.1 hb
    cases hf
    exact absurd (Json.length_of_unpack3 hu) hn
  | paren => cases hf
  | methods =>
    obtain ⟨fields, hu, -⟩ := bind_eq_ok.1 hb
    cases hf
    exact absurd (Json.length_of_unpack2 hu) hn
  | ifThenElse =>
    obtain ⟨fields, hu, -⟩ := bind_eq_ok.1 hb
    cases hf
    exact absurd (Json.length_of_unpack4 hu) hn
  | branch kind =>
    obtain ⟨fields, hu, -⟩ := bind_eq_ok.1 hb
    cases hf
    exact absurd (Json.length_of_unpack3 hu) hn

theorem Arg.length_of_build {form : Arg.Form} {arg : Arg} (hf : form.fields? = some n)
    (hb : Arg.build Expr.decode form (.arr items) = .ok arg) : items.length = n := by
  cases form with
  | named =>
    obtain ⟨fields, hu, -⟩ := bind_eq_ok.1 hb
    cases hf
    exact Json.length_of_unpack2 hu
  | positional => cases hf

theorem Decl.length_of_decode {d : Decl} (h : Decl.decode (.arr items) = .ok d) :
    items.length = 3 := by
  obtain ⟨fields, hu, -⟩ := bind_eq_ok.1 h
  exact Json.length_of_unpack3 hu

theorem Statement.length_of_build {form : Statement.Form} {statement : Statement}
    (hf : form.fields? = some n) (hb : Statement.build form (.arr items) = .ok statement) :
    items.length = n := by
  cases form with
  | decl =>
    obtain ⟨d, hd, -⟩ := bind_eq_ok.1 hb
    cases hf
    exact Decl.length_of_decode hd
  | multiTypeDef =>
    obtain ⟨fields, hu, -⟩ := bind_eq_ok.1 hb
    cases hf
    exact Json.length_of_unpack3 hu
  | classInstance =>
    obtain ⟨fields, hu, -⟩ := bind_eq_ok.1 hb
    cases hf
    exact Json.length_of_unpack2 hu
  | classDecl =>
    obtain ⟨fields, hu, -⟩ := bind_eq_ok.1 hb
    cases hf
    exact Json.length_of_unpack2 hu
  | typeDef | globalAnnot | comment => cases hf

theorem SubStatement.length_of_build {form : SubStatement.Form} {sub : SubStatement}
    (hf : form.fields? = some n)
    (hb : SubStatement.build SubStatement.decode form (.arr items) = .ok sub) :
    items.length = n := by
  cases form with
  | decl =>
    obtain ⟨d, hd, -⟩ := bind_eq_ok.1 hb
    cases hf
    exact Decl.length_of_decode hd
  | annot => cases hf

namespace Kind

theorem overlooked_of_build {kind : Kind} {form : kind.Form} {tag : Text} {node : kind.Node}
    (ht : kind.form? tag = some form) (hf : kind.fields? form = some n) (hn : items.length ≠ n)
    (hb : kind.build form (.arr items) = .ok node) : Overlooked kind tag items := by
  cases kind with
  | type | guard => cases hf
  | expr => exact Expr.overlooked_of_build ht hf hn hb
  | arg => exact absurd (Arg.length_of_build hf hb) hn
  | statement => exact absurd (Statement.length_of_build hf hb) hn
  | subStatement => exact absurd (SubStatement.length_of_build hf hb) hn

theorem builds_iff_of_tagged {kind : Kind} {form : kind.Form} {tag : Text} {contents raw : Json}
    {node : kind.Node} (hr : Tagged [tag] contents raw) (ht : kind.form? tag = some form) :
    kind.Builds raw node ↔ kind.build form contents = .ok node := by
  constructor
  · rintro ⟨found, form', ht', hform, hb⟩
    obtain rfl : tag = found := Option.some.inj (hr.tag?_eq.symm.trans ht')
    obtain rfl : form = form' := Option.some.inj (ht.symm.trans hform)
    rwa [hr.contents_eq] at hb
  · intro hb
    exact ⟨tag, form, hr.tag?_eq, ht, hr.contents_eq.symm ▸ hb⟩

end Kind
end

namespace Kind

/-- What is reported of an unknown node. -/
def unknownNotice : Kind → Tag → Notice
  | type => .unknownType
  | guard => .unknownGuard
  | expr => .unknownExpr
  | arg => .unknownArg
  | statement => .unknownStatement
  | subStatement => .unknownSubStatement

/-- A node shown alone; an argument as the only one of its list. -/
def fragment (display : Display) : (kind : Kind) → kind.Node → Logged Fragment
  | type => Ty.fragment
  | guard => Guard.fragment display
  | expr => Expr.fragment display
  | arg => fun arg => return Fragment.join ", " (← Arg.fragments display [arg])
  | statement => Statement.fragment display
  | subStatement => fun sub => SubStatement.fragments display [sub]

theorem fragment_unknown (display : Display) (kind : Kind) (tag : Tag) (raw : Json) :
    kind.fragment display (kind.unknown tag raw) = ⟨[], [kind.unknownNotice tag]⟩ := by
  cases kind <;> rfl

theorem level_unknownNotice (kind : Kind) (tag : Tag) :
    (kind.unknownNotice tag).level = .error := by
  cases kind <;> rfl

/-- Where fields go unnoticed, the others are read as they are read alone, and nothing is reported. -/
theorem exists_build_of_overlooked {kind : Kind} {form : kind.Form} {tag : Text} {n : Nat}
    {items : List Json} (ho : Overlooked kind tag items) (ht : kind.form? tag = some form)
    (hf : kind.fields? form = some n) :
    ∃ node, kind.build form (.arr items) = .ok node ∧
      kind.build form (.arr (items.take n)) = .ok node ∧
      ∀ display, (kind.fragment display node).log = [] := by
  cases ho with
  | @constant _ value info field extra rest hspelling hc =>
    have hform : Kind.expr.form? tag = some .constant := Expr.Form.form?_eq_some_iff.2 hspelling
    obtain rfl : Expr.Form.constant = form := Option.some.inj (hform.symm.trans ht)
    obtain rfl : 2 = n := Option.some.inj hf
    refine ⟨.constant (Meta.decode info) value, ?_, ?_, fun _ => rfl⟩
    · exact Expr.build_constant_eq_ok.2 ⟨info, field, _, value, rfl, hc, rfl⟩
    · exact Expr.build_constant_eq_ok.2 ⟨info, field, [], value, rfl, hc, rfl⟩
  | @name _ text info field extra rest hspelling hn =>
    have hform : Kind.expr.form? tag = some .name := Expr.Form.form?_eq_some_iff.2 hspelling
    obtain rfl : Expr.Form.name = form := Option.some.inj (hform.symm.trans ht)
    obtain rfl : 2 = n := Option.some.inj hf
    refine ⟨.name (Meta.decode info) text, ?_, ?_, fun _ => rfl⟩
    · exact Expr.build_name_eq_ok.2 ⟨info, field, _, text, rfl, hn, rfl⟩
    · exact Expr.build_name_eq_ok.2 ⟨info, field, [], text, rfl, hn, rfl⟩

end Kind

/-- A node with another number of fields than its tag asks for is read as the unknown node of its
grammar, which shows nothing and is reported by one error. A constant or a name with further fields is
read instead as if these were not there, and nothing is reported. -/
theorem Kind.wrong_field_count_reported {kind : Kind} {tag : Text} {n : Nat} {items : List Json}
    {raw : Json} (hc : (tag, n) ∈ kind.fieldCounts) (hr : Tagged [tag] (.arr items) raw)
    (hn : items.length ≠ n) :
    (¬Overlooked kind tag items →
      kind.decode raw = kind.unknown (some tag) raw ∧
      (kind.unknownNotice (some tag)).level = .error ∧
      ∀ display, kind.fragment display (kind.decode raw) =
        ⟨[], [kind.unknownNotice (some tag)]⟩) ∧
    (Overlooked kind tag items → ∀ short, Tagged [tag] (.arr (items.take n)) short →
      ∃ node, kind.Builds raw node ∧ kind.decode raw = node ∧ kind.decode short = node ∧
        ∀ display, (kind.fragment display node).log = []) := by
  obtain ⟨form, hform, hfields⟩ := mem_fieldCounts_iff.1 hc
  refine ⟨fun ho => ?_, fun ho short hs => ?_⟩
  · have hnone : ∀ node, ¬kind.Builds raw node := fun node hb =>
      ho (overlooked_of_build hform hfields hn ((builds_iff_of_tagged hr hform).1 hb))
    have hd : kind.decode raw = kind.unknown (some tag) raw := by
      rw [decode_of_not_builds hnone, unknownOf, hr.tag?_eq]
    refine ⟨hd, kind.level_unknownNotice _, fun display => ?_⟩
    rw [hd, fragment_unknown]
  · obtain ⟨node, hb, hbs, hlog⟩ := exists_build_of_overlooked ho hform hfields
    have hraw := (builds_iff_of_tagged hr hform).2 hb
    have hshort := (builds_iff_of_tagged hs hform).2 hbs
    exact ⟨node, hraw, decode_of_builds hraw, decode_of_builds hshort, hlog⟩

/-- A named argument and a constant, both with one field too many. -/
theorem Kind.wrong_field_count_reported_third :
    let named : List Json := [.str "x", .null, .null]
    let argument : Json :=
      .obj [("line", .int 1), ("tag", .str "RawNamed"), ("contents", .arr named)]
    let fields : List Json := [.null, .obj [("contents", .int 1)], .str "more"]
    let number : Json := .obj [("tag", .str "CExpr"), ("contents", .arr fields)]
    let short : Json := .obj [("tag", .str "CExpr"), ("contents", .arr (fields.take 2))]
    ((Text.ofString "RawNamed", 2) ∈ arg.fieldCounts ∧ Tagged ["RawNamed"] (.arr named) argument ∧
      named.length ≠ 2 ∧ ¬Overlooked arg "RawNamed" named ∧
      Arg.decode argument = .unknown (some "RawNamed") argument ∧
      ∀ display, arg.fragment display (Arg.decode argument) =
        ⟨[], [.unknownArg (some "RawNamed")]⟩) ∧
    ((Text.ofString "CExpr", 2) ∈ expr.fieldCounts ∧ Tagged ["CExpr"] (.arr fields) number ∧
      fields.length ≠ 2 ∧ Overlooked expr "CExpr" fields ∧
      ∃ node, expr.Builds number node ∧ Expr.decode number = node ∧ Expr.decode short = node ∧
        ∀ display, (Expr.fragment display node).log = []) := by
  intro named argument fields number short
  have hcount : (Text.ofString "RawNamed", 2) ∈ arg.fieldCounts := by decide
  have hargument : Tagged ["RawNamed"] (.arr named) argument := .mk (by decide) rfl rfl
  have hnamed : ¬Overlooked arg "RawNamed" named := nofun
  obtain ⟨hd, -, hshown⟩ :=
    (wrong_field_count_reported hcount hargument (by decide)).1 hnamed
  have hcount' : (Text.ofString "CExpr", 2) ∈ expr.fieldCounts := by decide
  have hnumber : Tagged ["CExpr"] (.arr fields) number := .mk (by decide) rfl rfl
  have hshort : Tagged ["CExpr"] (.arr (fields.take 2)) short := .mk (by decide) rfl rfl
  have hfields : Overlooked expr "CExpr" fields := .constant (by decide) (.wrapped rfl)
  exact ⟨⟨hcount, hargument, by decide, hnamed, hd, hshown⟩, hcount', hnumber, by decide, hfields,
    (wrong_field_count_reported hcount' hnumber (by decide)).2 hfields short hshort⟩

/-- A name with a third field is read as a name, not as an unknown expression. -/
theorem Kind.third_field_overlooked :
    ¬∀ (kind : Kind) (tag : Text) (n : Nat) (items : List Json) (raw : Json),
      (tag, n) ∈ kind.fieldCounts → Tagged [tag] (.arr items) raw → items.length ≠ n →
        kind.decode raw = kind.unknown (some tag) raw := by
  intro h
  let items : List Json := [.arr [.obj [("tag", .str "TopType")], .null], .str "x", .str "y"]
  let raw : Json := .obj [("tag", .str "RawValue"), ("contents", .arr items)]
  have hunknown : Expr.decode raw = .unknown (some "RawValue") raw :=
    h .expr "RawValue" 2 items raw (by decide) (.mk (by decide) rfl rfl) (by decide)
  have hname : Expr.decode raw = .name ⟨.top, .null⟩ "x" := by rfl
  rw [hname] at hunknown
  cases hunknown

end WebDocs
