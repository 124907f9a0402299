import WebDocs.Proofs.Dump.Layer
import WebDocs.Proofs.Dump.Writing

namespace WebDocs

namespace Json

theorem nameAmong_eq {members : Members Json} {value : Json}
    (h : Members.get? "contents" members = some value) : nameAmong members = value.name := by
  induction members with
  | nil => cases h
  | cons m rest ih =>
    obtain ⟨key, v⟩ := m
    unfold Members.get? at h
    unfold nameAmong
    split at h
    next hk =>
      cases h
      rw [if_pos hk]
    next hk => rw [if_neg hk, ih h]

theorem Names.name_eq {name : Text} {raw : Json} (h : Names name raw) : raw.name = .ok name := by
  induction h with
  | plain => rfl
  | wrapped hc _ ih =>
    show nameAmong _ = _
    rw [nameAmong_eq hc, ih]

theorem Constant.constant_eq {value raw : Json} (h : Constant value raw) :
    raw.constant = .ok value := by
  cases h with
  | bare h =>
    cases value with
    | obj members => exact absurd rfl (h members)
    | _ => rfl
  | wrapped hc =>
    show Option.elim _ _ _ = _
    rw [hc]
    rfl

theorem Tagged.exists_obj {tags : List Text} {contents raw : Json}
    (h : Tagged tags contents raw) : ∃ members, raw = .obj members := by
  cases h
  exact ⟨_, rfl⟩

theorem Tagged.tag?_eq {tag : Text} {contents raw : Json} (h : Tagged [tag] contents raw) :
    raw.tag? = some tag := by
  obtain @⟨members, found, hm, ht, hc⟩ := h
  obtain rfl := List.mem_singleton.1 hm
  simp only [tag?, member?, ht]

theorem Tagged.contents_eq {tags : List Text} {contents raw : Json}
    (h : Tagged tags contents raw) : raw.contents = contents := by
  obtain ⟨hm, ht, hc⟩ := h
  simp only [Json.contents, member?, hc, Option.getD_some]

theorem HasTag.exists_obj {tag : Text} {raw : Json} (h : HasTag tag raw) :
    ∃ members, raw = .obj members := by
  cases h
  exact ⟨_, rfl⟩

theorem MapOf.mapping_eq {entries : Members Json} {raw : Json} (h : MapOf entries raw) :
    raw.mapping = .ok entries := by
  cases h with
  | object => rfl
  | null => rfl
  | @pairs _ raws hd h =>
    have hentries : raws.mapM entry = .ok entries := by
      refine mapM_eq_ok.2 (h.flip.imp ?_)
      rintro raw ⟨name, value⟩ ⟨key, rfl, hn⟩
      exact bind_eq_ok.2 ⟨_, rfl, bind_eq_ok.2 ⟨name, hn.name_eq, rfl⟩⟩
    refine bind_eq_ok.2 ⟨raws, rfl, bind_eq_ok.2 ⟨entries, hentries, ?_⟩⟩
    rw [Members.ofPairs_of_nodup hd]
    rfl

end Json

open Json (Tagged HasTag Names MapOf)

namespace Kind

variable (kind : Kind) (form : kind.Form) {node : kind.Node} {raw : Json}

theorem decode_of_tagged {tags : List Text} {contents : Json} (h : Tagged tags contents raw)
    (hf : tags.map kind.form? = tags.map fun _ => some form)
    (hb : kind.build form contents = .ok node) : kind.decode raw = node := by
  have hcontents := h.contents_eq
  obtain @⟨members, tag, hm, ht, hc⟩ := h
  have hform := List.map_inj_left.1 hf tag hm
  refine decode_of_builds ⟨tag, form, ?_, hform, hcontents ▸ hb⟩
  simp only [Json.tag?, Json.member?, ht]

theorem decode_of_hasTag {tag : Text} (h : HasTag tag raw) (hf : kind.form? tag = some form)
    (hb : ∀ contents, kind.build form contents = .ok node) : kind.decode raw = node := by
  obtain ⟨ht⟩ := h
  refine decode_of_builds ⟨tag, form, ?_, hf, hb _⟩
  simp only [Json.tag?, Json.member?, ht]

end Kind

mutual

theorem Ty.decode_of_writtenAs : (type : Ty) → {raw : Json} → type.WrittenAs raw →
    Ty.decode raw = type
  | .top, _, .top h => Kind.type.decode_of_hasTag .top h rfl fun _ => rfl
  | .typeVar name, _, .typeVar h hn =>
    Kind.type.decode_of_tagged .typeVar h rfl
      (bind_eq_ok.2 ⟨name, hn.name_eq, rfl⟩)
  | .sum parts, _, .sum h hp => by
    have hparts := Ty.mapM_decodePartial parts hp
    refine Kind.type.decode_of_tagged .sum h rfl ?_
    exact bind_eq_ok.2 ⟨_, rfl, bind_eq_ok.2 ⟨parts, hparts, rfl⟩⟩

theorem Ty.mapM_decodePartial : (parts : List PartialType) → {items : List Json} →
    Ty.PartsWrittenAs parts items → items.mapM (Ty.decodePartial Ty.decode) = .ok parts
  | [], _, .nil => rfl
  | .mk name options :: parts, _, .cons hn ho hr => by
    have hoptions := Ty.mapM_decodeOption options ho
    have hrest := Ty.mapM_decodePartial parts hr
    rw [List.mapM_cons]
    refine bind_eq_ok.2 ⟨.mk name options, ?_, bind_eq_ok.2 ⟨parts, hrest, rfl⟩⟩
    refine bind_eq_ok.2 ⟨_, rfl, bind_eq_ok.2 ⟨_, rfl, bind_eq_ok.2 ⟨options, hoptions, ?_⟩⟩⟩
    exact bind_eq_ok.2 ⟨name, hn.name_eq, rfl⟩

theorem Ty.mapM_decodeOption : (options : List TypeOption) → {raws : List Json} →
    Ty.OptionsWrittenAs options raws → raws.mapM (Ty.decodeOption Ty.decode) = .ok options
  | [], _, .nil => rfl
  | .mk vars args :: options, _, .cons hv hvs ha has hr => by
    have hvars := Ty.mapValues_decode vars hvs
    have hargs := Ty.mapValues_decode args has
    have hrest := Ty.mapM_decodeOption options hr
    rw [List.mapM_cons]
    refine bind_eq_ok.2 ⟨.mk vars args, ?_, bind_eq_ok.2 ⟨options, hrest, rfl⟩⟩
    refine bind_eq_ok.2 ⟨_, rfl, bind_eq_ok.2 ⟨_, hv.mapping_eq, bind_eq_ok.2 ⟨_, ha.mapping_eq, ?_⟩⟩⟩
    rw [hvars, hargs]
    rfl

theorem Ty.mapValues_decode : (types : List (Text × Ty)) → {entries : Members Json} →
    Ty.EntriesWrittenAs types entries → entries.mapValues Ty.decode = types
  | [], _, .nil => rfl
  | (name, type) :: types, _, .cons ht hr => by
    have htype := type.decode_of_writtenAs ht
    have hrest := Ty.mapValues_decode types hr
    rw [Members.mapValues, List.map_cons]
    exact congrArg₂ List.cons (congrArg (Prod.mk name) htype) hrest

end

theorem Ty.MapWrittenAs.typeVars_eq {types : Members Ty} {raw : Json}
    (h : Ty.MapWrittenAs types raw) : Statement.typeVars raw = .ok types := by
  obtain ⟨entries, hm, he⟩ := h
  refine bind_eq_ok.2 ⟨entries, hm.mapping_eq, ?_⟩
  rw [Ty.mapValues_decode types he]
  rfl

theorem Ty.WrittenAs.exists_obj {type : Ty} {raw : Json} :
    type.WrittenAs raw → ∃ members, raw = .obj members
  | .top h => h.exists_obj
  | .typeVar h _ => h.exists_obj
  | .sum h _ => h.exists_obj

theorem Meta.decode_of_writtenAs {info : Meta} {raw : Json} (h : info.WrittenAs raw) :
    Meta.decode raw = info := by
  cases h with
  | @bare type _ h =>
    have hd := type.decode_of_writtenAs h
    obtain ⟨members, rfl⟩ := h.exists_obj
    exact congrArg (Meta.mk · .null) hd
  | @alone type _ h => exact congrArg (Meta.mk · .null) (type.decode_of_writtenAs h)
  | @placed type _ position h => exact congrArg (Meta.mk · position) (type.decode_of_writtenAs h)

namespace Obj

theorem mapValues_decode {vars : Members Meta} {entries : Members Json}
    (h : List.Forall₂ (fun var entry => entry.1 = var.1 ∧ var.2.WrittenAs entry.2) vars entries) :
    entries.mapValues Meta.decode = vars := by
  induction h with
  | nil => rfl
  | @cons var entry vars entries he _ ih =>
    obtain ⟨hname, hinfo⟩ := he
    have hvar : (entry.1, Meta.decode entry.2) = var := by
      rw [hname, Meta.decode_of_writtenAs hinfo]
    exact congrArg₂ List.cons hvar ih

theorem mapM_decodeArg {args : Members Meta} {entries : Members Json}
    (h : List.Forall₂ (fun arg entry => ∃ head rest,
      entry = (arg.1, .arr (head :: rest)) ∧ arg.2.WrittenAs head) args entries) :
    entries.mapM decodeArg = .ok args := by
  refine mapM_eq_ok.2 (h.flip.imp ?_)
  rintro entry ⟨name, info⟩ ⟨head, rest, rfl, hinfo⟩
  refine bind_eq_ok.2 ⟨head, rfl, ?_⟩
  rw [Meta.decode_of_writtenAs hinfo]
  rfl

theorem decode_of_writtenAs {obj : Obj} {raw : Json} (h : obj.WrittenAs raw) :
    Obj.decode raw = .ok obj := by
  obtain ⟨hi, hn, ⟨varEntries, hv, hvs⟩, ⟨argEntries, ha, has⟩⟩ := h
  refine bind_eq_ok.2 ⟨_, rfl, bind_eq_ok.2 ⟨_, hn.name_eq, ?_⟩⟩
  refine bind_eq_ok.2 ⟨_, hv.mapping_eq, bind_eq_ok.2 ⟨_, ha.mapping_eq, ?_⟩⟩
  refine bind_eq_ok.2 ⟨_, mapM_decodeArg has, ?_⟩
  rw [mapValues_decode hvs, Meta.decode_of_writtenAs hi]
  rfl

end Obj

mutual

theorem Expr.decode_of_writtenAs : (expr : Expr) → {raw : Json} → expr.WrittenAs raw →
    Expr.decode raw = expr
  | .constant info value, _, .constant h hi hc => by
    refine Kind.expr.decode_of_tagged .constant h rfl ?_
    refine bind_eq_ok.2 ⟨_, rfl, bind_eq_ok.2 ⟨_, rfl, bind_eq_ok.2 ⟨value, hc.constant_eq, ?_⟩⟩⟩
    rw [Meta.decode_of_writtenAs hi]
    rfl
  | .name info name, _, .name h hi hn => by
    refine Kind.expr.decode_of_tagged .name h rfl ?_
    refine bind_eq_ok.2 ⟨_, rfl, bind_eq_ok.2 ⟨_, rfl, bind_eq_ok.2 ⟨name, hn.name_eq, ?_⟩⟩⟩
    rw [Meta.decode_of_writtenAs hi]
    rfl
  | .apply info base args, _, .apply h hi hb ha => by
    have hbase := base.decode_of_writtenAs hb
    have hargs := Arg.map_decodeBy args ha
    refine Kind.expr.decode_of_tagged .apply h rfl ?_
    refine bind_eq_ok.2 ⟨_, rfl, bind_eq_ok.2 ⟨_, rfl, bind_eq_ok.2 ⟨_, rfl, ?_⟩⟩⟩
    rw [Meta.decode_of_writtenAs hi, hbase, hargs]
    rfl
  | .paren inner, _, .paren h hi => by
    have hinner := inner.decode_of_writtenAs hi
    refine Kind.expr.decode_of_tagged .paren h rfl ?_
    exact congrArg (Except.ok ∘ Expr.paren) hinner
  | .methods base calls, _, .methods h hb hc => by
    have hbase := base.decode_of_writtenAs hb
    have hcalls := Expr.map_decode calls hc
    refine Kind.expr.decode_of_tagged .methods h rfl ?_
    refine bind_eq_ok.2 ⟨_, rfl, bind_eq_ok.2 ⟨_, rfl, ?_⟩⟩
    rw [hbase, hcalls]
    rfl
  | .ifThenElse info condition yes no, _, .ifThenElse h hi hc hy hn => by
    have hcondition := condition.decode_of_writtenAs hc
    have hyes := yes.decode_of_writtenAs hy
    have hno := no.decode_of_writtenAs hn
    refine Kind.expr.decode_of_tagged .ifThenElse h rfl ?_
    refine bind_eq_ok.2 ⟨_, rfl, ?_⟩
    simp only [Meta.decode_of_writtenAs hi, hcondition, hyes, hno]
    rfl
  | .branch kind info subject arms, _, .branch h hi hs ha => by
    have hsubject := subject.decode_of_writtenAs hs
    have harms := Arm.mapM_decodeBy arms ha
    have hforms : kind.tags.map Kind.expr.form? = kind.tags.map fun _ => some (.branch kind) := by
      cases kind <;> rfl
    refine Kind.expr.decode_of_tagged (.branch kind) h hforms ?_
    refine bind_eq_ok.2 ⟨_, rfl, bind_eq_ok.2 ⟨_, rfl, bind_eq_ok.2 ⟨arms, harms, ?_⟩⟩⟩
    rw [Meta.decode_of_writtenAs hi, hsubject]
    rfl

theorem Expr.map_decode : (exprs : List Expr) → {raws : List Json} →
    Expr.AllWrittenAs exprs raws → raws.map Expr.decode = exprs
  | [], _, .nil => rfl
  | expr :: exprs, _, .cons h hr =>
    congrArg₂ List.cons (expr.decode_of_writtenAs h) (Expr.map_decode exprs hr)

theorem Arg.decode_of_writtenAs : (arg : Arg) → {raw : Json} → arg.WrittenAs raw →
    Arg.decode raw = arg
  | .named name value, _, .named h hn hv => by
    have hvalue := value.decode_of_writtenAs hv
    refine Kind.arg.decode_of_tagged .named h rfl ?_
    refine bind_eq_ok.2 ⟨_, rfl, bind_eq_ok.2 ⟨name, hn.name_eq, ?_⟩⟩
    rw [hvalue]
    rfl
  | .positional value, _, .positional h hv => by
    have hvalue := value.decode_of_writtenAs hv
    refine Kind.arg.decode_of_tagged .positional h rfl ?_
    exact congrArg (Except.ok ∘ Arg.positional) hvalue

theorem Arg.map_decodeBy : (args : List Arg) → {raws : List Json} →
    Arg.AllWrittenAs args raws → raws.map (Arg.decodeBy Expr.decode) = args
  | [], _, .nil => rfl
  | arg :: args, _, .cons h hr =>
    congrArg₂ List.cons (arg.decode_of_writtenAs h) (Arg.map_decodeBy args hr)

theorem Guard.decode_of_writtenAs : (guard : Guard) → {raw : Json} → guard.WrittenAs raw →
    Guard.decode raw = guard
  | .ifGuard condition, _, .ifGuard h hc => by
    have hcondition := condition.decode_of_writtenAs hc
    refine Kind.guard.decode_of_tagged .ifGuard h rfl ?_
    exact congrArg (Except.ok ∘ Guard.ifGuard) hcondition
  | .elseGuard, _, .elseGuard h => Kind.guard.decode_of_hasTag .elseGuard h rfl fun _ => rfl
  | .noGuard, _, .noGuard h => Kind.guard.decode_of_hasTag .noGuard h rfl fun _ => rfl

theorem Arm.mapM_decodeBy : (arms : List Arm) → {raws : List Json} →
    Arm.AllWrittenAs arms raws → raws.mapM (Arm.decodeBy Expr.decode) = .ok arms
  | [], _, .nil => rfl
  | .mk pattern guard :: arms, _, .cons hp hg hr => by
    have hguard := guard.decode_of_writtenAs hg
    have hrest := Arm.mapM_decodeBy arms hr
    rw [List.mapM_cons]
    refine bind_eq_ok.2 ⟨.mk pattern guard, ?_, bind_eq_ok.2 ⟨arms, hrest, rfl⟩⟩
    refine bind_eq_ok.2 ⟨_, rfl, bind_eq_ok.2 ⟨pattern, Obj.decode_of_writtenAs hp, ?_⟩⟩
    exact congrArg (Except.ok ∘ Arm.mk pattern) hguard

end

theorem Json.elementsOrNone_arr (items : List Json) : (Json.arr items).elementsOrNone = .ok items := by
  unfold elementsOrNone
  cases items with
  | nil => rfl
  | cons first rest => rfl

theorem Expr.WrittenAs.exists_obj {expr : Expr} {raw : Json} :
    expr.WrittenAs raw → ∃ members, raw = .obj members
  | .constant h _ _ => h.exists_obj
  | .name h _ _ => h.exists_obj
  | .apply h _ _ _ => h.exists_obj
  | .paren h _ => h.exists_obj
  | .methods h _ _ => h.exists_obj
  | .ifThenElse h _ _ _ _ => h.exists_obj
  | .branch h _ _ _ => h.exists_obj

theorem Decl.BodyWrittenAs.bodyOf_eq {body : Option Expr} {raw : Json}
    (h : Decl.BodyWrittenAs body raw) : bodyOf raw = .ok body := by
  cases h with
  | none => rfl
  | @some body _ h =>
    have hbody := body.decode_of_writtenAs h
    obtain ⟨members, rfl⟩ := h.exists_obj
    exact congrArg (Except.ok ∘ Option.some) hbody

mutual

theorem Decl.decode_of_writtenAs : (d : Decl) → {raw : Json} → d.WrittenAs raw →
    Decl.decode raw = .ok d
  | .mk obj guard subs body, _, .mk ho hg hs hb => by
    have hsubs := SubStatement.map_decode subs hs
    rw [Follows.decodeDecl_eq, Follows.declHead_pair, Obj.decode_of_writtenAs ho,
      guard.decode_of_writtenAs hg, Follows.declRest, eachOfOrNone_total,
      Json.elementsOrNone_arr, hb.bodyOf_eq]
    exact congrArg (fun subs => Except.ok (Decl.mk obj guard subs body)) hsubs

theorem SubStatement.decode_of_writtenAs : (sub : SubStatement) → {raw : Json} →
    sub.WrittenAs raw → SubStatement.decode raw = sub
  | .decl d, _, .decl h hd => by
    have hdecl := d.decode_of_writtenAs hd
    refine Kind.subStatement.decode_of_tagged .decl h rfl ?_
    exact bind_eq_ok.2 ⟨d, hdecl, rfl⟩
  | .annot expr, _, .annot h he => by
    have hexpr := expr.decode_of_writtenAs he
    refine Kind.subStatement.decode_of_tagged .annot h rfl ?_
    exact congrArg (Except.ok ∘ SubStatement.annot) hexpr

theorem SubStatement.map_decode : (subs : List SubStatement) → {raws : List Json} →
    SubStatement.AllWrittenAs subs raws → raws.map SubStatement.decode = subs
  | [], _, .nil => rfl
  | sub :: subs, _, .cons h hr =>
    congrArg₂ List.cons (sub.decode_of_writtenAs h) (SubStatement.map_decode subs hr)

end

namespace Statement

theorem mapM_item {options : List Ty} {raws : List Json}
    (h : List.Forall₂ Ty.HeadWrittenAs options raws) :
    ∃ heads, raws.mapM (Json.item 0) = .ok heads ∧ heads.map Ty.decode = options := by
  induction h with
  | nil => exact ⟨[], rfl, rfl⟩
  | @cons type _ options raws ht _ ih =>
    obtain @⟨head, rest, ht⟩ := ht
    obtain ⟨heads, hm, hd⟩ := ih
    refine ⟨head :: heads, ?_, congrArg₂ List.cons (type.decode_of_writtenAs ht) hd⟩
    rw [List.mapM_cons, hm]
    rfl

theorem build_typeDef {type : Ty} {contents : Json}
    (h : type.WrittenAs contents ∨ Ty.HeadWrittenAs type contents) :
    build .typeDef contents = .ok (.typeDef type) := by
  rcases h with h | h
  · have hd := type.decode_of_writtenAs h
    obtain ⟨members, rfl⟩ := h.exists_obj
    exact congrArg (Except.ok ∘ Statement.typeDef) hd
  · obtain ⟨rest, h⟩ := h
    exact congrArg (Except.ok ∘ Statement.typeDef) (type.decode_of_writtenAs h)

theorem decode_of_writtenAs {statement : Statement} {raw : Json} (h : statement.WrittenAs raw) :
    Statement.decode raw = statement := by
  cases h with
  | @decl d contents _ h hd =>
    refine Kind.statement.decode_of_tagged .decl h rfl ?_
    exact bind_eq_ok.2 ⟨d, d.decode_of_writtenAs hd, rfl⟩
  | @multiTypeDef name vars options _ _ _ _ h hn hv ho =>
    obtain ⟨heads, hm, hd⟩ := mapM_item ho
    refine Kind.statement.decode_of_tagged .multiTypeDef h rfl ?_
    refine bind_eq_ok.2 ⟨_, rfl, bind_eq_ok.2 ⟨_, rfl, bind_eq_ok.2 ⟨heads, hm, ?_⟩⟩⟩
    refine bind_eq_ok.2 ⟨name, hn.name_eq, bind_eq_ok.2 ⟨vars, hv.typeVars_eq, ?_⟩⟩
    rw [hd]
    rfl
  | typeDef h ht => exact Kind.statement.decode_of_tagged .typeDef h rfl (build_typeDef ht)
  | @classInstance typeName className vars _ _ _ _ h ht hv hc =>
    refine Kind.statement.decode_of_tagged .classInstance h rfl ?_
    refine bind_eq_ok.2 ⟨_, rfl, bind_eq_ok.2 ⟨_, rfl, bind_eq_ok.2 ⟨typeName, ht.name_eq, ?_⟩⟩⟩
    refine bind_eq_ok.2 ⟨vars, hv.typeVars_eq, bind_eq_ok.2 ⟨className, hc.name_eq, rfl⟩⟩
  | @classDecl name vars _ _ _ h hn hv =>
    refine Kind.statement.decode_of_tagged .classDecl h rfl ?_
    refine bind_eq_ok.2 ⟨_, rfl, bind_eq_ok.2 ⟨name, hn.name_eq, ?_⟩⟩
    exact bind_eq_ok.2 ⟨vars, hv.typeVars_eq, rfl⟩
  | @globalAnnot expr _ _ h he =>
    refine Kind.statement.decode_of_tagged .globalAnnot h rfl ?_
    exact congrArg (Except.ok ∘ Statement.globalAnnot) (expr.decode_of_writtenAs he)
  | comment h => exact Kind.statement.decode_of_tagged .comment h rfl rfl

end Statement

namespace Kind

theorem decode_of_writtenAs {kind : Kind} {node : kind.Node} {raw : Json}
    (h : kind.WrittenAs node raw) : kind.decode raw = node := by
  cases kind with
  | type => exact Ty.decode_of_writtenAs node h
  | guard => exact Guard.decode_of_writtenAs node h
  | expr => exact Expr.decode_of_writtenAs node h
  | arg => exact Arg.decode_of_writtenAs node h
  | statement => exact Statement.decode_of_writtenAs h
  | subStatement => exact SubStatement.decode_of_writtenAs node h

/-- A node without unreadable parts can be written, and whatever spellings the dump chooses for its
parts, the node is what is read. -/
theorem decode_inverts_writing {kind : Kind} {node : kind.Node} (hk : kind.Known node) :
    (∃ raw, kind.WrittenAs node raw) ∧
      ∀ raw, kind.WrittenAs node raw → kind.decode raw = node :=
  ⟨exists_writtenAs hk, fun _ => decode_of_writtenAs⟩

/-- A declaration of `f` over `a` and `b`, with a guard and an annotation below it. -/
def guardedDecl : Statement :=
  .decl <| .mk
    ⟨⟨.sum [.mk "N" [.mk [] [("x", .typeVar "t")]]], .null⟩, "FunctionObj", "f", [],
      [("a", ⟨.top, .int 7⟩), ("b", ⟨.top, .null⟩)]⟩
    (.ifGuard (.name ⟨.top, .null⟩ "a")) [.annot (.constant ⟨.top, .null⟩ (.int 1))] none

/-- The declaration with long and short tags, names that are plain and wrapped twice, and maps of
both kinds. -/
def guardedDeclRaw : Json :=
  let top : Json := .obj [("tag", .str "TopType")]
  let node (tag : Text) (contents : Json) : Json := .obj [("tag", .str tag), ("contents", contents)]
  node "Decl" <| .arr
    [.arr [.null, .arr
      [.arr
        [.arr [node "SumType" (.arr [.arr [node "PTypeName" (node "Name" (.str "N")),
            .arr [.arr [.null, .null, .arr [.arr [.str "x", node "TypeVar" (.str "t")]]]]]]), .null],
          .str "FunctionObj", .str "f", .obj [],
          .arr [.arr [.str "a", .arr [.arr [top, .int 7], .null]], .arr [node "Name" (.str "b"),
            .arr [top]]]],
        node "IfGuard" (node "RawValue" (.arr [.arr [top], .str "a"]))]],
      .arr [node "Annot" (node "CExpr" (.arr [top, node "CInt" (.int 1)]))],
      .null]

theorem decode_inverts_writing_guardedDecl :
    statement.Known guardedDecl ∧ statement.WrittenAs guardedDecl guardedDeclRaw ∧
      Statement.decode guardedDeclRaw = guardedDecl := by
  have hknown : statement.Known guardedDecl := by
    refine ⟨⟨?_, ?_, ?_⟩, ?_, ⟨?_, trivial⟩, ?_⟩
    all_goals simp [Meta.Known, Expr.Known, Guard.Known, SubStatement.Known, Ty.Known,
      PartialType.AllKnown, TypeOption.AllKnown, Ty.EntriesKnown]
  have hwritten : statement.WrittenAs guardedDecl guardedDeclRaw := by
    refine .decl (.mk (by decide) rfl rfl) (.mk (.mk ?info .plain ⟨[], .object [], .nil⟩ ?args)
      ?guard (.cons ?annot .nil) .none)
    case info =>
      refine .placed .null (.sum (.mk List.mem_cons_self rfl rfl) (.cons ?name (.cons .null .nil
        (.pairs (by decide) (.cons ⟨_, rfl, .plain⟩ .nil)) (.cons ?type .nil) .nil) .nil))
      case name => exact .wrapped rfl (.wrapped rfl .plain)
      case type => exact .typeVar (.mk List.mem_cons_self rfl rfl) .plain
    case args =>
      let top : Json := .obj [("tag", .str "TopType")]
      refine ⟨[("a", .arr [.arr [top, .int 7], .null]), ("b", .arr [top])],
        .pairs (by simp [Members.keys]) ?_, ?_⟩
      · exact .cons ⟨_, rfl, .plain⟩ (.cons ⟨_, rfl, .wrapped rfl .plain⟩ .nil)
      · exact .cons ⟨_, _, rfl, .placed _ (.top (.mk rfl))⟩
          (.cons ⟨_, _, rfl, .bare (.top (.mk rfl))⟩ .nil)
    case guard =>
      refine .ifGuard (.mk List.mem_cons_self rfl rfl) (.name (.mk (by decide) rfl rfl) ?_ .plain)
      exact .alone (.top (.mk rfl))
    case annot =>
      refine .annot (.mk (by decide) rfl rfl) (.constant (.mk List.mem_cons_self rfl rfl) ?_ ?_)
      · exact .bare (.top (.mk rfl))
      · exact .wrapped rfl
  exact ⟨hknown, hwritten,
    (@decode_inverts_writing .statement guardedDecl hknown).2 guardedDeclRaw hwritten⟩

end Kind

end WebDocs
