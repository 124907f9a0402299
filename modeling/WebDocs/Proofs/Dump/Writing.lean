import WebDocs.Proofs.Dump.Place

namespace WebDocs

namespace Json

/-- An object with one of the tags and with the contents; other members may stand beside them. -/
inductive Tagged (tags : List Text) (contents : Json) : Json → Prop
  | mk {members : Members Json} {tag : Text} (hm : tag ∈ tags)
      (ht : Members.get? "tag" members = some (.str tag))
      (hc : Members.get? "contents" members = some contents) : Tagged tags contents (.obj members)

/-- An object with a tag. -/
inductive HasTag (tag : Text) : Json → Prop
  | mk {members : Members Json} (ht : Members.get? "tag" members = some (.str tag)) :
      HasTag tag (.obj members)

/-- A name is a text, or the contents of an object, at any depth. -/
inductive Names (name : Text) : Json → Prop
  | plain : Names name (.str name)
  | wrapped {members : Members Json} {inner : Json}
      (hc : Members.get? "contents" members = some inner) (hn : Names name inner) :
      Names name (.obj members)

/-- A constant stands for itself if it is no object; any constant may be the contents of one. -/
inductive Constant (value : Json) : Json → Prop
  | bare (h : ∀ members, value ≠ .obj members) : Constant value value
  | wrapped {members : Members Json} (hc : Members.get? "contents" members = some value) :
      Constant value (.obj members)

/-- A map is an object, or a list of pairs of a name and a value if no name occurs twice; null is the
empty map. -/
inductive MapOf : Members Json → Json → Prop
  | object (entries : Members Json) : MapOf entries (.obj entries)
  | pairs {entries : Members Json} {raws : List Json} (hd : entries.keys.Nodup)
      (h : List.Forall₂ (fun entry raw => ∃ key, raw = .arr [key, entry.2] ∧ Names entry.1 key)
        entries raws) : MapOf entries (.arr raws)
  | null : MapOf [] .null

end Json

open Json (Tagged HasTag Names MapOf)

mutual

inductive Ty.WrittenAs : Ty → Json → Prop
  | top {raw : Json} (h : HasTag "TopType" raw) : Ty.WrittenAs .top raw
  | typeVar {name : Text} {contents raw : Json} (h : Tagged ["TypeVar"] contents raw)
      (hn : Names name contents) : Ty.WrittenAs (.typeVar name) raw
  | sum {parts : List PartialType} {items : List Json} {raw : Json}
      (h : Tagged ["SumType"] (.arr items) raw) (hp : Ty.PartsWrittenAs parts items) :
      Ty.WrittenAs (.sum parts) raw

inductive Ty.PartsWrittenAs : List PartialType → List Json → Prop
  | nil : Ty.PartsWrittenAs [] []
  | cons {name : Text} {options : List TypeOption} {parts : List PartialType} {rawName : Json}
      {raws items : List Json} (hn : Names name rawName) (ho : Ty.OptionsWrittenAs options raws)
      (hr : Ty.PartsWrittenAs parts items) :
      Ty.PartsWrittenAs (.mk name options :: parts) (.arr [rawName, .arr raws] :: items)

/-- The value between the variables and the arguments is not read. -/
inductive Ty.OptionsWrittenAs : List TypeOption → List Json → Prop
  | nil : Ty.OptionsWrittenAs [] []
  | cons {vars args : List (Text × Ty)} {options : List TypeOption} {rawVars rawArgs x : Json}
      {varEntries argEntries : Members Json} {raws : List Json}
      (hv : MapOf varEntries rawVars) (hvs : Ty.EntriesWrittenAs vars varEntries)
      (ha : MapOf argEntries rawArgs) (has : Ty.EntriesWrittenAs args argEntries)
      (hr : Ty.OptionsWrittenAs options raws) :
      Ty.OptionsWrittenAs (.mk vars args :: options) (.arr [rawVars, x, rawArgs] :: raws)

/-- The entries of a map from names to types, each under its name. -/
inductive Ty.EntriesWrittenAs : List (Text × Ty) → Members Json → Prop
  | nil : Ty.EntriesWrittenAs [] []
  | cons {name : Text} {type : Ty} {types : List (Text × Ty)} {raw : Json}
      {entries : Members Json} (ht : Ty.WrittenAs type raw) (hr : Ty.EntriesWrittenAs types entries) :
      Ty.EntriesWrittenAs ((name, type) :: types) ((name, raw) :: entries)

end

/-- A map from names to types. -/
def Ty.MapWrittenAs (types : Members Ty) (raw : Json) : Prop :=
  ∃ entries, MapOf entries raw ∧ Ty.EntriesWrittenAs types entries

/-- A meta without a position may be its type alone, in a list or not. -/
inductive Meta.WrittenAs : Meta → Json → Prop
  | bare {type : Ty} {raw : Json} (h : type.WrittenAs raw) : Meta.WrittenAs ⟨type, .null⟩ raw
  | alone {type : Ty} {raw : Json} (h : type.WrittenAs raw) : Meta.WrittenAs ⟨type, .null⟩ (.arr [raw])
  | placed {type : Ty} {raw : Json} (position : Json) (h : type.WrittenAs raw) :
      Meta.WrittenAs ⟨type, position⟩ (.arr [raw, position])

namespace Obj

/-- A map from names to metas. -/
def VarsWrittenAs (vars : Members Meta) (raw : Json) : Prop :=
  ∃ entries, MapOf entries raw ∧
    List.Forall₂ (fun var entry => entry.1 = var.1 ∧ var.2.WrittenAs entry.2) vars entries

/-- In the map of arguments each meta is the head of a list. -/
def ArgsWrittenAs (args : Members Meta) (raw : Json) : Prop :=
  ∃ entries, MapOf entries raw ∧
    List.Forall₂ (fun arg entry => ∃ head rest,
      entry = (arg.1, .arr (head :: rest)) ∧ arg.2.WrittenAs head) args entries

inductive WrittenAs : Obj → Json → Prop
  | mk {info : Meta} {basis name : Text} {vars args : Members Meta}
      {rawInfo rawName rawVars rawArgs : Json} (hi : info.WrittenAs rawInfo)
      (hn : Names name rawName) (hv : VarsWrittenAs vars rawVars) (ha : ArgsWrittenAs args rawArgs) :
      WrittenAs ⟨info, basis, name, vars, args⟩
        (.arr [rawInfo, .str basis, rawName, rawVars, rawArgs])

end Obj

def Branching.tags : Branching → List Text
  | matching => ["Match", "RawMatch"]
  | cases => ["Case", "RawCase"]

mutual

inductive Expr.WrittenAs : Expr → Json → Prop
  | constant {info : Meta} {value rawInfo rawValue raw : Json}
      (h : Tagged ["CExpr", "RawCExpr"] (.arr [rawInfo, rawValue]) raw)
      (hi : info.WrittenAs rawInfo) (hc : Json.Constant value rawValue) :
      Expr.WrittenAs (.constant info value) raw
  | name {info : Meta} {name : Text} {rawInfo rawName raw : Json}
      (h : Tagged ["Value", "RawValue"] (.arr [rawInfo, rawName]) raw)
      (hi : info.WrittenAs rawInfo) (hn : Names name rawName) : Expr.WrittenAs (.name info name) raw
  | apply {info : Meta} {base : Expr} {args : List Arg} {rawInfo x rawBase raw : Json}
      {rawArgs : List Json}
      (h : Tagged ["TupleApply", "RawTupleApply"]
        (.arr [rawInfo, .arr [x, rawBase], .arr rawArgs]) raw)
      (hi : info.WrittenAs rawInfo) (hb : Expr.WrittenAs base rawBase)
      (ha : Arg.AllWrittenAs args rawArgs) : Expr.WrittenAs (.apply info base args) raw
  | paren {inner : Expr} {contents raw : Json} (h : Tagged ["Paren", "RawParen"] contents raw)
      (hi : Expr.WrittenAs inner contents) : Expr.WrittenAs (.paren inner) raw
  | methods {base : Expr} {calls : List Expr} {rawBase raw : Json} {rawCalls : List Json}
      (h : Tagged ["Methods", "RawMethods"] (.arr [rawBase, .arr rawCalls]) raw)
      (hb : Expr.WrittenAs base rawBase) (hc : Expr.AllWrittenAs calls rawCalls) :
      Expr.WrittenAs (.methods base calls) raw
  | ifThenElse {info : Meta} {condition yes no : Expr}
      {rawInfo rawCondition rawYes rawNo raw : Json}
      (h : Tagged ["IfThenElse", "RawIfThenElse"] (.arr [rawInfo, rawCondition, rawYes, rawNo]) raw)
      (hi : info.WrittenAs rawInfo) (hc : Expr.WrittenAs condition rawCondition)
      (hy : Expr.WrittenAs yes rawYes) (hn : Expr.WrittenAs no rawNo) :
      Expr.WrittenAs (.ifThenElse info condition yes no) raw
  | branch {kind : Branching} {info : Meta} {subject : Expr} {arms : List Arm}
      {rawInfo rawSubject raw : Json} {rawArms : List Json}
      (h : Tagged kind.tags (.arr [rawInfo, rawSubject, .arr rawArms]) raw)
      (hi : info.WrittenAs rawInfo) (hs : Expr.WrittenAs subject rawSubject)
      (ha : Arm.AllWrittenAs arms rawArms) : Expr.WrittenAs (.branch kind info subject arms) raw

inductive Expr.AllWrittenAs : List Expr → List Json → Prop
  | nil : Expr.AllWrittenAs [] []
  | cons {expr : Expr} {exprs : List Expr} {raw : Json} {raws : List Json}
      (h : Expr.WrittenAs expr raw) (hr : Expr.AllWrittenAs exprs raws) :
      Expr.AllWrittenAs (expr :: exprs) (raw :: raws)

inductive Arg.WrittenAs : Arg → Json → Prop
  | named {name : Text} {value : Expr} {rawName rawValue raw : Json}
      (h : Tagged ["TupleArgNamed", "RawTupleArgNamed", "Named", "RawNamed"]
        (.arr [rawName, rawValue]) raw)
      (hn : Names name rawName) (hv : Expr.WrittenAs value rawValue) :
      Arg.WrittenAs (.named name value) raw
  | positional {value : Expr} {contents raw : Json}
      (h : Tagged ["TupleArgInfer", "RawTupleArgInfer", "Positional", "RawPositional"] contents raw)
      (hv : Expr.WrittenAs value contents) : Arg.WrittenAs (.positional value) raw

inductive Arg.AllWrittenAs : List Arg → List Json → Prop
  | nil : Arg.AllWrittenAs [] []
  | cons {arg : Arg} {args : List Arg} {raw : Json} {raws : List Json}
      (h : Arg.WrittenAs arg raw) (hr : Arg.AllWrittenAs args raws) :
      Arg.AllWrittenAs (arg :: args) (raw :: raws)

inductive Guard.WrittenAs : Guard → Json → Prop
  | ifGuard {condition : Expr} {contents raw : Json} (h : Tagged ["IfGuard"] contents raw)
      (hc : Expr.WrittenAs condition contents) : Guard.WrittenAs (.ifGuard condition) raw
  | elseGuard {raw : Json} (h : HasTag "ElseGuard" raw) : Guard.WrittenAs .elseGuard raw
  | noGuard {raw : Json} (h : HasTag "NoGuard" raw) : Guard.WrittenAs .noGuard raw

inductive Arm.AllWrittenAs : List Arm → List Json → Prop
  | nil : Arm.AllWrittenAs [] []
  | cons {pattern : Obj} {guard : Guard} {arms : List Arm} {rawPattern rawGuard : Json}
      {raws : List Json} (hp : pattern.WrittenAs rawPattern) (hg : Guard.WrittenAs guard rawGuard)
      (hr : Arm.AllWrittenAs arms raws) :
      Arm.AllWrittenAs (.mk pattern guard :: arms) (.arr [rawPattern, rawGuard] :: raws)

end

/-- A declaration without a body has null in its place. -/
inductive Decl.BodyWrittenAs : Option Expr → Json → Prop
  | none : Decl.BodyWrittenAs none .null
  | some {body : Expr} {raw : Json} (h : body.WrittenAs raw) : Decl.BodyWrittenAs (some body) raw

mutual

/-- The contents of a declaration. -/
inductive Decl.WrittenAs : Decl → Json → Prop
  | mk {obj : Obj} {guard : Guard} {subs : List SubStatement} {body : Option Expr}
      {x rawObj rawGuard rawBody : Json} {rawSubs : List Json} (ho : obj.WrittenAs rawObj)
      (hg : guard.WrittenAs rawGuard) (hs : SubStatement.AllWrittenAs subs rawSubs)
      (hb : Decl.BodyWrittenAs body rawBody) :
      Decl.WrittenAs (.mk obj guard subs body)
        (.arr [.arr [x, .arr [rawObj, rawGuard]], .arr rawSubs, rawBody])

inductive SubStatement.WrittenAs : SubStatement → Json → Prop
  | decl {d : Decl} {contents raw : Json} (h : Tagged ["RawDeclSubStatementDecl", "Decl"] contents raw)
      (hd : Decl.WrittenAs d contents) : SubStatement.WrittenAs (.decl d) raw
  | annot {expr : Expr} {contents raw : Json}
      (h : Tagged ["RawDeclSubStatementAnnot", "Annot"] contents raw)
      (he : expr.WrittenAs contents) : SubStatement.WrittenAs (.annot expr) raw

inductive SubStatement.AllWrittenAs : List SubStatement → List Json → Prop
  | nil : SubStatement.AllWrittenAs [] []
  | cons {sub : SubStatement} {subs : List SubStatement} {raw : Json} {raws : List Json}
      (h : SubStatement.WrittenAs sub raw) (hr : SubStatement.AllWrittenAs subs raws) :
      SubStatement.AllWrittenAs (sub :: subs) (raw :: raws)

end

/-- Each type of a type definition is the head of a list. -/
inductive Ty.HeadWrittenAs : Ty → Json → Prop
  | mk {type : Ty} {raw : Json} (rest : List Json) (h : type.WrittenAs raw) :
      Ty.HeadWrittenAs type (.arr (raw :: rest))

inductive Statement.WrittenAs : Statement → Json → Prop
  | decl {d : Decl} {contents raw : Json} (h : Tagged ["RawDeclStatement", "Decl"] contents raw)
      (hd : d.WrittenAs contents) : Statement.WrittenAs (.decl d) raw
  | multiTypeDef {name : Text} {vars : Members Ty} {options : List Ty}
      {rawName rawVars raw : Json} {rawOptions : List Json}
      (h : Tagged ["MultiTypeDefStatement", "MultiTypeDef"]
        (.arr [rawName, rawVars, .arr rawOptions]) raw)
      (hn : Names name rawName) (hv : Ty.MapWrittenAs vars rawVars)
      (ho : List.Forall₂ Ty.HeadWrittenAs options rawOptions) :
      Statement.WrittenAs (.multiTypeDef name vars options) raw
  | typeDef {type : Ty} {contents raw : Json} (h : Tagged ["TypeDefStatement", "TypeDef"] contents raw)
      (ht : type.WrittenAs contents ∨ Ty.HeadWrittenAs type contents) :
      Statement.WrittenAs (.typeDef type) raw
  | classInstance {typeName className : Text} {vars : Members Ty}
      {rawType rawVars rawClass raw : Json}
      (h : Tagged ["RawClassDefStatement", "ClassInstance"]
        (.arr [.arr [rawType, rawVars], rawClass]) raw)
      (ht : Names typeName rawType) (hv : Ty.MapWrittenAs vars rawVars)
      (hc : Names className rawClass) :
      Statement.WrittenAs (.classInstance typeName vars className) raw
  | classDecl {name : Text} {vars : Members Ty} {rawName rawVars raw : Json}
      (h : Tagged ["RawClassDeclStatement", "ClassDecl"] (.arr [rawName, rawVars]) raw)
      (hn : Names name rawName) (hv : Ty.MapWrittenAs vars rawVars) :
      Statement.WrittenAs (.classDecl name vars) raw
  | globalAnnot {expr : Expr} {contents raw : Json}
      (h : Tagged ["RawGlobalAnnot", "GlobalAnnot"] contents raw) (he : expr.WrittenAs contents) :
      Statement.WrittenAs (.globalAnnot expr) raw
  | comment {text : Text} {raw : Json} (h : Tagged ["RawComment", "Comment"] (.str text) raw) :
      Statement.WrittenAs (.comment text) raw

mutual

def Ty.Known : Ty → Prop
  | .top => True
  | .typeVar _ => True
  | .sum parts => PartialType.AllKnown parts
  | .unknown _ _ => False

def PartialType.AllKnown : List PartialType → Prop
  | [] => True
  | .mk _ options :: parts => TypeOption.AllKnown options ∧ PartialType.AllKnown parts

def TypeOption.AllKnown : List TypeOption → Prop
  | [] => True
  | .mk vars args :: options =>
    Ty.EntriesKnown vars ∧ Ty.EntriesKnown args ∧ TypeOption.AllKnown options

def Ty.EntriesKnown : List (Text × Ty) → Prop
  | [] => True
  | (_, type) :: types => type.Known ∧ Ty.EntriesKnown types

end

def Meta.Known (info : Meta) : Prop := info.type.Known

structure Obj.Known (obj : Obj) : Prop where
  info : obj.info.Known
  vars : ∀ var ∈ obj.vars, var.2.Known
  args : ∀ arg ∈ obj.args, arg.2.Known

mutual

def Expr.Known : Expr → Prop
  | .constant info _ => info.Known
  | .name info _ => info.Known
  | .apply info base args => info.Known ∧ base.Known ∧ Arg.AllKnown args
  | .paren inner => inner.Known
  | .methods base calls => base.Known ∧ Expr.AllKnown calls
  | .ifThenElse info condition yes no => info.Known ∧ condition.Known ∧ yes.Known ∧ no.Known
  | .branch _ info subject arms => info.Known ∧ subject.Known ∧ Arm.AllKnown arms
  | .unknown _ _ => False

def Expr.AllKnown : List Expr → Prop
  | [] => True
  | expr :: exprs => expr.Known ∧ Expr.AllKnown exprs

def Arg.Known : Arg → Prop
  | .named _ value => value.Known
  | .positional value => value.Known
  | .unknown _ _ => False

def Arg.AllKnown : List Arg → Prop
  | [] => True
  | arg :: args => arg.Known ∧ Arg.AllKnown args

def Guard.Known : Guard → Prop
  | .ifGuard condition => condition.Known
  | .elseGuard => True
  | .noGuard => True
  | .unknown _ _ => False

def Arm.AllKnown : List Arm → Prop
  | [] => True
  | .mk pattern guard :: arms => pattern.Known ∧ guard.Known ∧ Arm.AllKnown arms

end

mutual

def Decl.Known : Decl → Prop
  | .mk obj guard subs body =>
    obj.Known ∧ guard.Known ∧ SubStatement.AllKnown subs ∧ ∀ expr ∈ body, expr.Known

def SubStatement.Known : SubStatement → Prop
  | .decl d => d.Known
  | .annot expr => expr.Known
  | .unknown _ _ => False

def SubStatement.AllKnown : List SubStatement → Prop
  | [] => True
  | sub :: subs => sub.Known ∧ SubStatement.AllKnown subs

end

def Statement.Known : Statement → Prop
  | .decl d => d.Known
  | .multiTypeDef _ vars options => Ty.EntriesKnown vars ∧ ∀ type ∈ options, type.Known
  | .typeDef type => type.Known
  | .classInstance _ vars _ => Ty.EntriesKnown vars
  | .classDecl _ vars => Ty.EntriesKnown vars
  | .globalAnnot expr => expr.Known
  | .comment _ => True
  | .unknown _ _ => False

/-- No part of the node is unreadable. -/
def Kind.Known : (kind : Kind) → kind.Node → Prop
  | type => Ty.Known
  | guard => Guard.Known
  | expr => Expr.Known
  | arg => Arg.Known
  | statement => Statement.Known
  | subStatement => SubStatement.Known

/-- A dump may write the node as the value. -/
def Kind.WrittenAs : (kind : Kind) → kind.Node → Json → Prop
  | type => Ty.WrittenAs
  | guard => Guard.WrittenAs
  | expr => Expr.WrittenAs
  | arg => Arg.WrittenAs
  | statement => Statement.WrittenAs
  | subStatement => SubStatement.WrittenAs

theorem Json.Tagged.exists_first (tag : Text) (tags : List Text) (contents : Json) :
    ∃ raw, Tagged (tag :: tags) contents raw :=
  ⟨.obj [("tag", .str tag), ("contents", contents)], .mk List.mem_cons_self rfl rfl⟩

theorem Json.HasTag.exists_raw (tag : Text) : ∃ raw, HasTag tag raw :=
  ⟨.obj [("tag", .str tag)], .mk rfl⟩

mutual

theorem Ty.exists_writtenAs : (type : Ty) → type.Known → ∃ raw, type.WrittenAs raw
  | .top, _ => by
    obtain ⟨raw, h⟩ := HasTag.exists_raw "TopType"
    exact ⟨raw, .top h⟩
  | .typeVar name, _ => by
    obtain ⟨raw, h⟩ := Tagged.exists_first "TypeVar" [] (.str name)
    exact ⟨raw, .typeVar h .plain⟩
  | .sum parts, hk => by
    obtain ⟨items, hp⟩ := Ty.exists_partsWrittenAs parts hk
    obtain ⟨raw, h⟩ := Tagged.exists_first "SumType" [] (.arr items)
    exact ⟨raw, .sum h hp⟩
  | .unknown _ _, hk => hk.elim

theorem Ty.exists_partsWrittenAs : (parts : List PartialType) → PartialType.AllKnown parts →
    ∃ items, Ty.PartsWrittenAs parts items
  | [], _ => ⟨[], .nil⟩
  | .mk _ options :: parts, ⟨ho, hr⟩ => by
    obtain ⟨raws, ho⟩ := Ty.exists_optionsWrittenAs options ho
    obtain ⟨items, hr⟩ := Ty.exists_partsWrittenAs parts hr
    exact ⟨_, .cons .plain ho hr⟩

theorem Ty.exists_optionsWrittenAs : (options : List TypeOption) → TypeOption.AllKnown options →
    ∃ raws, Ty.OptionsWrittenAs options raws
  | [], _ => ⟨[], .nil⟩
  | .mk vars args :: options, ⟨hv, ha, hr⟩ => by
    obtain ⟨varEntries, hv⟩ := Ty.exists_entriesWrittenAs vars hv
    obtain ⟨argEntries, ha⟩ := Ty.exists_entriesWrittenAs args ha
    obtain ⟨raws, hr⟩ := Ty.exists_optionsWrittenAs options hr
    exact ⟨_, @Ty.OptionsWrittenAs.cons _ _ _ _ _ .null _ _ _ (.object _) hv (.object _) ha hr⟩

theorem Ty.exists_entriesWrittenAs : (types : List (Text × Ty)) → Ty.EntriesKnown types →
    ∃ entries, Ty.EntriesWrittenAs types entries
  | [], _ => ⟨[], .nil⟩
  | (_, type) :: types, ⟨ht, hr⟩ => by
    obtain ⟨raw, ht⟩ := type.exists_writtenAs ht
    obtain ⟨entries, hr⟩ := Ty.exists_entriesWrittenAs types hr
    exact ⟨_, .cons ht hr⟩

end

theorem Ty.exists_mapWrittenAs {types : Members Ty} (hk : Ty.EntriesKnown types) :
    ∃ raw, Ty.MapWrittenAs types raw := by
  obtain ⟨entries, h⟩ := Ty.exists_entriesWrittenAs types hk
  exact ⟨_, entries, .object entries, h⟩

theorem Meta.exists_writtenAs {info : Meta} (hk : info.Known) : ∃ raw, info.WrittenAs raw := by
  obtain ⟨raw, h⟩ := info.type.exists_writtenAs hk
  exact ⟨_, .placed info.position h⟩

namespace Obj

theorem exists_varsWrittenAs {vars : Members Meta} (hk : ∀ var ∈ vars, var.2.Known) :
    ∃ raw, VarsWrittenAs vars raw := by
  suffices h : ∃ entries : Members Json,
      List.Forall₂ (fun var entry => entry.1 = var.1 ∧ var.2.WrittenAs entry.2) vars entries by
    obtain ⟨entries, h⟩ := h
    exact ⟨_, entries, .object entries, h⟩
  induction vars with
  | nil => exact ⟨[], .nil⟩
  | cons var vars ih =>
    obtain ⟨raw, h⟩ := Meta.exists_writtenAs (hk var List.mem_cons_self)
    obtain ⟨entries, hr⟩ := ih fun other hm => hk other (List.mem_cons_of_mem _ hm)
    exact ⟨(var.1, raw) :: entries, .cons ⟨rfl, h⟩ hr⟩

theorem exists_argsWrittenAs {args : Members Meta} (hk : ∀ arg ∈ args, arg.2.Known) :
    ∃ raw, ArgsWrittenAs args raw := by
  suffices h : ∃ entries : Members Json,
      List.Forall₂ (fun arg entry => ∃ head rest,
        entry = (arg.1, .arr (head :: rest)) ∧ arg.2.WrittenAs head) args entries by
    obtain ⟨entries, h⟩ := h
    exact ⟨_, entries, .object entries, h⟩
  induction args with
  | nil => exact ⟨[], .nil⟩
  | cons arg args ih =>
    obtain ⟨raw, h⟩ := Meta.exists_writtenAs (hk arg List.mem_cons_self)
    obtain ⟨entries, hr⟩ := ih fun other hm => hk other (List.mem_cons_of_mem _ hm)
    exact ⟨(arg.1, .arr [raw]) :: entries, .cons ⟨raw, [], rfl, h⟩ hr⟩

theorem exists_writtenAs {obj : Obj} (hk : obj.Known) : ∃ raw, obj.WrittenAs raw := by
  obtain ⟨rawInfo, hi⟩ := Meta.exists_writtenAs hk.info
  obtain ⟨rawVars, hv⟩ := exists_varsWrittenAs hk.vars
  obtain ⟨rawArgs, ha⟩ := exists_argsWrittenAs hk.args
  exact ⟨_, .mk hi .plain hv ha⟩

end Obj

mutual

theorem Expr.exists_writtenAs : (expr : Expr) → expr.Known → ∃ raw, expr.WrittenAs raw
  | .constant info value, hk => by
    obtain ⟨rawInfo, hi⟩ := Meta.exists_writtenAs hk
    obtain ⟨raw, h⟩ := Tagged.exists_first "CExpr" ["RawCExpr"]
      (.arr [rawInfo, .obj [("contents", value)]])
    exact ⟨raw, .constant h hi (.wrapped rfl)⟩
  | .name info name, hk => by
    obtain ⟨rawInfo, hi⟩ := Meta.exists_writtenAs hk
    obtain ⟨raw, h⟩ := Tagged.exists_first "Value" ["RawValue"] (.arr [rawInfo, .str name])
    exact ⟨raw, .name h hi .plain⟩
  | .apply info base args, ⟨hi, hb, ha⟩ => by
    obtain ⟨rawInfo, hi⟩ := Meta.exists_writtenAs hi
    obtain ⟨rawBase, hb⟩ := base.exists_writtenAs hb
    obtain ⟨rawArgs, ha⟩ := Arg.exists_allWrittenAs args ha
    obtain ⟨raw, h⟩ := Tagged.exists_first "TupleApply" ["RawTupleApply"]
      (.arr [rawInfo, .arr [.null, rawBase], .arr rawArgs])
    exact ⟨raw, .apply h hi hb ha⟩
  | .paren inner, hk => by
    obtain ⟨contents, hi⟩ := inner.exists_writtenAs hk
    obtain ⟨raw, h⟩ := Tagged.exists_first "Paren" ["RawParen"] contents
    exact ⟨raw, .paren h hi⟩
  | .methods base calls, ⟨hb, hc⟩ => by
    obtain ⟨rawBase, hb⟩ := base.exists_writtenAs hb
    obtain ⟨rawCalls, hc⟩ := Expr.exists_allWrittenAs calls hc
    obtain ⟨raw, h⟩ := Tagged.exists_first "Methods" ["RawMethods"] (.arr [rawBase, .arr rawCalls])
    exact ⟨raw, .methods h hb hc⟩
  | .ifThenElse info condition yes no, ⟨hi, hc, hy, hn⟩ => by
    obtain ⟨rawInfo, hi⟩ := Meta.exists_writtenAs hi
    obtain ⟨rawCondition, hc⟩ := condition.exists_writtenAs hc
    obtain ⟨rawYes, hy⟩ := yes.exists_writtenAs hy
    obtain ⟨rawNo, hn⟩ := no.exists_writtenAs hn
    obtain ⟨raw, h⟩ := Tagged.exists_first "IfThenElse" ["RawIfThenElse"]
      (.arr [rawInfo, rawCondition, rawYes, rawNo])
    exact ⟨raw, .ifThenElse h hi hc hy hn⟩
  | .branch kind info subject arms, ⟨hi, hs, ha⟩ => by
    obtain ⟨rawInfo, hi⟩ := Meta.exists_writtenAs hi
    obtain ⟨rawSubject, hs⟩ := subject.exists_writtenAs hs
    obtain ⟨rawArms, ha⟩ := Arm.exists_allWrittenAs arms ha
    have htags : ∃ tag tags, kind.tags = tag :: tags := by
      cases kind with
      | matching => exact ⟨_, _, rfl⟩
      | cases => exact ⟨_, _, rfl⟩
    obtain ⟨tag, tags, ht⟩ := htags
    obtain ⟨raw, h⟩ := Tagged.exists_first tag tags (.arr [rawInfo, rawSubject, .arr rawArms])
    exact ⟨raw, .branch (ht ▸ h) hi hs ha⟩
  | .unknown _ _, hk => hk.elim

theorem Expr.exists_allWrittenAs : (exprs : List Expr) → Expr.AllKnown exprs →
    ∃ raws, Expr.AllWrittenAs exprs raws
  | [], _ => ⟨[], .nil⟩
  | expr :: exprs, ⟨he, hr⟩ => by
    obtain ⟨raw, h⟩ := expr.exists_writtenAs he
    obtain ⟨raws, hr⟩ := Expr.exists_allWrittenAs exprs hr
    exact ⟨raw :: raws, .cons h hr⟩

theorem Arg.exists_writtenAs : (arg : Arg) → arg.Known → ∃ raw, arg.WrittenAs raw
  | .named name value, hk => by
    obtain ⟨rawValue, hv⟩ := value.exists_writtenAs hk
    obtain ⟨raw, h⟩ := Tagged.exists_first "TupleArgNamed" _ (.arr [.str name, rawValue])
    exact ⟨raw, .named h .plain hv⟩
  | .positional value, hk => by
    obtain ⟨contents, hv⟩ := value.exists_writtenAs hk
    obtain ⟨raw, h⟩ := Tagged.exists_first "TupleArgInfer" _ contents
    exact ⟨raw, .positional h hv⟩
  | .unknown _ _, hk => hk.elim

theorem Arg.exists_allWrittenAs : (args : List Arg) → Arg.AllKnown args →
    ∃ raws, Arg.AllWrittenAs args raws
  | [], _ => ⟨[], .nil⟩
  | arg :: args, ⟨ha, hr⟩ => by
    obtain ⟨raw, h⟩ := arg.exists_writtenAs ha
    obtain ⟨raws, hr⟩ := Arg.exists_allWrittenAs args hr
    exact ⟨raw :: raws, .cons h hr⟩

theorem Guard.exists_writtenAs : (guard : Guard) → guard.Known → ∃ raw, guard.WrittenAs raw
  | .ifGuard condition, hk => by
    obtain ⟨contents, hc⟩ := condition.exists_writtenAs hk
    obtain ⟨raw, h⟩ := Tagged.exists_first "IfGuard" [] contents
    exact ⟨raw, .ifGuard h hc⟩
  | .elseGuard, _ => by
    obtain ⟨raw, h⟩ := HasTag.exists_raw "ElseGuard"
    exact ⟨raw, .elseGuard h⟩
  | .noGuard, _ => by
    obtain ⟨raw, h⟩ := HasTag.exists_raw "NoGuard"
    exact ⟨raw, .noGuard h⟩
  | .unknown _ _, hk => hk.elim

theorem Arm.exists_allWrittenAs : (arms : List Arm) → Arm.AllKnown arms →
    ∃ raws, Arm.AllWrittenAs arms raws
  | [], _ => ⟨[], .nil⟩
  | .mk _ guard :: arms, ⟨hp, hg, hr⟩ => by
    obtain ⟨rawPattern, hp⟩ := Obj.exists_writtenAs hp
    obtain ⟨rawGuard, hg⟩ := guard.exists_writtenAs hg
    obtain ⟨raws, hr⟩ := Arm.exists_allWrittenAs arms hr
    exact ⟨_, .cons hp hg hr⟩

end

theorem Decl.exists_bodyWrittenAs : (body : Option Expr) → (∀ expr ∈ body, expr.Known) →
    ∃ raw, Decl.BodyWrittenAs body raw
  | none, _ => ⟨.null, .none⟩
  | some body, hk => by
    obtain ⟨raw, h⟩ := body.exists_writtenAs (hk body rfl)
    exact ⟨raw, .some h⟩

mutual

theorem Decl.exists_writtenAs : (d : Decl) → d.Known → ∃ raw, d.WrittenAs raw
  | .mk _ guard subs body, ⟨ho, hg, hs, hb⟩ => by
    obtain ⟨rawObj, ho⟩ := Obj.exists_writtenAs ho
    obtain ⟨rawGuard, hg⟩ := guard.exists_writtenAs hg
    obtain ⟨rawSubs, hs⟩ := SubStatement.exists_allWrittenAs subs hs
    obtain ⟨rawBody, hb⟩ := Decl.exists_bodyWrittenAs body hb
    exact ⟨_, @Decl.WrittenAs.mk _ _ _ _ .null _ _ _ _ ho hg hs hb⟩

theorem SubStatement.exists_writtenAs : (sub : SubStatement) → sub.Known →
    ∃ raw, sub.WrittenAs raw
  | .decl d, hk => by
    obtain ⟨contents, hd⟩ := d.exists_writtenAs hk
    obtain ⟨raw, h⟩ := Tagged.exists_first "RawDeclSubStatementDecl" _ contents
    exact ⟨raw, .decl h hd⟩
  | .annot expr, hk => by
    obtain ⟨contents, he⟩ := expr.exists_writtenAs hk
    obtain ⟨raw, h⟩ := Tagged.exists_first "RawDeclSubStatementAnnot" _ contents
    exact ⟨raw, .annot h he⟩
  | .unknown _ _, hk => hk.elim

theorem SubStatement.exists_allWrittenAs : (subs : List SubStatement) →
    SubStatement.AllKnown subs → ∃ raws, SubStatement.AllWrittenAs subs raws
  | [], _ => ⟨[], .nil⟩
  | sub :: subs, ⟨hs, hr⟩ => by
    obtain ⟨raw, h⟩ := sub.exists_writtenAs hs
    obtain ⟨raws, hr⟩ := SubStatement.exists_allWrittenAs subs hr
    exact ⟨raw :: raws, .cons h hr⟩

end

theorem Ty.exists_headsWrittenAs {types : List Ty} (hk : ∀ type ∈ types, type.Known) :
    ∃ raws, List.Forall₂ Ty.HeadWrittenAs types raws := by
  induction types with
  | nil => exact ⟨[], .nil⟩
  | cons type types ih =>
    obtain ⟨raw, h⟩ := type.exists_writtenAs (hk type List.mem_cons_self)
    obtain ⟨raws, hr⟩ := ih fun other hm => hk other (List.mem_cons_of_mem _ hm)
    exact ⟨.arr [raw] :: raws, .cons (.mk [] h) hr⟩

theorem Statement.exists_writtenAs {statement : Statement} (hk : statement.Known) :
    ∃ raw, statement.WrittenAs raw := by
  cases statement with
  | decl d =>
    obtain ⟨contents, hd⟩ := d.exists_writtenAs hk
    obtain ⟨raw, h⟩ := Tagged.exists_first "RawDeclStatement" _ contents
    exact ⟨raw, .decl h hd⟩
  | multiTypeDef name vars options =>
    obtain ⟨hv, ho⟩ := hk
    obtain ⟨rawVars, hv⟩ := Ty.exists_mapWrittenAs hv
    obtain ⟨rawOptions, ho⟩ := Ty.exists_headsWrittenAs ho
    obtain ⟨raw, h⟩ := Tagged.exists_first "MultiTypeDefStatement" _
      (.arr [.str name, rawVars, .arr rawOptions])
    exact ⟨raw, .multiTypeDef h .plain hv ho⟩
  | typeDef type =>
    obtain ⟨contents, ht⟩ := type.exists_writtenAs hk
    obtain ⟨raw, h⟩ := Tagged.exists_first "TypeDefStatement" _ contents
    exact ⟨raw, .typeDef h (.inl ht)⟩
  | classInstance typeName vars className =>
    obtain ⟨rawVars, hv⟩ := Ty.exists_mapWrittenAs hk
    obtain ⟨raw, h⟩ := Tagged.exists_first "RawClassDefStatement" _
      (.arr [.arr [.str typeName, rawVars], .str className])
    exact ⟨raw, .classInstance h .plain hv .plain⟩
  | classDecl name vars =>
    obtain ⟨rawVars, hv⟩ := Ty.exists_mapWrittenAs hk
    obtain ⟨raw, h⟩ := Tagged.exists_first "RawClassDeclStatement" _ (.arr [.str name, rawVars])
    exact ⟨raw, .classDecl h .plain hv⟩
  | globalAnnot expr =>
    obtain ⟨contents, he⟩ := expr.exists_writtenAs hk
    obtain ⟨raw, h⟩ := Tagged.exists_first "RawGlobalAnnot" _ contents
    exact ⟨raw, .globalAnnot h he⟩
  | comment text =>
    obtain ⟨raw, h⟩ := Tagged.exists_first "RawComment" _ (.str text)
    exact ⟨raw, .comment h⟩
  | unknown tag raw => exact hk.elim

theorem Kind.exists_writtenAs {kind : Kind} {node : kind.Node} (hk : kind.Known node) :
    ∃ raw, kind.WrittenAs node raw := by
  cases kind with
  | type => exact Ty.exists_writtenAs node hk
  | guard => exact Guard.exists_writtenAs node hk
  | expr => exact Expr.exists_writtenAs node hk
  | arg => exact Arg.exists_writtenAs node hk
  | statement => exact Statement.exists_writtenAs hk
  | subStatement => exact SubStatement.exists_writtenAs node hk

end WebDocs
