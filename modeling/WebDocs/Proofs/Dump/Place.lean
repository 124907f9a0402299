import WebDocs.Proofs.Dump.Reading
import WebDocs.Proofs.Json.Context

namespace WebDocs

open Json (Context)

/-- The grammars with an unknown node of their own. -/
inductive Kind
  | type
  | guard
  | expr
  | arg
  | statement
  | subStatement

namespace Kind

def Node : Kind → Type
  | type => Ty
  | guard => Guard
  | expr => Expr
  | arg => Arg
  | statement => Statement
  | subStatement => SubStatement

def Form : Kind → Type
  | type => Ty.Form
  | guard => Guard.Form
  | expr => Expr.Form
  | arg => Arg.Form
  | statement => Statement.Form
  | subStatement => SubStatement.Form

def ofTag? : (kind : Kind) → String → Option kind.Form
  | type => Ty.Form.ofTag?
  | guard => Guard.Form.ofTag?
  | expr => Expr.Form.ofTag?
  | arg => Arg.Form.ofTag?
  | statement => Statement.Form.ofTag?
  | subStatement => SubStatement.Form.ofTag?

def form? (kind : Kind) (tag : Text) : Option kind.Form := tag.toString?.bind kind.ofTag?

def build : (kind : Kind) → kind.Form → Json → Except ShapeError kind.Node
  | type => Ty.build Ty.decode
  | guard => Guard.build Expr.decode
  | expr => Expr.build Expr.decode
  | arg => Arg.build Expr.decode
  | statement => Statement.build
  | subStatement => SubStatement.build SubStatement.decode

def unknown : (kind : Kind) → Tag → Json → kind.Node
  | type => Ty.unknown
  | guard => Guard.unknown
  | expr => Expr.unknown
  | arg => Arg.unknown
  | statement => Statement.unknown
  | subStatement => SubStatement.unknown

def decode : (kind : Kind) → Json → kind.Node
  | type => Ty.decode
  | guard => Guard.decode
  | expr => Expr.decode
  | arg => Arg.decode
  | statement => Statement.decode
  | subStatement => SubStatement.decode

theorem decode_eq (kind : Kind) (raw : Json) :
    kind.decode raw = decodeNode kind.ofTag? kind.build kind.unknown raw := by
  cases kind with
  | type => exact Ty.decode_eq raw
  | expr => exact Expr.decode_eq raw
  | subStatement => exact SubStatement.decode_eq raw
  | guard | arg | statement => rfl

/-- The unknown node for a value keeps the value and its tag. -/
def unknownOf (kind : Kind) (raw : Json) : kind.Node := kind.unknown raw.tag? raw

/-- The node can be built from its tag and its contents. -/
def Builds (kind : Kind) (raw : Json) (node : kind.Node) : Prop :=
  ∃ tag form, raw.tag? = some tag ∧ kind.form? tag = some form ∧
    kind.build form raw.contents = .ok node

theorem decode_of_builds {kind : Kind} {raw : Json} {node : kind.Node}
    (h : kind.Builds raw node) : kind.decode raw = node := by
  obtain ⟨tag, form, ht, hf, hb⟩ := h
  rw [form?] at hf
  simp only [decode_eq, decodeNode, ht, hf, hb]

theorem decode_of_not_builds {kind : Kind} {raw : Json} (h : ∀ node, ¬kind.Builds raw node) :
    kind.decode raw = kind.unknownOf raw := by
  rw [decode_eq, decodeNode, unknownOf]
  cases ht : raw.tag? with
  | none => rfl
  | some tag =>
    cases hf : tag.toString?.bind kind.ofTag? with
    | none => simp only [hf]
    | some form =>
      cases hb : kind.build form raw.contents with
      | ok node => exact absurd ⟨tag, form, ht, hf, hb⟩ (h node)
      | error e => simp only [hf, hb]

end Kind

section

variable {α : Type}

/-- A reader that has an answer for every value. -/
def total (f : Json → α) (raw : Json) : Except ShapeError α := .ok (f raw)

def Kind.reader (kind : Kind) : Json → Except ShapeError kind.Node := total kind.decode

def eachOf (read : Json → Except ShapeError α) (raw : Json) : Except ShapeError (List α) :=
  raw.elements >>= (·.mapM read)

def eachOfOrNone (read : Json → Except ShapeError α) (raw : Json) : Except ShapeError (List α) :=
  raw.elementsOrNone >>= (·.mapM read)

def memberBy (read : Json → Except ShapeError α) (member : Text × Json) :
    Except ShapeError (Text × α) :=
  (member.1, ·) <$> read member.2

def membersOf (read : Json → Except ShapeError α) (raw : Json) :
    Except ShapeError (Members α) :=
  raw.mapping >>= (·.mapM (memberBy read))

def headOf (read : Json → Except ShapeError α) (raw : Json) : Except ShapeError α :=
  raw.item 0 >>= read

end

/-- The body of a declaration; null stands for none. -/
def bodyOf : Json → Except ShapeError (Option Expr)
  | .null => .ok none
  | raw => .ok (some (Expr.decode raw))

/-- What is read in a hole: a node of a grammar, or the body of a declaration. -/
inductive Hole
  | node (kind : Kind)
  | body

namespace Hole

def kind : Hole → Kind
  | node kind => kind
  | body => .expr

/-- Null is no body. -/
def Takes : Hole → Json → Prop
  | node _, _ => True
  | body, value => value ≠ .null

end Hole

/-- The readers, asked for the value with the hole, ask for the value in the hole. As many values
stand beside it as its readers count; these are any values, of the right shape or not. -/
inductive Place : {α : Type} → (Json → Except ShapeError α) → Context → Hole → Prop
  | here (kind : Kind) : Place kind.reader .hole (.node kind)
  | contents {kind : Kind} {form before after tag C hole}
      (hc : Text.ofString "contents" ∉ Members.keys before)
      (ht : Members.get? "tag" (before ++ after) = some (.str tag))
      (hf : kind.form? tag = some form) (h : Place (kind.build form) C hole) :
      Place kind.reader (.member before "contents" C after) hole
  -- Parts of lists and maps. A pair is read if no pair behind it has the same name.
  | element {α read before after C hole} (h : @Place α read C hole) :
      Place (eachOf read) (.item before C after) hole
  | elementOrNone {α read before after C hole} (h : @Place α read C hole) :
      Place (eachOfOrNone read) (.item before C after) hole
  | member {α read before key after C hole} (h : @Place α read C hole) :
      Place (membersOf read) (.member before key C after) hole
  | pair {α read before key name after C hole} (hk : Json.name key = .ok name)
      (hl : ∀ pair ∈ after, ∀ value, Json.entry pair ≠ .ok (name, value))
      (h : @Place α read C hole) :
      Place (membersOf read) (.item before (.item [key] C []) after) hole
  | head {α read after C hole} (h : @Place α read C hole) :
      Place (headOf read) (.item [] C after) hole
  -- Types, metas and objects.
  | sum {C hole} (h : Place (eachOf (Ty.decodePartial Ty.decode)) C hole) :
      Place (Ty.build Ty.decode .sum) C hole
  | options {name C hole} (h : Place (eachOf (Ty.decodeOption Ty.decode)) C hole) :
      Place (Ty.decodePartial Ty.decode) (.item [name] C []) hole
  | optionVars {x args C hole} (h : Place (membersOf Kind.type.reader) C hole) :
      Place (Ty.decodeOption Ty.decode) (.item [] C [x, args]) hole
  | optionArgs {vars x C hole} (h : Place (membersOf Kind.type.reader) C hole) :
      Place (Ty.decodeOption Ty.decode) (.item [vars, x] C []) hole
  | info {after C hole} (h : Place Kind.type.reader C hole) :
      Place (total Meta.decode) (.item [] C after) hole
  | objInfo {basis name vars args C hole} (h : Place (total Meta.decode) C hole) :
      Place Obj.decode (.item [] C [basis, name, vars, args]) hole
  | objVars {info basis name args C hole} (h : Place (membersOf (total Meta.decode)) C hole) :
      Place Obj.decode (.item [info, basis, name] C [args]) hole
  | objArgs {info basis name vars C hole}
      (h : Place (membersOf (headOf (total Meta.decode))) C hole) :
      Place Obj.decode (.item [info, basis, name, vars] C []) hole
  -- Arguments, guards and arms.
  | named {name C hole} (h : Place Kind.expr.reader C hole) :
      Place (Arg.build Expr.decode .named) (.item [name] C []) hole
  | positional {C hole} (h : Place Kind.expr.reader C hole) :
      Place (Arg.build Expr.decode .positional) C hole
  | ifGuard {C hole} (h : Place Kind.expr.reader C hole) :
      Place (Guard.build Expr.decode .ifGuard) C hole
  | armObj {guard C hole} (h : Place Obj.decode C hole) :
      Place (Arm.decodeBy Expr.decode) (.item [] C [guard]) hole
  | armGuard {obj C hole} (h : Place Kind.guard.reader C hole) :
      Place (Arm.decodeBy Expr.decode) (.item [obj] C []) hole
  -- Expressions.
  | constantInfo {after C hole} (h : Place (total Meta.decode) C hole) :
      Place (Expr.build Expr.decode .constant) (.item [] C after) hole
  | nameInfo {after C hole} (h : Place (total Meta.decode) C hole) :
      Place (Expr.build Expr.decode .name) (.item [] C after) hole
  | applyInfo {based args C hole} (h : Place (total Meta.decode) C hole) :
      Place (Expr.build Expr.decode .apply) (.item [] C [based, args]) hole
  | applyBase {info x args C hole} (h : Place Kind.expr.reader C hole) :
      Place (Expr.build Expr.decode .apply) (.item [info] (.item [x] C []) [args]) hole
  | applyArgs {info based C hole} (h : Place (eachOf Kind.arg.reader) C hole) :
      Place (Expr.build Expr.decode .apply) (.item [info, based] C []) hole
  | paren {C hole} (h : Place Kind.expr.reader C hole) :
      Place (Expr.build Expr.decode .paren) C hole
  | methodsBase {calls C hole} (h : Place Kind.expr.reader C hole) :
      Place (Expr.build Expr.decode .methods) (.item [] C [calls]) hole
  | methodsCalls {base C hole} (h : Place (eachOf Kind.expr.reader) C hole) :
      Place (Expr.build Expr.decode .methods) (.item [base] C []) hole
  | ifInfo {condition yes no C hole} (h : Place (total Meta.decode) C hole) :
      Place (Expr.build Expr.decode .ifThenElse) (.item [] C [condition, yes, no]) hole
  | ifCondition {info yes no C hole} (h : Place Kind.expr.reader C hole) :
      Place (Expr.build Expr.decode .ifThenElse) (.item [info] C [yes, no]) hole
  | ifYes {info condition no C hole} (h : Place Kind.expr.reader C hole) :
      Place (Expr.build Expr.decode .ifThenElse) (.item [info, condition] C [no]) hole
  | ifNo {info condition yes C hole} (h : Place Kind.expr.reader C hole) :
      Place (Expr.build Expr.decode .ifThenElse) (.item [info, condition, yes] C []) hole
  | branchInfo {kind subject arms C hole} (h : Place (total Meta.decode) C hole) :
      Place (Expr.build Expr.decode (.branch kind)) (.item [] C [subject, arms]) hole
  | branchSubject {kind info arms C hole} (h : Place Kind.expr.reader C hole) :
      Place (Expr.build Expr.decode (.branch kind)) (.item [info] C [arms]) hole
  | branchArms {kind info subject C hole} (h : Place (eachOf (Arm.decodeBy Expr.decode)) C hole) :
      Place (Expr.build Expr.decode (.branch kind)) (.item [info, subject] C []) hole
  -- Declarations and the statements below them.
  | body : Place bodyOf .hole .body
  | insideBody {C hole} (hC : C ≠ .hole) (h : Place Kind.expr.reader C hole) :
      Place bodyOf C hole
  | declObj {x guard subs body C hole} (h : Place Obj.decode C hole) :
      Place Decl.decode (.item [] (.item [x] (.item [] C [guard]) []) [subs, body]) hole
  | declGuard {x obj subs body C hole} (h : Place Kind.guard.reader C hole) :
      Place Decl.decode (.item [] (.item [x] (.item [obj] C []) []) [subs, body]) hole
  | declSubs {head body C hole} (h : Place (eachOfOrNone Kind.subStatement.reader) C hole) :
      Place Decl.decode (.item [head] C [body]) hole
  | declBody {head subs C hole} (h : Place bodyOf C hole) :
      Place Decl.decode (.item [head, subs] C []) hole
  | subDecl {C hole} (h : Place Decl.decode C hole) :
      Place (SubStatement.build SubStatement.decode .decl) C hole
  | subAnnot {C hole} (h : Place Kind.expr.reader C hole) :
      Place (SubStatement.build SubStatement.decode .annot) C hole
  -- Statements.
  | decl {C hole} (h : Place Decl.decode C hole) : Place (Statement.build .decl) C hole
  | multiVars {name options C hole} (h : Place (membersOf Kind.type.reader) C hole) :
      Place (Statement.build .multiTypeDef) (.item [name] C [options]) hole
  | multiOptions {name vars C hole} (h : Place (eachOf (headOf Kind.type.reader)) C hole) :
      Place (Statement.build .multiTypeDef) (.item [name, vars] C []) hole
  | typeDef {after C hole} (h : Place Kind.type.reader C hole) :
      Place (Statement.build .typeDef) (.item [] C after) hole
  | instanceVars {name className C hole} (h : Place (membersOf Kind.type.reader) C hole) :
      Place (Statement.build .classInstance) (.item [] (.item [name] C []) [className]) hole
  | classVars {name C hole} (h : Place (membersOf Kind.type.reader) C hole) :
      Place (Statement.build .classDecl) (.item [name] C []) hole
  | globalAnnot {C hole} (h : Place Kind.expr.reader C hole) :
      Place (Statement.build .globalAnnot) C hole

/-- The function puts a tree in one place of a larger tree that is otherwise fixed. -/
inductive Surrounds : {α β : Type} → (α → β) → Prop
  | whole {α : Type} : Surrounds fun tree : α => tree
  | within {α β γ : Type} {outer : β → γ} {inner : α → β} :
      Surrounds outer → Surrounds inner → Surrounds fun tree => outer (inner tree)
  | element {α : Type} (before after : List α) : Surrounds fun tree => before ++ tree :: after
  | member {α : Type} (before : Members α) (key : Text) (after : Members α) :
      Surrounds fun tree => before ++ (key, tree) :: after
  | sum : Surrounds Ty.sum
  | options (name : Text) : Surrounds (PartialType.mk name)
  | optionVars (args : Members Ty) : Surrounds (TypeOption.mk · args)
  | optionArgs (vars : Members Ty) : Surrounds (TypeOption.mk vars)
  | info (position : Json) : Surrounds (Meta.mk · position)
  | objInfo (basis name : Text) (vars args : Members Meta) :
      Surrounds (Obj.mk · basis name vars args)
  | objVars (info : Meta) (basis name : Text) (args : Members Meta) :
      Surrounds (Obj.mk info basis name · args)
  | objArgs (info : Meta) (basis name : Text) (vars : Members Meta) :
      Surrounds (Obj.mk info basis name vars)
  | named (name : Text) : Surrounds (Arg.named name)
  | positional : Surrounds Arg.positional
  | ifGuard : Surrounds Guard.ifGuard
  | armObj (guard : Guard) : Surrounds (Arm.mk · guard)
  | armGuard (obj : Obj) : Surrounds (Arm.mk obj)
  | constantInfo (value : Json) : Surrounds (Expr.constant · value)
  | nameInfo (name : Text) : Surrounds (Expr.name · name)
  | applyInfo (base : Expr) (args : List Arg) : Surrounds (Expr.apply · base args)
  | applyBase (info : Meta) (args : List Arg) : Surrounds (Expr.apply info · args)
  | applyArgs (info : Meta) (base : Expr) : Surrounds (Expr.apply info base)
  | paren : Surrounds Expr.paren
  | methodsBase (calls : List Expr) : Surrounds (Expr.methods · calls)
  | methodsCalls (base : Expr) : Surrounds (Expr.methods base)
  | ifInfo (condition yes no : Expr) : Surrounds (Expr.ifThenElse · condition yes no)
  | ifCondition (info : Meta) (yes no : Expr) : Surrounds (Expr.ifThenElse info · yes no)
  | ifYes (info : Meta) (condition no : Expr) : Surrounds (Expr.ifThenElse info condition · no)
  | ifNo (info : Meta) (condition yes : Expr) : Surrounds (Expr.ifThenElse info condition yes)
  | branchInfo (kind : Branching) (subject : Expr) (arms : List Arm) :
      Surrounds (Expr.branch kind · subject arms)
  | branchSubject (kind : Branching) (info : Meta) (arms : List Arm) :
      Surrounds (Expr.branch kind info · arms)
  | branchArms (kind : Branching) (info : Meta) (subject : Expr) :
      Surrounds (Expr.branch kind info subject)
  | body : Surrounds (some : Expr → Option Expr)
  | declObj (guard : Guard) (subs : List SubStatement) (body : Option Expr) :
      Surrounds (Decl.mk · guard subs body)
  | declGuard (obj : Obj) (subs : List SubStatement) (body : Option Expr) :
      Surrounds (Decl.mk obj · subs body)
  | declSubs (obj : Obj) (guard : Guard) (body : Option Expr) :
      Surrounds (Decl.mk obj guard · body)
  | declBody (obj : Obj) (guard : Guard) (subs : List SubStatement) :
      Surrounds (Decl.mk obj guard subs)
  | subDecl : Surrounds SubStatement.decl
  | subAnnot : Surrounds SubStatement.annot
  | decl : Surrounds Statement.decl
  | multiVars (name : Text) (options : List Ty) : Surrounds (Statement.multiTypeDef name · options)
  | multiOptions (name : Text) (vars : Members Ty) : Surrounds (Statement.multiTypeDef name vars)
  | typeDef : Surrounds Statement.typeDef
  | instanceVars (typeName className : Text) :
      Surrounds (Statement.classInstance typeName · className)
  | classVars (name : Text) : Surrounds (Statement.classDecl name)
  | globalAnnot : Surrounds Statement.globalAnnot

end WebDocs
