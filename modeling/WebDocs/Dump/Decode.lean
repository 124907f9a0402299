import WebDocs.Dump.Basic
import WebDocs.Dump.Error
import WebDocs.Text.Numeral

namespace WebDocs

/-- Reads a node by the form its tag stands for. -/
def decodeNode {Form α : Type} (form? : String → Option Form)
    (build : Form → Json → Except ShapeError α) (unknown : Tag → Json → α) (raw : Json) : α :=
  match raw.tag? with
  | none => unknown none raw
  | some tag =>
    match tag.toString?.bind form? with
    | none => unknown (some tag) raw
    | some form =>
      match build form raw.contents with
      | .ok node => node
      | .error _ => unknown (some tag) raw

namespace Ty

inductive Form
  | top
  | typeVar
  | sum

def Form.ofTag? : String → Option Form
  | "TopType" => some top
  | "TypeVar" => some .typeVar
  | "SumType" => some sum
  | _ => none

def decodeOption (self : Json → Ty) (raw : Json) : Except ShapeError TypeOption := do
  let (vars, _, args) ← raw.unpack3
  return .mk ((← vars.mapping).mapValues self) ((← args.mapping).mapValues self)

def decodePartial (self : Json → Ty) (raw : Json) : Except ShapeError PartialType := do
  let (name, options) ← raw.unpack2
  let options ← (← options.elements).mapM (decodeOption self)
  return .mk (← name.name) options

def build (self : Json → Ty) : Form → Json → Except ShapeError Ty
  | .top, _ => return top
  | .typeVar, contents => return .typeVar (← contents.name)
  | .sum, contents => return sum (← (← contents.elements).mapM (decodePartial self))

def step (self : Json → Ty) : Json → Ty := decodeNode Form.ofTag? (build self) unknown

def decode : Json → Ty := Json.descend step (unknown none)

end Ty

/-- A list is a type and a position; anything else is a type without one. -/
def Meta.decode : Json → Meta
  | .arr (type :: position :: _) => ⟨Ty.decode type, position⟩
  | .arr [type] => ⟨Ty.decode type, .null⟩
  | raw => ⟨Ty.decode raw, .null⟩

namespace Obj

/-- The meta of an argument is the head of its entry. -/
def decodeArg (entry : Text × Json) : Except ShapeError (Text × Meta) := do
  return (entry.1, Meta.decode (← entry.2.item 0))

def decode (raw : Json) : Except ShapeError Obj := do
  let (info, basis, name, vars, args) ← raw.unpack5
  let name ← name.name
  let vars ← vars.mapping
  let args ← (← args.mapping).mapM decodeArg
  return ⟨Meta.decode info, basis.plainText, name, vars.mapValues Meta.decode, args⟩

end Obj

namespace Arg

inductive Form
  | named
  | positional

def Form.ofTag? : String → Option Form
  | "TupleArgNamed" | "RawTupleArgNamed" | "Named" | "RawNamed" => some named
  | "TupleArgInfer" | "RawTupleArgInfer" | "Positional" | "RawPositional" => some positional
  | _ => none

def build (self : Json → Expr) : Form → Json → Except ShapeError Arg
  | .named, contents => do
    let (name, value) ← contents.unpack2
    return named (← name.name) (self value)
  | .positional, contents => return positional (self contents)

def decodeBy (self : Json → Expr) : Json → Arg := decodeNode Form.ofTag? (build self) unknown

end Arg

namespace Guard

inductive Form
  | ifGuard
  | elseGuard
  | noGuard

def Form.ofTag? : String → Option Form
  | "IfGuard" => some ifGuard
  | "ElseGuard" => some elseGuard
  | "NoGuard" => some noGuard
  | _ => none

def build (self : Json → Expr) : Form → Json → Except ShapeError Guard
  | .ifGuard, contents => return ifGuard (self contents)
  | .elseGuard, _ => return elseGuard
  | .noGuard, _ => return noGuard

def decodeBy (self : Json → Expr) : Json → Guard := decodeNode Form.ofTag? (build self) unknown

end Guard

def Arm.decodeBy (self : Json → Expr) (raw : Json) : Except ShapeError Arm := do
  let (obj, guard) ← raw.unpack2
  return .mk (← Obj.decode obj) (Guard.decodeBy self guard)

namespace Expr

inductive Form
  | constant
  | name
  | apply
  | paren
  | methods
  | ifThenElse
  | branch (kind : Branching)

def Form.ofTag? : String → Option Form
  | "CExpr" | "RawCExpr" => some constant
  | "Value" | "RawValue" => some name
  | "TupleApply" | "RawTupleApply" => some apply
  | "Paren" | "RawParen" => some paren
  | "Methods" | "RawMethods" => some methods
  | "IfThenElse" | "RawIfThenElse" => some ifThenElse
  | "Match" | "RawMatch" => some (branch .matching)
  | "Case" | "RawCase" => some (branch .cases)
  | _ => none

def build (self : Json → Expr) : Form → Json → Except ShapeError Expr
  | .constant, contents => do
    let info ← contents.item 0
    let value ← contents.item 1
    return constant (Meta.decode info) (← value.constant)
  | .name, contents => do
    let info ← contents.item 0
    let value ← contents.item 1
    return name (Meta.decode info) (← value.name)
  | .apply, contents => do
    let (info, based, args) ← contents.unpack3
    let (_, base) ← based.unpack2
    let args ← args.elements
    return apply (Meta.decode info) (self base) (args.map (Arg.decodeBy self))
  | .paren, contents => return paren (self contents)
  | .methods, contents => do
    let (base, calls) ← contents.unpack2
    let calls ← calls.elements
    return methods (self base) (calls.map self)
  | .ifThenElse, contents => do
    let (info, condition, yes, no) ← contents.unpack4
    return ifThenElse (Meta.decode info) (self condition) (self yes) (self no)
  | .branch kind, contents => do
    let (info, subject, arms) ← contents.unpack3
    let arms ← (← arms.elements).mapM (Arm.decodeBy self)
    return branch kind (Meta.decode info) (self subject) arms

def step (self : Json → Expr) : Json → Expr := decodeNode Form.ofTag? (build self) unknown

def decode : Json → Expr := Json.descend step (unknown none)

end Expr

def Arg.decode : Json → Arg := Arg.decodeBy Expr.decode

def Guard.decode : Json → Guard := Guard.decodeBy Expr.decode

/-- A declaration: its head, the statements below it, and its body unless that is null. -/
def Decl.decodeBy (self : Json → SubStatement) (contents : Json) : Except ShapeError Decl := do
  let (head, subs, body) ← contents.unpack3
  let (_, objAndGuard) ← head.unpack2
  let (obj, guard) ← objAndGuard.unpack2
  let obj ← Obj.decode obj
  let subs ← subs.elementsOrNone
  let body := match body with
    | .null => none
    | _ => some (Expr.decode body)
  return .mk obj (Guard.decode guard) (subs.map self) body

namespace SubStatement

inductive Form
  | decl
  | annot

def Form.ofTag? : String → Option Form
  | "RawDeclSubStatementDecl" | "Decl" => some decl
  | "RawDeclSubStatementAnnot" | "Annot" => some annot
  | _ => none

def build (self : Json → SubStatement) : Form → Json → Except ShapeError SubStatement
  | .decl, contents => return decl (← Decl.decodeBy self contents)
  | .annot, contents => return annot (Expr.decode contents)

def step (self : Json → SubStatement) : Json → SubStatement :=
  decodeNode Form.ofTag? (build self) unknown

def decode : Json → SubStatement := Json.descend step (unknown none)

end SubStatement

def Decl.decode : Json → Except ShapeError Decl := Decl.decodeBy SubStatement.decode

namespace Statement

inductive Form
  | decl
  | multiTypeDef
  | typeDef
  | classInstance
  | classDecl
  | globalAnnot
  | comment

def Form.ofTag? : String → Option Form
  | "RawDeclStatement" | "Decl" => some decl
  | "MultiTypeDefStatement" | "MultiTypeDef" => some multiTypeDef
  | "TypeDefStatement" | "TypeDef" => some typeDef
  | "RawClassDefStatement" | "ClassInstance" => some classInstance
  | "RawClassDeclStatement" | "ClassDecl" => some classDecl
  | "RawGlobalAnnot" | "GlobalAnnot" => some globalAnnot
  | "RawComment" | "Comment" => some comment
  | _ => none

def typeVars (raw : Json) : Except ShapeError (Members Ty) :=
  return (← raw.mapping).mapValues Ty.decode

def build : Form → Json → Except ShapeError Statement
  | .decl, contents => return decl (← Decl.decode contents)
  | .multiTypeDef, contents => do
    let (name, vars, options) ← contents.unpack3
    let heads ← (← options.elements).mapM (Json.item 0)
    return multiTypeDef (← name.name) (← typeVars vars) (heads.map Ty.decode)
  | .typeDef, .arr [] => throw (.noItem (.arr []))
  | .typeDef, .arr (type :: _) => return typeDef (Ty.decode type)
  | .typeDef, contents => return typeDef (Ty.decode contents)
  | .classInstance, contents => do
    let (type, className) ← contents.unpack2
    let (typeName, vars) ← type.unpack2
    return classInstance (← typeName.name) (← typeVars vars) (← className.name)
  | .classDecl, contents => do
    let (name, vars) ← contents.unpack2
    return classDecl (← name.name) (← typeVars vars)
  | .globalAnnot, contents => return globalAnnot (Expr.decode contents)
  | .comment, .str text => return comment text
  | .comment, _ => throw .notText

def decode : Json → Statement := decodeNode Form.ofTag? build unknown

end Statement

namespace Val

/-- A whole number: of a number its integer part, of a text the number it spells. -/
def toInt : Json → Except Overflow (Option Int)
  | .int n => .ok (some n)
  | .bool b => .ok (some (if b then 1 else 0))
  | .float (.infinite _) => .error .infinity
  | .float x => .ok x.truncate?
  | .str s => .ok (Text.Numeral.int? s.toList)
  | _ => .ok none

def toFloat : Json → Except Overflow (Option Decimal)
  | .float x => .ok (some x)
  | .int n => (Decimal.ofInt? n).elim (.error .tooLarge) (.ok ∘ some)
  | .bool b => .ok (Decimal.ofInt? (if b then 1 else 0))
  | .str s => .ok (Text.Numeral.decimal? s.toList)
  | _ => .ok none

inductive Form
  | tuple
  | str
  | int
  | float

def Form.ofTag? : String → Option Form
  | "TupleVal" => some tuple
  | "StrVal" => some str
  | "IntVal" => some int
  | "FloatVal" => some float
  | _ => none

/-- The values below a tuple, each under its name. -/
def decodeArgs (self : Json → Except Overflow Val) :
    Members Json → Except Overflow (List (Text × Val))
  | [] => .ok []
  | (name, raw) :: rest => do
    let value ← self raw
    return (name, value) :: (← decodeArgs self rest)

def build (self : Json → Except Overflow Val) (raw : Json) :
    Form → Except Overflow (Option Val)
  | .tuple =>
    match raw.member? "name", ((raw.member? "args").getD .null).mapping with
    | some name, .ok args => return some (tuple name.plainText (← decodeArgs self args))
    | _, _ => return none
  | .str => return (raw.member? "contents").map fun contents => str contents.plainText
  | .int => return (← ((raw.member? "contents").elim (.ok none) toInt)).map int
  | .float => return (← ((raw.member? "contents").elim (.ok none) toFloat)).map float

def form? (raw : Json) : Option Form := raw.tag? >>= fun tag => tag.toString? >>= Form.ofTag?

def step (self : Json → Except Overflow Val) (raw : Json) : Except Overflow Val :=
  match form? raw with
  | none => return unknown raw.tag? raw
  | some form => return (← build self raw form).getD (unknown raw.tag? raw)

def decode : Json → Except Overflow Val := Json.descend step fun raw => .ok (unknown none raw)

end Val

/-- Turns an error of one kind into another. -/
def relabel {ε ε' α : Type} (f : ε → ε') : Except ε α → Except ε' α
  | .ok a => .ok a
  | .error e => .error (f e)

def Annot.decode (raw : Json) : Except DecodeError Annot := do
  let (expr, value) ← relabel (.malformed ∘ .annotationEntry) raw.unpack2
  let expr := Expr.decode expr
  let value ← relabel .overflow (Val.decode value)
  return ⟨expr.headPosition, expr, value⟩

namespace Page

def parts (raw : Json) : Except ShapeError (Json × Json × Json) := do
  let (data, name, deps) ← raw.unpack3
  let (_, statements) ← data.unpack2
  return (name, statements, deps)

def decode (raw : Json) : Except DecodeError Page := do
  let (name, statements, deps) ← relabel (.malformed ∘ .pageEntry) (parts raw)
  match name, statements with
  | .str name, .arr statements =>
    let deps ← relabel .shape deps.elementsOrNone
    return ⟨name, statements.map Statement.decode, deps.map Json.plainText⟩
  | name, _ => throw (.malformed (.pageKinds name))

end Page

/-- The first text that occurs earlier in the list already. -/
def firstRepeated? : List Text → List Text → Option Text
  | _, [] => none
  | seen, name :: rest =>
    if name ∈ seen then some name else firstRepeated? (name :: seen) rest

def Document.decode : Json → Except DecodeError Document
  | .arr [.arr pages, .arr annotations] => do
    let pages ← pages.mapM Page.decode
    match firstRepeated? [] (pages.map (·.name)) with
    | some name => throw (.malformed (.duplicatePage name))
    | none => return ⟨pages, ← annotations.mapM Annot.decode⟩
  | .arr [_, _] => throw (.malformed .notLists)
  | _ => throw (.malformed .notAPair)

end WebDocs
