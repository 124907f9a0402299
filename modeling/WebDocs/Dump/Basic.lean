import WebDocs.Json.Basic

namespace WebDocs

/-- The tag of a node, if it has one. -/
abbrev Tag := Option Text

mutual

inductive Ty
  | top
  | typeVar (name : Text)
  | sum (parts : List PartialType)
  | unknown (tag : Tag) (raw : Json)

/-- One name of a sum type, with its options. -/
inductive PartialType
  | mk (name : Text) (options : List TypeOption)

/-- The variables and the arguments of one option. -/
inductive TypeOption
  | mk (vars args : List (Text × Ty))

end

instance : Inhabited Ty := ⟨.top⟩

/-- A type and the source position it belongs to; a position is any value, null for none. -/
structure Meta where
  type : Ty
  position : Json
  deriving Inhabited

structure Obj where
  info : Meta
  basis : Text
  name : Text
  vars : Members Meta
  args : Members Meta
  deriving Inhabited

/-- The two ways to branch on the shape of a subject. -/
inductive Branching
  | matching
  | cases
  deriving DecidableEq

mutual

inductive Expr
  | constant (info : Meta) (value : Json)
  | name (info : Meta) (name : Text)
  | apply (info : Meta) (base : Expr) (args : List Arg)
  | paren (inner : Expr)
  | methods (base : Expr) (calls : List Expr)
  | ifThenElse (info : Meta) (condition yes no : Expr)
  | branch (kind : Branching) (info : Meta) (subject : Expr) (arms : List Arm)
  | unknown (tag : Tag) (raw : Json)

inductive Arg
  | named (name : Text) (value : Expr)
  | positional (value : Expr)
  | unknown (tag : Tag) (raw : Json)

inductive Guard
  | ifGuard (condition : Expr)
  | elseGuard
  | noGuard
  | unknown (tag : Tag) (raw : Json)

inductive Arm
  | mk (pattern : Obj) (guard : Guard)

end

instance : Inhabited Expr := ⟨.unknown none .null⟩

/-- The position of the node an expression is rooted at: brackets and method calls are rooted where
their inner expression is. -/
def Expr.headPosition : Expr → Json
  | constant info _ => info.position
  | name info _ => info.position
  | apply info _ _ => info.position
  | paren inner => inner.headPosition
  | methods base _ => base.headPosition
  | ifThenElse info _ _ _ => info.position
  | branch _ info _ _ => info.position
  | unknown _ _ => .null

mutual

inductive Decl
  | mk (obj : Obj) (guard : Guard) (subStatements : List SubStatement) (body : Option Expr)

inductive SubStatement
  | decl (decl : Decl)
  | annot (expr : Expr)
  | unknown (tag : Tag) (raw : Json)

end

instance : Inhabited SubStatement := ⟨.unknown none .null⟩

inductive Statement
  | decl (decl : Decl)
  | multiTypeDef (name : Text) (vars : Members Ty) (options : List Ty)
  | typeDef (type : Ty)
  | classInstance (typeName : Text) (vars : Members Ty) (className : Text)
  | classDecl (name : Text) (vars : Members Ty)
  | globalAnnot (expr : Expr)
  | comment (text : Text)
  | unknown (tag : Tag) (raw : Json)

inductive Val
  | tuple (name : Text) (args : List (Text × Val))
  | str (value : Text)
  | int (value : Int)
  | float (value : Decimal)
  | unknown (tag : Tag) (raw : Json)

instance : Inhabited Val := ⟨.unknown none .null⟩

/-- A value that was computed for an expression; `position` is the expression's head position. -/
structure Annot where
  position : Json
  expr : Expr
  value : Val

structure Page where
  name : Text
  statements : List Statement
  deps : List Text

structure Document where
  pages : List Page
  annotations : List Annot

namespace Document

def page? (document : Document) (name : Text) : Option Page :=
  document.pages.find? (·.name = name)

def pageNames (document : Document) : List Text := document.pages.map (·.name)

/-- The page shown when none is asked for is the last one. -/
def defaultPage? (document : Document) : Option Page := document.pages.getLast?

end Document
end WebDocs
