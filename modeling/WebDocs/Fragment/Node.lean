import WebDocs.Dump.PositionIndex
import WebDocs.Fragment.Artifact
import WebDocs.Report

namespace WebDocs

/-- What objects show of their metas: every type, or only the types that were written down. -/
inductive MetaStyle
  | typed
  | declared
  deriving DecidableEq

/-- How a document is shown, the values of its annotations, and the HTML of its comments. -/
structure Display where
  index : PositionIndex
  metas : MetaStyle
  details : Bool
  comments : Text → Text

namespace Ty

/-- Entries between angle brackets; nothing without entries. -/
def generics (entries : List Fragment) : Fragment :=
  if entries.isEmpty then [] else .text "<" :: Fragment.join ", " entries ++ [.text ">"]

mutual

def fragment : Ty → Logged Fragment
  | top => return [.text "TopType"]
  | typeVar name => return Fragment.ofText name
  | sum parts => return Fragment.join " | " (← partFragments parts)
  | unknown tag _ => do
    Logged.report (.unknownType tag)
    return []

/-- One fragment for each option of each part. -/
def partFragments : List PartialType → Logged (List Fragment)
  | [] => return []
  | .mk name options :: rest => do
    let shown ← optionFragments name options
    return shown ++ (← partFragments rest)

def optionFragments (name : Text) : List TypeOption → Logged (List Fragment)
  | [] => return []
  | .mk vars args :: rest => do
    let vars ← entryFragments vars
    let args ← entryFragments args
    let shown := .text name :: generics vars ++ .text "(" :: Fragment.join ", " args ++ [.text ")"]
    return [.element .partialType shown] :: (← optionFragments name rest)

/-- Each entry as its type and its name. -/
def entryFragments : List (Text × Ty) → Logged (List Fragment)
  | [] => return []
  | (name, type) :: rest => do
    let shown ← type.fragment
    return (shown ++ [.text " ", .text name]) :: (← entryFragments rest)

end
end Ty

def Meta.fragment (style : MetaStyle) (info : Meta) : Logged Fragment :=
  match style, info.type with
  | .declared, .top => return []
  | _, type => type.fragment

namespace Obj

/-- Each entry as what its meta shows and its name; as its bare name when the meta shows nothing. -/
def entryFragments (style : MetaStyle) : List (Text × Meta) → Logged (List Fragment)
  | [] => return []
  | (name, info) :: rest => do
    let shown ← info.fragment style
    let entry := if shown.isEmpty then [.text name] else shown ++ [.text " ", .text name]
    return entry :: (← entryFragments style rest)

def argList (entries : List Fragment) : Fragment :=
  if entries.isEmpty then [] else .text "(" :: Fragment.join ", " entries ++ [.text ")"]

/-- The basis and the meta of an object, before its name. -/
def detailsFragment (style : MetaStyle) (obj : Obj) : Logged Fragment := do
  let shown ← obj.info.fragment style
  return [.element .objDetails (.text obj.basis :: .text " - " :: shown), .text " "]

def fragment (style : MetaStyle) (details : Bool) (obj : Obj) : Logged Fragment := do
  let vars ← entryFragments style obj.vars
  let args ← entryFragments style obj.args
  let head ← if details then detailsFragment style obj else pure []
  return [.element .obj (head ++ .text obj.name :: Ty.generics vars ++ argList args)]

end Obj

def Display.obj (display : Display) (obj : Obj) : Logged Fragment :=
  obj.fragment display.metas display.details

def Branching.keyword : Branching → Text
  | matching => "match"
  | cases => "case"

/-- The text of a constant; the two truth values have their own words. -/
def constantText : Json → Text
  | .bool b => if b then "true" else "false"
  | value => value.plainText

section

variable (display : Display)

mutual

/-- Arguments come before the base they are applied to, and method calls before theirs. -/
def Expr.fragment : Expr → Logged Fragment
  | .constant _ value => return Fragment.ofText (constantText value)
  | .name _ name => return Fragment.ofText name
  | .apply _ base args => do
    let args ← Arg.fragments args
    let base ← base.fragment
    return [.element .span (base ++ .text "(" :: Fragment.join ", " args ++ [.text ")"])]
  | .paren inner => do
    let inner ← inner.fragment
    return [.element .span (.text "(" :: inner ++ [.text ")"])]
  | .methods base calls => do
    let calls ← Expr.callFragment calls
    let base ← base.fragment
    return [.element .span (base ++ calls)]
  | .ifThenElse _ condition yes no => do
    let condition ← condition.fragment
    let yes ← yes.fragment
    let no ← no.fragment
    return [.element .span
      (.text "if " :: condition ++ .text " then " :: yes ++ .text " else " :: no)]
  | .branch kind _ subject arms => do
    let subject ← subject.fragment
    let arms ← Arm.fragments arms
    return [.element .span
      (.text (kind.keyword ++ " ") :: subject ++ [.text " of", .element .indented arms])]
  | .unknown tag _ => do
    Logged.report (.unknownExpr tag)
    return []

/-- Each method call behind a point. -/
def Expr.callFragment : List Expr → Logged Fragment
  | [] => return []
  | call :: rest => do
    let shown ← call.fragment
    return .text "." :: shown ++ (← Expr.callFragment rest)

def Arg.fragments : List Arg → Logged (List Fragment)
  | [] => return []
  | .named name value :: rest => do
    let shown ← value.fragment
    return (.text name :: .text " = " :: shown) :: (← Arg.fragments rest)
  | .positional value :: rest => do
    let shown ← value.fragment
    return shown :: (← Arg.fragments rest)
  | .unknown tag _ :: rest => do
    Logged.report (.unknownArg tag)
    return [] :: (← Arg.fragments rest)

def Guard.fragment : Guard → Logged Fragment
  | .ifGuard condition => do
    let shown ← condition.fragment
    return .text " if " :: shown
  | .elseGuard => return [.text " else"]
  | .noGuard => return []
  | .unknown tag _ => do
    Logged.report (.unknownGuard tag)
    return []

def Arm.fragments : List Arm → Logged Fragment
  | [] => return []
  | .mk pattern guard :: rest => do
    let pattern ← display.obj pattern
    let guard ← guard.fragment
    return .element .arm (pattern ++ guard) :: (← Arm.fragments rest)

end

def Val.fragment : Val → Logged Fragment
  | .tuple name args =>
    match Artifact.ofVal? (.tuple name args) with
    | some artifact => return artifact.fragment
    | none => do
      Logged.report (if name = Artifact.resultName then .incompleteResult (.tuple name args)
        else .unknownTuple name)
      return []
  | .str s => return [.element .textBlock (Fragment.ofText s)]
  | .int n => return [.element .textBlock [.text (Text.ofChars (Json.printInt n))]]
  | .float x => return [.element .textBlock [.text (Text.ofChars x.text)]]
  | .unknown tag _ => do
    Logged.report (.unknownVal tag)
    return []

mutual

/-- The body is taken first, then the statements below, then the head. -/
def Decl.fragment : Decl → Logged Fragment
  | .mk obj guard subs body => do
    let body ← match body with
      | some body => do
        let shown ← Expr.fragment display body
        pure (.text " = " :: shown)
      | none => pure []
    let shown ← SubStatement.fragments subs
    let below := if subs.isEmpty then [] else [.element .indented shown]
    let obj ← display.obj obj
    let guard ← Guard.fragment display guard
    return [.element .decl (obj ++ guard ++ body ++ below)]

def SubStatement.fragments : List SubStatement → Logged Fragment
  | [] => return []
  | .decl d :: rest => do
    let shown ← d.fragment
    return shown ++ (← SubStatement.fragments rest)
  | .annot expr :: rest => do
    let shown ← Expr.fragment display expr
    return .element .annot shown :: (← SubStatement.fragments rest)
  | .unknown tag _ :: rest => do
    Logged.report (.unknownSubStatement tag)
    SubStatement.fragments rest

end

/-- The annotation that prints a value, and the argument that holds the value. -/
def printAnnotation : Text := "#print"

def printedArg : Text := "p"

/-- An annotation shows its expression, and below it the value it prints. -/
def annotFragment (expr : Expr) : Logged Fragment := do
  let shown ← Expr.fragment display expr
  match display.index.lookup expr.headPosition with
  | none =>
    Logged.report (.missingResult expr.headPosition)
    return [.element .missingAnnot shown]
  | some (.tuple name args) =>
    if name = printAnnotation then
      match Members.get? printedArg args with
      | none =>
        Logged.report (.nothingPrinted expr.headPosition)
        return [.element .annot shown]
      | some printed =>
        let value ← printed.fragment
        return [.element .annot (shown ++ .lineBreak :: value)]
    else return [.element .annot shown]
  | some _ => return [.element .annot shown]

/-- Types, each in an element of its own. -/
def optionSpans : List Ty → Logged (List Fragment)
  | [] => return []
  | type :: rest => do
    let shown ← type.fragment
    return [.element .span shown] :: (← optionSpans rest)

def typeVarsFragment (vars : Members Ty) : Logged Fragment :=
  return Ty.generics (← Ty.entryFragments vars)

def Statement.fragment : Statement → Logged Fragment
  | .decl d => d.fragment display
  | .multiTypeDef name vars options => do
    let options ← optionSpans options
    let vars ← typeVarsFragment vars
    return [.element .statement
      (.text "class " :: .text name :: vars ++ .text " = " :: Fragment.join " | " options)]
  | .typeDef type => do
    let shown ← type.fragment
    return [.element .statement (.text "data " :: shown)]
  | .classInstance typeName vars className => do
    let vars ← typeVarsFragment vars
    return [.element .statement
      (.text "instance " :: .text typeName :: vars ++ [.text " of ", .text className])]
  | .classDecl name vars => do
    let vars ← typeVarsFragment vars
    return [.element .statement (.text "class " :: .text name :: vars)]
  | .globalAnnot expr => annotFragment display expr
  | .comment text => return [.element .comment [.prose (display.comments text)]]
  | .unknown tag _ => do
    Logged.report (.unknownStatement tag)
    return []

def statementFragments : List Statement → Logged (List Fragment)
  | [] => return []
  | statement :: rest => do
    let shown ← statement.fragment display
    return shown :: (← statementFragments rest)

/-- Statements, each on a line of its own. -/
def statementsFragment (statements : List Statement) : Logged Fragment :=
  return Fragment.join "\n" (← statementFragments display statements)

end
end WebDocs
