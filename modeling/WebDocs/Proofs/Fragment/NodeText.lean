import WebDocs.Fragment.Node

namespace WebDocs

def joined (separator : Text) (texts : List (List CodePoint)) : List CodePoint :=
  List.intercalate separator.toList texts

/-- Entries between two marks; nothing without entries. -/
def enclosed (left right : Text) (entries : List (List CodePoint)) : List CodePoint :=
  if entries.isEmpty then [] else left.toList ++ joined ", " entries ++ right.toList

namespace Ty

mutual

def text : Ty → List CodePoint
  | top => ("TopType" : Text).toList
  | typeVar name => name.toList
  | sum parts => joined " | " (partTexts parts)
  | unknown _ _ => []

/-- One text for each option of each part. -/
def partTexts : List PartialType → List (List CodePoint)
  | [] => []
  | .mk name options :: rest => optionTexts name options ++ partTexts rest

/-- An option is the name, its variables if it has any, and always its arguments. -/
def optionTexts (name : Text) : List TypeOption → List (List CodePoint)
  | [] => []
  | .mk vars args :: rest =>
    (name.toList ++ enclosed "<" ">" (entryTexts vars) ++
      (("(" : Text).toList ++ joined ", " (entryTexts args)) ++ (")" : Text).toList) ::
        optionTexts name rest

/-- Each entry as its type and its name. -/
def entryTexts : List (Text × Ty) → List (List CodePoint)
  | [] => []
  | (name, type) :: rest => (type.text ++ ((" " : Text).toList ++ name.toList)) :: entryTexts rest

end
end Ty

/-- What an object shows of a meta: in the declared style nothing for an unconstrained type. -/
def Meta.text (style : MetaStyle) (info : Meta) : List CodePoint :=
  match style, info.type with
  | .declared, .top => []
  | _, type => type.text

namespace Obj

/-- An entry whose meta shows nothing is its bare name. -/
def entryText (style : MetaStyle) (entry : Text × Meta) : List CodePoint :=
  if entry.2.text style = [] then entry.1.toList
  else entry.2.text style ++ ((" " : Text).toList ++ entry.1.toList)

def detailsText (style : MetaStyle) (obj : Obj) : List CodePoint :=
  obj.basis.toList ++ ((" - " : Text).toList ++ obj.info.text style) ++ (" " : Text).toList

def text (style : MetaStyle) (details : Bool) (obj : Obj) : List CodePoint :=
  (if details then detailsText style obj else []) ++
    (obj.name.toList ++ enclosed "<" ">" (obj.vars.map (entryText style))) ++
    enclosed "(" ")" (obj.args.map (entryText style))

end Obj

/-- A constant as it is read: a truth value is its word, a text stands for itself, a number is its
numeral. A constant that is none of these stands as messages show it. -/
def Json.literal : Json → List CodePoint
  | bool true => ("true" : Text).toList
  | bool false => ("false" : Text).toList
  | str s => s.toList
  | int n => (toString n : Text).toList
  | float x => (Text.ofChars x.text).toList
  | null => ("None" : Text).toList
  | arr items => (Text.ofChars (arr items).display).toList
  | obj members => (Text.ofChars (obj members).display).toList

section

variable (display : Display)

def Display.objText (obj : Obj) : List CodePoint := obj.text display.metas display.details

mutual

def Expr.text : Expr → List CodePoint
  | .constant _ value => value.literal
  | .name _ name => name.toList
  | .apply _ base args =>
    base.text ++ (("(" : Text).toList ++ joined ", " (Arg.texts args)) ++ (")" : Text).toList
  | .paren inner => ("(" : Text).toList ++ inner.text ++ (")" : Text).toList
  | .methods base calls => base.text ++ Expr.callText calls
  | .ifThenElse _ condition yes no =>
    ("if " : Text).toList ++ condition.text ++ ((" then " : Text).toList ++ yes.text) ++
      ((" else " : Text).toList ++ no.text)
  | .branch kind _ subject arms =>
    (kind.keyword ++ " ").toList ++ subject.text ++ ((" of" : Text).toList ++ Arm.text arms)
  | .unknown _ _ => []

def Expr.callText : List Expr → List CodePoint
  | [] => []
  | call :: rest => ("." : Text).toList ++ call.text ++ Expr.callText rest

def Arg.texts : List Arg → List (List CodePoint)
  | [] => []
  | .named name value :: rest =>
    (name.toList ++ ((" = " : Text).toList ++ value.text)) :: Arg.texts rest
  | .positional value :: rest => value.text :: Arg.texts rest
  | .unknown _ _ :: rest => [] :: Arg.texts rest

def Guard.text : Guard → List CodePoint
  | .ifGuard condition => (" if " : Text).toList ++ condition.text
  | .elseGuard => (" else" : Text).toList
  | .noGuard => []
  | .unknown _ _ => []

/-- The arms follow each other with nothing in between. -/
def Arm.text : List Arm → List CodePoint
  | [] => []
  | .mk pattern guard :: rest => display.objText pattern ++ guard.text ++ Arm.text rest

end

/-- The contents of a file; those of an embedded page are no text of the page around it. -/
def fileText (name contents : Text) : List CodePoint :=
  if (".html" : Text).toList <:+ name.toList then [] else contents.toList

/-- A tuple has a text if it carries a file: a name and contents that are both texts. -/
def Val.text : Val → List CodePoint
  | .tuple name args =>
    if name = "CatlnResult" then
      match Members.get? "name" args, Members.get? "contents" args with
      | some (.str file), some (.str contents) => fileText file contents
      | _, _ => []
    else []
  | .str s => s.toList
  | .int n => (toString n : Text).toList
  | .float x => (Text.ofChars x.text).toList
  | .unknown _ _ => []

def Decl.bodyText : Option Expr → List CodePoint
  | some body => (" = " : Text).toList ++ Expr.text display body
  | none => []

mutual

/-- The statements below a declaration follow its body. -/
def Decl.text : Decl → List CodePoint
  | .mk obj guard subs body =>
    display.objText obj ++ Guard.text display guard ++ Decl.bodyText display body ++
      SubStatement.text subs

def SubStatement.text : List SubStatement → List CodePoint
  | [] => []
  | .decl d :: rest => d.text ++ SubStatement.text rest
  | .annot expr :: rest => Expr.text display expr ++ SubStatement.text rest
  | .unknown _ _ :: rest => SubStatement.text rest

end

/-- The value that an annotation prints. -/
def printedText (expr : Expr) : List CodePoint :=
  match display.index.lookup expr.headPosition with
  | some (.tuple name args) =>
    if name = printAnnotation then (Members.get? printedArg args).elim [] Val.text else []
  | _ => []

def typeVarsText (vars : Members Ty) : List CodePoint := enclosed "<" ">" (Ty.entryTexts vars)

/-- A comment is prose and has no notation. -/
def Statement.text : Statement → List CodePoint
  | .decl d => d.text display
  | .multiTypeDef name vars options =>
    ("class " : Text).toList ++ (name.toList ++ typeVarsText vars) ++
      ((" = " : Text).toList ++ joined " | " (options.map Ty.text))
  | .typeDef type => ("data " : Text).toList ++ type.text
  | .classInstance typeName vars className =>
    ("instance " : Text).toList ++ (typeName.toList ++ typeVarsText vars) ++
      ((" of " : Text).toList ++ className.toList)
  | .classDecl name vars => ("class " : Text).toList ++ (name.toList ++ typeVarsText vars)
  | .globalAnnot expr => Expr.text display expr ++ printedText display expr
  | .comment _ => []
  | .unknown _ _ => []

end
end WebDocs
