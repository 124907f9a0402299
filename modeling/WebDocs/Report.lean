import WebDocs.Dump.Display
import WebDocs.Dump.Error

namespace WebDocs

inductive Level
  | debug
  | warning
  | error
  deriving DecidableEq

def Level.name : Level → String
  | debug => "DEBUG"
  | warning => "WARNING"
  | error => "ERROR"

/-- The part of the program that gives a notice. -/
inductive Origin
  | node
  | page
  | loader
  | fileSource
  | httpSource
  deriving DecidableEq

def Origin.name : Origin → String
  | node => "catlnview.renderer.ast_renderer"
  | page => "catlnview.renderer.html_renderer"
  | loader => "catlnview.source.loader"
  | fileSource => "catlnview.source.file_source"
  | httpSource => "catlnview.source.http_source"

inductive Notice
  | unknownType (tag : Tag)
  | unknownGuard (tag : Tag)
  | unknownArg (tag : Tag)
  | unknownExpr (tag : Tag)
  | unknownStatement (tag : Tag)
  | unknownSubStatement (tag : Tag)
  | unknownVal (tag : Tag)
  | missingResult (position : Json)
  | nothingPrinted (position : Json)
  | incompleteResult (value : Val)
  | unknownTuple (name : Text)
  | unexpectedListing (payload : Json)
  | cannotRender (path : Text) (cause : Malformed)
  | loadFailed (path message : Text)
  | staleResponse (path : Text)
  | reading (file path : Text)
  | fetching (address : Text)

namespace Notice

def level : Notice → Level
  | staleResponse _ | reading _ _ | fetching _ => .debug
  | loadFailed _ _ => .warning
  | _ => .error

def origin : Notice → Origin
  | unexpectedListing _ | cannotRender _ _ => .page
  | loadFailed _ _ | staleResponse _ => .loader
  | reading _ _ => .fileSource
  | fetching _ => .httpSource
  | _ => .node

def tagText (tag : Tag) : String := String.ofList (Val.displayTag tag)

def message : Notice → Text
  | unknownType tag => s!"Unknown type: {tagText tag}"
  | unknownGuard tag => s!"Unknown guard: {tagText tag}"
  | unknownArg tag => s!"Unknown tuple argument: {tagText tag}"
  | unknownExpr tag => s!"Unknown expression: {tagText tag}"
  | unknownStatement tag => s!"Unknown statement: {tagText tag}"
  | unknownSubStatement tag => s!"Unknown declaration sub-statement: {tagText tag}"
  | unknownVal tag => s!"Unknown value: {tagText tag}"
  | missingResult position => s!"No annotation result recorded at position {position.displayText}"
  | nothingPrinted position => s!"Print annotation at {position.displayText} has no 'p' argument"
  | incompleteResult value =>
    s!"Result tuple without string name and contents: {value.displayText}"
  | unknownTuple name => s!"Unknown value tuple name: {quoted name}"
  | unexpectedListing payload => s!"Unexpected LLVM payload of type {payload.kindWord}"
  | cannotRender path cause => "Cannot render " ++ path ++ ": " ++ cause.message
  | loadFailed path message => "Loading " ++ path ++ " failed: " ++ message
  | staleResponse path => "Discarding stale response for " ++ path
  | reading file path => "Reading " ++ file ++ " for " ++ path
  | fetching address => "Fetching " ++ address

end Notice

structure Logged (α : Type) where
  value : α
  log : List Notice

namespace Logged

variable {α β : Type}

def ret (value : α) : Logged α := ⟨value, []⟩

def andThen (first : Logged α) (next : α → Logged β) : Logged β :=
  ⟨(next first.value).value, first.log ++ (next first.value).log⟩

instance : Monad Logged where
  pure := ret
  bind := andThen

def report (notice : Notice) : Logged Unit := ⟨(), [notice]⟩

@[simp] theorem value_pure (a : α) : (pure a : Logged α).value = a := rfl

@[simp] theorem log_pure (a : α) : (pure a : Logged α).log = [] := rfl

@[simp] theorem value_bind (first : Logged α) (next : α → Logged β) :
    (first >>= next).value = (next first.value).value := rfl

@[simp] theorem log_bind (first : Logged α) (next : α → Logged β) :
    (first >>= next).log = first.log ++ (next first.value).log := rfl

end Logged
end WebDocs
