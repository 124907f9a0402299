import WebDocs.Json.Display
import WebDocs.Text.Blank

namespace WebDocs

/-- `root` is empty for a name below the working directory. -/
structure FilePath where
  root : Text
  parts : List Text
  deriving DecidableEq

namespace FilePath

def partsOf (s : Text) : List Text :=
  ((s.toList.splitOn (.scalar '/')).map Text.ofList).filter fun part => part ≠ "" && part ≠ "."

/-- Two slashes at the start are a root of their own; three or more are one. -/
def rootOf (s : Text) : Text :=
  match (s.toList.takeWhile (· = CodePoint.scalar '/')).length with
  | 0 => ""
  | 2 => "//"
  | _ => "/"

def ofText (s : Text) : FilePath := ⟨rootOf s, partsOf s⟩

def text (path : FilePath) : Text :=
  if path.root = "" && path.parts.isEmpty then "."
  else path.root ++ Text.intercalate "/" path.parts

/-- A name below a directory. -/
def child (path : FilePath) (name : Text) : FilePath :=
  { path with parts := path.parts ++ partsOf name }

/-- The directory that holds the file; the working directory and the root hold themselves. -/
def parent (path : FilePath) : FilePath := { path with parts := path.parts.dropLast }

def name (path : FilePath) : Text := path.parts.getLastD ""

end FilePath
end WebDocs
