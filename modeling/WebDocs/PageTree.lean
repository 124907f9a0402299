import WebDocs.Dump.Error
import WebDocs.Text.Blank

namespace WebDocs

inductive PageTree
  | page
  | directory (children : List (Text × PageTree))

namespace PageTree

def segments (name : Text) : List Text := (name.toList.splitOn (.scalar '/')).map Text.ofList

def joined (segments : List Text) : Text := Text.intercalate "/" segments

/-- Adds a page below the directory that `walked` leads to. -/
def add (walked : List Text) : List Text → Members PageTree →
    Except Malformed (Members PageTree)
  | [], children => .ok children
  | [leaf], children =>
    match children.get? leaf with
    | some (.directory _) => .error (.pageAndDirectory (joined (walked ++ [leaf])))
    | _ => .ok (children.put leaf page)
  | dir :: rest, children =>
    match children.get? dir with
    | some page => .error (.pageAndDirectory (joined (walked ++ [dir])))
    | some (directory inner) =>
      (add (walked ++ [dir]) rest inner).map fun inner => children.put dir (directory inner)
    | none => (add (walked ++ [dir]) rest []).map fun inner => children.put dir (directory inner)

/-- Inserts a text into texts in ascending order, once. -/
def insertName (name : Text) : List Text → List Text
  | [] => [name]
  | other :: rest =>
    if name < other then name :: other :: rest
    else if name = other then other :: rest
    else other :: insertName name rest

/-- The names in ascending order, each once. -/
def sortNames (names : List Text) : List Text := names.foldr insertName []

/-- The top directory of the tree of all names, added in ascending order. -/
def ofNames (names : List Text) : Except Malformed (Members PageTree) :=
  (sortNames names).foldlM (fun children name => add [] (segments name) children) []

/-- The entry page is listed first among its siblings. -/
def mainPage : Text := "main.ct"

/-- Display order of siblings: the entry page, then by name. -/
def comesBefore (a b : Text) : Bool := b ≠ mainPage && (a = mainPage || a < b)

variable {α : Type}

def insertSibling (name : Text) (item : α) : Members α → Members α
  | [] => [(name, item)]
  | (other, x) :: rest =>
    if comesBefore other name then (other, x) :: insertSibling name item rest
    else (name, item) :: (other, x) :: rest

def arrange (children : Members α) : Members α :=
  children.foldr (fun (name, item) rest => insertSibling name item rest) []

def orderedChildren (children : Members PageTree) : List Text := (arrange children).keys

end PageTree

structure TocEntry where
  name : Text
  path : Text
  depth : Nat
  isPage : Bool
  deriving DecidableEq

namespace PageTree

/-- The path of an entry below the path of its directory; the top directory has the empty path. -/
def pathBelow (parent name : Text) : Text := if parent = "" then name else parent ++ "/" ++ name

mutual

/-- The rows of one entry: its own, and those of its contents. -/
def rows (name path : Text) (depth : Nat) : PageTree → List TocEntry
  | page => [⟨name, path, depth, true⟩]
  | directory children =>
    ⟨name, path, depth, false⟩ :: (arrange (childRows path (depth + 1) children)).flatMap (·.2)

def childRows (parent : Text) (depth : Nat) :
    List (Text × PageTree) → List (Text × List TocEntry)
  | [] => []
  | (name, child) :: rest =>
    (name, rows name (pathBelow parent name) depth child) :: childRows parent depth rest

end

/-- The rows of a directory's contents, directories before what they hold. -/
def toc (children : Members PageTree) (parent : Text) (depth : Nat) : List TocEntry :=
  (arrange (childRows parent depth children)).flatMap (·.2)

end PageTree
end WebDocs
