import WebDocs.Dump.Basic
import WebDocs.Json.Printer

namespace WebDocs

namespace Json

/-- Inserts a member among members in ascending order of their keys. -/
def insertMember (key : Text) (value : Json) : Members Json → Members Json
  | [] => [(key, value)]
  | (other, x) :: rest =>
    if key < other then (key, value) :: (other, x) :: rest
    else (other, x) :: insertMember key value rest

mutual

/-- The value with the members of every object in ascending order of their keys. -/
def sorted : Json → Json
  | arr items => arr (sortedItems items)
  | obj members => obj (sortedMembers members)
  | value => value

def sortedItems : List Json → List Json
  | [] => []
  | item :: rest => item.sorted :: sortedItems rest

def sortedMembers : List (Text × Json) → List (Text × Json)
  | [] => []
  | (key, value) :: rest => insertMember key value.sorted (sortedMembers rest)

end
end Json

def positionKey (position : Json) : Text :=
  .ofChars (position.sorted.print Json.compact)

/-- The values of annotations by position key, in order of the first annotation with each key. -/
structure PositionIndex where
  entries : Members Val
  deriving Inhabited

namespace PositionIndex

def empty : PositionIndex := ⟨[]⟩

/-- An annotation without a position is left out; a later one replaces an earlier one. -/
def add (index : PositionIndex) (entry : Annot) : PositionIndex :=
  match entry.position with
  | .null => index
  | position => ⟨index.entries.put (positionKey position) entry.value⟩

def ofAnnotations (annotations : List Annot) : PositionIndex := annotations.foldl add empty

def get? (index : PositionIndex) (key : Text) : Option Val := index.entries.get? key

def lookup (index : PositionIndex) : Json → Option Val
  | .null => none
  | position => index.get? (positionKey position)

def contains (index : PositionIndex) (key : Text) : Bool := (index.get? key).isSome

def size (index : PositionIndex) : Nat := index.entries.length

def keys (index : PositionIndex) : List Text := index.entries.keys

end PositionIndex
end WebDocs
