import WebDocs.Json.Display

namespace WebDocs

/-- Why a payload does not have the shape that is asked for. -/
inductive ShapeError
  | notIterable (value : Json)
  | notUnpackable (value : Json)
  | tooFew (expected found : Nat)
  | tooMany (expected : Nat)
  | notSubscriptable (value : Json)
  | noItem (value : Json)
  | noKey (key : Json)
  | notAName (value : Json)
  | notText

namespace ShapeError

def message : ShapeError → String
  | notIterable value => s!"'{value.kindWord}' object is not iterable"
  | notUnpackable value => s!"cannot unpack non-iterable {value.kindWord} object"
  | tooFew expected found => s!"not enough values to unpack (expected {expected}, got {found})"
  | tooMany expected => s!"too many values to unpack (expected {expected})"
  | notSubscriptable value => s!"'{value.kindWord}' object is not subscriptable"
  | noItem (.str _) => "string index out of range"
  | noItem value => s!"{value.kindWord} index out of range"
  | noKey key => key.displayText
  | notAName value => s!"expected a name, got {value.displayText}"
  | notText => "comment contents must be text"

end ShapeError

namespace Json

/-- The items of a list, the characters of a text, the keys of an object. -/
def elements? : Json → Option (List Json)
  | arr items => some items
  | str s => some (s.toList.map fun c => str ⟨[c]⟩)
  | obj members => some (members.map fun (key, _) => str key)
  | _ => none

def elements (value : Json) : Except ShapeError (List Json) :=
  match value.elements? with
  | some items => .ok items
  | none => .error (.notIterable value)

/-- The elements of a value that cannot have `n` of them, as an error. -/
def miscount (n : Nat) (value : Json) : ShapeError :=
  match value.elements? with
  | none => .notUnpackable value
  | some items => if items.length < n then .tooFew n items.length else .tooMany n

def unpack2 (value : Json) : Except ShapeError (Json × Json) :=
  match value.elements? with
  | some [a, b] => .ok (a, b)
  | _ => .error (miscount 2 value)

def unpack3 (value : Json) : Except ShapeError (Json × Json × Json) :=
  match value.elements? with
  | some [a, b, c] => .ok (a, b, c)
  | _ => .error (miscount 3 value)

def unpack4 (value : Json) : Except ShapeError (Json × Json × Json × Json) :=
  match value.elements? with
  | some [a, b, c, d] => .ok (a, b, c, d)
  | _ => .error (miscount 4 value)

def unpack5 (value : Json) : Except ShapeError (Json × Json × Json × Json × Json) :=
  match value.elements? with
  | some [a, b, c, d, e] => .ok (a, b, c, d, e)
  | _ => .error (miscount 5 value)

/-- The item of a list or the character of a text at a place; an object has no such key. -/
def item (i : Nat) (value : Json) : Except ShapeError Json :=
  match value with
  | arr items => items[i]?.elim (.error (.noItem value)) .ok
  | str s => s.toList[i]?.elim (.error (.noItem value)) fun c => .ok (str ⟨[c]⟩)
  | obj _ => .error (.noKey (.int i))
  | _ => .error (.notSubscriptable value)

def member? (key : Text) : Json → Option Json
  | obj members => Members.get? key members
  | _ => none

/-- The tag of a node is a text. -/
def tag? (node : Json) : Option Text :=
  match node.member? "tag" with
  | some (str tag) => some tag
  | _ => none

/-- The payload of a node; null when it has none. -/
def contents (node : Json) : Json := (node.member? "contents").getD null

mutual

/-- A name is a text, or an object that holds a name as its contents. -/
def name : Json → Except ShapeError Text
  | str s => .ok s
  | obj members => nameAmong members
  | value => .error (.notAName value)

def nameAmong : List (Text × Json) → Except ShapeError Text
  | [] => .error (.noKey (.str "contents"))
  | (key, value) :: rest => if key = "contents" then name value else nameAmong rest

end

/-- A constant is bare, or the contents of an object. -/
def constant : Json → Except ShapeError Json
  | obj members =>
    (Members.get? "contents" members).elim (.error (.noKey (.str "contents"))) .ok
  | value => .ok value

/-- One entry of a map that is written as pairs. -/
def entry (pair : Json) : Except ShapeError (Text × Json) := do
  let (key, value) ← pair.unpack2
  return (← key.name, value)

/-- A map is an object, or the elements of a value as pairs; null is the empty map. -/
def mapping : Json → Except ShapeError (Members Json)
  | null => .ok []
  | obj members => .ok members
  | value => do
    let pairs ← (← value.elements).mapM entry
    return Members.ofPairs pairs

/-- The empty values: null, false, zero, and a text, list or object without elements. -/
def isEmpty : Json → Bool
  | null => true
  | bool b => !b
  | int n => n = 0
  | float (.finite _ digits _ _) => digits = 0
  | float _ => false
  | str s => s = ""
  | arr items => items.isEmpty
  | obj members => members.isEmpty

/-- The elements of a value; an empty value of any kind has none. -/
def elementsOrNone (value : Json) : Except ShapeError (List Json) :=
  if value.isEmpty then .ok [] else value.elements

end Json
end WebDocs
