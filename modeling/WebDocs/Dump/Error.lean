import WebDocs.Dump.Payload

namespace WebDocs

/-- Why a document or a response does not have the structure it should have. -/
inductive Malformed
  | notAPair
  | notLists
  | duplicatePage (name : Text)
  | pageEntry (cause : ShapeError)
  | pageKinds (name : Json)
  | annotationEntry (cause : ShapeError)
  | pageAndDirectory (path : Text)
  | responseNotArray
  | responseLength (length : Nat)

def quoted (s : Text) : String := String.ofList (Json.displayString s)

def Malformed.message : Malformed → String
  | notAPair => "document payload must be a [pages, annotations] pair"
  | notLists => "document pages and annotations must be lists"
  | duplicatePage name => s!"duplicate page name: {quoted name}"
  | pageEntry cause => s!"malformed page entry: {cause.message}"
  | pageKinds name => s!"malformed page entry for {name.displayText}"
  | annotationEntry cause => s!"malformed annotation entry: {cause.message}"
  | pageAndDirectory path => s!"{quoted path} is both a page and a directory"
  | responseNotArray => "response must be a non-empty JSON array"
  | responseLength length => s!"response array has {length} elements, expected 1 or 2"

/-- A number that does not fit the kind of number it should become. -/
inductive Overflow
  | infinity
  | tooLarge

def Overflow.message : Overflow → String
  | infinity => "cannot convert float infinity to integer"
  | tooLarge => "int too large to convert to float"

/-- Why a document is not decoded. Only the first kind is a property of documents that callers
expect. -/
inductive DecodeError
  | malformed (cause : Malformed)
  | shape (cause : ShapeError)
  | overflow (cause : Overflow)

def DecodeError.message : DecodeError → String
  | malformed cause => cause.message
  | shape cause => cause.message
  | overflow cause => cause.message

end WebDocs
