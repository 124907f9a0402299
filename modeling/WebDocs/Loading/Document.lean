import WebDocs.Json.Reader
import WebDocs.Text.Encoding

namespace WebDocs

inductive DocumentError
  | encoding (cause : Text.EncodingError)
  | json (cause : Json.ReadError)

def DocumentError.message : DocumentError → String
  | encoding cause => cause.message
  | json cause => cause.message

def Json.ofBytes (bytes : List UInt8) : Except DocumentError Json :=
  match Text.Encoding.decode bytes with
  | .error cause => .error (.encoding cause)
  | .ok text =>
    match Json.read text with
    | .ok value => .ok value
    | .error cause => .error (.json cause)

/-- Why a source gives up with an error that is no matter of the document. -/
inductive SourceFault
  | nulInName
  | unencodable (cause : Text.Unencodable)
  | badAddress (reason : Text)

def SourceFault.message : SourceFault → Text
  | nulInName => "embedded null byte"
  | unencodable cause => cause.message
  | badAddress reason => reason

end WebDocs
