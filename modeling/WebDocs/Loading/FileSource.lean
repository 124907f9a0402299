import WebDocs.Files.Disk
import WebDocs.Loading.Document
import WebDocs.Loading.Loader

namespace WebDocs.FileSource

/-- The file of a path; the empty path is the index. -/
def file (root : FilePath) (path : Text) : FilePath :=
  let name := Text.ofList (Text.trimBy (· = CodePoint.scalar '/') path.toList)
  root.child ((if name = "" then ("index" : Text) else name) ++ ".json")

def notice (root : FilePath) (path : Text) : Notice := .reading (file root path).text path

/-- What a file that was read, or could not be read, answers for a path. -/
def outcome (root : FilePath) (path : Text) : Except ReadError (List UInt8) → Outcome SourceFault
  | .error .nulInName => .crash .nulInName
  | .error (.unencodable cause) => .crash (.unencodable cause)
  | .error (.system words) =>
    .error (.transport path ("cannot read " ++ (file root path).text ++ ": " ++ words))
  | .ok bytes =>
    match Json.ofBytes bytes with
    | .ok payload => .payload payload
    | .error cause =>
      .error (.transport path
        ("invalid UTF-8 JSON in " ++ (file root path).name ++ ": " ++ cause.message))

def fetch (root : FilePath) (path : Text) (contents : Except ReadError (List UInt8)) :
    Logged (Outcome SourceFault) := do
  Logged.report (notice root path)
  return outcome root path contents

end WebDocs.FileSource
