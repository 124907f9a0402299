import WebDocs.CommandLine.Run

namespace WebDocs.CommandLine

def Machine.fileError : IO.Error → FileError
  | .noFileOrDirectory .. => .missing
  | .inappropriateType _ code _ => if code = 20 then .notDirectory else .isDirectory
  | .alreadyExists .. => .taken
  | .invalidArgument .. => .nameTooLong
  | _ => .missing

def Machine.readError : IO.Error → ReadError
  | .permissionDenied _ _ words => .system words
  | error => .ofFile (fileError error)

def Machine.attempt {α : Type} (action : IO α) : IO (Except FileError α) := do
  try return .ok (← action) catch e => return .error (fileError e)

/-- Acts on the file of a path. The names of this machine are texts without halves of pairs. -/
def Machine.attemptAt {α : Type} (path : Text) (action : String → IO α) :
    IO (Except FileError α) :=
  match path.toString? with
  | some name => attempt (action name)
  | none => return .error .missing

def Machine.host : Host IO where
  isDirectory path := do
    match ← attemptAt (path.text ++ "/.") (fun name => IO.FS.realPath name) with
    | .ok _ => return .ok true
    | .error .nameTooLong => return .error .nameTooLong
    | .error _ => return .ok false
  read path := do
    let some name := path.text.toString? | return .error (.ofFile .missing)
    try return .ok (← IO.FS.readBinFile name).toList catch e => return .error (readError e)
  request _ := return .failure "ConnectError" "no transport to servers"
  save path bytes := do
    match ← attemptAt path.parent.text (fun name => IO.FS.createDirAll name) with
    | .error cause => return .error ⟨cause, path.parent⟩
    | .ok () =>
      match ← attemptAt path.text (IO.FS.writeBinFile · bytes.toByteArray) with
      | .error cause => return .error ⟨cause, path⟩
      | .ok () => return .ok ()

end WebDocs.CommandLine

open WebDocs.CommandLine in
def main (args : List String) : IO UInt32 := do
  let environment : Environment :=
    ⟨(← IO.getEnv "CATLNVIEW_SOURCE").map .ofString,
      (← IO.getEnv "CATLNVIEW_TIMEOUT").map .ofString⟩
  let finished ← run Machine.host environment (args.map .ofString)
  IO.print finished.standardOutput.shown
  IO.eprint finished.standardError
  match finished.crash? with
  | some cause => IO.eprintln cause.message.shown
  | none => pure ()
  return UInt32.ofNat finished.exitCode
