import WebDocs.CommandLine.Options
import WebDocs.Loading.FileSource
import WebDocs.Loading.HttpSource
import WebDocs.WebPage.Layout

namespace WebDocs.CommandLine

/-- What a run needs of the outside world. -/
structure Host (m : Type → Type) where
  isDirectory : FilePath → m (Except FileError Bool)
  read : FilePath → m (Except ReadError (List UInt8))
  request : Text → m HttpReply
  save : FilePath → List UInt8 → m (Except FileFault Unit)

/-- Errors that a run does not explain. -/
inductive Crash
  | source (cause : SourceFault)
  | shape (cause : ShapeError)
  | overflow (cause : Overflow)
  | unencodable (cause : Text.Unencodable)
  | file (cause : FileFault)

def Crash.message : Crash → Text
  | source cause => cause.message
  | shape cause => cause.message
  | overflow cause => cause.message
  | unencodable cause => cause.message
  | file cause => cause.message

/-- How a run ends. -/
inductive Ending
  | rendered (output : FilePath)
  | help
  | usage (cause : UsageError)
  | failed (message : Text)
  | crashed (cause : Crash)

/-- A run that is over. -/
structure Run where
  ending : Ending
  log : List Notice
  verbose : Bool

namespace Run

def usageLine : String := "Usage: catlnview [OPTIONS] [ROUTE]\n"

def helpText : String := usageLine ++ "
  Render a view of a Catln compiler dump, e.g. /typecheck or /docs/main.ct.

Options:
  -s, --source TEXT     Webdocs server URL or directory of JSON dumps
                        [default: " ++ defaultSource ++ "]
  -o, --output PATH     Output HTML path  [required]
  --timeout FLOAT       HTTP timeout in seconds  [default: 10.0]
  --types / --no-types  Show unconstrained types on objects  [default: types]
  --details             Show object basis and meta
  --dark-mode           Enable dark mode stylesheet
  -v, --verbose         Enable debug logging
  -h, --help            Show this message and exit.
"

def exitCode (run : Run) : Nat :=
  match run.ending with
  | .rendered _ | .help => 0
  | .failed _ | .crashed _ => 1
  | .usage _ => 2

/-- What is said of an output that is written. -/
def report (output : FilePath) : Text := "Rendered: " ++ output.text ++ "\n"

def standardOutput (run : Run) : Text :=
  match run.ending with
  | .rendered output => report output
  | .help => helpText
  | _ => ""

def usageHint : String := usageLine ++ "Try 'catlnview --help' for help.\n\n"

def errorText (run : Run) : Text :=
  match run.ending with
  | .usage cause =>
    (if cause.showsUsage then usageHint else "") ++ "Error: " ++ cause.message ++ "\n"
  | .failed message => "Error: " ++ message ++ "\n"
  | _ => ""

def noticeLine (notice : Notice) : Text :=
  notice.level.name ++ " " ++ notice.origin.name ++ ": " ++ notice.message ++ "\n"

/-- Notices for those who look for errors are shown on demand. -/
def isShown (run : Run) (notice : Notice) : Bool := run.verbose || notice.level ≠ .debug

/-- Notices come before the error that ends the run. Halves of pairs are shown by their numbers. -/
def standardError (run : Run) : String :=
  (Text.join ((run.log.filter run.isShown).map noticeLine) ++ run.errorText).shown

def crash? (run : Run) : Option Crash :=
  match run.ending with
  | .crashed cause => some cause
  | _ => none

end Run

variable {m : Type → Type} [Monad m]

/-- A source is a server or a directory. -/
inductive Source
  | server (base : Text)
  | directory (root : FilePath)

def isServerAddress (source : Text) : Bool :=
  source.startsWith ("http:" ++ "//") || source.startsWith ("https:" ++ "//")

def unsupported (source : Text) : Text :=
  "Unsupported source: " ++ source ++
    " (expected an http(s) URL or a directory of JSON dumps)"

def chooseSource (host : Host m) (source : Text) : m (Except Ending Source) := do
  if isServerAddress source then return .ok (.server (HttpSource.base source))
  let root := FilePath.ofText source
  match ← host.isDirectory root with
  | .ok true => return .ok (.directory root)
  | .ok false => return .error (.failed (unsupported source))
  | .error cause => return .error (.crashed (.file ⟨cause, root⟩))

def fetch (host : Host m) (path : Text) : Source → m (Logged (Outcome SourceFault))
  | .server base => HttpSource.fetch host.request base path
  | .directory root => do return FileSource.fetch root path (← host.read (FileSource.file root path))

/-- Writes the text of a page and says so. The file is opened before the text is encoded, and stays
empty if the text has no octets. -/
def writeText (host : Host m) (output : FilePath) (text : Text) : m Ending := do
  let encoded := Text.Utf8.encode text.toList
  match ← host.save output (encoded.toOption.getD []) with
  | .error cause => return .crashed (.file cause)
  | .ok () =>
    match encoded *> Text.Utf8.encode (Run.report output).toList with
    | .error cause => return .crashed (.unencodable cause)
    | .ok _ => return .rendered output

/-- Writes the page of a state. -/
def writePage (host : Host m) (settings : Settings) (route : Route) (state : LoadState) :
    m (Logged Ending) := do
  let page := state.page settings.options route
  let ending ← match page.value with
    | .error (.route cause) => pure (.failed cause.message)
    | .error (.shape cause) => pure (.crashed (.shape cause))
    | .error (.overflow cause) => pure (.crashed (.overflow cause))
    | .error (.unencodable cause) => pure (.crashed (.unencodable cause))
    | .ok shown => writeText host settings.output shown.html
  return ⟨ending, page.log⟩

def renderRoute (host : Host m) (settings : Settings) (route : Route) : m (Logged Ending) := do
  match ← chooseSource host settings.source with
  | .error ending => return pure ending
  | .ok source =>
    let path := route.view.sourcePath
    let loaded := Loader.initial.load path (← fetch host path source)
    let shown : Logged Ending ← match loaded.value.2 with
      | .error cause => pure (pure (.crashed (.source cause)))
      | .ok (.failed _ error) =>
        pure (pure (.failed ("Could not load " ++ path ++ ": " ++ error.message)))
      | .ok state => writePage host settings route state
    return ⟨shown.value, loaded.log ++ shown.log⟩

def render (host : Host m) (settings : Settings) : m (Logged Ending) :=
  match Route.parse settings.route with
  | .error cause => return pure (.failed cause.message)
  | .ok route => renderRoute host settings route

def run (host : Host m) (environment : Environment) (args : List Text) : m Run :=
  match Command.ofList environment args with
  | .error (.usage cause) => return ⟨.usage cause, [], false⟩
  | .error (.file cause) => return ⟨.crashed (.file cause), [], false⟩
  | .ok ⟨.help, verbose⟩ => return ⟨.help, [], verbose⟩
  | .ok ⟨.render settings, verbose⟩ => do
    let shown ← render host settings
    return ⟨shown.value, shown.log, verbose⟩

/-- A disk, the answer to every request, and the addresses that were asked for, the last one
first. -/
structure Session where
  disk : Disk
  reply : HttpReply
  asked : List Text

namespace Session

/-- The host of a session. -/
def host : Host (StateM Session) where
  isDirectory path := return (← get).disk.isDirectory path
  read path := return (← get).disk.read path
  request address := do
    modify fun session => { session with asked := address :: session.asked }
    return (← get).reply
  save path bytes := do
    let effect := (← get).disk.saving path bytes
    modify fun session => { session with disk := effect.disk }
    return effect.fault.elim (.ok ()) .error

end Session
end WebDocs.CommandLine
