import WebDocs.Loading.Document
import WebDocs.Loading.Loader
import WebDocs.Text.Percent
import WebDocs.Text.Punycode

namespace WebDocs

open WebDocs.Text

/-- The answer to a request: a status and a body, a failure of the transport by its kind, or an
address that is refused. -/
inductive HttpReply
  | response (status : Nat) (body : List UInt8)
  | failure (kind reason : Text)
  | refused (reason : Text)

namespace HttpStatus

/-- The words of a status; a status of no known meaning has none. -/
def phrase : Nat → String
  | 100 => "Continue"
  | 101 => "Switching Protocols"
  | 102 => "Processing"
  | 103 => "Early Hints"
  | 300 => "Multiple Choices"
  | 301 => "Moved Permanently"
  | 302 => "Found"
  | 303 => "See Other"
  | 304 => "Not Modified"
  | 305 => "Use Proxy"
  | 307 => "Temporary Redirect"
  | 308 => "Permanent Redirect"
  | 400 => "Bad Request"
  | 401 => "Unauthorized"
  | 402 => "Payment Required"
  | 403 => "Forbidden"
  | 404 => "Not Found"
  | 405 => "Method Not Allowed"
  | 406 => "Not Acceptable"
  | 407 => "Proxy Authentication Required"
  | 408 => "Request Timeout"
  | 409 => "Conflict"
  | 410 => "Gone"
  | 411 => "Length Required"
  | 412 => "Precondition Failed"
  | 413 => "Request Entity Too Large"
  | 414 => "Request-URI Too Long"
  | 415 => "Unsupported Media Type"
  | 416 => "Requested Range Not Satisfiable"
  | 417 => "Expectation Failed"
  | 418 => "I'm a teapot"
  | 421 => "Misdirected Request"
  | 422 => "Unprocessable Entity"
  | 423 => "Locked"
  | 424 => "Failed Dependency"
  | 425 => "Too Early"
  | 426 => "Upgrade Required"
  | 428 => "Precondition Required"
  | 429 => "Too Many Requests"
  | 431 => "Request Header Fields Too Large"
  | 451 => "Unavailable For Legal Reasons"
  | 500 => "Internal Server Error"
  | 501 => "Not Implemented"
  | 502 => "Bad Gateway"
  | 503 => "Service Unavailable"
  | 504 => "Gateway Timeout"
  | 505 => "HTTP Version Not Supported"
  | 506 => "Variant Also Negotiates"
  | 507 => "Insufficient Storage"
  | 508 => "Loop Detected"
  | 510 => "Not Extended"
  | 511 => "Network Authentication Required"
  | _ => ""

def isSuccess (status : Nat) : Bool := status / 100 = 2

/-- What kind of answer a status other than success is. -/
def group (status : Nat) : String :=
  match status / 100 with
  | 1 => "Informational response"
  | 3 => "Redirect response"
  | 4 => "Client error"
  | 5 => "Server error"
  | _ => "Invalid status code"

def message (status : Nat) (address : Text) : Text :=
  let help := "https:" ++ "//developer.mozilla.org/en-US/docs/Web/HTTP/Status/"
  s!"{group status} '{status} {phrase status}' for url '" ++ address ++
    s!"'\nFor more information check: {help}{status}"

end HttpStatus

namespace HttpAddress

/-- The scheme before a colon, and the rest; without scheme all is the rest. -/
def splitScheme (s : List CodePoint) : List CodePoint × List CodePoint :=
  let scheme := s.takeWhile fun c => c.isAlphanum || c.isAmong "+-."
  match s.drop scheme.length with
  | .scalar ':' :: rest => if scheme.head?.any CodePoint.isAlpha then (scheme, rest) else ([], s)
  | _ => ([], s)

/-- The authority behind two slashes, and the rest. -/
def splitAuthority : List CodePoint → List CodePoint × List CodePoint
  | .scalar '/' :: .scalar '/' :: rest =>
    let authority := rest.takeWhile (!·.isAmong "/?#")
    (authority, rest.drop authority.length)
  | s => ([], s)

/-- The port that a scheme has if none is given. -/
def defaultPort (scheme : List CodePoint) : Option (List CodePoint) :=
  if scheme = ("http" : Text).toList then some ("80" : Text).toList
  else if scheme = ("https" : Text).toList then some ("443" : Text).toList
  else none

/-- Host and port: small letters, no default port. A host with half of a pair and a port that is no
number are refused. -/
def hostAndPort (scheme s : List CodePoint) : Except SourceFault (List CodePoint) :=
  let bracket :=
    if s.head? = some (.scalar '[') then (s.takeWhile (· ≠ CodePoint.scalar ']')).length else 0
  let host := s.take bracket ++ (s.drop bracket).takeWhile (· ≠ CodePoint.scalar ':')
  let port := s.drop (host.length + 1)
  let labels := (host.map CodePoint.toLower).splitOn (.scalar '.')
  let name := List.intercalate [.scalar '.'] (labels.map Punycode.encodeLabel)
  if !host.all CodePoint.isScalar then
    .error (.badAddress s!"Invalid IDNA hostname: {quoted (Text.ofList host)}")
  else if !port.all CodePoint.isDigit then
    .error (.badAddress s!"Invalid port: {quoted (Text.ofList port)}")
  else if port.isEmpty || defaultPort scheme = some port then .ok name
  else .ok (name ++ .scalar ':' :: port)

/-- Resolves one part of a path after those read so far, which stand in reverse. -/
def resolvePart (read : List (List CodePoint)) (part : List CodePoint) : List (List CodePoint) :=
  if part = [.scalar '.'] then read
  else if part = [.scalar '.', .scalar '.'] then if read = [[]] then read else read.drop 1
  else part :: read

def resolveDots (path : List CodePoint) : List CodePoint :=
  let parts := path.splitOn (.scalar '/')
  if parts.any fun part => part = [.scalar '.'] || part = [.scalar '.', .scalar '.'] then
    List.intercalate [.scalar '/'] (parts.foldl resolvePart []).reverse
  else path

def isQueryChar (c : Char) : Bool := 0x20 < c.toNat && c.toNat < 0x7f && !"\"#<>".toList.contains c

def isPathChar (c : Char) : Bool := isQueryChar c && !"?`\x7b\x7d".toList.contains c

/-- Path and query of an address. -/
def encodeTarget (s : List CodePoint) : List Char :=
  let path := s.takeWhile (· ≠ CodePoint.scalar '?')
  Percent.encode isPathChar (resolveDots path) ++
    Percent.encode (fun c => c = '?' || isQueryChar c) (s.drop path.length)

/-- An address without halves of pairs. Its characters are encoded one by one. -/
def encodable (s : List CodePoint) : Except SourceFault (List CodePoint) :=
  match s.find? (!·.isScalar) with
  | some (.surrogate half) => .error (.unencodable ⟨half, 0, 1⟩)
  | _ => .ok s

/-- An address with a scheme and a host, written in the one way that requests have. -/
def normalize (s : List CodePoint) : Except SourceFault (List CodePoint) :=
  let (scheme, rest) := splitScheme s
  let (authority, target) := splitAuthority rest
  if scheme.isEmpty || authority.isEmpty then encodable s
  else do
    let scheme := scheme.map CodePoint.toLower
    let host := (authority.reverse.takeWhile (· ≠ CodePoint.scalar '@')).reverse
    let place ← hostAndPort scheme host
    let _ ← encodable s
    let user := authority.take (authority.length - host.length)
    return scheme ++ ("://" : Text).toList ++ user ++ place ++
      (encodeTarget (if target.isEmpty then [.scalar '/'] else target)).map .scalar

/-- Control characters of ASCII are refused. -/
def check (s : Text) : Except SourceFault Unit :=
  match s.toList.findIdx? fun c => c.toNat < 0x20 || c.toNat = 0x7f with
  | none => .ok ()
  | some n =>
    let shown := quoted (Text.ofList ((s.toList.drop n).take 1))
    .error (.badAddress s!"Invalid non-printable ASCII character in URL, {shown} at position {n}.")

/-- The address of a path below a base. A path that is an address itself stands for itself; scheme
and host alone count for nothing. -/
def ofPath (base path : Text) : Except SourceFault Text := do
  check base
  let root ← normalize (base.toList ++ [.scalar '/'])
  check path
  let path := path.toList.takeWhile (· ≠ CodePoint.scalar '#')
  let (scheme, rest) := splitScheme path
  let (authority, target) := splitAuthority rest
  let whole :=
    if scheme.isEmpty || authority.isEmpty then
      root ++ target.dropWhile (· = CodePoint.scalar '/')
    else path
  return Text.ofList (← normalize whole)

end HttpAddress

namespace HttpSource

/-- The base of all addresses: a source without the slashes at its end. -/
def base (source : Text) : Text :=
  Text.ofList (dropEndWhile (· = CodePoint.scalar '/') source.toList)

def notice (base path : Text) : Notice := .fetching (base ++ path)

def outcome (path address : Text) : HttpReply → Outcome SourceFault
  | .refused reason => .crash (.badAddress reason)
  | .failure kind reason => .error (.transport path (if reason = "" then kind else reason))
  | .response status body =>
    if HttpStatus.isSuccess status then
      match Json.ofBytes body with
      | .ok payload => .payload payload
      | .error cause => .error (.transport path ("invalid JSON: " ++ cause.message))
    else .error (.transport path (HttpStatus.message status address))

/-- Asks for the document of a path, if it has an address. -/
def fetch {m : Type → Type} [Monad m] (request : Text → m HttpReply) (base path : Text) :
    m (Logged (Outcome SourceFault)) := do
  let result : Outcome SourceFault ← match HttpAddress.ofPath base path with
    | .error cause => pure (Outcome.crash cause)
    | .ok address => outcome path address <$> request address
  return do
    Logged.report (notice base path)
    return result

end HttpSource
end WebDocs
