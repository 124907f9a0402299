import WebDocs.Text.Blank
import WebDocs.Text.Percent
import WebDocs.Text.Punycode

namespace WebDocs.Markdown.Address

open WebDocs.Text

def isSchemeChar (c : CodePoint) : Bool := c.isAlphanum || c.isAmong "+-."

/-- The parts of an address, in order. The scheme has its colon; a host without the form of a name
stands in brackets, which it keeps only if there is a colon in it. -/
structure Parts where
  scheme : List CodePoint
  hasSlashes : Bool
  user : List CodePoint
  host : List CodePoint
  portNumber : List CodePoint
  path : List CodePoint

/-- The scheme with its colon, and the rest. -/
def splitScheme (s : List CodePoint) : List CodePoint × List CodePoint :=
  match s.takeWhile isSchemeChar, s.dropWhile isSchemeChar with
  | c :: cs, .scalar ':' :: rest => (c :: cs ++ [.scalar ':'], rest)
  | _, _ => ([], s)

/-- Schemes whose host comes after two slashes only. -/
def slashed : List Text := ["http:", "https:", "ftp:", "gopher:", "file:"]

/-- The scheme that never has a host. -/
def hostless : List CodePoint := ("javascript:" : Text).toList

def isLabelChar (c : CodePoint) : Bool := c.isAlphanum || c.isAmong "+-_"

/-- Labels of host names may have characters of all scripts, and at most 63. -/
def isLabel (label : List CodePoint) : Bool :=
  label.all (fun c => isLabelChar c || 0x7f < c.toNat) && label.length ≤ 63

/-- The dots of other scripts that part a host name. -/
def isWideDot (c : CodePoint) : Bool := [0x3002, 0xff0e, 0xff61].contains c.toNat

def dotted : List (List CodePoint) → List CodePoint := List.intercalate [.scalar '.']

/-- The labels up to the first one that is none, of which only the start counts, and what stands
behind them. -/
def hostLabels : List (List CodePoint) → List (List CodePoint) × List CodePoint
  | [] => ([], [])
  | label :: rest =>
    if isLabel label then
      let (labels, behind) := hostLabels rest
      (label :: labels, behind)
    else
      let start := (label.takeWhile isLabelChar).take 63
      ([start], dotted (label.drop start.length :: rest))

/-- What comes before the last `@`, and the rest. -/
def splitUser (s : List CodePoint) : List CodePoint × List CodePoint :=
  let host := (s.reverse.takeWhile (· ≠ CodePoint.scalar '@')).reverse
  ((s.take (s.length - host.length)).dropLast, host)

/-- The digits behind a last colon, and what stands before the colon. -/
def splitPort (s : List CodePoint) : List CodePoint × List CodePoint :=
  let digits := (s.reverse.takeWhile CodePoint.isDigit).reverse
  let before := s.take (s.length - digits.length)
  if before.getLast? = some (.scalar ':') then (digits, before.dropLast) else ([], s)

def isHostEnd (c : CodePoint) : Bool := c.isAmong "%/?;#'\x7b\x7d|\\^\x60<>\" \r\n\t"

/-- The host within brackets, or its labels and what stands behind them. -/
def nameOf (host : List CodePoint) : List CodePoint × List CodePoint :=
  if host.head? = some (.scalar '[') && host.getLast? = some (.scalar ']') then
    (if host.length ≤ 255 then (host.drop 1).dropLast else [], [])
  else
    let (labels, behind) := hostLabels (host.splitOn (.scalar '.'))
    let name := dotted labels
    (if name.length ≤ 255 then name else [], behind)

/-- The parts of an address behind its scheme and its slashes. A colon at the end of the host is left
to the path. -/
def withHost (scheme : List CodePoint) (hasSlashes : Bool) (s : List CodePoint) : Parts :=
  let authority := s.takeWhile fun c => !c.isAmong "/?#"
  let (user, place) := splitUser authority
  let whole := place.takeWhile (!isHostEnd ·)
  let named := if whole.getLast? = some (.scalar ':') then whole.dropLast else whole
  let (portNumber, host) := splitPort named
  let (host, behind) := nameOf host
  { scheme, hasSlashes, user, host, portNumber
    path := behind ++ place.drop named.length ++ s.drop authority.length }

/-- Takes an address apart. A scheme that is not known has a host even without slashes. -/
def split (s : List CodePoint) : Parts :=
  let (scheme, rest) := splitScheme (trimBlanks s)
  let hasSlashes := rest.take 2 = [.scalar '/', .scalar '/'] && scheme ≠ hostless
  let hasHost := hasSlashes ||
    !scheme.isEmpty && scheme ≠ hostless && !slashed.contains (Text.ofList scheme)
  let rest := if hasSlashes then rest.drop 2 else rest
  if hasHost then withHost scheme hasSlashes rest else ⟨scheme, hasSlashes, [], [], [], rest⟩

def unsplit (parts : Parts) : List CodePoint :=
  parts.scheme ++ (if parts.hasSlashes then [.scalar '/', .scalar '/'] else []) ++
    (if parts.user.isEmpty then [] else parts.user ++ [.scalar '@']) ++
    (if parts.host.contains (.scalar ':') then .scalar '[' :: parts.host ++ [.scalar ']']
      else parts.host) ++
    (if parts.portNumber.isEmpty then [] else (.scalar ':' :: parts.portNumber)) ++ parts.path

/-- Hosts of these schemes are known by name. -/
def isNamed (parts : Parts) : Bool :=
  let named : List Text := ["", "http:", "https:", "mailto:"]
  named.contains (Text.ofList parts.scheme)

def labelsOf (host : List CodePoint) : List (List CodePoint) :=
  (host.map fun c => if isWideDot c then .scalar '.' else c).splitOn (.scalar '.')

/-- The host in ASCII. -/
def toAscii (parts : Parts) : Parts :=
  if isNamed parts then
    { parts with host := dotted ((labelsOf parts.host).map Punycode.encodeLabel) }
  else parts

/-- The host in the characters of its script, if all its labels can be read. -/
def toScript (parts : Parts) : Parts :=
  match (labelsOf parts.host).mapM Punycode.decodeLabel? with
  | some labels => if isNamed parts then { parts with host := dotted labels } else parts
  | none => parts

/-- Characters that an address keeps as they are. -/
def isKept (c : Char) : Bool := c.isAlphanum || ";/?:@&=+$,-_.!~*'()#".toList.contains c

def encodeCode (c : CodePoint) : List CodePoint := (Percent.encodeCode isKept c).map .scalar

/-- Percent-encodes all but the kept characters and what is encoded already. -/
def encode : List CodePoint → List CodePoint
  | .scalar '%' :: a :: b :: rest =>
    match hexValue? a, hexValue? b with
    | some _, some _ => .scalar '%' :: a :: b :: encode rest
    | _, _ => encodeCode '%' ++ encode (a :: b :: rest)
  | c :: rest => encodeCode c ++ encode rest
  | [] => []

def normalize (s : List CodePoint) : List CodePoint := encode (unsplit (toAscii (split s)))

def refusedSchemes : List Text := ["vbscript:", "javascript:", "file:", "data:"]

/-- Data that is a picture. -/
def pictures : List Text :=
  ["data:image/gif;", "data:image/png;", "data:image/jpeg;", "data:image/webp;"]

/-- Scripts, files and data are no targets, pictures apart. -/
def isAllowed (address : List CodePoint) : Bool :=
  let s := Text.ofList ((trimBlanks address).map CodePoint.toLower)
  !refusedSchemes.any (s.startsWith ·) || pictures.any (s.startsWith ·)

/-- Characters that stay encoded for the reader, since they part an address. -/
def isReserved (c : Char) : Bool := ";/?:@&=+$,#%".toList.contains c

/-- Encoded octets as characters; an octet of no character is one replacement character. -/
def showOctets (bytes : List UInt8) : List CodePoint :=
  (Utf8.units bytes).flatMap fun
    | .char c => (Percent.encodeChar (!isReserved ·) c).map .scalar
    | .fault _ width => List.replicate width (.scalar (Char.ofNat 0xfffd))

/-- Decodes runs of encoded octets; those of the current run are held back in reverse. -/
def decodeFrom (held : List UInt8) : List CodePoint → List CodePoint
  | .scalar '%' :: a :: b :: rest =>
    match hexValue? a, hexValue? b with
    | some high, some low => decodeFrom (UInt8.ofNat (16 * high + low) :: held) rest
    | _, _ => showOctets held.reverse ++ .scalar '%' :: decodeFrom [] (a :: b :: rest)
  | c :: rest => showOctets held.reverse ++ c :: decodeFrom [] rest
  | [] => showOctets held.reverse

/-- The address as a reader sees it. -/
def display (s : List CodePoint) : List CodePoint := decodeFrom [] (unsplit (toScript (split s)))

end WebDocs.Markdown.Address
