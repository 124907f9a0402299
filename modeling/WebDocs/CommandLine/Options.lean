import WebDocs.CommandLine.Similar
import WebDocs.Dump.Error
import WebDocs.Files.Disk
import WebDocs.Route
import WebDocs.Text.Numeral
import WebDocs.WebPage.View

namespace WebDocs.CommandLine

inductive Opt
  | source
  | output
  | timeout
  | types
  | details
  | dark
  | verbose
  | help
  deriving DecidableEq

namespace Opt

def takesValue : Opt → Bool
  | source | output | timeout => true
  | _ => false

/-- The long names of an option, and what each of them switches it to. -/
def longNames : List (Text × Opt × Bool) := [
  ("--source", source, true), ("--output", output, true), ("--timeout", timeout, true),
  ("--types", types, true), ("--no-types", types, false), ("--details", details, true),
  ("--dark-mode", dark, true), ("--verbose", verbose, true), ("--help", help, true)]

def shortNames : List (CodePoint × Opt) := [
  ('s', source), ('o', output), ('v', verbose), ('h', help)]

def ofLong? (name : Text) : Option (Opt × Bool) := Members.get? name longNames

def ofShort? (name : CodePoint) : Option Opt := (shortNames.find? (·.1 = name)).map (·.2)

end Opt

inductive UsageError
  | unknownOption (name : Text)
  | unwantedValue (name : Text)
  | missingValue (name : Text)
  | noOutput
  | noNumber (value : Text)
  | extraWords (words : List Text)

namespace UsageError

/-- The options a misspelt name may stand for. -/
def suggestion (name : Text) : String :=
  if !name.startsWith "--" then ""
  else match Similar.closest name (Opt.longNames.map (·.1)) with
    | [] => ""
    | [word] => s!" Did you mean {quoted word}?"
    | words =>
      let sorted := String.intercalate ", " ((words.mergeSort (· ≤ ·)).map quoted)
      s!" (Did you mean one of: {sorted}?)"

def message : UsageError → Text
  | unknownOption name => s!"No such option {quoted name}.{suggestion name}"
  | unwantedValue name => s!"Option {quoted name} does not take a value."
  | missingValue name => s!"Option {quoted name} requires an argument."
  | noOutput => "Missing option '--output' / '-o'."
  | noNumber value => s!"Invalid value for '--timeout': {quoted value} is not a valid float."
  | extraWords [word] => "Got unexpected extra argument (" ++ word ++ ")"
  | extraWords words => "Got unexpected extra arguments (" ++ Text.intercalate " " words ++ ")"

/-- Whether the usage is shown before the message. -/
def showsUsage : UsageError → Bool
  | unwantedValue _ | missingValue _ => false
  | _ => true

end UsageError

/-- What an option is given: a text, or its being on or off. -/
inductive Value
  | text (s : Text)
  | switch (isOn : Bool)

/-- Options in the order they are given, and the other words. -/
structure Words where
  given : List (Opt × Value)
  others : List Text

namespace Words

/-- A value that is written in the same word as its option, or is the next word. The result says
whether the next word is used. -/
def valueOf (opt : Opt) (name : Text) (joined : Option Text) (next : Option Text) :
    Except UsageError (List (Opt × Value) × Bool) :=
  match joined, next with
  | some s, _ => .ok ([(opt, .text s)], false)
  | none, some s => .ok ([(opt, .text s)], true)
  | none, none => .error (.missingValue name)

/-- A word of several short options; the first that takes a value takes the rest of the word. -/
def ofShorts (next : Option Text) : List CodePoint → Except UsageError (List (Opt × Value) × Bool)
  | [] => .ok ([], false)
  | c :: rest =>
    let name := Text.ofList ['-', c]
    match Opt.ofShort? c with
    | none => .error (.unknownOption name)
    | some opt =>
      if opt.takesValue then
        valueOf opt name (if rest.isEmpty then none else some (Text.ofList rest)) next
      else do
        let (others, used) ← ofShorts next rest
        return ((opt, .switch true) :: others, used)

/-- A word that starts with a hyphen, before the word `next`. -/
def ofOption (word : List CodePoint) (next : Option Text) :
    Except UsageError (List (Opt × Value) × Bool) :=
  let name := word.takeWhile (· ≠ CodePoint.scalar '=')
  let joined := if name.length < word.length then
      some (Text.ofList (word.drop (name.length + 1))) else none
  match Opt.ofLong? (Text.ofList name) with
  | some (opt, isOn) =>
    if opt.takesValue then valueOf opt (Text.ofList name) joined next
    else if joined.isSome then .error (.unwantedValue (Text.ofList name))
    else .ok ([(opt, .switch isOn)], false)
  | none =>
    match word with
    | .scalar '-' :: .scalar '-' :: _ => .error (.unknownOption (Text.ofList name))
    | _ => ofShorts next (word.drop 1)

/-- Two hyphens alone end the options; one hyphen alone is no option. -/
def ofList : List Text → Except UsageError Words
  | [] => .ok ⟨[], []⟩
  | word :: rest =>
    match word.toList with
    | [.scalar '-', .scalar '-'] => .ok ⟨[], rest⟩
    | .scalar '-' :: c :: cs => do
      let (given, usesNext) ← ofOption ('-' :: c :: cs) rest.head?
      let words ← match rest with
        | [] => ofList []
        | next :: behind => if usesNext then ofList behind else ofList (next :: behind)
      return { words with given := given ++ words.given }
    | _ => do
      let words ← ofList rest
      return { words with others := word :: words.others }

def has (words : Words) (opt : Opt) : Bool := words.given.any (·.1 = opt)

/-- The value that is given last. -/
def text? (words : Words) (opt : Opt) : Option Text :=
  words.given.reverse.findSome? fun
    | (o, .text s) => if o = opt then some s else none
    | _ => none

def isOn (words : Words) (opt : Opt) (otherwise : Bool) : Bool :=
  (words.given.reverse.findSome? fun
    | (o, .switch isOn) => if o = opt then some isOn else none
    | _ => none).getD otherwise

/-- The options in the order their values are checked: as they are given, then as they are
listed. -/
def checkOrder (words : Words) : List Opt :=
  words.given.map (·.1) ++ [.output, .timeout]

end Words

/-- The settings of a run. -/
structure Settings where
  route : Text
  source : Text
  output : FilePath
  options : ViewOptions

def defaultSource : String := "http:" ++ "//localhost:8080"

def defaultTimeout : String := "10.0"

/-- What the environment says. An empty value is none. -/
structure Environment where
  source : Option Text
  timeout : Option Text

def Environment.given (value : Option Text) : Option Text := value.filter (· ≠ "")

/-- What keeps a command line from being run. -/
inductive Refusal
  | usage (cause : UsageError)
  | file (cause : FileFault)

namespace Words

def source (environment : Environment) (words : Words) : Text :=
  ((words.text? .source).or (Environment.given environment.source)).getD defaultSource

def timeout (environment : Environment) (words : Words) : Text :=
  ((words.text? .timeout).or (Environment.given environment.timeout)).getD defaultTimeout

/-- The value of one option. No file can have a name without octets, or with a zero among them. -/
def check (environment : Environment) (words : Words) : Opt → Except Refusal Unit
  | .output =>
    match words.text? .output with
    | none => .error (.usage .noOutput)
    | some s =>
      match Text.Utf8.encodeName s.toList with
      | .error cause => .error (.file ⟨.unencodable cause, .ofText s⟩)
      | .ok octets => if octets.contains 0 then .error (.file ⟨.nulInName, .ofText s⟩) else .ok ()
  | .timeout =>
    let value := words.timeout environment
    if (Text.Numeral.decimal? value.toList).isSome then .ok ()
    else .error (.usage (.noNumber value))
  | _ => .ok ()

def options (words : Words) : ViewOptions :=
  { ViewOptions.default with
    showTypes := words.isOn .types true
    details := words.isOn .details false
    dark := words.isOn .dark false }

def settings (environment : Environment) (words : Words) : Except Refusal Settings := do
  words.checkOrder.forM (words.check environment)
  match words.others with
  | _ :: extra :: more => throw (.usage (.extraWords (extra :: more)))
  | others =>
    return {
      route := others.headD docsRoute
      source := words.source environment
      output := .ofText ((words.text? .output).getD "")
      options := words.options }

end Words

/-- What a command line asks for. -/
inductive Task
  | help
  | render (settings : Settings)

structure Command where
  task : Task
  verbose : Bool

/-- Help is given whatever else is wrong with the values. -/
def Command.ofList (environment : Environment) (args : List Text) : Except Refusal Command :=
  match Words.ofList args with
  | .error cause => .error (.usage cause)
  | .ok words =>
    let verbose := words.isOn .verbose false
    if words.has .help then .ok ⟨.help, verbose⟩
    else (words.settings environment).map (⟨.render ·, verbose⟩)

end WebDocs.CommandLine
