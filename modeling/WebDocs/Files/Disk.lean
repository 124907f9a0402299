import WebDocs.Files.Path
import WebDocs.Text.Utf8

namespace WebDocs

inductive FileError
  | missing
  | taken
  | notDirectory
  | isDirectory
  | nameTooLong
  | nulInName
  | unencodable (cause : Text.Unencodable)
  deriving DecidableEq

namespace FileError

def number : FileError → Nat
  | missing => 2
  | taken => 17
  | notDirectory => 20
  | isDirectory => 21
  | nameTooLong => 36
  | nulInName | unencodable _ => 22

def words : FileError → String
  | missing => "No such file or directory"
  | taken => "File exists"
  | notDirectory => "Not a directory"
  | isDirectory => "Is a directory"
  | nameTooLong => "File name too long"
  | nulInName => "embedded null byte"
  | unencodable cause => cause.message

end FileError

/-- Why a file is not read: no file can have its name, or the system says why. -/
inductive ReadError
  | nulInName
  | unencodable (cause : Text.Unencodable)
  | system (words : Text)

def ReadError.ofFile : FileError → ReadError
  | .nulInName => nulInName
  | .unencodable cause => unencodable cause
  | cause => system cause.words

/-- What a disk answers is one of the answers that reading a file can have. -/
instance {α : Type} : Coe (Except FileError α) (Except ReadError α) := ⟨Except.mapError .ofFile⟩

/-- An error and the file that it is about. -/
structure FileFault where
  cause : FileError
  path : FilePath

/-- A name that no file can have is an error of its own. -/
def FileFault.message (fault : FileFault) : String :=
  let name := String.ofList (Json.displayString fault.path.text)
  match fault.cause with
  | .nulInName | .unencodable _ => fault.cause.words
  | cause => s!"[Errno {cause.number}] {cause.words}: {name}"

inductive Entry
  | file (bytes : List UInt8)
  | directory
  deriving DecidableEq

/-- The octets of one part of a place on a disk. -/
abbrev FileName := List UInt8

def Text.fileName (part : Text) : FileName := part.toList.flatMap Utf8.octets

/-- Entries by their place below the root. -/
structure Disk where
  working : List FileName
  entries : List (List FileName × Entry)

namespace Disk

def entry? (disk : Disk) (place : List FileName) : Option Entry :=
  if place.isEmpty then some .directory else (disk.entries.find? (·.1 = place)).map (·.2)

def isLong (part : FileName) : Bool := 255 < part.length

/-- The place of a part in a directory. -/
def below (place : List FileName) (part : FileName) : List FileName :=
  if part = Text.fileName ".." then place.dropLast else place ++ [part]

/-- Goes down from a directory: the place of the last part and what is there. -/
def descend (disk : Disk) :
    List FileName → List FileName → Except FileError (List FileName × Option Entry)
  | place, [] => .ok (place, disk.entry? place)
  | place, part :: rest =>
    if isLong part then .error .nameTooLong
    else
      match disk.entry? (below place part), rest with
      | none, [] => .ok (below place part, none)
      | none, _ => .error .missing
      | some (.file bytes), [] => .ok (below place part, some (.file bytes))
      | some (.file _), _ => .error .notDirectory
      | some .directory, rest => descend disk (below place part) rest

/-- What is at a name. -/
def find (disk : Disk) (path : FilePath) : Except FileError (List FileName × Option Entry) :=
  match Text.Utf8.encodeName path.text.toList with
  | .error cause => .error (.unencodable cause)
  | .ok octets =>
    if octets.contains 0 then .error .nulInName
    else if 4096 ≤ octets.length then .error .nameTooLong
    else disk.descend (if path.root = "" then disk.working else []) (path.parts.map Text.fileName)

def read (disk : Disk) (path : FilePath) : Except FileError (List UInt8) := do
  match (← disk.find path).2 with
  | some (.file bytes) => return bytes
  | some .directory => throw .isDirectory
  | none => throw .missing

/-- A name that is too long is an error; other names that lead nowhere are no directories. -/
def isDirectory (disk : Disk) (path : FilePath) : Except FileError Bool :=
  match disk.find path with
  | .ok (_, entry) => .ok (entry = some .directory)
  | .error .nameTooLong => .error .nameTooLong
  | .error _ => .ok false

def put (disk : Disk) (place : List FileName) (entry : Entry) : Disk :=
  { disk with entries := (place, entry) :: disk.entries.filter (·.1 ≠ place) }

def write (disk : Disk) (path : FilePath) (bytes : List UInt8) : Except FileError Disk := do
  match ← disk.find path with
  | (_, some .directory) => throw .isDirectory
  | (place, _) => return disk.put place (.file bytes)

def makeDirectory (disk : Disk) (path : FilePath) : Except FileError Disk := do
  match ← disk.find path with
  | (place, none) => return disk.put place .directory
  | _ => throw .taken

/-- The disk after an action, and what went wrong with the action. What was made before it went wrong
stays. -/
structure Effect where
  disk : Disk
  fault : Option FileFault

/-- The disk, if nothing went wrong. -/
def Effect.result (effect : Effect) : Except FileFault Disk :=
  match effect.fault with
  | none => .ok effect.disk
  | some fault => .error fault

/-- An error that does not matter if the directory is there already. -/
def unlessDirectory (disk : Disk) (path : FilePath) (cause : FileError) : Effect :=
  ⟨disk, if disk.isDirectory path matches .ok true then none else some ⟨cause, path⟩⟩

/-- Makes a directory and, if need be, the directories above it. -/
def makingDirectories (disk : Disk) (path : FilePath) : Effect :=
  match disk.makeDirectory path with
  | .ok disk => ⟨disk, none⟩
  | .error .missing =>
    if path.parts.isEmpty then ⟨disk, some ⟨.missing, path⟩⟩
    else
      let above := makingDirectories disk path.parent
      if above.fault.isSome then above
      else
        match above.disk.makeDirectory path with
        | .ok disk => ⟨disk, none⟩
        | .error .missing => ⟨above.disk, some ⟨.missing, path⟩⟩
        | .error cause => above.disk.unlessDirectory path cause
  | .error cause => disk.unlessDirectory path cause
termination_by path.parts.length
decreasing_by
  rename_i h
  simp only [FilePath.parent, List.length_dropLast]
  cases hp : path.parts with
  | nil => simp [hp] at h
  | cons _ _ => simp

def makeDirectories (disk : Disk) (path : FilePath) : Except FileFault Disk :=
  (disk.makingDirectories path).result

/-- Writes a file; the directories above it are made. -/
def saving (disk : Disk) (path : FilePath) (bytes : List UInt8) : Effect :=
  let above := disk.makingDirectories path.parent
  if above.fault.isSome then above
  else
    match above.disk.write path bytes with
    | .ok disk => ⟨disk, none⟩
    | .error cause => ⟨above.disk, some ⟨cause, path⟩⟩

def save (disk : Disk) (path : FilePath) (bytes : List UInt8) : Except FileFault Disk :=
  (disk.saving path bytes).result

/-- Takes away a file, or a directory with all that is in it. -/
def remove (disk : Disk) (path : FilePath) : Disk :=
  match disk.find path with
  | .ok (place, _) => { disk with entries := disk.entries.filter (!place.isPrefixOf ·.1) }
  | .error _ => disk

/-- A disk whose only directory is the working directory. -/
def empty : Disk := ⟨[Text.fileName "work"], [([Text.fileName "work"], .directory)]⟩

end Disk
end WebDocs
