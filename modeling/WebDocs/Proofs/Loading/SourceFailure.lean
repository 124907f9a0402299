import WebDocs.CommandLine.Run
import WebDocs.Proofs.Files.Disk
import WebDocs.Proofs.Loading.Session

namespace WebDocs

namespace Loader

variable {ε : Type}

/-- A load that is settled before another one starts leads where its fetch alone leads. -/
theorem load_eq_ok (loader : Loader) (path : Text) {fetched : Logged (Outcome ε)}
    (h : ∀ cause, fetched.value ≠ .crash cause) :
    (loader.load path fetched).value =
      (⟨History.stateOf path (some fetched.value), loader.generation + 1⟩,
        .ok (History.stateOf path (some fetched.value))) := by
  obtain ⟨outcome, log⟩ := fetched
  have hsettle (answer : Json ⊕ ViewError) :
      ((loader.start path).1.settle (loader.start path).2 answer).value =
        ⟨result path answer, loader.generation + 1⟩ := by
    have hlatest : (loader.start path).2.generation = (loader.start path).1.generation := rfl
    rw [settle, if_pos hlatest]
    rfl
  have hanswer (settled : Loader) (state : LoadState)
      (h : settled = ⟨state, loader.generation + 1⟩) :
      (settled, (.ok settled.state : Except ε LoadState)) =
        (⟨state, loader.generation + 1⟩, .ok state) := by
    rw [h]
  cases outcome with
  | payload value => exact hanswer _ _ (hsettle (.inl value))
  | error cause => exact hanswer _ _ (hsettle (.inr cause))
  | crash cause => exact absurd rfl (h cause)

/-- A load raises what its fetch raises. -/
theorem load_eq_error_iff (loader : Loader) (path : Text) {fetched : Logged (Outcome ε)}
    {cause : ε} :
    (loader.load path fetched).value.2 = .error cause ↔ fetched.value = .crash cause := by
  obtain ⟨outcome, log⟩ := fetched
  cases outcome with
  | payload value => exact ⟨fun h => (nomatch h), fun h => (nomatch h)⟩
  | error error => exact ⟨fun h => (nomatch h), fun h => (nomatch h)⟩
  | crash fault =>
    exact ⟨fun h => congrArg _ (Except.error.inj h), fun h => congrArg _ (Outcome.crash.inj h)⟩

end Loader

theorem History.stateOf_settled (path : Text) {ε : Type} {outcome : Outcome ε}
    (h : ∀ cause, outcome ≠ .crash cause) :
    (∃ data notes, stateOf path (some outcome) = .ready path data notes) ∨
      ∃ error, stateOf path (some outcome) = .failed path error := by
  cases outcome with
  | payload value =>
    simp only [stateOf]
    cases Response.unwrap value with
    | ok response => exact .inl ⟨_, _, rfl⟩
    | error cause => exact .inr ⟨_, rfl⟩
  | error cause => exact .inr ⟨_, rfl⟩
  | crash cause => exact absurd rfl (h cause)

namespace CommandLine

section

variable (host : Host Id) (path : Text)

/-- The octets of a document that is found: the contents of its file, or the body of a successful
answer. -/
inductive Found : Source → List UInt8 → Prop
  | file {root : FilePath} {bytes : List UInt8}
      (h : host.read (FileSource.file root path) = .ok bytes) : Found (.directory root) bytes
  | body {base address : Text} {status : Nat} {bytes : List UInt8}
      (ha : HttpAddress.ofPath base path = .ok address)
      (hr : host.request address = .response status bytes) (hs : 200 ≤ status ∧ status < 300) :
      Found (.server base) bytes

/-- What is passed on as it is: that no file can have the name, for a zero or for half of a pair in
it, or that the address is refused, by its form or when it is asked for. -/
inductive Unexplained : Source → SourceFault → Prop
  | name {root : FilePath} (h : host.read (FileSource.file root path) = .error .nulInName) :
      Unexplained (.directory root) .nulInName
  | octets {root : FilePath} {cause : Text.Unencodable}
      (h : host.read (FileSource.file root path) = .error (.unencodable cause)) :
      Unexplained (.directory root) (.unencodable cause)
  | address {base : Text} {fault : SourceFault} (h : HttpAddress.ofPath base path = .error fault) :
      Unexplained (.server base) fault
  | request {base address reason : Text} (ha : HttpAddress.ofPath base path = .ok address)
      (hr : host.request address = .refused reason) :
      Unexplained (.server base) (.badAddress reason)

end

variable {host : Host Id} {path : Text} {source : Source}

theorem isSuccess_iff (status : Nat) :
    HttpStatus.isSuccess status = true ↔ 200 ≤ status ∧ status < 300 := by
  rw [HttpStatus.isSuccess, decide_eq_true_iff]
  omega

theorem fetch_directory (root : FilePath) :
    (fetch host path (.directory root)).value =
      FileSource.outcome root path (host.read (FileSource.file root path)) := rfl

theorem fetch_of_no_address {base : Text} {fault : SourceFault}
    (h : HttpAddress.ofPath base path = .error fault) :
    (fetch host path (.server base)).value = .crash fault := by
  simp only [fetch, HttpSource.fetch, h]
  rfl

theorem fetch_of_address {base address : Text} (h : HttpAddress.ofPath base path = .ok address) :
    (fetch host path (.server base)).value =
      HttpSource.outcome path address (host.request address) := by
  simp only [fetch, HttpSource.fetch, h]
  rfl

theorem fetch_of_found {bytes : List UInt8} {value : Json} (h : Found host path source bytes)
    (hv : Json.ofBytes bytes = .ok value) : (fetch host path source).value = .payload value := by
  cases h with
  | file h => rw [fetch_directory, h, FileSource.outcome, hv]
  | body ha hr hs =>
    rw [fetch_of_address ha, hr, HttpSource.outcome, if_pos ((isSuccess_iff _).2 hs), hv]

theorem fetch_of_unexplained {fault : SourceFault} (h : Unexplained host path source fault) :
    (fetch host path source).value = .crash fault := by
  cases h with
  | name h | octets h => rw [fetch_directory, h, FileSource.outcome]
  | address h => exact fetch_of_no_address h
  | request ha hr => rw [fetch_of_address ha, hr, HttpSource.outcome]

/-- The ways a fetch can end. -/
inductive Ends (host : Host Id) (path : Text) (source : Source) : Outcome SourceFault → Prop
  | payload {bytes : List UInt8} {value : Json} (h : Found host path source bytes)
      (hv : Json.ofBytes bytes = .ok value) : Ends host path source (.payload value)
  | error (reason : Text) : Ends host path source (.error (.transport path reason))
  | crash {fault : SourceFault} (h : Unexplained host path source fault) :
      Ends host path source (.crash fault)

theorem ends_file (root : FilePath) :
    Ends host path (.directory root) (fetch host path (.directory root)).value := by
  rw [fetch_directory]
  cases hr : host.read (FileSource.file root path) with
  | error cause =>
    cases cause with
    | nulInName => exact .crash (.name hr)
    | unencodable cause => exact .crash (.octets hr)
    | system words => exact .error _
  | ok bytes =>
    rw [FileSource.outcome]
    cases hv : Json.ofBytes bytes with
    | ok value => exact .payload (.file hr) hv
    | error cause => exact .error _

theorem ends_server (base : Text) :
    Ends host path (.server base) (fetch host path (.server base)).value := by
  cases ha : HttpAddress.ofPath base path with
  | error fault => exact fetch_of_no_address ha ▸ .crash (.address ha)
  | ok address =>
    rw [fetch_of_address ha]
    cases hr : host.request address with
    | refused reason => exact .crash (.request ha hr)
    | failure kind reason => exact .error _
    | response status body =>
      rw [HttpSource.outcome]
      split
      next hs =>
        cases hv : Json.ofBytes body with
        | ok value => exact .payload (.body ha hr ((isSuccess_iff _).1 hs)) hv
        | error cause => exact .error _
      next => exact .error _

theorem ends_fetch (host : Host Id) (path : Text) (source : Source) :
    Ends host path source (fetch host path source).value := by
  cases source with
  | directory root => exact ends_file root
  | server base => exact ends_server base

theorem fetch_eq_payload_iff {value : Json} :
    (fetch host path source).value = .payload value ↔
      ∃ bytes, Found host path source bytes ∧ Json.ofBytes bytes = .ok value := by
  refine ⟨fun h => ?_, fun ⟨_, h, hv⟩ => fetch_of_found h hv⟩
  cases h ▸ ends_fetch host path source with
  | payload h hv => exact ⟨_, h, hv⟩

theorem fetch_eq_crash_iff {fault : SourceFault} :
    (fetch host path source).value = .crash fault ↔ Unexplained host path source fault := by
  refine ⟨fun h => ?_, fetch_of_unexplained⟩
  cases h ▸ ends_fetch host path source with
  | crash h => exact h

theorem transport_of_fetch {error : ViewError} (h : (fetch host path source).value = .error error) :
    ∃ reason, error = .transport path reason := by
  cases h ▸ ends_fetch host path source with
  | error reason => exact ⟨reason, rfl⟩

/-- A fetch, from a directory or from a server, ends with the value of a document that is found, or
with an error about the path, and with a fault only if that is one of those left unexplained. Unless
there is one, a load alone is settled: the loader is ready, or the load has failed. -/
theorem fetch_settles (host : Host Id) (path : Text) (source : Source) :
    let fetched := fetch host path source
    (∀ value, fetched.value = .payload value ↔
      ∃ bytes, Found host path source bytes ∧ Json.ofBytes bytes = .ok value) ∧
    (∀ error, fetched.value = .error error → ∃ reason, error = .transport path reason) ∧
    (∀ fault, fetched.value = .crash fault ↔ Unexplained host path source fault) ∧
    ∀ loader : Loader,
      let settled := (loader.load path fetched).value
      (∀ fault, settled.2 = .error fault ↔ Unexplained host path source fault) ∧
      ((∀ fault, ¬Unexplained host path source fault) →
        settled.2 = .ok settled.1.state ∧
        settled.1.state = History.stateOf path (some fetched.value) ∧
        ((∃ data notes, settled.1.state = .ready path data notes) ∨
          ∃ error, settled.1.state = .failed path error)) := by
  intro fetched
  refine ⟨fun _ => fetch_eq_payload_iff, fun _ => transport_of_fetch, fun _ => fetch_eq_crash_iff,
    fun loader => ⟨fun _ => (loader.load_eq_error_iff path).trans fetch_eq_crash_iff, fun h => ?_⟩⟩
  have hc (fault : SourceFault) : fetched.value ≠ .crash fault :=
    fun hc => h fault (fetch_eq_crash_iff.1 hc)
  rw [loader.load_eq_ok path hc]
  exact ⟨rfl, rfl, History.stateOf_settled path hc⟩

/-- A directory without files, and a server that no request reaches since its address is refused. -/
def refusingHost : Host Id where
  isDirectory path := Disk.empty.isDirectory path
  read path := (Disk.empty.read path).mapError .ofFile
  request _ := .refused "Invalid port: 'x'"
  save _ _ := .ok ()

/-- No file is named with a zero character, and no request is made to a refused address. Neither is
explained as an error about the path, and neither load is settled. -/
theorem faults_passed_on :
    let file := fetch refusingHost "/pa\x00ges" (.directory (.ofText "dumps"))
    let answer := fetch refusingHost "/pages" (.server ("http:" ++ "//h.test"))
    file.value = .crash .nulInName ∧
      (Loader.initial.load "/pa\x00ges" file).value.2 = .error .nulInName ∧
    answer.value = .crash (.badAddress "Invalid port: 'x'") ∧
      (Loader.initial.load "/pages" answer).value.2 = .error (.badAddress "Invalid port: 'x'") := by
  have hread : Disk.empty.read (FileSource.file (.ofText "dumps") "/pa\x00ges") =
      .error .nulInName :=
    Disk.read_eq_nulInName_iff.2 (Disk.find_eq_nulInName_iff.2 ⟨_, rfl, by decide +kernel⟩)
  have haddress : HttpAddress.ofPath ("http:" ++ "//h.test") "/pages" =
      .ok ("http:" ++ "//h.test/pages") := rfl
  have hname : Unexplained refusingHost "/pa\x00ges" (.directory (.ofText "dumps")) .nulInName :=
    .name (congrArg (Except.mapError ReadError.ofFile) hread)
  have hrequest : Unexplained refusingHost "/pages" (.server ("http:" ++ "//h.test"))
      (.badAddress "Invalid port: 'x'") := .request haddress rfl
  exact ⟨fetch_of_unexplained hname, (Loader.load_eq_error_iff _ _).2 (fetch_of_unexplained hname),
    fetch_of_unexplained hrequest, (Loader.load_eq_error_iff _ _).2 (fetch_of_unexplained hrequest)⟩

end CommandLine
end WebDocs
