import WebDocs.Proofs.CommandLine.RenderEffect
import WebDocs.Proofs.Dump.Reading
import WebDocs.Proofs.Json.StringText
import WebDocs.Proofs.Text.Encoding
import WebDocs.Proofs.WebPage.Segments

namespace WebDocs.CommandLine

theorem mem_intercalate {separator : Text} {parts : List Text} {c : CodePoint}
    (h : c ∈ (separator.intercalate parts).toList) :
    c ∈ separator.toList ∨ ∃ part ∈ parts, c ∈ part.toList := by
  induction parts with
  | nil => exact absurd h List.not_mem_nil
  | cons first rest ih =>
    cases rest with
    | nil =>
      rw [Text.toList_intercalate, List.map_singleton, List.intercalate_singleton] at h
      exact .inr ⟨first, List.mem_singleton_self _, h⟩
    | cons second rest =>
      simp only [Text.intercalate_cons_cons, Text.toList_append, List.mem_append] at h
      rcases h with (h | h) | h
      · exact .inr ⟨first, List.mem_cons_self, h⟩
      · exact .inl h
      · exact (ih h).imp_right fun ⟨part, hp, hc⟩ => ⟨part, List.mem_cons_of_mem _ hp, hc⟩

/-- A path has the code points of its name, slashes and the dot of the working directory. -/
theorem mem_text_ofText {s : Text} {c : CodePoint} (h : c ∈ (FilePath.ofText s).text.toList) :
    c ∈ s.toList ∨ c = '/' ∨ c = '.' := by
  rw [FilePath.text] at h
  split at h
  · exact .inr (.inr (List.mem_singleton.1 h))
  · rw [Text.toList_append, List.mem_append] at h
    rcases h with h | h
    · refine .inr (.inl ?_)
      rw [FilePath.ofText, FilePath.rootOf] at h
      split at h <;> simp_all [Text.toList_ofString]
    · rcases mem_intercalate h with h | ⟨part, hp, hc⟩
      · exact .inr (.inl (List.mem_singleton.1 h))
      · obtain ⟨chars, hchars, rfl⟩ := List.mem_map.1 (List.mem_filter.1 hp).1
        exact .inl (Text.mem_of_mem_splitOn hchars hc).1

/-- A file can have a name that has octets, none of them zero. -/
theorem named_ofText {s : Text} {octets : List UInt8}
    (ho : Text.Utf8.encodeName s.toList = .ok octets) (hz : 0 ∉ octets) :
    Disk.Named (.ofText s) := by
  obtain ⟨hs, rfl⟩ := Text.Utf8.unlessRefused_eq_ok_iff.1 ho
  refine ⟨_, Text.Utf8.unlessRefused_eq_ok_iff.2 ⟨fun half hm => ?_, rfl⟩, fun hm => ?_⟩
  · rcases mem_text_ofText hm with hm | hm | hm
    · exact hs half hm
    · cases hm
    · cases hm
  · obtain ⟨c, hc, h0⟩ := List.mem_flatMap.1 hm
    rcases mem_text_ofText hc with hc | rfl | rfl
    · exact hz (List.mem_flatMap.2 ⟨c, hc, h0⟩)
    · exact absurd h0 (by decide)
    · exact absurd h0 (by decide)

/-- The values of all options that are checked are accepted. -/
theorem check_of_forM {check : Opt → Except Refusal Unit} {options : List Opt}
    (h : options.forM check = .ok ()) : ∀ opt ∈ options, check opt = .ok () := by
  induction options with
  | nil => simp
  | cons first rest ih =>
    obtain ⟨_, hfirst, hrest⟩ := bind_eq_ok.1 h
    exact List.forall_mem_cons.2 ⟨hfirst, ih hrest⟩

/-- A file can have the name of the output. -/
theorem named_output {environment : Environment} {words : Words} {settings : Settings}
    (h : words.settings environment = .ok settings) : Disk.Named settings.output := by
  obtain ⟨_, hchecked, hsettings⟩ := bind_eq_ok.1 h
  have hcheck := check_of_forM hchecked .output (by simp [Words.checkOrder])
  cases ho : words.text? .output with
  | none =>
    rw [Words.check, ho] at hcheck
    cases hcheck
  | some s =>
    have houtput : settings.output = .ofText s := by
      split at hsettings
      · cases hsettings
      · cases hsettings
        rw [ho, Option.getD_some]
    rw [houtput]
    simp only [Words.check, ho] at hcheck
    cases hs : Text.Utf8.encodeName s.toList with
    | error cause =>
      rw [hs] at hcheck
      cases hcheck
    | ok octets =>
      refine named_ofText hs fun hz => ?_
      have hcontains : octets.contains 0 = true := by simpa using hz
      simp only [hs, hcontains] at hcheck
      cases hcheck

section

variable {environment : Environment} {args : List Text} {session : Session} {settings : Settings}

/-- The command line asks for a page with the settings. -/
def Requests (environment : Environment) (args : List Text) (settings : Settings) : Prop :=
  ∃ verbose, Command.ofList environment args = .ok ⟨.render settings, verbose⟩

theorem Requests.named (h : Requests environment args settings) : Disk.Named settings.output := by
  obtain ⟨verbose, h⟩ := h
  rw [Command.ofList] at h
  split at h
  · cases h
  next words =>
    split at h
    · cases h
    · obtain ⟨found, hsettings, hcommand⟩ := map_eq_ok.1 h
      cases hcommand
      exact named_output hsettings

/-- A route, a source and an output ask for the page of the route. -/
theorem requests_of_route {route source output : Text} {rest : List CodePoint}
    {octets : List UInt8} (hr : route.toList = .scalar '/' :: rest)
    (ho : Text.Utf8.encodeName output.toList = .ok octets) (hz : octets.contains 0 = false) :
    Requests ⟨none, none⟩ [route, "-s", source, "-o", output]
      ⟨route, source, .ofText output, .default⟩ := by
  let words : Words := ⟨[(.source, .text source), (.output, .text output)], [route]⟩
  have hwords : Words.ofList [route, "-s", source, "-o", output] = .ok words := by
    rw [Words.ofList, hr]
    rfl
  have hgiven : words.text? .output = some output := rfl
  have houtput : words.check ⟨none, none⟩ .output = .ok () := by
    simp only [Words.check, hgiven, ho, hz]
    rfl
  have htimeout : words.check ⟨none, none⟩ .timeout = .ok () := by
    have hnumber : (Text.Numeral.decimal? (defaultTimeout : Text).toList).isSome = true := by
      decide +kernel
    rw [Words.check]
    exact if_pos hnumber
  have hchecked : words.checkOrder.forM (words.check ⟨none, none⟩) = .ok () := by
    show (words.check ⟨none, none⟩ .output >>= fun _ =>
      words.check ⟨none, none⟩ .output >>= fun _ =>
        words.check ⟨none, none⟩ .timeout >>= fun _ => pure ()) = .ok ()
    rw [houtput, htimeout]
    rfl
  have hsettings : words.settings ⟨none, none⟩ =
      .ok ⟨route, source, .ofText output, .default⟩ := by
    rw [Words.settings, hchecked]
    rfl
  refine ⟨false, ?_⟩
  rw [Command.ofList, hwords]
  simp only [hsettings]
  rfl

/-- A request ends as its page is rendered, and leaves the same disk. -/
theorem run_of_requests (h : Requests environment args settings) (session : Session) :
    let ran := (run Session.host environment args).run session
    (ran.1.ending, ran.2.disk) = effect ((render Session.host settings).run session) := by
  obtain ⟨verbose, h⟩ := h
  rw [run, h]
  cases hr : (render Session.host settings).run session with
  | mk shown after =>
    dsimp only
    rw [run_bind_of hr]
    rfl

/-- What a run leaves behind that has a page and fails, where the disk offers a place for the page.
The directories above it are made, but then its name is too long, or that of a directory. Or the text
of the page has no octets, and its file stays empty. Or the page is written, but its name cannot be
reported. -/
inductive LeftBehind (disk : Disk) (output : FilePath) (page : WebPage) : Disk → Prop
  | tooLong (h : (disk.makingDirectories output.parent).disk.isDirectory output =
      .error .nameTooLong) : LeftBehind disk output page (disk.makingDirectories output.parent).disk
  | directory (h : (disk.makingDirectories output.parent).disk.isDirectory output = .ok true) :
      LeftBehind disk output page (disk.makingDirectories output.parent).disk
  | empty {after : Disk} (hp : ¬page.html.IsScalar) (hs : disk.save output [] = .ok after) :
      LeftBehind disk output page after
  | unreported {bytes : List UInt8} {after : Disk} (ho : ¬output.text.IsScalar)
      (hp : Text.Utf8.encode page.html.toList = .ok bytes)
      (hs : disk.save output bytes = .ok after) : LeftBehind disk output page after

theorem content_of_encode {page : WebPage} {bytes : List UInt8}
    (h : Text.Utf8.encode page.html.toList = .ok bytes) : content page = bytes := by
  rw [content, h]
  rfl

theorem content_of_not_isScalar {page : WebPage} (h : ¬page.html.IsScalar) :
    content page = [] := by
  cases hp : Text.Utf8.encode page.html.toList with
  | ok bytes => exact absurd (Text.Utf8.exists_encode_iff.1 ⟨bytes, hp⟩) h
  | error cause =>
    rw [content, hp]
    rfl

theorem isScalar_report_iff {output : FilePath} :
    (Run.report output).IsScalar ↔ output.text.IsScalar := by
  refine ⟨fun h c hc => h c ?_, fun h c hc => ?_⟩
  · exact List.mem_append_left _ (List.mem_append_right _ hc)
  · simp only [Run.report, Text.toList_append, List.mem_append] at hc
    rcases hc with (hc | hc) | hc
    · exact Text.isScalar_ofString _ c hc
    · exact h c hc
    · exact Text.isScalar_ofString _ c hc

theorem exitCode_ofPage {ran : Run} {output : FilePath} {page : WebPage} {fault : Option FileFault}
    (h : ran.ending = .ofPage output page fault) :
    ran.exitCode = 0 ↔ fault = none ∧ page.html.IsScalar ∧ output.text.IsScalar := by
  rw [Run.exitCode, h]
  cases fault with
  | some fault => simp [Ending.ofPage]
  | none =>
    rw [← isScalar_report_iff, Text.IsScalar, Text.IsScalar, ← Text.Utf8.exists_encode_iff,
      ← Text.Utf8.exists_encode_iff]
    cases hp : Text.Utf8.encode page.html.toList with
    | error cause => simp [Ending.ofPage, hp, SeqRight.seqRight, Except.bind]
    | ok bytes =>
      cases hr : Text.Utf8.encode (Run.report output).toList with
      | error cause => simp [Ending.ofPage, hp, hr, SeqRight.seqRight, Except.bind]
      | ok reported => simp [Ending.ofPage, hp, hr, SeqRight.seqRight, Except.bind]

theorem run_of_page (h : Requests environment args settings) {page : WebPage}
    (hp : Renders session settings (.ok page)) :
    let ran := (run Session.host environment args).run session
    (ran.1.exitCode = 0 ↔ session.disk.Takes settings.output ∧ page.html.IsScalar ∧
      settings.output.text.IsScalar) ∧
    (ran.1.exitCode = 0 → ∃ bytes, Text.Utf8.encode page.html.toList = .ok bytes ∧
      ran.2.disk.read settings.output = .ok bytes) ∧
    (ran.1.exitCode ≠ 0 → session.disk.Offers settings.output →
      LeftBehind session.disk settings.output page ran.2.disk) := by
  intro ran
  have hran := (run_of_requests h session).trans (effect_of_page hp)
  obtain ⟨hending, hdisk⟩ := Prod.mk.inj hran
  have hexit := exitCode_ofPage hending
  refine ⟨hexit.trans (and_congr_left' (Disk.saving_fault_eq_none_iff h.named)), fun h0 => ?_,
    fun hne ho => ?_⟩
  · obtain ⟨hf, hs, -⟩ := hexit.1 h0
    obtain ⟨bytes, hb⟩ := Text.Utf8.exists_encode_iff.2 hs
    refine ⟨bytes, hb, ?_⟩
    rw [hdisk, ← content_of_encode hb]
    exact Disk.read_of_saving hf
  · rw [hdisk]
    cases hf : (session.disk.saving settings.output (content page)).fault with
    | some fault =>
      have htakes : ¬session.disk.Takes settings.output := fun ht => by
        rw [(Disk.saving_fault_eq_none_iff h.named).2 ht] at hf
        cases hf
      rw [Disk.saving_of_refused ho.above hf]
      rcases Disk.isDirectory_cases (session.disk.makingDirectories settings.output.parent).disk
        settings.output with hd | hd | hd
      · exact .directory hd
      · exact absurd ⟨ho.above, hd⟩ htakes
      · exact .tooLong hd
    | none =>
      have hsave := Disk.save_of_saving hf
      by_cases hs : page.html.IsScalar
      · obtain ⟨bytes, hb⟩ := Text.Utf8.exists_encode_iff.2 hs
        exact .unreported (fun hr => hne (hexit.2 ⟨hf, hs, hr⟩)) hb (content_of_encode hb ▸ hsave)
      · exact .empty hs (content_of_not_isScalar hs ▸ hsave)

theorem run_of_complains (h : Requests environment args settings) {message : Text}
    (hm : Complains session settings message) :
    let ran := (run Session.host environment args).run session
    ran.2.disk = session.disk ∧ ran.1.exitCode = 1 ∧ ran.1.crash?.isNone ∧
      ∃ notices : Text,
        ran.1.standardError = (notices ++ ("Error: " ++ message ++ "\n")).shown := by
  intro ran
  have hran := (run_of_requests h session).trans (effect_of_complains hm)
  obtain ⟨hending, hdisk⟩ := Prod.mk.inj hran
  refine ⟨hdisk, ?_, ?_, Text.join ((ran.1.log.filter ran.1.isShown).map Run.noticeLine), ?_⟩
  · rw [Run.exitCode, hending]
  · rw [Run.crash?, hending]
    rfl
  · rw [Run.standardError, Run.errorText, hending]

theorem run_of_crashes (h : Requests environment args settings) {cause : Crash}
    (hc : Crashes session settings cause) :
    let ran := (run Session.host environment args).run session
    ran.2.disk = session.disk ∧ ran.1.exitCode = 1 ∧ ran.1.crash? = some cause ∧
      ran.1.errorText = "" := by
  intro ran
  have hran := (run_of_requests h session).trans (effect_of_crashes hc)
  obtain ⟨hending, hdisk⟩ := Prod.mk.inj hran
  exact ⟨hdisk, by rw [Run.exitCode, hending], by rw [Run.crash?, hending],
    by rw [Run.errorText, hending]⟩

theorem run_of_no_request (h : ∀ settings, ¬Requests environment args settings)
    (session : Session) :
    let ran := (run Session.host environment args).run session
    ran.2.disk = session.disk ∧ (ran.1.exitCode = 0 → ran.1.ending = .help) := by
  rw [run]
  cases hc : Command.ofList environment args with
  | error refusal =>
    cases refusal with
    | usage cause => exact ⟨rfl, fun h => nomatch h⟩
    | file cause => exact ⟨rfl, fun h => nomatch h⟩
  | ok command =>
    obtain ⟨task, verbose⟩ := command
    cases task with
    | help => exact ⟨rfl, fun _ => rfl⟩
    | render settings => exact absurd ⟨verbose, hc⟩ (h settings)

/-- A run writes all or nothing. Without a request, for help or after an error in the usage, the disk
is left as it is. A request ends well if and only if a page is rendered that has octets, the disk
takes the output and its name can be reported; then the output holds the octets of the page. If it
ends otherwise, the disk is left as it is, unless there is a page; then, where the disk offers a place
for the page, what is left behind is known. A complaint is shown as an error and ends the run with
exit code 1; the errors that are passed on end it as a crash. -/
theorem run_writes_all_or_nothing (session : Session) (environment : Environment)
    (args : List Text) :
    let ran := (run Session.host environment args).run session
    let after := ran.2.disk
    ((∀ settings, ¬Requests environment args settings) →
      after = session.disk ∧ (ran.1.exitCode = 0 → ran.1.ending = .help)) ∧
    ∀ settings, Requests environment args settings →
      (ran.1.exitCode = 0 ↔ ∃ page, Renders session settings (.ok page) ∧
        session.disk.Takes settings.output ∧ page.html.IsScalar ∧
          settings.output.text.IsScalar) ∧
      (∀ page, Renders session settings (.ok page) → ran.1.exitCode = 0 →
        ∃ bytes, Text.Utf8.encode page.html.toList = .ok bytes ∧
          after.read settings.output = .ok bytes) ∧
      (ran.1.exitCode ≠ 0 → after = session.disk ∨
        ∃ page, Renders session settings (.ok page) ∧
          (session.disk.Offers settings.output →
            LeftBehind session.disk settings.output page after)) ∧
      (∀ message, Complains session settings message →
        ran.1.exitCode = 1 ∧ ran.1.crash?.isNone ∧ ∃ notices : Text,
          ran.1.standardError = (notices ++ ("Error: " ++ message ++ "\n")).shown) ∧
      ∀ cause, Crashes session settings cause →
        ran.1.exitCode = 1 ∧ ran.1.crash? = some cause ∧ ran.1.errorText = "" := by
  intro ran after
  refine ⟨fun h => run_of_no_request h session, fun settings h => ?_⟩
  refine ⟨⟨fun h0 => ?_, fun ⟨page, hp, ht⟩ => (run_of_page h hp).1.2 ht⟩,
    fun page hp => (run_of_page h hp).2.1, fun hne => ?_,
    fun message hm => (run_of_complains h hm).2, fun cause hc => (run_of_crashes h hc).2⟩
  · obtain ⟨page, hp⟩ | ⟨message, hm⟩ | ⟨cause, hc⟩ := renders_or session settings
    · exact ⟨page, hp, (run_of_page h hp).1.1 h0⟩
    · exact absurd ((run_of_complains h hm).2.1.symm.trans h0) Nat.one_ne_zero
    · exact absurd ((run_of_crashes h hc).2.1.symm.trans h0) Nat.one_ne_zero
  · obtain ⟨page, hp⟩ | ⟨message, hm⟩ | ⟨cause, hc⟩ := renders_or session settings
    · exact .inr ⟨page, hp, (run_of_page h hp).2.2 hne⟩
    · exact .inl (run_of_complains h hm).1
    · exact .inl (run_of_crashes h hc).1

end

namespace Written

/-- A dump without a document. -/
def bytes : List UInt8 := [91, 110, 117, 108, 108, 44, 91, 93, 93]

def place : List FileName := [Text.fileName "work", Text.fileName "dumps"]

def session : Session where
  disk := ⟨[Text.fileName "work"], [(place ++ [Text.fileName "typecheck.json"], .file bytes),
    (place, .directory), ([Text.fileName "work"], .directory)]⟩
  reply := .failure "ConnectError" ""
  asked := []

def args : List Text := ["/typecheck", "-s", "dumps", "-o", "new/x.html"]

def settings : Settings := ⟨"/typecheck", "dumps", .ofText "new/x.html", .default⟩

theorem requests : Requests ⟨none, none⟩ args settings := requests_of_route rfl rfl rfl

theorem takes : session.disk.Takes settings.output := ⟨by decide +kernel, by decide +kernel⟩

def route : Route := ⟨.typecheck, none⟩

def source : Source := .directory (.ofText "dumps")

theorem chosen : Chosen session.disk settings.source source :=
  .directory (by decide +kernel) (by decide +kernel)

theorem found : Found session.still route.view.sourcePath source bytes := by
  have hread : session.disk.read (FileSource.file (.ofText "dumps") route.view.sourcePath) =
      .ok bytes := by decide +kernel
  refine .file ?_
  simp only [Session.still, hread]
  rfl

theorem loaded : loadedFrom session route source = .ok (.ready route.view.sourcePath .null []) := by
  have hvalue : Json.ofBytes bytes = .ok (.arr [.null, .arr []]) := rfl
  rw [loadedFrom_of_payload session (fetch_of_found found hvalue)]
  rfl

def page : WebPage := ⟨"Typecheck", false, [], .shown [] []⟩

theorem renders : Renders session settings (.ok page) := .intro (.intro rfl chosen loaded) rfl

theorem isScalar_page : page.html.IsScalar := by
  have hfixed (s : String) : ∀ c ∈ (s : Text).toList, c.isScalar = true := Text.isScalar_ofString s
  have hlines (ls : List String) : ∀ c ∈ WebPage.lines ls, c.isScalar = true := by
    intro c hc
    obtain ⟨line, -, hc⟩ := List.mem_flatMap.1 hc
    rcases List.mem_append.1 hc with hc | hc
    · exact hfixed line c hc
    · rw [List.mem_singleton.1 hc]
      rfl
  have htitle : ∀ c ∈ WebPage.escape page.title, c.isScalar = true := by decide +kernel
  have hhead : ∀ c ∈ WebPage.head page.title page.dark, c.isScalar = true := by
    rw [WebPage.head]
    simp only [List.forall_mem_append]
    exact ⟨⟨⟨⟨⟨⟨hlines _, hfixed _⟩, hfixed _⟩, hlines _⟩, hfixed _⟩, htitle⟩, hlines _⟩
  have hcontent : ∀ c ∈ WebPage.contentChars page.content, c.isScalar = true := by decide +kernel
  rw [Text.IsScalar, WebPage.html, Text.toList_ofList, WebPage.chars]
  simp only [List.forall_mem_append]
  exact ⟨⟨⟨⟨⟨⟨⟨⟨⟨⟨hhead, hlines _⟩, hlines _⟩, nofun⟩, hlines _⟩, hfixed _⟩, htitle⟩, hlines _⟩,
    hcontent⟩, hlines _⟩, hfixed _⟩

end Written

/-- A page without a document is written to a new directory. -/
theorem run_writes_all_or_nothing_page :
    let ran := (run Session.host ⟨none, none⟩ Written.args).run Written.session
    ran.1.exitCode = 0 ∧ Renders Written.session Written.settings (.ok Written.page) ∧
      ∃ bytes, Text.Utf8.encode Written.page.html.toList = .ok bytes ∧
        ran.2.disk.read (.ofText "new/x.html") = .ok bytes := by
  obtain ⟨-, hrun⟩ := run_writes_all_or_nothing Written.session ⟨none, none⟩ Written.args
  obtain ⟨hexit, hread, -⟩ := hrun Written.settings Written.requests
  have h0 := hexit.2
    ⟨Written.page, Written.renders, Written.takes, Written.isScalar_page, by decide⟩
  exact ⟨h0, Written.renders, hread Written.page Written.renders h0⟩

namespace LongSource

def chars : List CodePoint := List.replicate 256 (.scalar 'a')

/-- A name that is too long for a file. -/
def name : Text := Text.ofList chars

def args : List Text := ["/docs", "-s", name, "-o", "x.html"]

def settings : Settings := ⟨"/docs", name, .ofText "x.html", .default⟩

def session : Session := ⟨.empty, .failure "ConnectError" "", []⟩

theorem requests : Requests ⟨none, none⟩ args settings := requests_of_route rfl rfl rfl

theorem no_server : isServerAddress settings.source = false := by decide +kernel

theorem parts_name : (FilePath.ofText name).parts = [name] := by decide +kernel

theorem named_name : Disk.Named (.ofText name) := named_ofText rfl (by decide +kernel)

theorem isDirectory_name :
    session.disk.isDirectory (.ofText settings.source) = .error .nameTooLong :=
  Disk.isDirectory_of_isLong named_name parts_name (by decide +kernel)

theorem crashes :
    Crashes session settings (.file ⟨.nameTooLong, .ofText settings.source⟩) := by
  have hroute : Route.parse settings.route = .ok ⟨.docs, none⟩ := rfl
  exact .source hroute no_server isDirectory_name

end LongSource

/-- A source whose name is too long is no server and no directory. Yet no message says so: the error
of the file system is passed on. -/
theorem long_source_crashes :
    let ran := (run Session.host ⟨none, none⟩ LongSource.args).run LongSource.session
    isServerAddress LongSource.settings.source = false ∧
      LongSource.session.disk.isDirectory (.ofText LongSource.settings.source) ≠ .ok true ∧
      ran.1.crash? = some (.file ⟨.nameTooLong, .ofText LongSource.settings.source⟩) ∧
      ran.1.errorText = "" := by
  obtain ⟨-, -, hcrash, herror⟩ := run_of_crashes LongSource.requests LongSource.crashes
  refine ⟨LongSource.no_server, ?_, hcrash, herror⟩
  rw [LongSource.isDirectory_name]
  exact nofun

end WebDocs.CommandLine
