import WebDocs.Proofs.Loading.SourceFailure

namespace WebDocs.CommandLine

/-- The session as a host that answers at once. -/
def Session.still (session : Session) : Host Id where
  isDirectory path := session.disk.isDirectory path
  read path := (session.disk.read path).mapError .ofFile
  request _ := session.reply
  save path bytes := (session.disk.save path bytes).map fun _ => ()

/-- The ending of a run, and the disk that it leaves. -/
def effect (ran : Logged Ending × Session) : Ending × Disk := (ran.1.value, ran.2.disk)

/-- How a run ends that has no page to write. -/
def Ending.ofRender : RenderError → Ending
  | .route cause => .failed cause.message
  | .shape cause => .crashed (.shape cause)
  | .overflow cause => .crashed (.overflow cause)
  | .unencodable cause => .crashed (.unencodable cause)

/-- What a page is written with: the octets of its text, or none if there are none. -/
def content (page : WebPage) : List UInt8 :=
  (Text.Utf8.encode page.html.toList).toOption.getD []

/-- How a run ends that has a page: it may not be written, or have no octets, or be written and not be
reported. -/
def Ending.ofPage (output : FilePath) (page : WebPage) : Option FileFault → Ending
  | some fault => .crashed (.file fault)
  | none =>
    match Text.Utf8.encode page.html.toList *> Text.Utf8.encode (Run.report output).toList with
    | .error cause => .crashed (.unencodable cause)
    | .ok _ => .rendered output

/-- The message of a load that has failed. -/
def failedLoad (route : Route) (error : ViewError) : Text :=
  "Could not load " ++ route.view.sourcePath ++ ": " ++ error.message

section

variable (session : Session) (settings : Settings) {route : Route}

theorem run_bind_of {α β : Type} {first : StateM Session α} {next : α → StateM Session β}
    {session after : Session} {a : α} (h : first.run session = (a, after)) :
    (first >>= next).run session = (next a).run after := by
  rw [StateT.run_bind, h]
  rfl

theorem run_isDirectory (path : FilePath) :
    (Session.host.isDirectory path).run session = (session.disk.isDirectory path, session) := rfl

theorem chooseSource_of_no_server {source : Text} (hs : isServerAddress source = false) :
    chooseSource session.still source =
      match session.disk.isDirectory (.ofText source) with
      | .ok true => .ok (.directory (.ofText source))
      | .ok false => .error (.failed (unsupported source))
      | .error cause => .error (.crashed (.file ⟨cause, .ofText source⟩)) := by
  rw [chooseSource, hs]
  rfl

theorem run_chooseSource (source : Text) :
    (chooseSource Session.host source).run session =
      (chooseSource session.still source, session) := by
  by_cases hs : isServerAddress source = true
  · simp only [chooseSource, hs, if_true]
    rfl
  · rw [chooseSource_of_no_server session (Bool.eq_false_iff.2 hs), chooseSource, if_neg hs,
      run_bind_of (run_isDirectory session _)]
    cases session.disk.isDirectory (.ofText source) with
    | error cause => rfl
    | ok isThere => cases isThere <;> rfl

/-- A fetch answers at once, and changes nothing but what was asked for. -/
theorem run_fetch (path : Text) (source : Source) :
    ∃ asked, (fetch Session.host path source).run session =
      (fetch session.still path source, { session with asked := asked }) := by
  cases source with
  | directory root => exact ⟨session.asked, rfl⟩
  | server base =>
    simp only [fetch, HttpSource.fetch]
    cases HttpAddress.ofPath base path with
    | error reason => exact ⟨session.asked, rfl⟩
    | ok address => exact ⟨address :: session.asked, rfl⟩

theorem effect_writePage_error {state : LoadState} {cause : RenderError}
    (h : (state.page settings.options route).value = .error cause) :
    effect ((writePage Session.host settings route state).run session) =
      (.ofRender cause, session.disk) := by
  simp only [writePage, h]
  cases cause <;> rfl

theorem run_writeText (output : FilePath) (page : WebPage) :
    let written := session.disk.saving output (content page)
    (writeText Session.host output page.html).run session =
      (.ofPage output page written.fault, { session with disk := written.disk }) := by
  intro written
  have hsave : (Session.host.save output (content page)).run session =
      (written.fault.elim (.ok ()) .error, { session with disk := written.disk }) := rfl
  refine (run_bind_of hsave).trans ?_
  cases written.fault with
  | some fault => rfl
  | none =>
    dsimp only [Option.elim, Ending.ofPage]
    cases Text.Utf8.encode page.html.toList *> Text.Utf8.encode (Run.report output).toList <;> rfl

theorem effect_writePage_ok {state : LoadState} {page : WebPage}
    (h : (state.page settings.options route).value = .ok page) :
    let written := session.disk.saving settings.output (content page)
    effect ((writePage Session.host settings route state).run session) =
      (.ofPage settings.output page written.fault, written.disk) := by
  intro written
  simp only [writePage, h, run_bind_of (run_writeText session settings.output page)]
  rfl

/-- The source that a name stands for. -/
inductive Chosen (disk : Disk) (name : Text) : Source → Prop
  | server (h : isServerAddress name = true) : Chosen disk name (.server (HttpSource.base name))
  | directory (h : isServerAddress name = false)
      (hd : disk.isDirectory (.ofText name) = .ok true) :
      Chosen disk name (.directory (.ofText name))

theorem chooseSource_of_chosen {source : Source}
    (h : Chosen session.disk settings.source source) :
    chooseSource session.still settings.source = .ok source := by
  cases h with
  | server h =>
    rw [chooseSource, if_pos h]
    rfl
  | directory h hd => rw [chooseSource_of_no_server session h, hd]

/-- What the load of the document of a route comes to. -/
def loadedFrom (route : Route) (source : Source) : Except SourceFault LoadState :=
  (Loader.initial.load route.view.sourcePath
    (fetch session.still route.view.sourcePath source)).value.2

theorem loadedFrom_of_payload {source : Source} {value : Json}
    (h : (fetch session.still route.view.sourcePath source).value = .payload value) :
    loadedFrom session route source =
      .ok (History.stateOf route.view.sourcePath (some (.payload value : Outcome SourceFault))) := by
  have hsettled : ∀ cause,
      (fetch session.still route.view.sourcePath source).value ≠ .crash cause := by
    rw [h]
    exact nofun
  rw [loadedFrom, Loader.load_eq_ok _ _ hsettled, h]

theorem effect_renderRoute {source : Source} (h : Chosen session.disk settings.source source) :
    ∃ asked, effect ((renderRoute Session.host settings route).run session) =
      match loadedFrom session route source with
      | .error cause => (.crashed (.source cause), session.disk)
      | .ok (.failed _ error) =>
        (.failed (failedLoad route error), session.disk)
      | .ok state =>
        effect ((writePage Session.host settings route state).run
          { session with asked := asked }) := by
  obtain ⟨asked, hf⟩ := run_fetch session route.view.sourcePath source
  have hs := run_chooseSource session settings.source
  rw [chooseSource_of_chosen session settings h] at hs
  refine ⟨asked, ?_⟩
  rw [renderRoute, run_bind_of hs]
  dsimp only
  rw [run_bind_of hf, loadedFrom]
  cases hl : (Loader.initial.load route.view.sourcePath
    (fetch session.still route.view.sourcePath source)).value.2 with
  | error cause => rfl
  | ok state => cases state <;> rfl

end

section

variable (session : Session) (settings : Settings)

/-- The load for the route of the settings, from the source that they name. -/
inductive Loads : Route → Except SourceFault LoadState → Prop
  | intro {route : Route} {source : Source} {loaded : Except SourceFault LoadState}
      (hr : Route.parse settings.route = .ok route)
      (hs : Chosen session.disk settings.source source)
      (hl : loadedFrom session route source = loaded) : Loads route loaded

/-- What is rendered of a document that was loaded, with the options of the settings. -/
inductive Renders : Except RenderError WebPage → Prop
  | intro {route : Route} {data : Json} {notes : List Json} {shown : Except RenderError WebPage}
      (hl : Loads session settings route (.ok (.ready route.view.sourcePath data notes)))
      (hp : ((LoadState.ready route.view.sourcePath data notes).page settings.options route).value =
        shown) : Renders shown

/-- A message says why there is no page: the route is unknown, the source is neither a server nor a
directory, the load has failed, or the document does not have the page. -/
inductive Complains : Text → Prop
  | route {cause : RouteError} (hr : Route.parse settings.route = .error cause) :
      Complains cause.message
  | source {route : Route} (hr : Route.parse settings.route = .ok route)
      (hs : isServerAddress settings.source = false)
      (hd : session.disk.isDirectory (.ofText settings.source) = .ok false) :
      Complains (unsupported settings.source)
  | load {route : Route} {error : ViewError}
      (hl : Loads session settings route (.ok (.failed route.view.sourcePath error))) :
      Complains (failedLoad route error)
  | page {cause : RouteError} (hp : Renders session settings (.error (.route cause))) :
      Complains cause.message

/-- An error that is passed on: the name of the source is too long, the load is not settled, the
document holds a value that its decoder does not expect, or there is no link to one of its pages. -/
inductive Crashes : Crash → Prop
  | source {route : Route} {cause : FileError} (hr : Route.parse settings.route = .ok route)
      (hs : isServerAddress settings.source = false)
      (hd : session.disk.isDirectory (.ofText settings.source) = .error cause) :
      Crashes (.file ⟨cause, .ofText settings.source⟩)
  | fetch {route : Route} {cause : SourceFault}
      (hl : Loads session settings route (.error cause)) : Crashes (.source cause)
  | shape {cause : ShapeError} (hp : Renders session settings (.error (.shape cause))) :
      Crashes (.shape cause)
  | overflow {cause : Overflow} (hp : Renders session settings (.error (.overflow cause))) :
      Crashes (.overflow cause)
  | unencodable {cause : Text.Unencodable}
      (hp : Renders session settings (.error (.unencodable cause))) : Crashes (.unencodable cause)

end

section

variable {session : Session} {settings : Settings} {route : Route}

theorem render_of_route (hr : Route.parse settings.route = .ok route) :
    render Session.host settings = renderRoute Session.host settings route := by
  rw [render, hr]

theorem effect_of_no_source {ending : Ending} (hr : Route.parse settings.route = .ok route)
    (hs : chooseSource session.still settings.source = .error ending) :
    effect ((render Session.host settings).run session) = (ending, session.disk) := by
  have hrun := run_chooseSource session settings.source
  rw [hs] at hrun
  rw [render_of_route hr, renderRoute, run_bind_of hrun]
  rfl

theorem effect_of_loads {loaded : Except SourceFault LoadState}
    (h : Loads session settings route loaded) :
    ∃ asked, effect ((render Session.host settings).run session) =
      match loaded with
      | .error cause => (.crashed (.source cause), session.disk)
      | .ok (.failed _ error) =>
        (.failed (failedLoad route error), session.disk)
      | .ok state =>
        effect ((writePage Session.host settings route state).run
          { session with asked := asked }) := by
  obtain ⟨hr, hs, rfl⟩ := h
  rw [render_of_route hr]
  exact effect_renderRoute session settings hs

theorem effect_of_refused {cause : RenderError} (h : Renders session settings (.error cause)) :
    effect ((render Session.host settings).run session) = (.ofRender cause, session.disk) := by
  obtain ⟨hl, hp⟩ := h
  obtain ⟨asked, he⟩ := effect_of_loads hl
  exact he.trans (effect_writePage_error _ _ hp)

/-- A page that is rendered is written. -/
theorem effect_of_page {page : WebPage} (h : Renders session settings (.ok page)) :
    let written := session.disk.saving settings.output (content page)
    effect ((render Session.host settings).run session) =
      (.ofPage settings.output page written.fault, written.disk) := by
  obtain ⟨hl, hp⟩ := h
  obtain ⟨asked, he⟩ := effect_of_loads hl
  exact he.trans (effect_writePage_ok _ _ hp)

/-- A complaint ends the run, and nothing is written. -/
theorem effect_of_complains {message : Text} (h : Complains session settings message) :
    effect ((render Session.host settings).run session) = (.failed message, session.disk) := by
  cases h with
  | route hr =>
    rw [render, hr]
    rfl
  | source hr hs hd =>
    refine effect_of_no_source hr ?_
    rw [chooseSource_of_no_server session hs, hd]
  | load hl =>
    obtain ⟨asked, he⟩ := effect_of_loads hl
    exact he
  | page hp => exact effect_of_refused hp

theorem effect_of_crashes {cause : Crash} (h : Crashes session settings cause) :
    effect ((render Session.host settings).run session) = (.crashed cause, session.disk) := by
  cases h with
  | source hr hs hd =>
    refine effect_of_no_source hr ?_
    rw [chooseSource_of_no_server session hs, hd]
  | fetch hl =>
    obtain ⟨asked, he⟩ := effect_of_loads hl
    exact he
  | shape hp => exact effect_of_refused hp
  | overflow hp => exact effect_of_refused hp
  | unencodable hp => exact effect_of_refused hp

theorem chosen_or (disk : Disk) (name : Text) :
    (∃ source, Chosen disk name source) ∨ isServerAddress name = false ∧
      (disk.isDirectory (.ofText name) = .ok false ∨
        ∃ cause, disk.isDirectory (.ofText name) = .error cause) := by
  cases hs : isServerAddress name with
  | true => exact .inl ⟨_, .server hs⟩
  | false =>
    cases hd : disk.isDirectory (.ofText name) with
    | error cause => exact .inr ⟨rfl, .inr ⟨cause, rfl⟩⟩
    | ok isThere =>
      cases isThere with
      | true => exact .inl ⟨_, .directory hs hd⟩
      | false => exact .inr ⟨rfl, .inl rfl⟩

/-- A load alone is ready or has failed, if it is settled. -/
theorem loadedFrom_settled (session : Session) (route : Route) (source : Source) :
    (∃ cause, loadedFrom session route source = .error cause) ∨
      (∃ data notes,
        loadedFrom session route source = .ok (.ready route.view.sourcePath data notes)) ∨
      ∃ error, loadedFrom session route source = .ok (.failed route.view.sourcePath error) := by
  rw [loadedFrom]
  by_cases hc : ∃ cause, (fetch session.still route.view.sourcePath source).value = .crash cause
  · obtain ⟨cause, hc⟩ := hc
    exact .inl ⟨cause, (Loader.load_eq_error_iff _ _).2 hc⟩
  · have hsettled : ∀ cause,
        (fetch session.still route.view.sourcePath source).value ≠ .crash cause :=
      fun cause h => hc ⟨cause, h⟩
    rw [Loader.load_eq_ok _ _ hsettled]
    obtain ⟨data, notes, h⟩ | ⟨error, h⟩ :=
      History.stateOf_settled route.view.sourcePath hsettled
    · exact .inr (.inl ⟨data, notes, congrArg _ h⟩)
    · exact .inr (.inr ⟨error, congrArg _ h⟩)

/-- A page is rendered, or a message says why there is none, or an error is passed on. -/
theorem renders_or (session : Session) (settings : Settings) :
    (∃ page, Renders session settings (.ok page)) ∨ (∃ message, Complains session settings message) ∨
      ∃ cause, Crashes session settings cause := by
  cases hr : Route.parse settings.route with
  | error cause => exact .inr (.inl ⟨_, .route hr⟩)
  | ok route =>
    obtain ⟨source, hs⟩ | ⟨hs, hd | ⟨cause, hd⟩⟩ := chosen_or session.disk settings.source
    · obtain ⟨cause, hl⟩ | ⟨data, notes, hl⟩ | ⟨error, hl⟩ :=
        loadedFrom_settled session route source
      · exact .inr (.inr ⟨_, .fetch ⟨hr, hs, hl⟩⟩)
      · cases hp : ((LoadState.ready route.view.sourcePath data notes).page
          settings.options route).value with
        | ok page => exact .inl ⟨page, ⟨hr, hs, hl⟩, hp⟩
        | error cause =>
          cases cause with
          | route cause => exact .inr (.inl ⟨_, .page ⟨⟨hr, hs, hl⟩, hp⟩⟩)
          | shape cause => exact .inr (.inr ⟨_, .shape ⟨⟨hr, hs, hl⟩, hp⟩⟩)
          | overflow cause => exact .inr (.inr ⟨_, .overflow ⟨⟨hr, hs, hl⟩, hp⟩⟩)
          | unencodable cause => exact .inr (.inr ⟨_, .unencodable ⟨⟨hr, hs, hl⟩, hp⟩⟩)
      · exact .inr (.inl ⟨_, .load ⟨hr, hs, hl⟩⟩)
    · exact .inr (.inl ⟨_, .source hr hs hd⟩)
    · exact .inr (.inr ⟨_, .source hr hs hd⟩)

end

end WebDocs.CommandLine
