import WebDocs.Loading.Loader

namespace WebDocs

/-- A load is started, or the fetch of an open one ends. -/
inductive LoadEvent (ε : Type)
  | start (path : Text)
  | settle (request : Request) (outcome : Outcome ε)

namespace LoadEvent

variable {ε : Type}

def startedPath? : LoadEvent ε → Option Text
  | start path => some path
  | settle _ _ => none

def endingOf? (request : Request) : LoadEvent ε → Option (Outcome ε)
  | start _ => none
  | settle settled outcome => if settled = request then some outcome else none

end LoadEvent

namespace History

variable {ε : Type}

def starts (history : List (LoadEvent ε)) : List Text :=
  history.filterMap LoadEvent.startedPath?

/-- The loads in the order of their starts, numbered from one. -/
def loads (history : List (LoadEvent ε)) : List Request :=
  ((starts history).zipIdx 1).map fun (path, number) => ⟨path, number⟩

def lastStarted? (history : List (LoadEvent ε)) : Option Request := (loads history).getLast?

/-- How the fetch of a request ended, if it has. -/
def ending? (history : List (LoadEvent ε)) (request : Request) : Option (Outcome ε) :=
  history.findSome? (LoadEvent.endingOf? request)

/-- The state that one load alone leads to. -/
def stateOf (path : Text) : Option (Outcome ε) → LoadState
  | none => .pending (some path)
  | some (.payload value) =>
    match Response.unwrap value with
    | .ok response => .ready path response.data response.notes
    | .error cause => .failed path (.malformed cause)
  | some (.error cause) => .failed path cause
  | some (.crash _) => .pending (some path)

/-- The state that the load started last decides. -/
def decided (history : List (LoadEvent ε)) : LoadState :=
  match lastStarted? history with
  | none => .pending none
  | some request => stateOf request.path (ending? history request)

theorem starts_start (history : List (LoadEvent ε)) (path : Text) :
    starts (history ++ [.start path]) = starts history ++ [path] := by
  simp [starts, LoadEvent.startedPath?]

theorem starts_settle (history : List (LoadEvent ε)) (request : Request) (outcome : Outcome ε) :
    starts (history ++ [.settle request outcome]) = starts history := by
  simp [starts, LoadEvent.startedPath?]

theorem loads_start (history : List (LoadEvent ε)) (path : Text) :
    loads (history ++ [.start path]) =
      loads history ++ [⟨path, (starts history).length + 1⟩] := by
  simp [loads, starts_start, List.zipIdx_append, Nat.add_comm]

theorem loads_settle (history : List (LoadEvent ε)) (request : Request) (outcome : Outcome ε) :
    loads (history ++ [.settle request outcome]) = loads history := by
  simp only [loads, starts_settle]

theorem mem_loads {history : List (LoadEvent ε)} {request : Request} :
    request ∈ loads history ↔
      1 ≤ request.generation ∧ (starts history)[request.generation - 1]? = some request.path := by
  rw [loads, List.mem_map, ← List.mk_mem_zipIdx_iff_le_and_getElem?_sub]
  constructor
  · rintro ⟨entry, he, rfl⟩
    exact he
  · intro h
    exact ⟨_, h, rfl⟩

theorem generation_le_of_mem_loads {history : List (LoadEvent ε)} {request : Request}
    (h : request ∈ loads history) : request.generation ≤ (starts history).length := by
  obtain ⟨hpos, hp⟩ := mem_loads.1 h
  have hlt := (List.getElem?_eq_some_iff.1 hp).1
  omega

theorem lastStarted?_eq (history : List (LoadEvent ε)) :
    lastStarted? history = (starts history).getLast?.map (⟨·, (starts history).length⟩) := by
  rw [lastStarted?, loads, List.getLast?_map, List.getLast?_zipIdx]
  cases (starts history).getLast? <;> simp

theorem lastStarted?_start (history : List (LoadEvent ε)) (path : Text) :
    lastStarted? (history ++ [.start path]) = some ⟨path, (starts history).length + 1⟩ := by
  simp [lastStarted?, loads_start]

theorem lastStarted?_settle (history : List (LoadEvent ε)) (request : Request)
    (outcome : Outcome ε) :
    lastStarted? (history ++ [.settle request outcome]) = lastStarted? history := by
  simp only [lastStarted?, loads_settle]

/-- The load started last is the one with the greatest number. -/
theorem lastStarted?_eq_some_iff {history : List (LoadEvent ε)} {request : Request}
    (h : request ∈ loads history) :
    lastStarted? history = some request ↔ request.generation = (starts history).length := by
  rw [lastStarted?_eq]
  constructor
  · intro hl
    obtain ⟨path, _, rfl⟩ := Option.map_eq_some_iff.1 hl
    rfl
  · intro hg
    have hp := (mem_loads.1 h).2
    rw [hg, ← List.getLast?_eq_getElem?] at hp
    rw [hp, Option.map_some, ← hg]

theorem ending?_start (history : List (LoadEvent ε)) (path : Text) (request : Request) :
    ending? (history ++ [.start path]) request = ending? history request := by
  simp [ending?, LoadEvent.endingOf?]

theorem ending?_settle_self (history : List (LoadEvent ε)) (request : Request)
    (outcome : Outcome ε) (h : ending? history request = none) :
    ending? (history ++ [.settle request outcome]) request = some outcome := by
  rw [ending?] at h
  simp [ending?, LoadEvent.endingOf?, h]

theorem ending?_settle_of_ne (history : List (LoadEvent ε)) {request other : Request}
    (outcome : Outcome ε) (h : request ≠ other) :
    ending? (history ++ [.settle request outcome]) other = ending? history other := by
  simp [ending?, LoadEvent.endingOf?, h]

theorem ending?_eq_none {history : List (LoadEvent ε)} {request : Request}
    (h : ∀ outcome, .settle request outcome ∉ history) : ending? history request = none := by
  rw [ending?, List.findSome?_eq_none_iff]
  intro event he
  cases event with
  | start path => rfl
  | settle settled outcome =>
    have hne : settled ≠ request := by
      rintro rfl
      exact h outcome he
    simp [LoadEvent.endingOf?, hne]

theorem decided_start (history : List (LoadEvent ε)) (path : Text)
    (h : ending? history ⟨path, (starts history).length + 1⟩ = none) :
    decided (history ++ [.start path]) = .pending (some path) := by
  simp only [decided, lastStarted?_start, ending?_start, h, stateOf]

theorem decided_settle_last {history : List (LoadEvent ε)} {request : Request}
    (outcome : Outcome ε) (hl : lastStarted? history = some request)
    (h : ending? history request = none) :
    decided (history ++ [.settle request outcome]) = stateOf request.path (some outcome) := by
  simp only [decided, lastStarted?_settle, hl, ending?_settle_self history request outcome h]

theorem decided_settle_of_ne {history : List (LoadEvent ε)} {request : Request}
    (outcome : Outcome ε) (hl : lastStarted? history ≠ some request) :
    decided (history ++ [.settle request outcome]) = decided history := by
  simp only [decided, lastStarted?_settle]
  cases h : lastStarted? history with
  | none => rfl
  | some last =>
    have hne : request ≠ last := by
      rintro rfl
      exact hl h
    simp only [ending?_settle_of_ne history outcome hne]

end History

/-- A loader with its open requests. -/
structure Session where
  loader : Loader
  waiting : List Request

namespace Session

variable {ε : Type}

def initial : Session := ⟨Loader.initial, []⟩

/-- One event, and what the caller of a load gets when the load is settled. -/
def step (session : Session) : LoadEvent ε → Logged (Session × Option (Except ε LoadState))
  | .start path =>
    let (loader, request) := session.loader.start path
    return (⟨loader, session.waiting ++ [request]⟩, none)
  | .settle request outcome => do
    let (loader, answer) ← session.loader.finish request outcome
    return (⟨loader, session.waiting.erase request⟩, some answer)

def after (session : Session) (event : LoadEvent ε) : Session := (session.step event).value.1

def answer? (session : Session) (event : LoadEvent ε) : Option (Except ε LoadState) :=
  (session.step event).value.2

/-- A load can be started at any time; only an open one can be settled. -/
def Permits (session : Session) : LoadEvent ε → Prop
  | .start _ => True
  | .settle request _ => request ∈ session.waiting

/-- The session that a history of events leads to. -/
inductive Reach : List (LoadEvent ε) → Session → Prop
  | initial : Reach [] initial
  | step {history : List (LoadEvent ε)} {session : Session} {event : LoadEvent ε} :
      Reach history session → session.Permits event →
      Reach (history ++ [event]) (session.after event)

theorem waiting_start (session : Session) (path : Text) :
    (session.after (.start path : LoadEvent ε)).waiting =
      session.waiting ++ [⟨path, session.loader.generation + 1⟩] := rfl

theorem waiting_settle (session : Session) (request : Request) (outcome : Outcome ε) :
    (session.after (.settle request outcome)).waiting = session.waiting.erase request := by
  cases outcome <;> rfl

theorem generation_start (session : Session) (path : Text) :
    (session.after (.start path : LoadEvent ε)).loader.generation =
      session.loader.generation + 1 := rfl

theorem generation_settle (session : Session) (request : Request) (outcome : Outcome ε) :
    (session.after (.settle request outcome)).loader.generation = session.loader.generation := by
  cases outcome with
  | crash cause => rfl
  | payload value =>
    show (session.loader.settle request (.inl value)).value.generation = _
    unfold Loader.settle
    split <;> rfl
  | error cause =>
    show (session.loader.settle request (.inr cause)).value.generation = _
    unfold Loader.settle
    split <;> rfl

/-- A settled request changes the state only if no load was started after it. -/
theorem state_settle_of_ne (session : Session) {request : Request} (outcome : Outcome ε)
    (h : request.generation ≠ session.loader.generation) :
    (session.after (.settle request outcome)).loader.state = session.loader.state := by
  cases outcome with
  | crash cause => rfl
  | payload value =>
    show (session.loader.settle request (.inl value)).value.state = _
    simp only [Loader.settle, if_neg h]
  | error cause =>
    show (session.loader.settle request (.inr cause)).value.state = _
    simp only [Loader.settle, if_neg h]

/-- The latest request leads from the state in which it waits to the one that it decides. -/
theorem state_settle_latest (session : Session) {request : Request} (outcome : Outcome ε)
    (h : request.generation = session.loader.generation)
    (hs : session.loader.state = .pending (some request.path)) :
    (session.after (.settle request outcome)).loader.state =
      History.stateOf request.path (some outcome) := by
  cases outcome with
  | crash cause => exact hs
  | payload value =>
    show (session.loader.settle request (.inl value)).value.state = _
    simp only [Loader.settle, if_pos h]
    rfl
  | error cause =>
    show (session.loader.settle request (.inr cause)).value.state = _
    simp only [Loader.settle, if_pos h]
    rfl

/-- A load that is settled returns the state of the loader then, or passes its error on. -/
theorem answer?_settle (session : Session) (request : Request) (outcome : Outcome ε) :
    session.answer? (.settle request outcome) = some (match outcome with
      | .crash cause => .error cause
      | _ => .ok (session.after (.settle request outcome)).loader.state) := by
  cases outcome <;> rfl

/-- The loader counts the starts and waits for the loads that are not settled; its state is the one
that the load started last decides. -/
structure Inv (history : List (LoadEvent ε)) (session : Session) : Prop where
  count : session.loader.generation = (History.starts history).length
  nodup : session.waiting.Nodup
  waiting_iff : ∀ request, request ∈ session.waiting ↔
    request ∈ History.loads history ∧ History.ending? history request = none
  settled : ∀ request outcome, .settle request outcome ∈ history →
    request ∈ History.loads history
  state : session.loader.state = History.decided history

theorem Inv.init : Inv ([] : List (LoadEvent ε)) initial where
  count := rfl
  nodup := List.nodup_nil
  waiting_iff request := by simp [initial, History.loads, History.starts]
  settled _ _ h := absurd h List.not_mem_nil
  state := rfl

variable {history : List (LoadEvent ε)} {session : Session}

/-- The number that the next load gets has not been given out. -/
theorem Inv.next_not_mem (inv : Inv history session) (path : Text) :
    ⟨path, session.loader.generation + 1⟩ ∉ History.loads history := by
  intro h
  have hle := History.generation_le_of_mem_loads h
  rw [inv.count] at hle
  exact Nat.not_succ_le_self _ hle

theorem Inv.next_unsettled (inv : Inv history session) (path : Text) :
    History.ending? history ⟨path, session.loader.generation + 1⟩ = none :=
  History.ending?_eq_none fun outcome h => inv.next_not_mem path (inv.settled _ outcome h)

theorem Inv.start (inv : Inv history session) (path : Text) :
    Inv (history ++ [.start path]) (session.after (.start path : LoadEvent ε)) where
  count := by rw [generation_start, History.starts_start, inv.count]; simp
  nodup := by
    rw [waiting_start, List.nodup_append]
    refine ⟨inv.nodup, by simp, ?_⟩
    rintro request hr other ho rfl
    rw [List.mem_singleton.1 ho] at hr
    exact inv.next_not_mem path ((inv.waiting_iff _).1 hr).1
  waiting_iff := by
    intro request
    rw [waiting_start, History.loads_start, History.ending?_start, ← inv.count,
      List.mem_append, List.mem_append, inv.waiting_iff, List.mem_singleton]
    constructor
    · rintro (⟨hr, hu⟩ | rfl)
      · exact ⟨.inl hr, hu⟩
      · exact ⟨.inr rfl, inv.next_unsettled path⟩
    · rintro ⟨hr | rfl, hu⟩
      · exact .inl ⟨hr, hu⟩
      · exact .inr rfl
  settled := by
    intro request outcome h
    have hm : .settle request outcome ∈ history := by simpa using h
    rw [History.loads_start]
    exact List.mem_append_left _ (inv.settled request outcome hm)
  state := by
    rw [History.decided_start history path (inv.count ▸ inv.next_unsettled path)]
    rfl

theorem Inv.state_settle (inv : Inv history session) {request : Request} (outcome : Outcome ε)
    (hr : request ∈ session.waiting) :
    (session.after (.settle request outcome)).loader.state =
      History.decided (history ++ [.settle request outcome]) := by
  obtain ⟨hm, hu⟩ := (inv.waiting_iff request).1 hr
  have hi := History.lastStarted?_eq_some_iff hm
  rw [← inv.count] at hi
  by_cases hg : request.generation = session.loader.generation
  · have hs : session.loader.state = .pending (some request.path) := by
      rw [inv.state, History.decided, hi.2 hg]
      simp only [hu, History.stateOf]
    rw [History.decided_settle_last outcome (hi.2 hg) hu, state_settle_latest session outcome hg hs]
  · rw [History.decided_settle_of_ne outcome (fun h => hg (hi.1 h)),
      state_settle_of_ne session outcome hg, inv.state]

theorem Inv.settle (inv : Inv history session) {request : Request} (outcome : Outcome ε)
    (hr : request ∈ session.waiting) :
    Inv (history ++ [.settle request outcome]) (session.after (.settle request outcome)) where
  count := by rw [generation_settle, History.starts_settle, inv.count]
  nodup := by rw [waiting_settle]; exact inv.nodup.erase request
  waiting_iff := by
    intro other
    have hu := ((inv.waiting_iff request).1 hr).2
    rw [waiting_settle, History.loads_settle, inv.nodup.mem_erase_iff, inv.waiting_iff]
    by_cases hne : other = request
    · subst other
      simp [History.ending?_settle_self history request outcome hu]
    · rw [History.ending?_settle_of_ne history outcome (Ne.symm hne)]
      exact ⟨fun h => h.2, fun h => ⟨hne, h⟩⟩
  settled := by
    intro other ending h
    rw [History.loads_settle]
    rcases List.mem_append.1 h with h | h
    · exact inv.settled other ending h
    · obtain ⟨rfl, -⟩ : other = request ∧ ending = outcome := by simpa using h
      exact ((inv.waiting_iff other).1 hr).1
  state := inv.state_settle outcome hr

theorem Reach.inv (h : Reach history session) : Inv history session := by
  induction h with
  | initial => exact Inv.init
  | @step history session event _ hp ih =>
    cases event with
    | start path => exact ih.start path
    | settle request outcome => exact ih.settle outcome hp

end Session
end WebDocs
