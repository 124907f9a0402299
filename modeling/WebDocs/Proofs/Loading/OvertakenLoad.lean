import Mathlib.Data.List.Induction
import WebDocs.Proofs.Loading.LatestLoad

namespace WebDocs

/-- The notice is for everyone, not only for those who look for errors. -/
def Notice.isLoud (notice : Notice) : Bool := notice.level ≠ .debug

namespace Outcome

variable {ε : Type}

/-- The source gives an answer or an expected error. -/
def Expected (outcome : Outcome ε) : Prop := ∀ cause, outcome ≠ .crash cause

/-- The error that a fetch ends with: its own, or that its payload is no response. -/
def failure? : Outcome ε → Option ViewError
  | payload value =>
    match Response.unwrap value with
    | .ok _ => none
    | .error cause => some (.malformed cause)
  | error cause => some cause
  | crash _ => none

/-- The warning of a fetch that fails. -/
def warnings (path : Text) (outcome : Outcome ε) : List Notice :=
  (outcome.failure?.map fun error => .loadFailed path error.message).toList

theorem warnings_eq_nil {path : Text} {outcome : Outcome ε} (h : outcome.failure? = none) :
    outcome.warnings path = [] := by
  rw [warnings, h]
  rfl

theorem loud_warnings (path : Text) (outcome : Outcome ε) :
    (outcome.warnings path).filter Notice.isLoud = outcome.warnings path := by
  cases h : outcome.failure? with
  | none => simp [warnings, h]
  | some error => simp [warnings, h, Notice.isLoud, Notice.level]

theorem quiet_warnings (path : Text) (outcome : Outcome ε) :
    (outcome.warnings path).filter (!Notice.isLoud ·) = [] := by
  rw [← loud_warnings, List.filter_filter]
  simp

end Outcome

namespace LoadEvent

variable {ε : Type}

/-- The warning that an event deserves. -/
def warnings : LoadEvent ε → List Notice
  | start _ => []
  | settle request outcome => outcome.warnings request.path

end LoadEvent

theorem Loader.failureLog_result {ε : Type} (path : Text) (outcome : Outcome ε)
    (answer : Json ⊕ ViewError)
    (h : outcome = answer.elim Outcome.payload Outcome.error) :
    Loader.failureLog path (Loader.result path answer) = outcome.warnings path := by
  subst h
  cases answer with
  | inr error => rfl
  | inl value =>
    simp only [Loader.result, Outcome.warnings, Outcome.failure?, Sum.elim_inl]
    cases Response.unwrap value <;> rfl

namespace Session

variable {ε : Type}

/-- The settlement of a load reports its failure first, and then that it was overtaken. -/
theorem log_settle (session : Session) (request : Request) {outcome : Outcome ε}
    (he : outcome.Expected) :
    (session.step (.settle request outcome)).log = outcome.warnings request.path ++
      if request.generation = session.loader.generation then []
      else [.staleResponse request.path] := by
  have hsettle (answer : Json ⊕ ViewError)
      (h : outcome = answer.elim Outcome.payload Outcome.error) :
      (session.loader.settle request answer).log = outcome.warnings request.path ++
        if request.generation = session.loader.generation then []
        else [.staleResponse request.path] := by
    rw [← Loader.failureLog_result request.path outcome answer h, Loader.settle]
    split
    · exact (List.append_nil _).symm
    · rfl
  have hlog (shown : Logged Loader) : shown.log ++ [] ++ [] = shown.log := by
    rw [List.append_nil, List.append_nil]
  cases outcome with
  | payload value => exact (hlog _).trans (hsettle (.inl value) rfl)
  | error cause => exact (hlog _).trans (hsettle (.inr cause) rfl)
  | crash cause => exact absurd rfl (he cause)

theorem loud_step (session : Session) (event : LoadEvent ε) :
    (session.step event).log.filter Notice.isLoud = event.warnings := by
  cases event with
  | start path => rfl
  | settle request outcome =>
    by_cases he : outcome.Expected
    · rw [log_settle session request he, List.filter_append, Outcome.loud_warnings]
      split <;> exact List.append_nil _
    · obtain ⟨cause, rfl⟩ : ∃ cause, outcome = .crash cause := by
        simpa [Outcome.Expected] using he
      rfl

/-- An overtaken load leaves the loader as it is, however its fetch ends. -/
theorem after_settle_of_ne (session : Session) {request : Request} (outcome : Outcome ε)
    (h : request.generation ≠ session.loader.generation) :
    session.after (.settle request outcome) =
      ⟨session.loader, session.waiting.erase request⟩ := by
  have hsettle (answer : Json ⊕ ViewError) :
      (session.loader.settle request answer).value = session.loader := by
    rw [Loader.settle, if_neg h]
  cases outcome with
  | payload value => exact congrArg (Session.mk · _) (hsettle (.inl value))
  | error cause => exact congrArg (Session.mk · _) (hsettle (.inr cause))
  | crash cause => rfl

/-- The run of a history: the session it leads to, the state of the loader after each event, and all
that is reported. -/
inductive Traced : List (LoadEvent ε) → Session → List LoadState → List Notice → Prop
  | initial : Traced [] initial [] []
  | step {history : List (LoadEvent ε)} {session : Session} {states : List LoadState}
      {notices : List Notice} {event : LoadEvent ε} :
      Traced history session states notices → session.Permits event →
      Traced (history ++ [event]) (session.after event)
        (states ++ [(session.after event).loader.state]) (notices ++ (session.step event).log)

variable {history others : List (LoadEvent ε)} {session other : Session}
  {states otherStates : List LoadState} {notices otherNotices : List Notice}

theorem Traced.start (h : Traced history session states notices) (path : Text) :
    Traced (history ++ [.start path]) (session.after (.start path : LoadEvent ε))
      (states ++ [.pending (some path)]) (notices ++ []) :=
  .step h trivial

theorem Traced.reach (h : Traced history session states notices) : Reach history session := by
  induction h with
  | initial => exact .initial
  | step _ hp ih => exact .step ih hp

theorem Traced.of_nil (h : Traced ([] : List (LoadEvent ε)) session states notices) :
    session = Session.initial ∧ states = [] := by
  generalize hw : ([] : List (LoadEvent ε)) = whole at h
  cases h with
  | initial => exact ⟨rfl, rfl⟩
  | step => exact absurd hw.symm (List.append_ne_nil_of_right_ne_nil _ (List.cons_ne_nil _ _))

theorem Traced.of_append {event : LoadEvent ε}
    (h : Traced (history ++ [event]) session states notices) :
    ∃ before earlier said, Traced history before earlier said ∧ before.Permits event ∧
      session = before.after event ∧ states = earlier ++ [(before.after event).loader.state] ∧
      notices = said ++ (before.step event).log := by
  generalize hw : history ++ [event] = whole at h
  cases h with
  | initial => exact absurd hw (List.append_ne_nil_of_right_ne_nil _ (List.cons_ne_nil _ _))
  | step h hp =>
    obtain ⟨rfl, he⟩ := List.append_inj' hw rfl
    cases he
    exact ⟨_, _, _, h, hp, rfl, rfl, rfl⟩

/-- Every fetch that fails is warned of, and nothing else is said aloud. -/
theorem Traced.loud (h : Traced history session states notices) :
    notices.filter Notice.isLoud = history.flatMap LoadEvent.warnings := by
  induction h with
  | initial => rfl
  | @step history session _ _ event _ _ ih =>
    rw [List.filter_append, ih, loud_step, List.flatMap_append, List.flatMap_singleton]

/-- Two histories with the same events in the same order, except that the fetch of a load that was
overtaken may end in two ways. `P` holds of those ends. -/
inductive Twins (P : Outcome ε → Prop) : List (LoadEvent ε) → List (LoadEvent ε) → Prop
  | nil : Twins P [] []
  | same {history others : List (LoadEvent ε)} (event : LoadEvent ε) :
      Twins P history others → Twins P (history ++ [event]) (others ++ [event])
  | overtaken {history others : List (LoadEvent ε)} {request : Request} {outcome ending : Outcome ε}
      (hl : History.lastStarted? history ≠ some request) (ho : P outcome) (he : P ending) :
      Twins P history others →
      Twins P (history ++ [.settle request outcome]) (others ++ [.settle request ending])

variable {P : Outcome ε → Prop}

theorem Twins.refl (history : List (LoadEvent ε)) : Twins P history history := by
  induction history using List.reverseRecOn with
  | nil => exact .nil
  | append_singleton history event ih => exact .same event ih

/-- Twins lead to one session, by the same states. -/
theorem Twins.states_eq (ht : Twins P history others) (h : Traced history session states notices)
    (ho : Traced others other otherStates otherNotices) :
    session = other ∧ states = otherStates := by
  induction ht generalizing session other states otherStates notices otherNotices with
  | nil =>
    obtain ⟨rfl, rfl⟩ := h.of_nil
    obtain ⟨rfl, rfl⟩ := ho.of_nil
    exact ⟨rfl, rfl⟩
  | same event _ ih =>
    obtain ⟨before, _, _, hb, -, rfl, rfl, -⟩ := h.of_append
    obtain ⟨_, _, _, hb', -, rfl, rfl, -⟩ := ho.of_append
    obtain ⟨rfl, rfl⟩ := ih hb hb'
    exact ⟨rfl, rfl⟩
  | overtaken hl _ _ _ ih =>
    obtain ⟨before, _, _, hb, hp, rfl, rfl, -⟩ := h.of_append
    obtain ⟨_, _, _, hb', -, rfl, rfl, -⟩ := ho.of_append
    obtain ⟨rfl, rfl⟩ := ih hb hb'
    have hg := hb.reach.inv.generation_ne hp hl
    rw [after_settle_of_ne before _ hg, after_settle_of_ne before _ hg]
    exact ⟨rfl, rfl⟩

theorem Twins.warnings_eq (ht : Twins P history others)
    (hP : ∀ outcome, P outcome → outcome.failure? = none) :
    history.flatMap LoadEvent.warnings = others.flatMap LoadEvent.warnings := by
  induction ht with
  | nil => rfl
  | same event _ ih => rw [List.flatMap_append, List.flatMap_append, ih]
  | @overtaken history others request outcome ending _ ho he _ ih =>
    have hw : (LoadEvent.settle request outcome).warnings = [] :=
      Outcome.warnings_eq_nil (hP outcome ho)
    have hw' : (LoadEvent.settle request ending).warnings = [] :=
      Outcome.warnings_eq_nil (hP ending he)
    rw [List.flatMap_append, List.flatMap_append, ih, List.flatMap_singleton,
      List.flatMap_singleton, hw, hw']

/-- The settlement of an overtaken load is noticed once by those who look for errors; aloud it is
said that its fetch failed, if it did. Two runs that differ only in how the fetches of overtaken
loads end go through the same states. What they say aloud is a warning for each fetch that fails, so
it is the same if none of the overtaken ones fails. -/
theorem overtaken_loads_dropped (h : Traced history session states notices)
    (ho : Traced others other otherStates otherNotices) (ht : Twins P history others) :
    (∀ request ∈ session.waiting, History.lastStarted? history ≠ some request →
      ∀ outcome : Outcome ε, outcome.Expected →
      let log := (session.step (.settle request outcome)).log
      log.filter (!Notice.isLoud ·) = [.staleResponse request.path] ∧
      log.filter Notice.isLoud = outcome.warnings request.path ∧
      (session.after (.settle request outcome)).loader.state = session.loader.state) ∧
    states = otherStates ∧
    notices.filter Notice.isLoud = history.flatMap LoadEvent.warnings ∧
    ((∀ outcome, P outcome → outcome.failure? = none) →
      notices.filter Notice.isLoud = otherNotices.filter Notice.isLoud) := by
  refine ⟨?_, (ht.states_eq h ho).2, h.loud, fun hP => ?_⟩
  · intro request hr hl outcome he log
    have hg := h.reach.inv.generation_ne hr hl
    have hlog := log_settle session request he
    rw [if_neg hg] at hlog
    refine ⟨?_, loud_step session (.settle request outcome), state_settle_of_ne session outcome hg⟩
    change (session.step (.settle request outcome)).log.filter (!Notice.isLoud ·) = _
    rw [hlog, List.filter_append, Outcome.quiet_warnings]
    rfl
  · rw [h.loud, ho.loud, ht.warnings_eq hP]

/-- The first of three loads ends with one answer or with another one, and nobody hears of it; that the
second one fails is said aloud. -/
theorem overtaken_loads_dropped_three :
    let starts : List (LoadEvent Unit) := [.start "/a", .start "/b", .start "/c"]
    let answer (n : Int) : LoadEvent Unit := .settle ⟨"/a", 1⟩ (.payload (.arr [.int n, .arr []]))
    ∃ session states notices otherNotices,
      Traced (starts ++ [answer 1]) session states notices ∧
      Traced (starts ++ [answer 2]) session states otherNotices ∧
      notices.filter Notice.isLoud = otherNotices.filter Notice.isLoud ∧
      (session.step (.settle ⟨"/b", 2⟩ (.error (.transport "/b" "gone")) : LoadEvent Unit)).log.filter
        Notice.isLoud = [.loadFailed "/b" "/b: gone"] := by
  intro starts answer
  let session : Session := ⟨⟨.pending (some "/c"), 3⟩, [⟨"/a", 1⟩, ⟨"/b", 2⟩, ⟨"/c", 3⟩]⟩
  have hstart : Traced starts session [.pending (some "/a"), .pending (some "/b"),
      .pending (some "/c")] [] :=
    ((Traced.initial.start "/a").start "/b").start "/c"
  have hlast (request : Request) (hr : request.path ≠ "/c") :
      History.lastStarted? starts ≠ some request := by
    rintro h
    cases h
    exact hr rfl
  have h (n : Int) := hstart.step (show session.Permits (answer n) from List.mem_cons_self)
  have ht : Twins (fun outcome => outcome.failure? = none) (starts ++ [answer 1])
      (starts ++ [answer 2]) := .overtaken (hlast _ (by decide)) rfl rfl (.refl starts)
  obtain ⟨hevent, -, -, hloud⟩ := overtaken_loads_dropped (h 1) (h 2) ht
  have hwarned := (hevent ⟨"/b", 2⟩ (by decide) (by decide) (.error (.transport "/b" "gone"))
    nofun).2.1
  exact ⟨_, _, _, _, h 1, h 2, hloud fun _ hp => hp, hwarned⟩

/-- An overtaken load that fails is warned of, which one that succeeds is not. -/
theorem overtaken_failure_warned :
    let session : Session := ⟨⟨.pending (some "/b"), 2⟩, [⟨"/a", 1⟩, ⟨"/b", 2⟩]⟩
    let late (outcome : Outcome Unit) : LoadEvent Unit := .settle ⟨"/a", 1⟩ outcome
    Reach ([.start "/a", .start "/b"] : List (LoadEvent Unit)) session ∧
      (session.step (late (.error (.transport "/a" "gone")))).log =
        [.loadFailed "/a" "/a: gone", .staleResponse "/a"] ∧
      (Notice.loadFailed "/a" "/a: gone").level = .warning ∧
      (session.step (late (.payload (.arr [.null, .arr []])))).log = [.staleResponse "/a"] := by
  intro session late
  have h : Reach [.start "/a"] (initial.after (.start "/a" : LoadEvent Unit)) :=
    Reach.step .initial trivial
  exact ⟨Reach.step h trivial, rfl, rfl, rfl⟩

end Session
end WebDocs
