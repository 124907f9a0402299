import WebDocs.Proofs.Loading.Session

namespace WebDocs.Session

variable {ε : Type} {history : List (LoadEvent ε)} {session : Session}

/-- A load that is not the one started last holds an older number. -/
theorem Inv.generation_ne (inv : Inv history session) {request : Request}
    (hr : request ∈ session.waiting) (hl : History.lastStarted? history ≠ some request) :
    request.generation ≠ session.loader.generation := by
  intro hg
  have hm := ((inv.waiting_iff request).1 hr).1
  exact hl ((History.lastStarted?_eq_some_iff hm).2 (hg.trans inv.count))

/-- After every history the open loads are those started and not settled, and the state is the one
that the load started last leads to alone. Settling another load leaves the state as it is, and
every load that returns gets the state the loader holds then. -/
theorem latest_load_decides (h : Reach history session) :
    session.loader.state = History.decided history ∧
    (∀ request, request ∈ session.waiting ↔
      request ∈ History.loads history ∧ History.ending? history request = none) ∧
    ∀ request ∈ session.waiting, ∀ outcome : Outcome ε,
      (History.lastStarted? history ≠ some request →
        (session.after (.settle request outcome)).loader.state = session.loader.state) ∧
      session.answer? (.settle request outcome) = some (match outcome with
        | .crash cause => .error cause
        | _ => .ok (session.after (.settle request outcome)).loader.state) := by
  have inv := h.inv
  refine ⟨inv.state, inv.waiting_iff, ?_⟩
  intro request hr outcome
  refine ⟨fun hl => ?_, answer?_settle session request outcome⟩
  exact state_settle_of_ne session outcome (inv.generation_ne hr hl)

/-- The answer to the first of two loads comes late: it is dropped, and its caller gets the state
that waits for the second. -/
theorem latest_load_decides_overtaken :
    let history : List (LoadEvent Unit) := [.start "/pages", .start "/llvm"]
    let session : Session := ⟨⟨.pending (some "/llvm"), 2⟩, [⟨"/pages", 1⟩, ⟨"/llvm", 2⟩]⟩
    let late : LoadEvent Unit := .settle ⟨"/pages", 1⟩ (.payload (.arr [.null, .arr []]))
    Reach history session ∧ (session.after late).loader.state = .pending (some "/llvm") ∧
      session.answer? late = some (.ok (.pending (some "/llvm"))) := by
  intro history session late
  have h₁ : Reach [.start "/pages"] (initial.after (.start "/pages" : LoadEvent Unit)) :=
    Reach.step .initial trivial
  have h : Reach history session := Reach.step h₁ trivial
  obtain ⟨hs, -, hr⟩ := latest_load_decides h
  obtain ⟨hstate, hanswer⟩ := hr ⟨"/pages", 1⟩ (by simp [session]) (.payload (.arr [.null, .arr []]))
  have hkept := hstate (by simp [History.lastStarted?_eq, History.starts, history,
    LoadEvent.startedPath?])
  refine ⟨h, hkept, ?_⟩
  rw [hanswer, hkept]

end WebDocs.Session
