import WebDocs.Loading.State
import WebDocs.Report

namespace WebDocs

/-- How a fetch ends: with a payload, with an expected error, or with one that is passed on. -/
inductive Outcome (ε : Type)
  | payload (value : Json)
  | error (cause : ViewError)
  | crash (cause : ε)

/-- A request that is open: its path and its place in the sequence of all requests. -/
structure Request where
  path : Text
  generation : Nat
  deriving DecidableEq

structure Loader where
  state : LoadState
  generation : Nat

namespace Loader

variable {ε : Type}

def initial : Loader := ⟨.pending none, 0⟩

def start (loader : Loader) (path : Text) : Loader × Request :=
  (⟨.pending (some path), loader.generation + 1⟩, ⟨path, loader.generation + 1⟩)

/-- The state a payload or an error leads to. -/
def result (path : Text) : Json ⊕ ViewError → LoadState
  | .inl payload =>
    match Response.unwrap payload with
    | .ok response => .ready path response.data response.notes
    | .error cause => .failed path (.malformed cause)
  | .inr error => .failed path error

/-- The notice of a failure. -/
def failureLog (path : Text) : LoadState → List Notice
  | .failed _ error => [.loadFailed path error.message]
  | _ => []

/-- A request is settled. It answers the state the loader holds then; only the latest request
changes that state. -/
def settle (loader : Loader) (request : Request) (answer : Json ⊕ ViewError) : Logged Loader :=
  let found := result request.path answer
  if request.generation = loader.generation then
    ⟨⟨found, loader.generation⟩, failureLog request.path found⟩
  else ⟨loader, failureLog request.path found ++ [.staleResponse request.path]⟩

/-- What the caller of a request gets when it is settled: a state, or the error passed on. -/
def finish (loader : Loader) (request : Request) :
    Outcome ε → Logged (Loader × Except ε LoadState)
  | .payload value => do
    let loader ← loader.settle request (.inl value)
    return (loader, .ok loader.state)
  | .error cause => do
    let loader ← loader.settle request (.inr cause)
    return (loader, .ok loader.state)
  | .crash cause => return (loader, .error cause)

/-- One request that is settled at once. -/
def load (loader : Loader) (path : Text) (outcome : Logged (Outcome ε)) :
    Logged (Loader × Except ε LoadState) := do
  let (loader, request) := loader.start path
  finish loader request (← outcome)

end Loader
end WebDocs
