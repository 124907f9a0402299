import WebDocs.Dump.Error
import WebDocs.Route

namespace WebDocs

/-- The kinds of errors that are reported to the reader of a page. -/
inductive ErrorKind
  | general
  | transport
  | malformed
  | pageConflict
  | unknownRoute
  deriving DecidableEq

/-- An expected error: a document that can not be fetched, one with a wrong structure, a route that
leads nowhere, or what a source says in its own words. -/
inductive ViewError
  | transport (path reason : Text)
  | malformed (cause : Malformed)
  | route (cause : RouteError)
  | said (kind : ErrorKind) (words : Text)

namespace ViewError

def kind : ViewError → ErrorKind
  | transport _ _ => .transport
  | malformed (.pageAndDirectory _) => .pageConflict
  | malformed _ => .malformed
  | route _ => .unknownRoute
  | said kind _ => kind

def message : ViewError → Text
  | transport path reason => path ++ ": " ++ reason
  | malformed cause => cause.message
  | route cause => cause.message
  | said _ words => words

end ViewError

structure Response where
  data : Json
  notes : List Json

namespace Response

/-- Notes are a list, or one note alone; null is no note. -/
def asNotes : Json → List Json
  | .null => []
  | .arr notes => notes
  | note => [note]

/-- A response is a document and its notes, or notes alone. -/
def unwrap : Json → Except Malformed Response
  | .arr [data, notes] => .ok ⟨data, asNotes notes⟩
  | .arr [notes] => .ok ⟨.null, asNotes notes⟩
  | .arr (first :: rest) => .error (.responseLength (first :: rest).length)
  | _ => .error .responseNotArray

theorem unwrap_eq_ok_iff {payload : Json} {response : Response} :
    unwrap payload = .ok response ↔
      (∃ data notes, payload = .arr [data, notes] ∧ response = ⟨data, asNotes notes⟩) ∨
        ∃ notes, payload = .arr [notes] ∧ response = ⟨.null, asNotes notes⟩ := by
  constructor
  · intro h
    unfold unwrap at h
    split at h
    next data notes => exact .inl ⟨data, notes, rfl, by cases h; rfl⟩
    next notes => exact .inr ⟨notes, rfl, by cases h; rfl⟩
    all_goals cases h
  · rintro (⟨data, notes, rfl, rfl⟩ | ⟨notes, rfl, rfl⟩) <;> rfl

theorem unwrap_eq_error_iff {payload : Json} {cause : Malformed} :
    unwrap payload = .error cause ↔
      (∃ items, payload = .arr items ∧ 3 ≤ items.length ∧ cause = .responseLength items.length) ∨
        (∀ first rest, payload ≠ .arr (first :: rest)) ∧ cause = .responseNotArray := by
  constructor
  · intro h
    unfold unwrap at h
    split at h
    next => cases h
    next => cases h
    next first rest h₂ h₁ =>
      refine .inl ⟨first :: rest, rfl, ?_, by cases h; rfl⟩
      match rest with
      | [] => exact (h₁ rfl).elim
      | [second] => exact (h₂ second rfl).elim
      | _ :: _ :: _ => simp
    next hne => exact .inr ⟨hne, by cases h; rfl⟩
  · rintro (⟨items, rfl, hlen, rfl⟩ | ⟨hne, rfl⟩)
    · match items with
      | _ :: _ :: _ :: _ => rfl
    · unfold unwrap
      split
      next data notes => exact absurd rfl (hne data [notes])
      next notes => exact absurd rfl (hne notes [])
      next first rest _ _ => exact absurd rfl (hne first rest)
      next => rfl

end Response

/-- What is known of the document that was asked for last. -/
inductive LoadState
  | pending (path : Option Text)
  | failed (path : Text) (error : ViewError)
  | ready (path : Text) (data : Json) (notes : List Json)

end WebDocs
