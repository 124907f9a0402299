import WebDocs.Dump.Basic
import WebDocs.Markup.Basic

namespace WebDocs

structure Artifact where
  name : Text
  contents : Text
  deriving DecidableEq

inductive ArtifactKind
  | code
  | embedded
  | text
  deriving DecidableEq

def ArtifactKind.name : ArtifactKind → Text
  | code => "code"
  | embedded => "embedded"
  | text => "text"

namespace Artifact

/-- A text ends with another one. -/
def hasEnding (ending name : List CodePoint) : Bool := ending.reverse.isPrefixOf name.reverse

def kindOf (fileName : Text) : ArtifactKind :=
  if hasEnding (".ll" : Text).toList fileName.toList then .code
  else if hasEnding (".html" : Text).toList fileName.toList then .embedded
  else .text

def kind (artifact : Artifact) : ArtifactKind := kindOf artifact.name

def fragment (artifact : Artifact) : Fragment :=
  match artifact.kind with
  | .code => [.element .codeBlock [.element .code (Fragment.ofText artifact.contents)]]
  | .embedded => [.frame artifact.contents artifact.name]
  | .text => [.element .textBlock (Fragment.ofText artifact.contents)]

/-- The tuple that carries an artifact. -/
def resultName : Text := "CatlnResult"

/-- A result tuple with a text as its name and one as its contents is an artifact. -/
def ofVal? : Val → Option Artifact
  | .tuple name args =>
    if name = resultName then
      match Members.get? "name" args, Members.get? "contents" args with
      | some (.str name), some (.str contents) => some ⟨name, contents⟩
      | _, _ => none
    else none
  | _ => none

theorem ofVal?_eq_some_iff {value : Val} {artifact : Artifact} :
    ofVal? value = some artifact ↔
      ∃ args, value = .tuple "CatlnResult" args ∧
        Members.get? "name" args = some (.str artifact.name) ∧
        Members.get? "contents" args = some (.str artifact.contents) := by
  constructor
  · intro h
    unfold ofVal? at h
    split at h
    next name args =>
      split at h
      next hname =>
        split at h
        next n c hn hc =>
          cases h
          exact ⟨args, congrArg (Val.tuple · args) hname, hn, hc⟩
        next => cases h
      next => cases h
    next => cases h
  · rintro ⟨args, rfl, hn, hc⟩
    simp [ofVal?, resultName, hn, hc]

end Artifact
end WebDocs
