import WebDocs.Json.Printer
import WebDocs.Markup.Basic

namespace WebDocs.Json

def isText : Json → Bool
  | str _ => true
  | _ => false

/-- The members that have the key "tag". -/
def isTag (member : Text × Json) : Bool := member.1 = "tag"

def hasTextTag (members : List (Text × Json)) : Bool :=
  match Members.get? "tag" members with
  | some tag => tag.isText
  | none => false

/-- The contents of a node stand alone: there is no other member but the tag. -/
def contentsAlone (members : List (Text × Json)) : Bool :=
  match members.filter (!isTag ·) with
  | [(key, _)] => key = "contents"
  | _ => false

def isVoid : Json → Bool
  | null => true
  | obj [] => true
  | _ => false

theorem isVoid_iff {value : Json} : value.isVoid ↔ value = null ∨ value = obj [] := by
  match value with
  | null => simp [isVoid]
  | obj [] => simp [isVoid]
  | obj (_ :: _) | bool _ | int _ | float _ | str _ | arr _ => simp [isVoid]

mutual

def outline : Json → Fragment
  | null => [.text "null"]
  | bool b => [.text (if b then "true" else "false")]
  | int n => [.text (Text.ofChars (printInt n))]
  | float x => [.text (Text.ofChars (printFloat x))]
  | str s => Fragment.ofText s
  | arr items => [.element .items (outlineItems items)]
  | obj members =>
    if hasTextTag members then
      let tag := match Members.get? "tag" members with
        | some (str tag) => tag
        | _ => ""
      let inner :=
        if contentsAlone members then outlineContents members
        else if members.all isTag then []
        else [.element .members (outlineMembers (!isTag ·) members)]
      [.element .outline (.element .summary (Fragment.ofText tag) :: inner)]
    else [.element .members (outlineMembers (fun _ => true) members)]

def outlineItems : List Json → Fragment
  | [] => []
  | item :: rest => .element .item item.outline :: outlineItems rest

/-- The members that are kept, each as its key and its outline. -/
def outlineMembers (keep : Text × Json → Bool) : List (Text × Json) → Fragment
  | [] => []
  | (key, value) :: rest =>
    if keep (key, value) then
      .element .key (Fragment.ofText key) :: .element .value value.outline :: outlineMembers keep rest
    else outlineMembers keep rest

/-- The outline of the contents, which are nothing when they are null or an empty object. -/
def outlineContents : List (Text × Json) → Fragment
  | [] => []
  | (key, value) :: rest =>
    if key = "contents" then (if value.isVoid then [] else value.outline) else outlineContents rest

end

end WebDocs.Json
