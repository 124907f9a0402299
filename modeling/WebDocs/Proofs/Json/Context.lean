import WebDocs.Json.Basic

namespace WebDocs.Json

inductive Context
  | hole
  | item (before : List Json) (inner : Context) (after : List Json)
  | member (before : Members Json) (key : Text) (inner : Context) (after : Members Json)

namespace Context

def plug : Context → Json → Json
  | hole, value => value
  | item before inner after, value => .arr (before ++ inner.plug value :: after)
  | member before key inner after, value => .obj (before ++ (key, inner.plug value) :: after)

/-- The second context stands in the hole of the first. -/
def comp : Context → Context → Context
  | hole, inside => inside
  | item before inner after, inside => item before (inner.comp inside) after
  | member before key inner after, inside => member before key (inner.comp inside) after

theorem plug_comp (outer inner : Context) (value : Json) :
    (outer.comp inner).plug value = outer.plug (inner.plug value) := by
  induction outer with
  | hole => rfl
  | item before outer after ih => rw [comp, plug, ih, plug]
  | member before key outer after ih => rw [comp, plug, ih, plug]

theorem comp_assoc (a b c : Context) : (a.comp b).comp c = a.comp (b.comp c) := by
  induction a with
  | hole => rfl
  | item before a after ih => rw [comp, comp, ih, comp]
  | member before key a after ih => rw [comp, comp, ih, comp]

/-- Around a proper context there is at least a list or an object. -/
theorem plug_ne_null {context : Context} (h : context ≠ hole) (value : Json) :
    context.plug value ≠ .null := by
  cases context with
  | hole => exact absurd rfl h
  | item | member => exact Json.noConfusion

end Context
end WebDocs.Json
