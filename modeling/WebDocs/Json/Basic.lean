import WebDocs.Decimal.Basic
import WebDocs.Text.Basic

namespace WebDocs

inductive Json
  | null
  | bool (value : Bool)
  | int (value : Int)
  | float (value : Decimal)
  | str (value : Text)
  | arr (items : List Json)
  | obj (members : List (Text × Json))
  deriving Inhabited

/-- Members, each with its key, in order. -/
abbrev Members (α : Type) := List (Text × α)

namespace Members

variable {α β : Type}

def get? (key : Text) : Members α → Option α
  | [] => none
  | (k, v) :: rest => if k = key then some v else get? key rest

def keys (members : Members α) : List Text := members.map (·.1)

/-- Binds a key. A key that is bound already keeps its place. -/
def put (key : Text) (value : α) : Members α → Members α
  | [] => [(key, value)]
  | (k, v) :: rest => if k = key then (k, value) :: rest else (k, v) :: put key value rest

/-- The members as a map: every key once, at its first place, with its last value. -/
def ofPairs (pairs : List (Text × α)) : Members α :=
  pairs.foldl (fun members (key, value) => members.put key value) []

def mapValues (f : α → β) (members : Members α) : Members β :=
  members.map fun (key, value) => (key, f value)

@[simp] theorem get?_nil (key : Text) : get? key ([] : Members α) = none := rfl

theorem get?_put (key other : Text) (value : α) (members : Members α) :
    (members.put key value).get? other = if other = key then some value else members.get? other := by
  induction members with
  | nil => by_cases h : key = other <;> simp [put, get?, h, eq_comm]
  | cons m rest ih =>
    obtain ⟨k, v⟩ := m
    by_cases h : k = key
    · subst h
      by_cases ho : other = k <;> simp [put, get?, ho, eq_comm]
    · by_cases hk : k = other
      · subst hk
        simp [put, get?, h]
      · simp [put, get?, h, hk, ih]

theorem keys_put (key : Text) (value : α) (members : Members α) :
    (members.put key value).keys =
      if key ∈ members.keys then members.keys else members.keys ++ [key] := by
  induction members with
  | nil => simp [put, keys]
  | cons m rest ih =>
    obtain ⟨k, v⟩ := m
    by_cases h : k = key
    · simp [put, keys, h]
    · have h' : ¬key = k := fun e => h e.symm
      simp only [put, if_neg h, keys, List.map_cons, List.mem_cons, h', false_or] at ih ⊢
      rw [ih]
      by_cases hm : key ∈ List.map (fun x => x.fst) rest <;> simp [hm]

end Members

namespace Json

mutual

/-- How deep lists and objects are nested in a value; a scalar has depth zero. -/
def depth : Json → Nat
  | arr items => 1 + depthItems items
  | obj members => 1 + depthMembers members
  | _ => 0

def depthItems : List Json → Nat
  | [] => 0
  | item :: rest => max item.depth (depthItems rest)

def depthMembers : List (Text × Json) → Nat
  | [] => 0
  | (_, value) :: rest => max value.depth (depthMembers rest)

end

theorem depth_le_depthItems {item : Json} {items : List Json} (h : item ∈ items) :
    item.depth ≤ depthItems items := by
  induction items with
  | nil => simp at h
  | cons first rest ih =>
    rw [depthItems]
    rcases List.mem_cons.1 h with rfl | h
    · exact Nat.le_max_left ..
    · exact Nat.le_trans (ih h) (Nat.le_max_right ..)

theorem depth_le_depthMembers {member : Text × Json} {members : List (Text × Json)}
    (h : member ∈ members) : member.2.depth ≤ depthMembers members := by
  induction members with
  | nil => simp at h
  | cons first rest ih =>
    obtain ⟨k, v⟩ := first
    rw [depthMembers]
    rcases List.mem_cons.1 h with rfl | h
    · exact Nat.le_max_left ..
    · exact Nat.le_trans (ih h) (Nat.le_max_right ..)

variable {α : Type}

/-- Answers for values down to a number of levels; below that the answer is `bottom`. -/
def answers (step : (Json → α) → Json → α) (bottom : Json → α) : Nat → Json → α
  | 0 => bottom
  | levels + 1 => step (answers step bottom levels)

/-- A step that asks only for the answers of parts, that is, of shallower values. -/
def Local (step : (Json → α) → Json → α) : Prop :=
  ∀ (f g : Json → α) (value : Json), (∀ part, part.depth < value.depth → f part = g part) →
    step f value = step g value

/-- The answer of a value, where each step may use the answers of the value's parts. -/
def descend (step : (Json → α) → Json → α) (bottom : Json → α) (value : Json) : α :=
  answers step bottom (value.depth + 1) value

theorem answers_congr {step : (Json → α) → Json → α} (h : Local step) (bottom : Json → α)
    {m n : Nat} {value : Json} (hm : value.depth < m) (hn : value.depth < n) :
    answers step bottom m value = answers step bottom n value := by
  induction m generalizing n value with
  | zero => omega
  | succ m ih =>
    match n with
    | 0 => omega
    | n + 1 => exact h _ _ value fun part hp => ih (by omega) (by omega)

theorem descend_eq {step : (Json → α) → Json → α} (h : Local step) (bottom : Json → α)
    (value : Json) : descend step bottom value = step (descend step bottom) value :=
  h _ _ value fun _ hp => answers_congr h bottom hp (Nat.lt_succ_self _)

end Json
end WebDocs
