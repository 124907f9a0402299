import WebDocs.Dump.Basic

namespace WebDocs

/-- The metas of an object: its own, and those of its variables and arguments. -/
def Obj.metas (obj : Obj) : List Meta :=
  obj.info :: (obj.vars.map (·.2) ++ obj.args.map (·.2))

/-- The object with its metas replaced. -/
def Obj.mapMetas (f : Meta → Meta) (obj : Obj) : Obj where
  info := f obj.info
  basis := obj.basis
  name := obj.name
  vars := obj.vars.map fun entry => (entry.1, f entry.2)
  args := obj.args.map fun entry => (entry.1, f entry.2)

theorem Obj.mapMetas_eq_self {f : Meta → Meta} {obj : Obj} (h : ∀ info ∈ obj.metas, f info = info) :
    obj.mapMetas f = obj := by
  obtain ⟨info, basis, name, vars, args⟩ := obj
  obtain ⟨hinfo, h⟩ := List.forall_mem_cons.1 h
  obtain ⟨hvars, hargs⟩ := List.forall_mem_append.1 h
  have hentries : ∀ entries : Members Meta, (∀ info ∈ entries.map (·.2), f info = info) →
      entries.map (fun entry => (entry.1, f entry.2)) = entries := by
    intro entries he
    refine (List.map_congr_left fun entry hm => ?_).trans (List.map_id entries)
    rw [he entry.2 (List.mem_map_of_mem hm)]
    rfl
  rw [mapMetas, hinfo, hentries vars hvars, hentries args hargs]

mutual

/-- The patterns inside an expression. -/
def Expr.objs : Expr → List Obj
  | .constant _ _ => []
  | .name _ _ => []
  | .apply _ base args => base.objs ++ Arg.objs args
  | .paren inner => inner.objs
  | .methods base calls => base.objs ++ Expr.callObjs calls
  | .ifThenElse _ condition yes no => condition.objs ++ (yes.objs ++ no.objs)
  | .branch _ _ subject arms => subject.objs ++ Arm.objs arms
  | .unknown _ _ => []

def Expr.callObjs : List Expr → List Obj
  | [] => []
  | call :: rest => call.objs ++ Expr.callObjs rest

def Arg.objs : List Arg → List Obj
  | [] => []
  | .named _ value :: rest => value.objs ++ Arg.objs rest
  | .positional value :: rest => value.objs ++ Arg.objs rest
  | .unknown _ _ :: rest => Arg.objs rest

def Guard.objs : Guard → List Obj
  | .ifGuard condition => condition.objs
  | .elseGuard => []
  | .noGuard => []
  | .unknown _ _ => []

def Arm.objs : List Arm → List Obj
  | [] => []
  | .mk pattern guard :: rest => pattern :: (guard.objs ++ Arm.objs rest)

end

def Decl.bodyObjs : Option Expr → List Obj
  | some body => body.objs
  | none => []

mutual

def Decl.objs : Decl → List Obj
  | .mk obj guard subs body => obj :: (guard.objs ++ (SubStatement.objs subs ++ Decl.bodyObjs body))

def SubStatement.objs : List SubStatement → List Obj
  | [] => []
  | .decl d :: rest => d.objs ++ SubStatement.objs rest
  | .annot expr :: rest => expr.objs ++ SubStatement.objs rest
  | .unknown _ _ :: rest => SubStatement.objs rest

end

/-- Definitions of types and classes have no objects. -/
def Statement.objs : Statement → List Obj
  | .decl d => d.objs
  | .globalAnnot expr => expr.objs
  | _ => []

section

variable (f : Obj → Obj)

mutual

def Expr.mapObjs : Expr → Expr
  | .constant info value => .constant info value
  | .name info name => .name info name
  | .apply info base args => .apply info base.mapObjs (Arg.mapObjs args)
  | .paren inner => .paren inner.mapObjs
  | .methods base calls => .methods base.mapObjs (Expr.mapCallObjs calls)
  | .ifThenElse info condition yes no =>
    .ifThenElse info condition.mapObjs yes.mapObjs no.mapObjs
  | .branch kind info subject arms => .branch kind info subject.mapObjs (Arm.mapObjs arms)
  | .unknown tag raw => .unknown tag raw

def Expr.mapCallObjs : List Expr → List Expr
  | [] => []
  | call :: rest => call.mapObjs :: Expr.mapCallObjs rest

def Arg.mapObjs : List Arg → List Arg
  | [] => []
  | .named name value :: rest => .named name value.mapObjs :: Arg.mapObjs rest
  | .positional value :: rest => .positional value.mapObjs :: Arg.mapObjs rest
  | .unknown tag raw :: rest => .unknown tag raw :: Arg.mapObjs rest

def Guard.mapObjs : Guard → Guard
  | .ifGuard condition => .ifGuard condition.mapObjs
  | .elseGuard => .elseGuard
  | .noGuard => .noGuard
  | .unknown tag raw => .unknown tag raw

def Arm.mapObjs : List Arm → List Arm
  | [] => []
  | .mk pattern guard :: rest => .mk (f pattern) guard.mapObjs :: Arm.mapObjs rest

end

mutual

def Decl.mapObjs : Decl → Decl
  | .mk obj guard subs body =>
    .mk (f obj) (guard.mapObjs f) (SubStatement.mapObjs subs) (body.map (Expr.mapObjs f))

def SubStatement.mapObjs : List SubStatement → List SubStatement
  | [] => []
  | .decl d :: rest => .decl d.mapObjs :: SubStatement.mapObjs rest
  | .annot expr :: rest => .annot (expr.mapObjs f) :: SubStatement.mapObjs rest
  | .unknown tag raw :: rest => .unknown tag raw :: SubStatement.mapObjs rest

end

def Statement.mapObjs : Statement → Statement
  | .decl d => .decl (d.mapObjs f)
  | .globalAnnot expr => .globalAnnot (expr.mapObjs f)
  | statement => statement

end

variable {f : Obj → Obj}

theorem SubStatement.mapObjs_isEmpty (subs : List SubStatement) :
    (SubStatement.mapObjs f subs).isEmpty = subs.isEmpty := by
  cases subs with
  | nil => rfl
  | cons sub rest => cases sub <;> rfl

/-- Expressions keep their positions. -/
theorem Expr.headPosition_mapObjs : (expr : Expr) →
    (expr.mapObjs f).headPosition = expr.headPosition
  | .constant _ _ | .name _ _ | .apply _ _ _ | .ifThenElse _ _ _ _ | .branch _ _ _ _ => rfl
  | .paren inner => Expr.headPosition_mapObjs inner
  | .methods base _ => Expr.headPosition_mapObjs base
  | .unknown _ _ => rfl

mutual

theorem Expr.mapObjs_eq_self : (expr : Expr) → (∀ obj ∈ expr.objs, f obj = obj) →
    expr.mapObjs f = expr
  | .constant _ _, _ => rfl
  | .name _ _, _ => rfl
  | .apply _ base args, h => by
    obtain ⟨hbase, hargs⟩ := List.forall_mem_append.1 h
    rw [Expr.mapObjs, base.mapObjs_eq_self hbase, Arg.mapObjs_eq_self args hargs]
  | .paren inner, h => by rw [Expr.mapObjs, inner.mapObjs_eq_self h]
  | .methods base calls, h => by
    obtain ⟨hbase, hcalls⟩ := List.forall_mem_append.1 h
    rw [Expr.mapObjs, base.mapObjs_eq_self hbase, Expr.mapCallObjs_eq_self calls hcalls]
  | .ifThenElse _ condition yes no, h => by
    obtain ⟨hcondition, h⟩ := List.forall_mem_append.1 h
    obtain ⟨hyes, hno⟩ := List.forall_mem_append.1 h
    rw [Expr.mapObjs, condition.mapObjs_eq_self hcondition, yes.mapObjs_eq_self hyes,
      no.mapObjs_eq_self hno]
  | .branch _ _ subject arms, h => by
    obtain ⟨hsubject, harms⟩ := List.forall_mem_append.1 h
    rw [Expr.mapObjs, subject.mapObjs_eq_self hsubject, Arm.mapObjs_eq_self arms harms]
  | .unknown _ _, _ => rfl

theorem Expr.mapCallObjs_eq_self : (calls : List Expr) →
    (∀ obj ∈ Expr.callObjs calls, f obj = obj) → Expr.mapCallObjs f calls = calls
  | [], _ => rfl
  | call :: rest, h => by
    obtain ⟨hcall, hrest⟩ := List.forall_mem_append.1 h
    rw [Expr.mapCallObjs, call.mapObjs_eq_self hcall, Expr.mapCallObjs_eq_self rest hrest]

theorem Arg.mapObjs_eq_self : (args : List Arg) → (∀ obj ∈ Arg.objs args, f obj = obj) →
    Arg.mapObjs f args = args
  | [], _ => rfl
  | .named _ value :: rest, h => by
    obtain ⟨hvalue, hrest⟩ := List.forall_mem_append.1 h
    rw [Arg.mapObjs, value.mapObjs_eq_self hvalue, Arg.mapObjs_eq_self rest hrest]
  | .positional value :: rest, h => by
    obtain ⟨hvalue, hrest⟩ := List.forall_mem_append.1 h
    rw [Arg.mapObjs, value.mapObjs_eq_self hvalue, Arg.mapObjs_eq_self rest hrest]
  | .unknown _ _ :: rest, h => by rw [Arg.mapObjs, Arg.mapObjs_eq_self rest h]

theorem Guard.mapObjs_eq_self : (guard : Guard) → (∀ obj ∈ guard.objs, f obj = obj) →
    guard.mapObjs f = guard
  | .ifGuard condition, h => by rw [Guard.mapObjs, condition.mapObjs_eq_self h]
  | .elseGuard, _ => rfl
  | .noGuard, _ => rfl
  | .unknown _ _, _ => rfl

theorem Arm.mapObjs_eq_self : (arms : List Arm) → (∀ obj ∈ Arm.objs arms, f obj = obj) →
    Arm.mapObjs f arms = arms
  | [], _ => rfl
  | .mk _ guard :: rest, h => by
    obtain ⟨hpattern, h⟩ := List.forall_mem_cons.1 h
    obtain ⟨hguard, hrest⟩ := List.forall_mem_append.1 h
    rw [Arm.mapObjs, hpattern, guard.mapObjs_eq_self hguard, Arm.mapObjs_eq_self rest hrest]

end

mutual

theorem Decl.mapObjs_eq_self : (decl : Decl) → (∀ obj ∈ decl.objs, f obj = obj) →
    decl.mapObjs f = decl
  | .mk _ guard subs body, h => by
    obtain ⟨hobj, h⟩ := List.forall_mem_cons.1 h
    obtain ⟨hguard, h⟩ := List.forall_mem_append.1 h
    obtain ⟨hsubs, hbody⟩ := List.forall_mem_append.1 h
    rw [Decl.mapObjs, hobj, guard.mapObjs_eq_self hguard, SubStatement.mapObjs_eq_self subs hsubs]
    cases body with
    | none => rfl
    | some body => rw [Option.map_some, body.mapObjs_eq_self hbody]

theorem SubStatement.mapObjs_eq_self : (subs : List SubStatement) →
    (∀ obj ∈ SubStatement.objs subs, f obj = obj) → SubStatement.mapObjs f subs = subs
  | [], _ => rfl
  | .decl d :: rest, h => by
    obtain ⟨hd, hrest⟩ := List.forall_mem_append.1 h
    rw [SubStatement.mapObjs, d.mapObjs_eq_self hd, SubStatement.mapObjs_eq_self rest hrest]
  | .annot expr :: rest, h => by
    obtain ⟨hexpr, hrest⟩ := List.forall_mem_append.1 h
    rw [SubStatement.mapObjs, expr.mapObjs_eq_self hexpr, SubStatement.mapObjs_eq_self rest hrest]
  | .unknown _ _ :: rest, h => by
    rw [SubStatement.mapObjs, SubStatement.mapObjs_eq_self rest h]

end

theorem Statement.mapObjs_eq_self (statement : Statement) (h : ∀ obj ∈ statement.objs, f obj = obj) :
    statement.mapObjs f = statement := by
  cases statement with
  | decl d => rw [Statement.mapObjs, d.mapObjs_eq_self h]
  | globalAnnot expr => rw [Statement.mapObjs, expr.mapObjs_eq_self h]
  | _ => rfl

end WebDocs
