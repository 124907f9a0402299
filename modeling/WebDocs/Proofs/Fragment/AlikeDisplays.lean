import WebDocs.Fragment.Node
import WebDocs.Proofs.Dump.Objects

namespace WebDocs

/-- The other display shows a replaced object as the first one shows the object. -/
structure Display.ShowsReplaced (display other : Display) (f : Obj → Obj) : Prop where
  obj : ∀ obj, other.obj (f obj) = display.obj obj
  comments : other.comments = display.comments

variable {display other : Display} {f : Obj → Obj}

mutual

theorem Expr.fragment_mapObjs (hf : display.ShowsReplaced other f) : (expr : Expr) →
    (expr.mapObjs f).fragment other = expr.fragment display
  | .constant _ _ => rfl
  | .name _ _ => rfl
  | .apply _ base args => by
    simp only [Expr.mapObjs, Expr.fragment, Arg.fragments_mapObjs hf args,
      base.fragment_mapObjs hf]
  | .paren inner => by simp only [Expr.mapObjs, Expr.fragment, inner.fragment_mapObjs hf]
  | .methods base calls => by
    simp only [Expr.mapObjs, Expr.fragment, Expr.callFragment_mapObjs hf calls,
      base.fragment_mapObjs hf]
  | .ifThenElse _ condition yes no => by
    simp only [Expr.mapObjs, Expr.fragment, condition.fragment_mapObjs hf,
      yes.fragment_mapObjs hf, no.fragment_mapObjs hf]
  | .branch _ _ subject arms => by
    simp only [Expr.mapObjs, Expr.fragment, subject.fragment_mapObjs hf,
      Arm.fragments_mapObjs hf arms]
  | .unknown _ _ => rfl

theorem Expr.callFragment_mapObjs (hf : display.ShowsReplaced other f) : (calls : List Expr) →
    Expr.callFragment other (Expr.mapCallObjs f calls) = Expr.callFragment display calls
  | [] => rfl
  | call :: rest => by
    simp only [Expr.mapCallObjs, Expr.callFragment, call.fragment_mapObjs hf,
      Expr.callFragment_mapObjs hf rest]

theorem Arg.fragments_mapObjs (hf : display.ShowsReplaced other f) : (args : List Arg) →
    Arg.fragments other (Arg.mapObjs f args) = Arg.fragments display args
  | [] => rfl
  | .named _ value :: rest => by
    simp only [Arg.mapObjs, Arg.fragments, value.fragment_mapObjs hf,
      Arg.fragments_mapObjs hf rest]
  | .positional value :: rest => by
    simp only [Arg.mapObjs, Arg.fragments, value.fragment_mapObjs hf,
      Arg.fragments_mapObjs hf rest]
  | .unknown _ _ :: rest => by
    simp only [Arg.mapObjs, Arg.fragments, Arg.fragments_mapObjs hf rest]

theorem Guard.fragment_mapObjs (hf : display.ShowsReplaced other f) : (guard : Guard) →
    (guard.mapObjs f).fragment other = guard.fragment display
  | .ifGuard condition => by
    simp only [Guard.mapObjs, Guard.fragment, condition.fragment_mapObjs hf]
  | .elseGuard => rfl
  | .noGuard => rfl
  | .unknown _ _ => rfl

theorem Arm.fragments_mapObjs (hf : display.ShowsReplaced other f) : (arms : List Arm) →
    Arm.fragments other (Arm.mapObjs f arms) = Arm.fragments display arms
  | [] => rfl
  | .mk pattern guard :: rest => by
    simp only [Arm.mapObjs, Arm.fragments, hf.obj pattern, guard.fragment_mapObjs hf,
      Arm.fragments_mapObjs hf rest]

end

mutual

theorem Decl.fragment_mapObjs (hf : display.ShowsReplaced other f) : (decl : Decl) →
    (decl.mapObjs f).fragment other = decl.fragment display
  | .mk obj guard subs body => by
    have hs := SubStatement.fragments_mapObjs hf subs
    cases body with
    | none =>
      simp only [Decl.mapObjs, Decl.fragment, hs, SubStatement.mapObjs_isEmpty, hf.obj obj,
        guard.fragment_mapObjs hf, Option.map_none]
    | some body =>
      simp only [Decl.mapObjs, Decl.fragment, hs, SubStatement.mapObjs_isEmpty, hf.obj obj,
        guard.fragment_mapObjs hf, Option.map_some, body.fragment_mapObjs hf]

theorem SubStatement.fragments_mapObjs (hf : display.ShowsReplaced other f) :
    (subs : List SubStatement) →
    SubStatement.fragments other (SubStatement.mapObjs f subs) = SubStatement.fragments display subs
  | [] => rfl
  | .decl d :: rest => by
    simp only [SubStatement.mapObjs, SubStatement.fragments, d.fragment_mapObjs hf,
      SubStatement.fragments_mapObjs hf rest]
  | .annot expr :: rest => by
    simp only [SubStatement.mapObjs, SubStatement.fragments, expr.fragment_mapObjs hf,
      SubStatement.fragments_mapObjs hf rest]
  | .unknown _ _ :: rest => by
    simp only [SubStatement.mapObjs, SubStatement.fragments,
      SubStatement.fragments_mapObjs hf rest]

end

/-- The statements ask for the value at the position. -/
def Asks (statements : List Statement) (position : Json) : Prop :=
  ∃ expr, .globalAnnot expr ∈ statements ∧ expr.headPosition = position

theorem annotFragment_mapObjs (hf : display.ShowsReplaced other f) {expr : Expr}
    (hl : other.index.lookup expr.headPosition = display.index.lookup expr.headPosition) :
    annotFragment other (expr.mapObjs f) = annotFragment display expr := by
  simp only [annotFragment, expr.headPosition_mapObjs, hl, expr.fragment_mapObjs hf]

theorem Statement.fragment_mapObjs (hf : display.ShowsReplaced other f) (statement : Statement)
    (hl : ∀ position, Asks [statement] position →
      other.index.lookup position = display.index.lookup position) :
    (statement.mapObjs f).fragment other = statement.fragment display := by
  cases statement with
  | decl d => exact d.fragment_mapObjs hf
  | globalAnnot expr =>
    exact annotFragment_mapObjs hf (hl _ ⟨expr, List.mem_singleton_self _, rfl⟩)
  | comment text => simp only [Statement.mapObjs, Statement.fragment, hf.comments]
  | _ => rfl

/-- Statements with replaced objects are shown as the statements were, where the values are the same
at the positions that the statements ask for. -/
theorem statementsFragment_mapObjs (hf : display.ShowsReplaced other f)
    (statements : List Statement)
    (hl : ∀ position, Asks statements position →
      other.index.lookup position = display.index.lookup position) :
    statementsFragment other (statements.map (Statement.mapObjs f)) =
      statementsFragment display statements := by
  have hfragments : statementFragments other (statements.map (Statement.mapObjs f)) =
      statementFragments display statements := by
    induction statements with
    | nil => rfl
    | cons statement rest ih =>
      have hs := statement.fragment_mapObjs hf fun position ⟨expr, he, hp⟩ =>
        hl position ⟨expr, List.mem_singleton.1 he ▸ List.mem_cons_self, hp⟩
      have hr := ih fun position ⟨expr, he, hp⟩ => hl position ⟨expr, List.mem_cons_of_mem _ he, hp⟩
      simp only [List.map_cons, statementFragments, hs, hr]
  simp only [statementsFragment, hfragments]

theorem map_mapObjs_eq_self {statements : List Statement}
    (h : ∀ statement ∈ statements, ∀ obj ∈ statement.objs, f obj = obj) :
    statements.map (Statement.mapObjs f) = statements :=
  (List.map_congr_left fun statement hm => statement.mapObjs_eq_self (h statement hm)).trans
    (List.map_id statements)

/-- Displays that show objects and comments in the same way. -/
structure Display.Alike (display other : Display) : Prop where
  metas : other.metas = display.metas
  details : other.details = display.details
  comments : other.comments = display.comments

theorem Display.Alike.showsReplaced (ha : display.Alike other) :
    display.ShowsReplaced other id where
  obj obj := by
    rw [Display.obj, ha.metas, ha.details]
    rfl
  comments := ha.comments

/-- Statements are shown the same on displays that are alike and hold the same values at the
positions that the statements ask for. -/
theorem statementsFragment_alike (ha : display.Alike other) (statements : List Statement)
    (hl : ∀ position, Asks statements position →
      other.index.lookup position = display.index.lookup position) :
    statementsFragment other statements = statementsFragment display statements := by
  have h := statementsFragment_mapObjs ha.showsReplaced statements hl
  have hid : ∀ statement ∈ statements, ∀ obj ∈ statement.objs, id obj = obj := fun _ _ _ _ => rfl
  rwa [map_mapObjs_eq_self hid] at h

end WebDocs
