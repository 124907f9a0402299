import WebDocs.Proofs.Dump.MovedPositions
import WebDocs.Proofs.Fragment.AlikeDisplays

namespace WebDocs

variable (f : Json → Json)

/-- The notice with the position of an annotation replaced. -/
def Notice.mapPosition : Notice → Notice
  | missingResult position => missingResult (f position)
  | nothingPrinted position => nothingPrinted (f position)
  | notice => notice

namespace Logged

variable {α β : Type}

/-- The same value, with the positions in the log replaced. -/
def mapPositions (shown : Logged α) : Logged α :=
  ⟨shown.value, shown.log.map (Notice.mapPosition f)⟩

@[simp] theorem mapPositions_pure (a : α) :
    (pure a : Logged α).mapPositions f = pure a := rfl

@[simp] theorem mapPositions_report (notice : Notice) :
    (report notice).mapPositions f = report (notice.mapPosition f) := rfl

@[simp] theorem mapPositions_bind (first : Logged α) (next : α → Logged β) :
    (first >>= next).mapPositions f =
      first.mapPositions f >>= fun a => (next a).mapPositions f := by
  have hlog : (first.log ++ (next first.value).log).map (Notice.mapPosition f) =
      first.log.map (Notice.mapPosition f) ++
        (next first.value).log.map (Notice.mapPosition f) := List.map_append
  exact congrArg (Logged.mk _) hlog

end Logged

mutual

theorem Ty.mapPositions_fragment : (type : Ty) → type.fragment.mapPositions f = type.fragment
  | .top => rfl
  | .typeVar _ => rfl
  | .sum parts => by simp [Ty.fragment, Ty.mapPositions_partFragments parts]
  | .unknown _ _ => rfl

theorem Ty.mapPositions_partFragments : (parts : List PartialType) →
    (Ty.partFragments parts).mapPositions f = Ty.partFragments parts
  | [] => rfl
  | .mk name options :: rest => by
    have ho := Ty.mapPositions_optionFragments name options
    have hr := Ty.mapPositions_partFragments rest
    simp [Ty.partFragments, ho, hr]

theorem Ty.mapPositions_optionFragments (name : Text) : (options : List TypeOption) →
    (Ty.optionFragments name options).mapPositions f = Ty.optionFragments name options
  | [] => rfl
  | .mk vars args :: rest => by
    have hv := Ty.mapPositions_entryFragments vars
    have ha := Ty.mapPositions_entryFragments args
    have hr := Ty.mapPositions_optionFragments name rest
    simp [Ty.optionFragments, hv, ha, hr]

theorem Ty.mapPositions_entryFragments : (entries : List (Text × Ty)) →
    (Ty.entryFragments entries).mapPositions f = Ty.entryFragments entries
  | [] => rfl
  | (_, type) :: rest => by
    have ht := type.mapPositions_fragment
    have hr := Ty.mapPositions_entryFragments rest
    simp [Ty.entryFragments, ht, hr]

end

theorem Val.mapPositions_fragment (value : Val) :
    value.fragment.mapPositions f = value.fragment := by
  cases value with
  | tuple name args =>
    simp only [Val.fragment]
    cases Artifact.ofVal? (.tuple name args) with
    | some artifact => rfl
    | none => by_cases hn : name = Artifact.resultName <;> simp [hn, Notice.mapPosition]
  | _ => rfl

theorem Meta.fragment_mapPosition (style : MetaStyle) (info : Meta) :
    (info.mapPosition f).fragment style = (info.fragment style).mapPositions f := by
  obtain ⟨type, position⟩ := info
  cases style with
  | typed => exact (type.mapPositions_fragment f).symm
  | declared =>
    cases type with
    | top => rfl
    | _ => exact (Ty.mapPositions_fragment f _).symm

theorem Obj.entryFragments_mapPositions (style : MetaStyle) (entries : Members Meta) :
    Obj.entryFragments style (Members.mapPositions f entries) =
      (Obj.entryFragments style entries).mapPositions f := by
  induction entries with
  | nil => rfl
  | cons entry rest ih =>
    have hi := entry.2.fragment_mapPosition f style
    have hrest : Members.mapPositions f (entry :: rest) =
        (entry.1, entry.2.mapPosition f) :: Members.mapPositions f rest := rfl
    rw [hrest]
    simp [Obj.entryFragments, hi, ih]

theorem Obj.fragment_mapPositions (style : MetaStyle) (details : Bool) (obj : Obj) :
    (obj.mapPositions f).fragment style details = (obj.fragment style details).mapPositions f := by
  have hv := Obj.entryFragments_mapPositions f style obj.vars
  have ha := Obj.entryFragments_mapPositions f style obj.args
  have hi := obj.info.fragment_mapPosition f style
  cases details with
  | false => simp [Obj.fragment, Obj.mapPositions, hv, ha]
  | true => simp [Obj.fragment, Obj.detailsFragment, Obj.mapPositions, hv, ha, hi]

variable {display moved : Display}

theorem Display.Alike.obj_mapPositions (ha : display.Alike moved) (obj : Obj) :
    moved.obj (obj.mapPositions f) = (display.obj obj).mapPositions f := by
  rw [Display.obj, ha.metas, ha.details, Obj.fragment_mapPositions]
  rfl

variable {f}

mutual

theorem Expr.fragment_mapPositions (ha : display.Alike moved) : (expr : Expr) →
    (expr.mapPositions f).fragment moved = (expr.fragment display).mapPositions f
  | .constant _ _ => rfl
  | .name _ _ => rfl
  | .apply _ base args => by
    have hargs := Arg.fragments_mapPositions ha args
    simp [Expr.mapPositions, Expr.fragment, base.fragment_mapPositions ha, hargs]
  | .paren inner => by simp [Expr.mapPositions, Expr.fragment, inner.fragment_mapPositions ha]
  | .methods base calls => by
    have hc := Expr.callFragment_mapCalls ha calls
    simp [Expr.mapPositions, Expr.fragment, base.fragment_mapPositions ha, hc]
  | .ifThenElse _ condition yes no => by
    simp [Expr.mapPositions, Expr.fragment, condition.fragment_mapPositions ha,
      yes.fragment_mapPositions ha, no.fragment_mapPositions ha]
  | .branch _ _ subject arms => by
    have harms := Arm.fragments_mapPositions ha arms
    simp [Expr.mapPositions, Expr.fragment, subject.fragment_mapPositions ha, harms]
  | .unknown _ _ => rfl

theorem Expr.callFragment_mapCalls (ha : display.Alike moved) : (calls : List Expr) →
    Expr.callFragment moved (Expr.mapCalls f calls) =
      (Expr.callFragment display calls).mapPositions f
  | [] => rfl
  | call :: rest => by
    have hr := Expr.callFragment_mapCalls ha rest
    simp [Expr.mapCalls, Expr.callFragment, call.fragment_mapPositions ha, hr]

theorem Arg.fragments_mapPositions (ha : display.Alike moved) : (args : List Arg) →
    Arg.fragments moved (Arg.mapPositions f args) = (Arg.fragments display args).mapPositions f
  | [] => rfl
  | .named _ value :: rest => by
    have hr := Arg.fragments_mapPositions ha rest
    simp [Arg.mapPositions, Arg.fragments, value.fragment_mapPositions ha, hr]
  | .positional value :: rest => by
    have hr := Arg.fragments_mapPositions ha rest
    simp [Arg.mapPositions, Arg.fragments, value.fragment_mapPositions ha, hr]
  | .unknown _ _ :: rest => by
    have hr := Arg.fragments_mapPositions ha rest
    simp [Arg.mapPositions, Arg.fragments, Notice.mapPosition, hr]

theorem Guard.fragment_mapPositions (ha : display.Alike moved) : (guard : Guard) →
    (guard.mapPositions f).fragment moved = (guard.fragment display).mapPositions f
  | .ifGuard condition => by
    simp [Guard.mapPositions, Guard.fragment, condition.fragment_mapPositions ha]
  | .elseGuard => rfl
  | .noGuard => rfl
  | .unknown _ _ => rfl

theorem Arm.fragments_mapPositions (ha : display.Alike moved) : (arms : List Arm) →
    Arm.fragments moved (Arm.mapPositions f arms) = (Arm.fragments display arms).mapPositions f
  | [] => rfl
  | .mk pattern guard :: rest => by
    have hp := ha.obj_mapPositions f pattern
    have hr := Arm.fragments_mapPositions ha rest
    simp [Arm.mapPositions, Arm.fragments, hp, guard.fragment_mapPositions ha, hr]

end

theorem optionSpans_mapPositions (types : List Ty) :
    (optionSpans types).mapPositions f = optionSpans types := by
  induction types with
  | nil => rfl
  | cons type rest ih =>
    have ht := type.mapPositions_fragment f
    simp [optionSpans, ht, ih]

theorem typeVarsFragment_mapPositions (vars : Members Ty) :
    (typeVarsFragment vars).mapPositions f = typeVarsFragment vars := by
  have hv := Ty.mapPositions_entryFragments f vars
  simp [typeVarsFragment, hv]

mutual

theorem Decl.fragment_mapPositions (ha : display.Alike moved) : (decl : Decl) →
    (decl.mapPositions f).fragment moved = (decl.fragment display).mapPositions f
  | .mk obj guard subs body => by
    have ho := ha.obj_mapPositions f obj
    have hg := guard.fragment_mapPositions (f := f) ha
    have hs := SubStatement.fragments_mapPositions ha subs
    have hempty := SubStatement.mapPositions_eq_nil f subs
    cases body with
    | none => simp [Decl.mapPositions, Decl.fragment, ho, hg, hs, hempty]
    | some body =>
      have hb := body.fragment_mapPositions (f := f) ha
      simp [Decl.mapPositions, Decl.fragment, ho, hg, hs, hempty, hb]

theorem SubStatement.fragments_mapPositions (ha : display.Alike moved) :
    (subs : List SubStatement) →
    SubStatement.fragments moved (SubStatement.mapPositions f subs) =
      (SubStatement.fragments display subs).mapPositions f
  | [] => rfl
  | .decl d :: rest => by
    have hd := d.fragment_mapPositions ha
    have hr := SubStatement.fragments_mapPositions ha rest
    simp [SubStatement.mapPositions, SubStatement.fragments, hd, hr]
  | .annot expr :: rest => by
    have he := expr.fragment_mapPositions (f := f) ha
    have hr := SubStatement.fragments_mapPositions ha rest
    simp [SubStatement.mapPositions, SubStatement.fragments, he, hr]
  | .unknown _ _ :: rest => by
    have hr := SubStatement.fragments_mapPositions ha rest
    simp [SubStatement.mapPositions, SubStatement.fragments, Notice.mapPosition, hr]

end

/-- The value of an annotation is found at its new position, and a notice about it names that. -/
theorem annotFragment_mapPositions (hf : Json.Relocates f) (ha : display.Alike moved) {expr : Expr}
    (hl : moved.index.lookup (f expr.headPosition) = display.index.lookup expr.headPosition) :
    annotFragment moved (expr.mapPositions f) = (annotFragment display expr).mapPositions f := by
  have he := expr.fragment_mapPositions (f := f) ha
  have hhead := expr.headPosition_mapPositions hf
  have hvalue (value : Val) := value.mapPositions_fragment f
  simp only [annotFragment, hhead, hl, he, Logged.mapPositions_bind]
  cases display.index.lookup expr.headPosition with
  | none => rfl
  | some value =>
    cases value with
    | tuple name args =>
      by_cases hn : name = printAnnotation
      · cases hp : Members.get? printedArg args with
        | none => simp [hn, hp, Notice.mapPosition]
        | some printed => simp [hn, hp, hvalue]
      · simp [hn]
    | _ => rfl

theorem Statement.fragment_mapPositions (hf : Json.Relocates f) (ha : display.Alike moved)
    (statement : Statement) (hl : ∀ position, Asks [statement] position →
      moved.index.lookup (f position) = display.index.lookup position) :
    (statement.mapPositions f).fragment moved = (statement.fragment display).mapPositions f := by
  cases statement with
  | decl d => exact d.fragment_mapPositions ha
  | multiTypeDef name vars options =>
    have ho := @optionSpans_mapPositions f options
    have hv := @typeVarsFragment_mapPositions f vars
    simp [Statement.mapPositions, Statement.fragment, ho, hv]
  | typeDef type =>
    have ht := type.mapPositions_fragment f
    simp [Statement.mapPositions, Statement.fragment, ht]
  | classInstance typeName vars className =>
    have hv := @typeVarsFragment_mapPositions f vars
    simp [Statement.mapPositions, Statement.fragment, hv]
  | classDecl name vars =>
    have hv := @typeVarsFragment_mapPositions f vars
    simp [Statement.mapPositions, Statement.fragment, hv]
  | globalAnnot expr =>
    exact annotFragment_mapPositions hf ha (hl _ ⟨expr, List.mem_singleton_self _, rfl⟩)
  | comment text =>
    simp only [Statement.mapPositions, Statement.fragment, ha.comments, Logged.mapPositions_pure]
  | unknown tag raw => rfl

theorem statementsFragment_mapPositions (hf : Json.Relocates f) (ha : display.Alike moved)
    (statements : List Statement) (hl : ∀ position, Asks statements position →
      moved.index.lookup (f position) = display.index.lookup position) :
    statementsFragment moved (statements.map (Statement.mapPositions f)) =
      (statementsFragment display statements).mapPositions f := by
  have hfragments : statementFragments moved (statements.map (Statement.mapPositions f)) =
      (statementFragments display statements).mapPositions f := by
    induction statements with
    | nil => rfl
    | cons statement rest ih =>
      have hs := statement.fragment_mapPositions hf ha fun position ⟨expr, he, hp⟩ =>
        hl position ⟨expr, List.mem_singleton.1 he ▸ List.mem_cons_self, hp⟩
      have hr := ih fun position ⟨expr, he, hp⟩ => hl position ⟨expr, List.mem_cons_of_mem _ he, hp⟩
      simp [statementFragments, hs, hr]
  simp [statementsFragment, hfragments]

end WebDocs
