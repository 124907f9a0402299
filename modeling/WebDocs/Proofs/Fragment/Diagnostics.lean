import Mathlib.Data.List.Perm.Basic
import WebDocs.Proofs.Fragment.AnnotationResult

namespace WebDocs

/-- A node of a dump that is shown, or a value that an annotation prints. -/
inductive Node
  | type (type : Ty)
  | guard (guard : Guard)
  | arg (arg : Arg)
  | expr (expr : Expr)
  | subStatement (sub : SubStatement)
  | statement (statement : Statement)
  | printed (value : Val)

namespace Ty

mutual

/-- A type and the types inside it. -/
def nodes : Ty → List Node
  | top => [.type top]
  | typeVar name => [.type (typeVar name)]
  | sum parts => .type (sum parts) :: partNodes parts
  | unknown tag raw => [.type (unknown tag raw)]

def partNodes : List PartialType → List Node
  | [] => []
  | .mk _ options :: rest => optionNodes options ++ partNodes rest

def optionNodes : List TypeOption → List Node
  | [] => []
  | .mk vars args :: rest => entryNodes vars ++ entryNodes args ++ optionNodes rest

def entryNodes : List (Text × Ty) → List Node
  | [] => []
  | (_, type) :: rest => type.nodes ++ entryNodes rest

end
end Ty

/-- In the declared style an unconstrained type is not shown. -/
def Meta.nodes (style : MetaStyle) (info : Meta) : List Node :=
  match style, info.type with
  | .declared, .top => []
  | _, type => type.nodes

/-- Of the metas of an object its own is shown with the details only. -/
def Obj.nodes (style : MetaStyle) (details : Bool) (obj : Obj) : List Node :=
  (if details then obj.info.nodes style else []) ++
    obj.vars.flatMap (·.2.nodes style) ++ obj.args.flatMap (·.2.nodes style)

section

variable (display : Display)

mutual

/-- An expression and what is inside it; its meta is not shown. -/
def Expr.nodes : Expr → List Node
  | .constant info value => [.expr (.constant info value)]
  | .name info name => [.expr (.name info name)]
  | .apply info base args => .expr (.apply info base args) :: (base.nodes ++ Arg.nodes args)
  | .paren inner => .expr (.paren inner) :: inner.nodes
  | .methods base calls => .expr (.methods base calls) :: (base.nodes ++ Expr.callNodes calls)
  | .ifThenElse info condition yes no =>
    .expr (.ifThenElse info condition yes no) :: (condition.nodes ++ yes.nodes ++ no.nodes)
  | .branch kind info subject arms =>
    .expr (.branch kind info subject arms) :: (subject.nodes ++ Arm.nodes arms)
  | .unknown tag raw => [.expr (.unknown tag raw)]

def Expr.callNodes : List Expr → List Node
  | [] => []
  | call :: rest => call.nodes ++ Expr.callNodes rest

def Arg.nodes : List Arg → List Node
  | [] => []
  | .named name value :: rest => .arg (.named name value) :: (value.nodes ++ Arg.nodes rest)
  | .positional value :: rest => .arg (.positional value) :: (value.nodes ++ Arg.nodes rest)
  | .unknown tag raw :: rest => .arg (.unknown tag raw) :: Arg.nodes rest

def Guard.nodes : Guard → List Node
  | .ifGuard condition => .guard (.ifGuard condition) :: condition.nodes
  | .elseGuard => [.guard .elseGuard]
  | .noGuard => [.guard .noGuard]
  | .unknown tag raw => [.guard (.unknown tag raw)]

def Arm.nodes : List Arm → List Node
  | [] => []
  | .mk pattern guard :: rest =>
    pattern.nodes display.metas display.details ++ guard.nodes ++ Arm.nodes rest

end

def Decl.bodyNodes : Option Expr → List Node
  | some body => Expr.nodes display body
  | none => []

mutual

def Decl.nodes : Decl → List Node
  | .mk obj guard subs body =>
    obj.nodes display.metas display.details ++ Guard.nodes display guard ++
      Decl.bodyNodes display body ++ SubStatement.nodes subs

def SubStatement.nodes : List SubStatement → List Node
  | [] => []
  | .decl d :: rest => .subStatement (.decl d) :: (d.nodes ++ SubStatement.nodes rest)
  | .annot expr :: rest =>
    .subStatement (.annot expr) :: (Expr.nodes display expr ++ SubStatement.nodes rest)
  | .unknown tag raw :: rest => .subStatement (.unknown tag raw) :: SubStatement.nodes rest

end

/-- The value that the annotation of an expression prints. -/
def printedValue? (expr : Expr) : Option Val :=
  match display.index.lookup expr.headPosition with
  | some (.tuple name args) =>
    if name = printAnnotation then Members.get? printedArg args else none
  | _ => none

/-- What is shown inside a statement. -/
def Statement.innerNodes : Statement → List Node
  | .decl d => d.nodes display
  | .multiTypeDef _ vars options => Ty.entryNodes vars ++ options.flatMap Ty.nodes
  | .typeDef type => type.nodes
  | .classInstance _ vars _ => Ty.entryNodes vars
  | .classDecl _ vars => Ty.entryNodes vars
  | .globalAnnot expr =>
    Expr.nodes display expr ++ (printedValue? display expr).toList.map .printed
  | .comment _ => []
  | .unknown _ _ => []

def Statement.nodes (statement : Statement) : List Node :=
  .statement statement :: statement.innerNodes display

end

/-- A value that has a text: a text, a number or an artifact. -/
def Val.fault? : Val → Option Notice
  | .str _ => none
  | .int _ => none
  | .float _ => none
  | .tuple name args =>
    if (Artifact.ofVal? (.tuple name args)).isSome then none
    else if name = Artifact.resultName then some (.incompleteResult (.tuple name args))
    else some (.unknownTuple name)
  | .unknown tag _ => some (.unknownVal tag)

/-- What is wrong with the value that is recorded at a position: there is none, or it is a print
without its argument. -/
def recordFault? (position : Json) : Option Val → Option Notice
  | none => some (.missingResult position)
  | some (.tuple name args) =>
    if name = printAnnotation ∧ Members.get? printedArg args = none then
      some (.nothingPrinted position)
    else none
  | some _ => none

namespace Node

/-- The notice of a malformed node. -/
def fault? (index : PositionIndex) : Node → Option Notice
  | type (.unknown tag _) => some (.unknownType tag)
  | guard (.unknown tag _) => some (.unknownGuard tag)
  | arg (.unknown tag _) => some (.unknownArg tag)
  | expr (.unknown tag _) => some (.unknownExpr tag)
  | subStatement (.unknown tag _) => some (.unknownSubStatement tag)
  | statement (.unknown tag _) => some (.unknownStatement tag)
  | statement (.globalAnnot e) => recordFault? e.headPosition (index.lookup e.headPosition)
  | printed value => value.fault?
  | _ => none

def isMalformed (index : PositionIndex) (node : Node) : Bool := (node.fault? index).isSome

end Node

theorem Val.fault?_kind {value : Val} {notice : Notice} (h : value.fault? = some notice) :
    notice.level = .error ∧ notice.origin = .node := by
  cases value with
  | tuple name args =>
    simp only [Val.fault?] at h
    split at h
    next => cases h
    next => split at h <;> (cases h; exact ⟨rfl, rfl⟩)
  | unknown tag raw =>
    cases h
    exact ⟨rfl, rfl⟩
  | _ => cases h

theorem recordFault?_kind {position : Json} {record : Option Val} {notice : Notice}
    (h : recordFault? position record = some notice) :
    notice.level = .error ∧ notice.origin = .node := by
  unfold recordFault? at h
  split at h
  next =>
    cases h
    exact ⟨rfl, rfl⟩
  next =>
    split at h
    next =>
      cases h
      exact ⟨rfl, rfl⟩
    next => cases h
  next => cases h

/-- Whatever is wrong with a node is an error, reported as one of a node. -/
theorem Node.fault?_kind {index : PositionIndex} {node : Node} {notice : Notice}
    (h : node.fault? index = some notice) : notice.level = .error ∧ notice.origin = .node := by
  unfold Node.fault? at h
  split at h
  case h_7 => exact recordFault?_kind h
  case h_8 => exact Val.fault?_kind h
  case h_9 => cases h
  all_goals
    cases h
    exact ⟨rfl, rfl⟩

/-- The notices of the malformed ones among nodes, in order. -/
def faults (index : PositionIndex) (nodes : List Node) : List Notice :=
  nodes.filterMap (Node.fault? index)

section

variable (index : PositionIndex)

@[simp] theorem faults_nil : faults index [] = [] := rfl

@[simp] theorem faults_append (nodes others : List Node) :
    faults index (nodes ++ others) = faults index nodes ++ faults index others :=
  List.filterMap_append

@[simp] theorem faults_cons (node : Node) (rest : List Node) :
    faults index (node :: rest) = (node.fault? index).toList ++ faults index rest := by
  cases h : node.fault? index with
  | none => exact List.filterMap_cons_none h
  | some notice => exact List.filterMap_cons_some h

mutual

theorem Ty.log_fragment : (type : Ty) → type.fragment.log = faults index type.nodes
  | .top => rfl
  | .typeVar _ => rfl
  | .sum parts => by
    have h := Ty.log_partFragments parts
    simpa [Ty.fragment, Ty.nodes, Node.fault?] using h
  | .unknown _ _ => rfl

theorem Ty.log_partFragments : (parts : List PartialType) →
    (Ty.partFragments parts).log = faults index (Ty.partNodes parts)
  | [] => rfl
  | .mk name options :: rest => by
    have ho := Ty.log_optionFragments name options
    have hr := Ty.log_partFragments rest
    simp [Ty.partFragments, Ty.partNodes, ho, hr]

theorem Ty.log_optionFragments (name : Text) : (options : List TypeOption) →
    (Ty.optionFragments name options).log = faults index (Ty.optionNodes options)
  | [] => rfl
  | .mk vars args :: rest => by
    have hv := Ty.log_entryFragments vars
    have ha := Ty.log_entryFragments args
    have hr := Ty.log_optionFragments name rest
    simp [Ty.optionFragments, Ty.optionNodes, hv, ha, hr]

theorem Ty.log_entryFragments : (entries : List (Text × Ty)) →
    (Ty.entryFragments entries).log = faults index (Ty.entryNodes entries)
  | [] => rfl
  | (_, type) :: rest => by
    have ht := type.log_fragment
    have hr := Ty.log_entryFragments rest
    simp [Ty.entryFragments, Ty.entryNodes, ht, hr]

end

theorem Meta.log_fragment (style : MetaStyle) (info : Meta) :
    (info.fragment style).log = faults index (info.nodes style) := by
  obtain ⟨type, position⟩ := info
  cases style with
  | typed => exact type.log_fragment index
  | declared =>
    cases type with
    | top => rfl
    | _ => exact Ty.log_fragment index _

theorem Obj.log_entryFragments (style : MetaStyle) (entries : List (Text × Meta)) :
    (Obj.entryFragments style entries).log =
      faults index (entries.flatMap (·.2.nodes style)) := by
  induction entries with
  | nil => rfl
  | cons entry rest ih =>
    have hi := entry.2.log_fragment index style
    simp [Obj.entryFragments, hi, ih]

/-- The details are shown first and reported last. -/
theorem Obj.log_fragment (style : MetaStyle) (details : Bool) (obj : Obj) :
    (obj.fragment style details).log.Perm (faults index (obj.nodes style details)) := by
  have hv := Obj.log_entryFragments index style obj.vars
  have ha := Obj.log_entryFragments index style obj.args
  have hi := obj.info.log_fragment index style
  cases details with
  | false => simp [Obj.fragment, Obj.nodes, hv, ha]
  | true =>
    simp only [Obj.fragment, Obj.nodes, Obj.detailsFragment, Logged.log_bind, Logged.log_pure,
      if_true, List.append_nil, faults_append, hv, ha, hi]
    rw [← List.append_assoc, List.append_assoc (faults index (obj.info.nodes style))]
    exact List.perm_append_comm

end

section

variable (display : Display)

mutual

theorem Expr.log_fragment : (expr : Expr) →
    (expr.fragment display).log.Perm (faults display.index (expr.nodes display))
  | .constant _ _ => .refl []
  | .name _ _ => .refl []
  | .apply _ base args => by
    have h := (Arg.log_fragments args).append base.log_fragment
    simpa [Expr.fragment, Expr.nodes, Node.fault?] using h.trans List.perm_append_comm
  | .paren inner => by simpa [Expr.fragment, Expr.nodes, Node.fault?] using inner.log_fragment
  | .methods base calls => by
    have h := (Expr.log_callFragment calls).append base.log_fragment
    simpa [Expr.fragment, Expr.nodes, Node.fault?] using h.trans List.perm_append_comm
  | .ifThenElse _ condition yes no => by
    have h := condition.log_fragment.append (yes.log_fragment.append no.log_fragment)
    simpa [Expr.fragment, Expr.nodes, Node.fault?] using h
  | .branch _ _ subject arms => by
    have h := subject.log_fragment.append (Arm.log_fragments arms)
    simpa [Expr.fragment, Expr.nodes, Node.fault?] using h
  | .unknown _ _ => .refl _

theorem Expr.log_callFragment : (calls : List Expr) →
    (Expr.callFragment display calls).log.Perm (faults display.index (Expr.callNodes display calls))
  | [] => .refl []
  | call :: rest => by
    have h := call.log_fragment.append (Expr.log_callFragment rest)
    simpa [Expr.callFragment, Expr.callNodes] using h

theorem Arg.log_fragments : (args : List Arg) →
    (Arg.fragments display args).log.Perm (faults display.index (Arg.nodes display args))
  | [] => .refl []
  | .named _ value :: rest => by
    have h := value.log_fragment.append (Arg.log_fragments rest)
    simpa [Arg.fragments, Arg.nodes, Node.fault?] using h
  | .positional value :: rest => by
    have h := value.log_fragment.append (Arg.log_fragments rest)
    simpa [Arg.fragments, Arg.nodes, Node.fault?] using h
  | .unknown tag _ :: rest => by
    have h := (Arg.log_fragments rest).cons (.unknownArg tag)
    simpa [Arg.fragments, Arg.nodes, Node.fault?, Logged.report] using h

theorem Guard.log_fragment : (guard : Guard) →
    (guard.fragment display).log.Perm (faults display.index (guard.nodes display))
  | .ifGuard condition => by
    simpa [Guard.fragment, Guard.nodes, Node.fault?] using condition.log_fragment
  | .elseGuard => .refl []
  | .noGuard => .refl []
  | .unknown _ _ => .refl _

theorem Arm.log_fragments : (arms : List Arm) →
    (Arm.fragments display arms).log.Perm (faults display.index (Arm.nodes display arms))
  | [] => .refl []
  | .mk pattern guard :: rest => by
    have hp := pattern.log_fragment display.index display.metas display.details
    have h := hp.append (guard.log_fragment.append (Arm.log_fragments rest))
    simpa [Arm.fragments, Arm.nodes, Display.obj] using h

end

theorem Val.log_fragment (value : Val) : value.fragment.log = value.fault?.toList := by
  cases value with
  | tuple name args =>
    simp only [Val.fragment, Val.fault?]
    cases Artifact.ofVal? (.tuple name args) with
    | some artifact => rfl
    | none => by_cases hn : name = Artifact.resultName <;> simp [hn, Logged.report]
  | str s => rfl
  | int n => rfl
  | float x => rfl
  | unknown tag raw => rfl

mutual

/-- The body and the statements below are reported before the head. -/
theorem Decl.log_fragment : (decl : Decl) →
    (decl.fragment display).log.Perm (faults display.index (decl.nodes display))
  | .mk obj guard subs body => by
    have ho := obj.log_fragment display.index display.metas display.details
    have hg := guard.log_fragment display
    have hs := SubStatement.log_fragments subs
    cases body with
    | none =>
      have h := (hs.append (ho.append hg)).trans List.perm_append_comm
      simpa [Decl.fragment, Decl.nodes, Decl.bodyNodes, Display.obj] using h
    | some body =>
      have hb := (body.log_fragment display).append hs
      have h := (hb.append (ho.append hg)).trans List.perm_append_comm
      simpa [Decl.fragment, Decl.nodes, Decl.bodyNodes, Display.obj] using h

theorem SubStatement.log_fragments : (subs : List SubStatement) →
    (SubStatement.fragments display subs).log.Perm
      (faults display.index (SubStatement.nodes display subs))
  | [] => .refl []
  | .decl d :: rest => by
    have h := d.log_fragment.append (SubStatement.log_fragments rest)
    simpa [SubStatement.fragments, SubStatement.nodes, Node.fault?] using h
  | .annot expr :: rest => by
    have h := (expr.log_fragment display).append (SubStatement.log_fragments rest)
    simpa [SubStatement.fragments, SubStatement.nodes, Node.fault?] using h
  | .unknown tag _ :: rest => by
    have h := (SubStatement.log_fragments rest).cons (.unknownSubStatement tag)
    simpa [SubStatement.fragments, SubStatement.nodes, Node.fault?, Logged.report] using h

end

theorem log_optionSpans (types : List Ty) :
    (optionSpans types).log = faults display.index (types.flatMap Ty.nodes) := by
  induction types with
  | nil => rfl
  | cons type rest ih =>
    have ht := type.log_fragment display.index
    simp [optionSpans, ht, ih]

theorem log_typeVarsFragment (vars : Members Ty) :
    (typeVarsFragment vars).log = faults display.index (Ty.entryNodes vars) := by
  have h := Ty.log_entryFragments display.index vars
  simp [typeVarsFragment, h]

/-- The expression is reported before what is wrong with the value. -/
theorem log_annotFragment (expr : Expr) :
    (annotFragment display expr).log.Perm
      (faults display.index (Statement.nodes display (.globalAnnot expr))) := by
  have he := expr.log_fragment display
  cases h : display.index.lookup expr.headPosition with
  | none =>
    have hlog := (he.append_right [.missingResult expr.headPosition]).trans List.perm_append_comm
    simpa [annotFragment_missing h, Statement.nodes, Statement.innerNodes, Node.fault?, recordFault?,
      printedValue?, h] using hlog
  | some value =>
    by_cases hv : ∃ args, value = .tuple printAnnotation args
    · obtain ⟨args, rfl⟩ := hv
      cases hp : Members.get? printedArg args with
      | none =>
        have hlog := (he.append_right [.nothingPrinted expr.headPosition]).trans
          List.perm_append_comm
        simpa [annotFragment_nothingPrinted h hp, Statement.nodes, Statement.innerNodes,
          Node.fault?, recordFault?, printedValue?, h, hp] using hlog
      | some printed =>
        have hlog := he.append_right printed.fragment.log
        rw [Val.log_fragment] at hlog
        simpa [annotFragment_printed h hp, Statement.nodes, Statement.innerNodes, Node.fault?,
          recordFault?, printedValue?, h, hp, Val.log_fragment] using hlog
    · have hother : ∀ args, value ≠ .tuple printAnnotation args := fun args hva => hv ⟨args, hva⟩
      have hsound : recordFault? expr.headPosition (some value) = none ∧
          printedValue? display expr = none := by
        unfold recordFault? printedValue?
        rw [h]
        cases value with
        | tuple name args =>
          have hn : name ≠ printAnnotation := fun e => hother args (e ▸ rfl)
          simp [hn]
        | _ => exact ⟨rfl, rfl⟩
      simpa [annotFragment_other h hother, Statement.nodes, Statement.innerNodes, Node.fault?, h,
        hsound.1, hsound.2] using he

theorem Statement.log_fragment (statement : Statement) :
    (statement.fragment display).log.Perm
      (faults display.index (statement.nodes display)) := by
  cases statement with
  | decl d =>
    simpa [Statement.fragment, Statement.nodes, Statement.innerNodes, Node.fault?] using
      d.log_fragment display
  | multiTypeDef name vars options =>
    have ho := log_optionSpans display options
    have hv := log_typeVarsFragment display vars
    simp only [Statement.fragment, Statement.nodes, Statement.innerNodes, Node.fault?,
      faults_cons, faults_append, Option.toList_none, List.nil_append, Logged.log_bind,
      Logged.log_pure, List.append_nil, ho, hv]
    exact List.perm_append_comm
  | typeDef type =>
    have ht := type.log_fragment display.index
    simp [Statement.fragment, Statement.nodes, Statement.innerNodes, Node.fault?, ht]
  | classInstance typeName vars className =>
    have hv := log_typeVarsFragment display vars
    simp [Statement.fragment, Statement.nodes, Statement.innerNodes, Node.fault?, hv]
  | classDecl name vars =>
    have hv := log_typeVarsFragment display vars
    simp [Statement.fragment, Statement.nodes, Statement.innerNodes, Node.fault?, hv]
  | globalAnnot expr => exact log_annotFragment display expr
  | comment text => exact .refl []
  | unknown tag raw => exact .refl _

theorem log_statementFragments (statements : List Statement) :
    (statementFragments display statements).log.Perm
      (faults display.index (statements.flatMap (Statement.nodes display))) := by
  induction statements with
  | nil => exact .refl []
  | cons statement rest ih =>
    have h := (statement.log_fragment display).append ih
    simpa [statementFragments] using h

theorem log_statementsFragment (statements : List Statement) :
    (statementsFragment display statements).log.Perm
      (faults display.index (statements.flatMap (Statement.nodes display))) := by
  have h := log_statementFragments display statements
  simpa [statementsFragment] using h

/-- Each malformed one among the nodes that are shown is reported once, by a notice of its own, and
nothing else is: all notices are errors, there are as many as malformed nodes, and there are none if
every node is well-formed. -/
theorem one_notice_for_each_fault (statements : List Statement) :
    let log := (statementsFragment display statements).log
    let nodes := statements.flatMap (Statement.nodes display)
    log.Perm (nodes.filterMap (Node.fault? display.index)) ∧
    (∀ notice ∈ log, notice.level = .error) ∧
    (log.filter (·.level = .error)).length = nodes.countP (Node.isMalformed display.index) ∧
    (log = [] ↔ ∀ node ∈ nodes, node.isMalformed display.index = false) := by
  intro log nodes
  have hperm : log.Perm (nodes.filterMap (Node.fault? display.index)) :=
    log_statementsFragment display statements
  have hlevel : ∀ notice ∈ log, notice.level = .error := by
    intro notice hn
    obtain ⟨node, -, hnode⟩ := List.mem_filterMap.1 (hperm.mem_iff.1 hn)
    exact (Node.fault?_kind hnode).1
  have hlength : log.length = nodes.countP (Node.isMalformed display.index) := by
    rw [hperm.length_eq, List.length_filterMap_eq_countP]
    rfl
  refine ⟨hperm, hlevel, ?_, ?_⟩
  · rw [List.filter_eq_self.2 fun notice hn => decide_eq_true (hlevel notice hn), hlength]
  · rw [← List.length_eq_zero_iff, hlength, List.countP_eq_zero]
    simp only [Bool.not_eq_true]

end

/-- Unreadable nodes at every place, shown with details: the type of a pattern inside an expression
is reported, the types of the expressions are not. -/
theorem one_notice_for_each_fault_everywhere :
    let type : Ty := .unknown (some "T") .null
    let info : Meta := ⟨type, .null⟩
    let pattern : Obj := ⟨info, "Match", "x", [], [("y", info)]⟩
    let call : Expr := .apply info (.unknown none .null) [.unknown (some "A") .null]
    let display : Display :=
      ⟨⟨[("1", .tuple "#print" []), ("2", .tuple "#print" [("p", .tuple "CatlnResult" [])])]⟩,
        .declared, true, id⟩
    let statements : List Statement :=
      [.globalAnnot (.branch .cases ⟨.top, .int 1⟩ call [.mk pattern (.unknown none .null)]),
        .globalAnnot (.name ⟨type, .int 2⟩ "f"), .globalAnnot (.name info "g"),
        .classDecl "C" [("v", .sum [.mk "P" [.mk [("a", type)] []]])],
        .decl (.mk pattern .noGuard [.unknown none .null] none), .unknown none .null]
    ((statementsFragment display statements).log.filter (·.level = .error)).length = 13 := by
  intro type info pattern call display statements
  rw [(one_notice_for_each_fault display statements).2.2.1]
  decide +kernel

end WebDocs
