import WebDocs.Proofs.Dump.Recorded

namespace WebDocs

/-- A map of positions that keeps null apart and respects which positions are the same. -/
structure Json.Relocates (f : Json → Json) : Prop where
  null : ∀ position, f position = .null ↔ position = .null
  same : ∀ position other, Json.Same (f position) (f other) ↔ Json.Same position other

variable (f : Json → Json)

def Meta.mapPosition (info : Meta) : Meta := ⟨info.type, f info.position⟩

def Members.mapPositions (members : Members Meta) : Members Meta :=
  members.map fun entry => (entry.1, entry.2.mapPosition f)

def Obj.mapPositions (obj : Obj) : Obj where
  info := obj.info.mapPosition f
  basis := obj.basis
  name := obj.name
  vars := Members.mapPositions f obj.vars
  args := Members.mapPositions f obj.args

mutual

def Expr.mapPositions : Expr → Expr
  | .constant info value => .constant (info.mapPosition f) value
  | .name info name => .name (info.mapPosition f) name
  | .apply info base args =>
    .apply (info.mapPosition f) base.mapPositions (Arg.mapPositions args)
  | .paren inner => .paren inner.mapPositions
  | .methods base calls => .methods base.mapPositions (Expr.mapCalls calls)
  | .ifThenElse info condition yes no =>
    .ifThenElse (info.mapPosition f) condition.mapPositions yes.mapPositions no.mapPositions
  | .branch kind info subject arms =>
    .branch kind (info.mapPosition f) subject.mapPositions (Arm.mapPositions arms)
  | .unknown tag raw => .unknown tag raw

def Expr.mapCalls : List Expr → List Expr
  | [] => []
  | call :: rest => call.mapPositions :: Expr.mapCalls rest

def Arg.mapPositions : List Arg → List Arg
  | [] => []
  | .named name value :: rest => .named name value.mapPositions :: Arg.mapPositions rest
  | .positional value :: rest => .positional value.mapPositions :: Arg.mapPositions rest
  | .unknown tag raw :: rest => .unknown tag raw :: Arg.mapPositions rest

def Guard.mapPositions : Guard → Guard
  | .ifGuard condition => .ifGuard condition.mapPositions
  | .elseGuard => .elseGuard
  | .noGuard => .noGuard
  | .unknown tag raw => .unknown tag raw

def Arm.mapPositions : List Arm → List Arm
  | [] => []
  | .mk pattern guard :: rest =>
    .mk (pattern.mapPositions f) guard.mapPositions :: Arm.mapPositions rest

end

mutual

def Decl.mapPositions : Decl → Decl
  | .mk obj guard subs body =>
    .mk (obj.mapPositions f) (guard.mapPositions f) (SubStatement.mapPositions subs)
      (body.map (Expr.mapPositions f))

def SubStatement.mapPositions : List SubStatement → List SubStatement
  | [] => []
  | .decl d :: rest => .decl d.mapPositions :: SubStatement.mapPositions rest
  | .annot expr :: rest => .annot (expr.mapPositions f) :: SubStatement.mapPositions rest
  | .unknown tag raw :: rest => .unknown tag raw :: SubStatement.mapPositions rest

end

theorem SubStatement.mapPositions_eq_nil (subs : List SubStatement) :
    SubStatement.mapPositions f subs = [] ↔ subs = [] := by
  cases subs with
  | nil => exact Iff.rfl
  | cons sub rest => cases sub <;> simp [SubStatement.mapPositions]

/-- Types have no positions. -/
def Statement.mapPositions : Statement → Statement
  | .decl d => .decl (d.mapPositions f)
  | .globalAnnot expr => .globalAnnot (expr.mapPositions f)
  | statement => statement

def Annot.mapPositions (entry : Annot) : Annot :=
  ⟨f entry.position, entry.expr.mapPositions f, entry.value⟩

def Page.mapPositions (page : Page) : Page :=
  ⟨page.name, page.statements.map (Statement.mapPositions f), page.deps⟩

def Document.mapPositions (document : Document) : Document :=
  ⟨document.pages.map (Page.mapPositions f), document.annotations.map (Annot.mapPositions f)⟩

variable {f} (hf : Json.Relocates f)

include hf

theorem Json.Relocates.map_null : f .null = .null := (hf.null .null).2 rfl

theorem Json.Relocates.positionKey_eq_iff {position other : Json} (hp : position.Unsplit)
    (hfp : (f position).Unsplit) (ho : other.Unsplit) (hfo : (f other).Unsplit) :
    positionKey (f position) = positionKey (f other) ↔ positionKey position = positionKey other := by
  rw [WebDocs.positionKey_eq_iff hfp hfo, hf.same, WebDocs.positionKey_eq_iff hp ho]

theorem Expr.headPosition_mapPositions : (expr : Expr) →
    (expr.mapPositions f).headPosition = f expr.headPosition
  | .constant _ _ | .name _ _ | .apply _ _ _ | .ifThenElse _ _ _ _ | .branch _ _ _ _ => rfl
  | .paren inner => Expr.headPosition_mapPositions inner
  | .methods base _ => Expr.headPosition_mapPositions base
  | .unknown _ _ => hf.map_null.symm

namespace PositionIndex

/-- An annotation is found at its new position and at no other one. -/
theorem lookup_add_mapPositions {index moved : PositionIndex} {position : Json}
    (h : moved.lookup (f position) = index.lookup position) {entry : Annot}
    (hu : position.Unsplit) (hfu : (f position).Unsplit) (he : entry.position.Unsplit)
    (hfe : (f entry.position).Unsplit) :
    (moved.add (entry.mapPositions f)).lookup (f position) =
      (index.add entry).lookup position := by
  by_cases hp : position = .null
  · rw [hp, hf.map_null]
    rfl
  have hfp : f position ≠ .null := fun e => hp ((hf.null position).1 e)
  by_cases hn : entry.position = .null
  · have hfn : (entry.mapPositions f).position = .null := (hf.null _).2 hn
    rw [add_of_null hn, add_of_null hfn, h]
  have hfn : (entry.mapPositions f).position ≠ .null := fun e => hn ((hf.null _).1 e)
  -- both indexes put the value under a key, and the new keys are equal where the old ones were
  have hkeys : positionKey (f position) = positionKey (f entry.position) ↔
      positionKey position = positionKey entry.position :=
    hf.positionKey_eq_iff hu hfu he hfe
  rw [lookup_of_ne_null hfp, lookup_of_ne_null hp] at h
  rw [lookup_of_ne_null hfp, lookup_of_ne_null hp, add_of_ne_null hn, add_of_ne_null hfn,
    Members.get?_put, Members.get?_put, h]
  exact if_congr hkeys rfl rfl

theorem lookup_mapPositions {annotations : List Annot} (hu : UnsplitPositions annotations)
    (hfu : UnsplitPositions (annotations.map (Annot.mapPositions f))) {position : Json}
    (hp : position.Unsplit) (hfp : (f position).Unsplit) :
    (ofAnnotations (annotations.map (Annot.mapPositions f))).lookup (f position) =
      (ofAnnotations annotations).lookup position := by
  induction annotations using List.reverseRecOn with
  | nil =>
    have hempty (p : Json) : (ofAnnotations []).lookup p = none := by cases p <;> rfl
    rw [List.map_nil, hempty, hempty]
  | append_singleton rest entry ih =>
    rw [UnsplitPositions, List.map_append, List.forall_mem_append] at hfu
    rw [UnsplitPositions, List.forall_mem_append] at hu
    have hlast := ih hu.1 hfu.1
    have he := hu.2 entry List.mem_cons_self
    have hfe := hfu.2 (entry.mapPositions f) List.mem_cons_self
    rw [List.map_append, List.map_singleton, ofAnnotations_append, ofAnnotations_append]
    exact lookup_add_mapPositions hf hlast hp hfp he hfe

end PositionIndex
end WebDocs
