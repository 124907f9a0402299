import WebDocs.Proofs.Fragment.AlikeDisplays
import WebDocs.Proofs.Fragment.Diagnostics
import WebDocs.Proofs.Fragment.TextFidelity

namespace WebDocs

/-- The meta with the sum of no types for the unconstrained type. -/
def Meta.blankTop (info : Meta) : Meta :=
  match info.type with
  | .top => ⟨.sum [], info.position⟩
  | _ => info

def Obj.blankTops : Obj → Obj := Obj.mapMetas Meta.blankTop

namespace Meta

variable {info : Meta}

theorem blankTop_of_ne_top (h : info.type ≠ .top) : info.blankTop = info := by
  obtain ⟨type, position⟩ := info
  cases type with
  | top => exact absurd rfl h
  | _ => rfl

theorem fragment_of_ne_top (h : info.type ≠ .top) (style : MetaStyle) :
    info.fragment style = info.type.fragment := by
  obtain ⟨type, position⟩ := info
  cases style with
  | typed => rfl
  | declared =>
    cases type with
    | top => exact absurd rfl h
    | _ => rfl

/-- A sum of no types shows nothing. -/
theorem fragment_blankTop (info : Meta) : info.blankTop.fragment .typed = info.fragment .declared := by
  obtain ⟨type, position⟩ := info
  cases type <;> rfl

end Meta

namespace Obj

theorem entryFragments_blankTop (entries : Members Meta) :
    entryFragments .typed (entries.map fun entry => (entry.1, entry.2.blankTop)) =
      entryFragments .declared entries := by
  induction entries with
  | nil => rfl
  | cons entry rest ih =>
    simp only [List.map_cons, entryFragments, entry.2.fragment_blankTop, ih]

theorem fragment_blankTops (details : Bool) (obj : Obj) :
    obj.blankTops.fragment .typed details = obj.fragment .declared details := by
  simp only [fragment, detailsFragment, blankTops, mapMetas, entryFragments_blankTop,
    obj.info.fragment_blankTop]

end Obj

theorem Display.showsReplaced_blankTops (index : PositionIndex) (details : Bool)
    (comments : Text → Text) :
    (Display.mk index .declared details comments).ShowsReplaced
      ⟨index, .typed, details, comments⟩ Obj.blankTops where
  obj := Obj.fragment_blankTops details
  comments := rfl

theorem infix_joined (separator : Text) {text : List CodePoint} {texts : List (List CodePoint)}
    (h : text ∈ texts) : text <:+: joined separator texts := by
  induction texts with
  | nil => cases h
  | cons first rest ih =>
    cases rest with
    | nil =>
      rw [List.mem_singleton.1 h]
      simp only [joined, List.intercalate_singleton, List.infix_refl]
    | cons next rest =>
      rw [joined, List.intercalate_cons_cons]
      rcases List.mem_cons.1 h with rfl | h
      · exact List.infix_append_of_infix_left List.infix_append_left
      · exact List.infix_append_of_infix_right (ih h)

theorem infix_enclosed (left right : Text) {text : List CodePoint} {texts : List (List CodePoint)}
    (h : text ∈ texts) : text <:+: enclosed left right texts := by
  have hne : texts.isEmpty = false := by
    cases texts with
    | nil => cases h
    | cons => rfl
  rw [enclosed, hne]
  exact (infix_joined ", " h).trans (List.infix_append _ _ _)

def topText : List CodePoint := ("TopType" : Text).toList

/-- One of the texts has the unconstrained type in it. -/
def AnyTop (texts : List (List CodePoint)) : Prop := ∃ text ∈ texts, topText <:+: text

theorem AnyTop.joined {texts : List (List CodePoint)} (h : AnyTop texts) (separator : Text) :
    topText <:+: joined separator texts := by
  obtain ⟨text, hm, ht⟩ := h
  exact ht.trans (infix_joined separator hm)

theorem AnyTop.enclosed {texts : List (List CodePoint)} (h : AnyTop texts) (left right : Text) :
    topText <:+: enclosed left right texts := by
  obtain ⟨text, hm, ht⟩ := h
  exact ht.trans (infix_enclosed left right hm)

namespace Ty

mutual

theorem topText_isInfix : (type : Ty) → .type top ∈ type.nodes → topText <:+: type.text
  | top, _ => List.infix_refl _
  | typeVar _, h => nomatch List.mem_singleton.1 h
  | sum parts, h => by
    rcases List.mem_cons.1 h with h | h
    · cases h
    · exact (anyTop_partTexts parts h).joined " | "
  | unknown _ _, h => nomatch List.mem_singleton.1 h

theorem anyTop_partTexts : (parts : List PartialType) → .type top ∈ partNodes parts →
    AnyTop (partTexts parts)
  | [], h => nomatch h
  | .mk name options :: rest, h => by
    rw [partTexts]
    rcases List.mem_append.1 h with h | h
    · obtain ⟨text, hm, ht⟩ := anyTop_optionTexts name options h
      exact ⟨text, List.mem_append_left _ hm, ht⟩
    · obtain ⟨text, hm, ht⟩ := anyTop_partTexts rest h
      exact ⟨text, List.mem_append_right _ hm, ht⟩

theorem anyTop_optionTexts (name : Text) : (options : List TypeOption) →
    .type top ∈ optionNodes options → AnyTop (optionTexts name options)
  | [], h => nomatch h
  | .mk vars args :: rest, h => by
    rw [optionTexts]
    rcases List.mem_append.1 h with h | h
    · refine ⟨_, List.mem_cons_self, ?_⟩
      rcases List.mem_append.1 h with h | h
      · have hv := (anyTop_entryTexts vars h).enclosed "<" ">"
        exact List.infix_append_of_infix_left
          (List.infix_append_of_infix_left (List.infix_append_of_infix_right hv))
      · have ha := (anyTop_entryTexts args h).joined ", "
        exact List.infix_append_of_infix_left
          (List.infix_append_of_infix_right (List.infix_append_of_infix_right ha))
    · obtain ⟨text, hm, ht⟩ := anyTop_optionTexts name rest h
      exact ⟨text, List.mem_cons_of_mem _ hm, ht⟩

theorem anyTop_entryTexts : (entries : List (Text × Ty)) → .type top ∈ entryNodes entries →
    AnyTop (entryTexts entries)
  | [], h => nomatch h
  | (name, type) :: rest, h => by
    rw [entryTexts]
    rcases List.mem_append.1 h with h | h
    · exact ⟨_, List.mem_cons_self, List.infix_append_of_infix_left (topText_isInfix type h)⟩
    · obtain ⟨text, hm, ht⟩ := anyTop_entryTexts rest h
      exact ⟨text, List.mem_cons_of_mem _ hm, ht⟩

end

end Ty

/-- Definitions of types and of classes. -/
def Statement.Defines : Statement → Prop
  | .multiTypeDef _ _ _ => True
  | .typeDef _ => True
  | .classInstance _ _ _ => True
  | .classDecl _ _ => True
  | _ => False

theorem topText_isInfix_typeVarsText {vars : Members Ty} (h : .type .top ∈ Ty.entryNodes vars)
    (name : Text) : topText <:+: name.toList ++ typeVarsText vars :=
  List.infix_append_of_infix_right ((Ty.anyTop_entryTexts vars h).enclosed "<" ">")

theorem Statement.topText_isInfix {statement : Statement} (hd : statement.Defines)
    (display : Display) (h : .type .top ∈ statement.innerNodes display) :
    topText <:+: statement.text display := by
  cases statement with
  | multiTypeDef name vars options =>
    rcases List.mem_append.1 h with h | h
    · have hv := topText_isInfix_typeVarsText h name
      exact List.infix_append_of_infix_left (List.infix_append_of_infix_right hv)
    · obtain ⟨type, hm, ht⟩ := List.mem_flatMap.1 h
      have ho : AnyTop (options.map Ty.text) :=
        ⟨type.text, List.mem_map_of_mem hm, type.topText_isInfix ht⟩
      exact List.infix_append_of_infix_right (List.infix_append_of_infix_right (ho.joined " | "))
  | typeDef type => exact List.infix_append_of_infix_right (type.topText_isInfix h)
  | classInstance typeName vars className =>
    have hv := topText_isInfix_typeVarsText h typeName
    exact List.infix_append_of_infix_left (List.infix_append_of_infix_right hv)
  | classDecl name vars =>
    exact List.infix_append_of_infix_right (topText_isInfix_typeVarsText h name)
  | _ => exact hd.elim

/-- The unconstrained type stands in the HTML, outside of tags. -/
def Fragment.ShowsTop (fragment : Fragment) : Prop :=
  topText <:+: Text.Escape.decode (Markup.stripTags fragment.html.toList)

theorem Fragment.Shows.showsTop {fragment : Fragment} {text : List CodePoint}
    (h : fragment.Shows text) (ht : topText <:+: text) : fragment.ShowsTop := by
  rwa [Fragment.ShowsTop, h.decode_stripTags]

/-- The declared style shows statements, and reports on them, as the typed style does after the
unconstrained types of their objects are replaced by the sum of no types. Where no object has an
unconstrained type the styles do not differ, nor do they on types inside of types and on definitions. -/
theorem declared_eq_typed_blankTops (index : PositionIndex) (details : Bool)
    (comments : Text → Text) (statements : List Statement) :
    statementsFragment ⟨index, .declared, details, comments⟩ statements =
      statementsFragment ⟨index, .typed, details, comments⟩
        (statements.map (Statement.mapObjs Obj.blankTops)) ∧
    ((∀ statement ∈ statements, ∀ obj ∈ statement.objs, ∀ info ∈ obj.metas, info.type ≠ .top) →
      statementsFragment ⟨index, .declared, details, comments⟩ statements =
        statementsFragment ⟨index, .typed, details, comments⟩ statements) ∧
    (∀ info : Meta, info.type ≠ .top →
      info.fragment .declared = info.fragment .typed ∧
      (.type .top ∈ info.type.nodes → ∀ style, (info.fragment style).value.ShowsTop)) ∧
    ∀ statement : Statement, statement.Defines →
      statement.fragment ⟨index, .declared, details, comments⟩ =
        statement.fragment ⟨index, .typed, details, comments⟩ ∧
      ∀ style, .type .top ∈ statement.innerNodes ⟨index, style, details, comments⟩ →
        (statement.fragment ⟨index, style, details, comments⟩).value.ShowsTop := by
  have hblank : statementsFragment ⟨index, .declared, details, comments⟩ statements =
      statementsFragment ⟨index, .typed, details, comments⟩
        (statements.map (Statement.mapObjs Obj.blankTops)) :=
    (statementsFragment_mapObjs (Display.showsReplaced_blankTops index details comments) statements
      fun _ _ => rfl).symm
  refine ⟨hblank, fun h => ?_, fun info hne => ⟨?_, fun htop style => ?_⟩, fun statement hd =>
    ⟨?_, fun style htop => ?_⟩⟩
  · rw [hblank, map_mapObjs_eq_self fun statement hm obj ho => ?_]
    exact Obj.mapMetas_eq_self fun info hi =>
      Meta.blankTop_of_ne_top (h statement hm obj ho info hi)
  · rw [Meta.fragment_of_ne_top hne, Meta.fragment_of_ne_top hne]
  · rw [Meta.fragment_of_ne_top hne]
    exact info.type.fragment_shows.showsTop (info.type.topText_isInfix htop)
  · cases statement with
    | decl | globalAnnot | comment | unknown => exact hd.elim
    | _ => rfl
  · have hc : ∀ text, statement ≠ .comment text := by
      rintro text rfl
      exact hd
    exact (Statement.fragment_shows _ hc).showsTop (Statement.topText_isInfix hd _ htop)

/-- A list of unconstrained types in the head of a declaration, in a pattern inside its body, and in a
definition. -/
theorem declared_eq_typed_blankTops_nested :
    let list : Ty := .sum [.mk "List" [.mk [("T", .top)] []]]
    let obj : Obj := ⟨⟨list, .null⟩, "FunctionObj", "f", [], [("x", ⟨list, .int 1⟩)]⟩
    let body : Expr := .branch .cases ⟨.top, .int 2⟩ (.name ⟨.top, .null⟩ "x") [.mk obj .elseGuard]
    let statements : List Statement := [.decl (.mk obj .noGuard [] (some body)), .typeDef list]
    (∀ statement ∈ statements, ∀ obj ∈ statement.objs, ∀ info ∈ obj.metas, info.type ≠ .top) ∧
    (.type .top ∈ list.nodes ∧ (Statement.typeDef list).Defines) ∧
    statementsFragment ⟨.empty, .declared, true, id⟩ statements =
      statementsFragment ⟨.empty, .typed, true, id⟩ statements ∧
    ((obj.info.fragment .declared).value.ShowsTop ∧ (obj.info.fragment .typed).value.ShowsTop) ∧
    ((Statement.typeDef list).fragment ⟨.empty, .declared, true, id⟩).value.ShowsTop := by
  intro list obj body statements
  have hne : ∀ info ∈ obj.metas, info.type ≠ .top := by simp [obj, list, Obj.metas]
  have hobjs : ∀ statement ∈ statements, ∀ other ∈ statement.objs, other = obj := by
    simp [statements, body, Statement.objs, Decl.objs, Guard.objs, SubStatement.objs, Decl.bodyObjs,
      Expr.objs, Arm.objs]
  have h : ∀ statement ∈ statements, ∀ obj ∈ statement.objs, ∀ info ∈ obj.metas,
      info.type ≠ .top := by
    intro statement hm other ho
    rw [hobjs statement hm other ho]
    exact hne
  have htop : .type .top ∈ list.nodes := by
    simp [list, Ty.nodes, Ty.partNodes, Ty.optionNodes, Ty.entryNodes]
  obtain ⟨-, hsame, hinfo, hdefines⟩ := declared_eq_typed_blankTops .empty true id statements
  have hshown := (hinfo obj.info (hne obj.info List.mem_cons_self)).2 htop
  exact ⟨h, ⟨htop, trivial⟩, hsame h, ⟨hshown .declared, hshown .typed⟩,
    (hdefines (.typeDef list) trivial).2 .declared htop⟩

end WebDocs
