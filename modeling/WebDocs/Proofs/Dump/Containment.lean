import WebDocs.Proofs.Dump.Layer

namespace WebDocs

open Json (Context)

namespace Members

variable {α : Type}

theorem get?_middle {key : Text} {before : Members α} (h : key ∉ before.keys) (value : α)
    (after : Members α) : get? key (before ++ (key, value) :: after : Members α) = some value := by
  induction before with
  | nil => exact if_pos rfl
  | cons first rest ih =>
    obtain ⟨k, v⟩ := first
    simp only [keys, List.map_cons, List.mem_cons, not_or] at h
    rw [List.cons_append, get?, if_neg (Ne.symm h.1)]
    exact ih h.2

theorem get?_middle_of_ne {key other : Text} (h : other ≠ key) (before : Members α) (value : α)
    (after : Members α) :
    get? other (before ++ (key, value) :: after : Members α) =
      get? other (before ++ after : Members α) := by
  induction before with
  | nil => exact if_neg h.symm
  | cons first rest ih =>
    obtain ⟨k, v⟩ := first
    rw [List.cons_append, List.cons_append, get?, get?, ih]

end Members

/-- What a reader makes of a context, whatever value stands in its hole: a tree with the node of the
hole in it, a tree with an unknown node that keeps the hole in its payload, or nothing. -/
inductive Place.Outcome {α : Type} (read : Json → Except ShapeError α) (context : Context) (hole : Hole) :
    Prop
  | built {tree : hole.kind.Node → α} (ht : Surrounds tree)
      (h : ∀ value, hole.Takes value →
        (read (context.plug value)).toOption = some (tree (hole.kind.decode value)))
  | lost (outer : Context) {payload : Context} {before after : Members Json} {kind : Kind}
      {tree : kind.Node → α}
      (hc : context = outer.comp (.member before "contents" payload after)) (ht : Surrounds tree)
      (h : ∀ value, hole.Takes value → (read (context.plug value)).toOption = some (tree
        (kind.unknownOf
          (.obj (before ++ (Text.ofString "contents", payload.plug value) :: after)))))
  | fails (h : ∀ value, hole.Takes value → (read (context.plug value)).toOption = none)

namespace Place.Outcome

variable {α β : Type} {read : Json → Except ShapeError α} {context : Context} {hole : Hole}

theorem within {outer : Json → Except ShapeError β} (layer : Context)
    (hl : (∀ value, (outer ((layer.comp context).plug value)).toOption = none) ∨
      ∃ tree : α → β, Surrounds tree ∧ ∀ value, (outer ((layer.comp context).plug value)).toOption =
        (read (context.plug value)).toOption.map tree)
    (h : Outcome read context hole) : Outcome outer (layer.comp context) hole := by
  obtain hfails | ⟨tree, ht, hl⟩ := hl
  · exact .fails fun value _ => hfails value
  · cases h with
    | built ht' h =>
      refine .built (.within ht ht') fun value hv => ?_
      rw [hl, h value hv, Option.map_some]
    | lost _ hc ht' h =>
      refine .lost _ (by rw [hc, Context.comp_assoc]) (.within ht ht') fun value hv => ?_
      rw [hl, h value hv, Option.map_some]
    | fails h =>
      refine .fails fun value hv => ?_
      rw [hl, h value hv, Option.map_none]

theorem through {outer : Json → Except ShapeError β} (layer : Context)
    (hl : Follows (fun value => outer (layer.plug value)) read) (h : Outcome read context hole) :
    Outcome outer (layer.comp context) hole := by
  refine h.within layer ?_
  simp only [Context.plug_comp]
  obtain hfails | ⟨tree, ht, hl⟩ := hl
  · exact .inl fun value => hfails _
  · exact .inr ⟨tree, ht, fun value => hl _⟩

theorem same {outer : Json → Except ShapeError β} (hl : Follows outer read)
    (h : Outcome read context hole) : Outcome outer context hole :=
  h.through .hole hl

/-- A node whose contents cannot be read whatever stands in the hole keeps it in its payload. -/
theorem contents {kind : Kind} {form : kind.Form} {before after : Members Json} {tag : Text}
    (hc : Text.ofString "contents" ∉ before.keys)
    (ht : Members.get? "tag" (before ++ after : Members Json) = some (.str tag))
    (hf : kind.form? tag = some form) (h : Outcome (kind.build form) context hole) :
    Outcome kind.reader (.member before "contents" context after) hole := by
  let node : Context := .member before "contents" context after
  have htag : ∀ value, (node.plug value).tag? = some tag := by
    intro value
    have hm : (node.plug value).member? "tag" = some (.str tag) := by
      change Members.get? "tag" (before ++ _ :: after) = _
      rw [Members.get?_middle_of_ne (by decide), ht]
    rw [Json.tag?, hm]
  have hcontents : ∀ value, (node.plug value).contents = context.plug value := by
    intro value
    change (Members.get? "contents" (before ++ _ :: after)).getD .null = _
    rw [Members.get?_middle hc, Option.getD_some]
  have hbuilds : ∀ value x, (kind.build form (context.plug value)).toOption = some x →
      kind.decode (node.plug value) = x := by
    intro value x hx
    refine Kind.decode_of_builds ⟨tag, form, htag value, hf, ?_⟩
    rw [hcontents]
    cases hb : kind.build form (context.plug value) with
    | error e => rw [hb] at hx; cases hx
    | ok y => rw [hb] at hx; exact congrArg _ (Option.some.inj hx)
  cases h with
  | built htree h =>
    exact .built htree fun value hv => congrArg some (hbuilds value _ (h value hv))
  | lost outer hcomp htree h =>
    refine .lost (.member before "contents" outer after) ?_ htree
      fun value hv => congrArg some (hbuilds value _ (h value hv))
    rw [hcomp, Context.comp]
  | fails h =>
    refine .lost .hole rfl .whole fun value hv => congrArg some ?_
    refine Kind.decode_of_not_builds fun x hx => ?_
    obtain ⟨tag', form', ht', hf', hb⟩ := hx
    obtain rfl : tag = tag' := Option.some.inj ((htag value).symm.trans ht')
    obtain rfl : form = form' := Option.some.inj (hf.symm.trans hf')
    have hnone := h value hv
    rw [← hcontents, hb] at hnone
    cases hnone

end Place.Outcome

theorem bodyOf_of_ne_null {raw : Json} (h : raw ≠ .null) :
    bodyOf raw = .ok (some (Expr.decode raw)) := by
  cases raw with
  | null => exact absurd rfl h
  | _ => rfl

theorem Place.outcome {α : Type} {read : Json → Except ShapeError α} {context : Context}
    {hole : Hole} (h : Place read context hole) : Outcome read context hole := by
  induction h with
  | here kind => exact .built .whole fun _ _ => rfl
  | contents hc ht hf _ ih => exact .contents hc ht hf ih
  | element _ ih => exact ih.through (.item _ .hole _) (.element ..)
  | elementOrNone _ ih => exact ih.through (.item _ .hole _) (.elementOrNone ..)
  | member _ ih => exact ih.through (.member _ _ .hole _) (.member ..)
  | pair hk hl _ ih => exact ih.through (.item _ (.item _ .hole _) _) (.pair _ hk hl)
  | head _ ih => exact ih.through (.item [] .hole _) (.head ..)
  | sum _ ih => exact ih.same .sum
  | options _ ih => exact ih.through (.item [_] .hole []) (.options ..)
  | optionVars _ ih => exact ih.through (.item [] .hole [_, _]) (.optionVars ..)
  | optionArgs _ ih => exact ih.through (.item [_, _] .hole []) (.optionArgs ..)
  | info _ ih => exact ih.through (.item [] .hole _) (.info ..)
  | objInfo _ ih => exact ih.through (.item [] .hole [_, _, _, _]) (.objInfo ..)
  | objVars _ ih => exact ih.through (.item [_, _, _] .hole [_]) (.objVars ..)
  | objArgs _ ih => exact ih.through (.item [_, _, _, _] .hole []) (.objArgs ..)
  | named _ ih => exact ih.through (.item [_] .hole []) (.named ..)
  | positional _ ih => exact ih.same (.wraps .positional fun _ => rfl)
  | ifGuard _ ih => exact ih.same (.wraps .ifGuard fun _ => rfl)
  | armObj _ ih => exact ih.through (.item [] .hole [_]) (.armObj ..)
  | armGuard _ ih => exact ih.through (.item [_] .hole []) (.armGuard ..)
  | constantInfo _ ih => exact ih.through (.item [] .hole _) (.constantInfo ..)
  | nameInfo _ ih => exact ih.through (.item [] .hole _) (.nameInfo ..)
  | applyInfo _ ih => exact ih.through (.item [] .hole [_, _]) (.applyInfo ..)
  | applyBase _ ih =>
    exact ih.through (.item [_] (.item [_] .hole []) [_]) (.applyBase ..)
  | applyArgs _ ih => exact ih.through (.item [_, _] .hole []) (.applyArgs ..)
  | paren _ ih => exact ih.same (.wraps .paren fun _ => rfl)
  | methodsBase _ ih => exact ih.through (.item [] .hole [_]) (.methodsBase ..)
  | methodsCalls _ ih => exact ih.through (.item [_] .hole []) (.methodsCalls ..)
  | ifInfo _ ih =>
    exact ih.through (.item [] .hole [_, _, _]) (.wraps (.ifInfo ..) fun _ => rfl)
  | ifCondition _ ih =>
    exact ih.through (.item [_] .hole [_, _]) (.wraps (.ifCondition ..) fun _ => rfl)
  | ifYes _ ih =>
    exact ih.through (.item [_, _] .hole [_]) (.wraps (.ifYes ..) fun _ => rfl)
  | ifNo _ ih =>
    exact ih.through (.item [_, _, _] .hole []) (.wraps (.ifNo ..) fun _ => rfl)
  | branchInfo _ ih => exact ih.through (.item [] .hole [_, _]) (.branchInfo ..)
  | branchSubject _ ih => exact ih.through (.item [_] .hole [_]) (.branchSubject ..)
  | branchArms _ ih => exact ih.through (.item [_, _] .hole []) (.branchArms ..)
  | body =>
    exact .built .body fun value hv => congrArg _ (bodyOf_of_ne_null hv)
  | insideBody hC _ ih =>
    refine ih.within .hole (.inr ⟨some, .body, fun value => ?_⟩)
    exact congrArg _ (bodyOf_of_ne_null (Context.plug_ne_null hC value))
  | declObj _ ih =>
    exact ih.through (.item [] (.item [_] (.item [] .hole [_]) []) [_, _]) (.declObj ..)
  | declGuard _ ih =>
    exact ih.through (.item [] (.item [_] (.item [_] .hole []) []) [_, _]) (.declGuard ..)
  | declSubs _ ih => exact ih.through (.item [_] .hole [_]) (.declSubs ..)
  | declBody _ ih => exact ih.through (.item [_, _] .hole []) (.declBody ..)
  | subDecl _ ih => exact ih.same .subDecl
  | subAnnot _ ih => exact ih.same (.wraps .subAnnot fun _ => rfl)
  | decl _ ih => exact ih.same .decl
  | multiVars _ ih => exact ih.through (.item [_] .hole [_]) (.multiVars ..)
  | multiOptions _ ih => exact ih.through (.item [_, _] .hole []) (.multiOptions ..)
  | typeDef _ ih => exact ih.through (.item [] .hole _) (.typeDef ..)
  | instanceVars _ ih =>
    exact ih.through (.item [] (.item [_] .hole []) [_]) (.instanceVars ..)
  | classVars _ ih => exact ih.through (.item [_] .hole []) (.classVars ..)
  | globalAnnot _ ih => exact ih.same (.wraps .globalAnnot fun _ => rfl)

/-- Every value has an answer: the node that its tag and contents build, or the unknown node of the
grammar that is asked for. In a context, for all values in the hole, the answer is one fixed tree
around the node of the value, or the hole is inside the payload that an unknown node keeps. -/
theorem decode_contains_faults :
    (∀ (kind : Kind) (raw : Json),
      (∃ node, kind.Builds raw node ∧ kind.decode raw = node) ∨
        (∀ node, ¬kind.Builds raw node) ∧ kind.decode raw = kind.unknownOf raw) ∧
    ∀ (kind : Kind) (context : Context) (hole : Hole), Place kind.reader context hole →
      (∃ tree : hole.kind.Node → kind.Node, Surrounds tree ∧ ∀ value, hole.Takes value →
        kind.decode (context.plug value) = tree (hole.kind.decode value)) ∨
      ∃ (outer payload : Context) (before after : Members Json) (lost : Kind)
        (tree : lost.Node → kind.Node),
        context = outer.comp (.member before "contents" payload after) ∧ Surrounds tree ∧
        ∀ value, hole.Takes value → kind.decode (context.plug value) =
          tree (lost.unknownOf
            (.obj (before ++ (Text.ofString "contents", payload.plug value) :: after))) := by
  refine ⟨fun kind raw => ?_, fun kind context hole h => ?_⟩
  · by_cases h : ∃ node, kind.Builds raw node
    · obtain ⟨node, h⟩ := h
      exact .inl ⟨node, h, Kind.decode_of_builds h⟩
    · have h' : ∀ node, ¬kind.Builds raw node := fun node hn => h ⟨node, hn⟩
      exact .inr ⟨h', Kind.decode_of_not_builds h'⟩
  · cases h.outcome with
    | built ht h => exact .inl ⟨_, ht, fun value hv => Option.some.inj (h value hv)⟩
    | lost outer hc ht h =>
      exact .inr ⟨outer, _, _, _, _, _, hc, ht, fun value hv => Option.some.inj (h value hv)⟩
    | fails h =>
      have hv : hole.Takes (.bool true) := by
        cases hole with
        | node kind => trivial
        | body => exact Json.noConfusion
      cases h _ hv

/-- The argument of an annotation, between arguments that cannot be read. -/
def annotArgument : Context :=
  .member [("tag", .str "GlobalAnnot")] "contents"
    (.member [("tag", .str "TupleApply")] "contents"
      (.item [.null, .arr [.null, .str "f"]]
        (.item [.int 1] (.member [] "contents" .hole [("tag", .str "Positional")]) [.null]) [])
      []) []

theorem decode_contains_faults_annotArgument :
    Place Kind.statement.reader annotArgument (.node .expr) ∧
    ((∃ tree : Expr → Statement, Surrounds tree ∧ ∀ value, True →
        Statement.decode (annotArgument.plug value) = tree (Expr.decode value)) ∨
      ∃ (outer payload : Context) (before after : Members Json) (lost : Kind)
        (tree : lost.Node → Statement),
        annotArgument = outer.comp (.member before "contents" payload after) ∧ Surrounds tree ∧
        ∀ value, True → Statement.decode (annotArgument.plug value) =
          tree (lost.unknownOf
            (.obj (before ++ (Text.ofString "contents", payload.plug value) :: after)))) := by
  have h : Place Kind.statement.reader annotArgument (.node .expr) :=
    .contents (by decide) rfl rfl <| .globalAnnot <|
      .contents (by decide) rfl rfl <| .applyArgs <| .element <|
        .contents (by decide) rfl rfl <| .positional <| .here .expr
  exact ⟨h, decode_contains_faults.2 .statement annotArgument (.node .expr) h⟩

end WebDocs
