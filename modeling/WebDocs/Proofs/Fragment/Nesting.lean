import WebDocs.Fragment.Listing
import WebDocs.Fragment.Outline
import WebDocs.Proofs.Fragment.AnnotationResult
import WebDocs.Proofs.Markup.Nesting

namespace WebDocs

open Fragment

theorem Fragment.enclosed_nests {fragments : List Fragment} (left right : Text)
    (h : ∀ fragment ∈ fragments, fragment.Nests []) :
    Nests (if fragments.isEmpty then [] else
      .text left :: join ", " fragments ++ [.text right]) [] := by
  split
  next => exact nests_nil
  next =>
    have hj := (nests_join_nil ", " h).text_cons left
    exact hj.append (nests_text right)

mutual

theorem Ty.fragment_nests : (type : Ty) → type.fragment.value.Nests []
  | .top => nests_text "TopType"
  | .typeVar name => nests_ofText name
  | .sum parts => nests_join_nil " | " (Ty.partFragments_nest parts)
  | .unknown _ _ => nests_nil

theorem Ty.partFragments_nest : (parts : List PartialType) →
    ∀ fragment ∈ (Ty.partFragments parts).value, fragment.Nests []
  | [], _, h => nomatch h
  | .mk name options :: rest, fragment, h => by
    rcases List.mem_append.1 h with h | h
    · exact Ty.optionFragments_nest name options fragment h
    · exact Ty.partFragments_nest rest fragment h

theorem Ty.optionFragments_nest (name : Text) : (options : List TypeOption) →
    ∀ fragment ∈ (Ty.optionFragments name options).value, fragment.Nests []
  | [], _, h => nomatch h
  | .mk vars args :: rest, fragment, h => by
    rcases List.mem_cons.1 h with rfl | h
    · have hv := (enclosed_nests "<" ">" (Ty.entryFragments_nest vars)).text_cons name
      have ha := (nests_join_nil ", " (Ty.entryFragments_nest args)).text_cons "("
      exact ((hv.append ha).append (nests_text ")")).element .partialType (by decide)
    · exact Ty.optionFragments_nest name rest fragment h

theorem Ty.entryFragments_nest : (entries : List (Text × Ty)) →
    ∀ fragment ∈ (Ty.entryFragments entries).value, fragment.Nests []
  | [], _, h => nomatch h
  | (name, type) :: rest, fragment, h => by
    rcases List.mem_cons.1 h with rfl | h
    · exact type.fragment_nests.append ((nests_text name).text_cons " ")
    · exact Ty.entryFragments_nest rest fragment h

end

theorem Meta.fragment_nests (style : MetaStyle) (info : Meta) :
    (info.fragment style).value.Nests [] := by
  unfold Meta.fragment
  split
  next => exact nests_nil
  next => exact Ty.fragment_nests _

namespace Obj

theorem entryFragments_nest (style : MetaStyle) (entries : List (Text × Meta)) :
    ∀ fragment ∈ (entryFragments style entries).value, fragment.Nests [] := by
  induction entries with
  | nil => exact fun _ h => nomatch h
  | cons entry rest ih =>
    obtain ⟨name, info⟩ := entry
    intro fragment h
    rcases List.mem_cons.1 h with rfl | h
    · split
      next => exact nests_text name
      next => exact (info.fragment_nests style).append ((nests_text name).text_cons " ")
    · exact ih fragment h

theorem fragment_nests (style : MetaStyle) (details : Bool) (obj : Obj) :
    (obj.fragment style details).value.Nests [] := by
  have hv := enclosed_nests "<" ">" (entryFragments_nest style obj.vars)
  have ha := enclosed_nests "(" ")" (entryFragments_nest style obj.args)
  have hname := (hv.text_cons obj.name).append ha
  cases details with
  | false => exact hname.element .obj (by decide)
  | true =>
    have hinfo := ((obj.info.fragment_nests style).text_cons " - ").text_cons obj.basis
    have hhead := (hinfo.element .objDetails (by decide)).append (nests_text " ")
    exact (hhead.append hname).element .obj (by decide)

end Obj

section

variable (display : Display)

mutual

theorem Expr.fragment_nests : (expr : Expr) → (expr.fragment display).value.Nests []
  | .constant _ value => nests_ofText (constantText value)
  | .name _ name => nests_ofText name
  | .apply _ base args => by
    have hargs := (nests_join_nil ", " (Arg.fragments_nest args)).text_cons "("
    have hall := (base.fragment_nests.append hargs).append (nests_text ")")
    exact hall.element .span (by decide)
  | .paren inner => by
    have hinner := inner.fragment_nests.text_cons "("
    exact (hinner.append (nests_text ")")).element .span (by decide)
  | .methods base calls =>
    (base.fragment_nests.append (Expr.callFragment_nests calls)).element .span (by decide)
  | .ifThenElse _ condition yes no => by
    have hno := no.fragment_nests.text_cons " else "
    have hyes := yes.fragment_nests.text_cons " then "
    have hcondition := condition.fragment_nests.text_cons "if "
    exact ((hcondition.append hyes).append hno).element .span (by decide)
  | .branch kind _ subject arms => by
    have hsubject := subject.fragment_nests.text_cons (kind.keyword ++ " ")
    have harms := ((Arm.fragments_nest arms).element .indented (by decide)).text_cons " of"
    exact (hsubject.append harms).element .span (by decide)
  | .unknown _ _ => nests_nil

theorem Expr.callFragment_nests : (calls : List Expr) →
    (Expr.callFragment display calls).value.Nests []
  | [] => nests_nil
  | call :: rest => (call.fragment_nests.text_cons ".").append (Expr.callFragment_nests rest)

theorem Arg.fragments_nest : (args : List Arg) →
    ∀ fragment ∈ (Arg.fragments display args).value, fragment.Nests []
  | [], _, h => nomatch h
  | .named name value :: rest, fragment, h => by
    rcases List.mem_cons.1 h with rfl | h
    · exact (value.fragment_nests.text_cons " = ").text_cons name
    · exact Arg.fragments_nest rest fragment h
  | .positional value :: rest, fragment, h => by
    rcases List.mem_cons.1 h with rfl | h
    · exact value.fragment_nests
    · exact Arg.fragments_nest rest fragment h
  | .unknown _ _ :: rest, fragment, h => by
    rcases List.mem_cons.1 h with rfl | h
    · exact nests_nil
    · exact Arg.fragments_nest rest fragment h

theorem Guard.fragment_nests : (guard : Guard) → (guard.fragment display).value.Nests []
  | .ifGuard condition => condition.fragment_nests.text_cons " if "
  | .elseGuard => nests_text " else"
  | .noGuard => nests_nil
  | .unknown _ _ => nests_nil

theorem Arm.fragments_nest : (arms : List Arm) → (Arm.fragments display arms).value.Nests []
  | [] => nests_nil
  | .mk pattern guard :: rest => by
    have hpattern := pattern.fragment_nests display.metas display.details
    have harm := (hpattern.append guard.fragment_nests).element .arm (by decide)
    exact harm.append (Arm.fragments_nest rest)

end

/-- An artifact is embedded if its name ends like that of a page. -/
def Artifact.embedded (artifact : Artifact) : List Artifact :=
  if artifact.kind = .embedded then [artifact] else []

theorem Artifact.fragment_nests (artifact : Artifact) :
    artifact.fragment.Nests artifact.embedded := by
  unfold Artifact.fragment Artifact.embedded
  have htext := nests_ofText artifact.contents
  cases artifact.kind with
  | code => exact (htext.element .code (by decide)).element .codeBlock (by decide)
  | embedded => exact nests_frame artifact.contents artifact.name
  | text => exact htext.element .textBlock (by decide)

def Val.embedded (value : Val) : List Artifact :=
  (Artifact.ofVal? value).elim [] Artifact.embedded

theorem Val.fragment_nests (value : Val) : value.fragment.value.Nests value.embedded := by
  cases value with
  | tuple name args =>
    cases h : Artifact.ofVal? (.tuple name args) with
    | some artifact =>
      simp only [Val.fragment, Val.embedded, h]
      exact artifact.fragment_nests
    | none =>
      simp only [Val.fragment, Val.embedded, h]
      exact nests_nil
  | str s => exact (nests_ofText s).element .textBlock (by decide)
  | int n => exact (nests_text _).element .textBlock (by decide)
  | float x => exact (nests_text _).element .textBlock (by decide)
  | unknown tag raw => exact nests_nil

mutual

theorem Decl.fragment_nests : (d : Decl) → (d.fragment display).value.Nests []
  | .mk obj guard subs body => by
    have hobj := obj.fragment_nests display.metas display.details
    have hguard := guard.fragment_nests display
    have hsubs := SubStatement.fragments_nest subs
    have hbelow : Nests (if subs.isEmpty then [] else
        [.element .indented (SubStatement.fragments display subs).value]) [] := by
      split
      next => exact nests_nil
      next => exact hsubs.element .indented (by decide)
    cases body with
    | none => exact (((hobj.append hguard).append nests_nil).append hbelow).element .decl (by decide)
    | some body =>
      have hbody := (body.fragment_nests display).text_cons " = "
      exact (((hobj.append hguard).append hbody).append hbelow).element .decl (by decide)

theorem SubStatement.fragments_nest : (subs : List SubStatement) →
    (SubStatement.fragments display subs).value.Nests []
  | [] => nests_nil
  | .decl d :: rest => d.fragment_nests.append (SubStatement.fragments_nest rest)
  | .annot expr :: rest =>
    ((expr.fragment_nests display).element .annot (by decide)).append
      (SubStatement.fragments_nest rest)
  | .unknown _ _ :: rest => SubStatement.fragments_nest rest

end

/-- What the recorded value of an annotation prints into the page as a page. -/
def printedArtifacts (expr : Expr) : List Artifact :=
  match display.index.lookup expr.headPosition with
  | some (.tuple name args) =>
    if name = printAnnotation then (Members.get? printedArg args).elim [] Val.embedded else []
  | _ => []

theorem annotFragment_nests (expr : Expr) :
    (annotFragment display expr).value.Nests (printedArtifacts display expr) := by
  have he := expr.fragment_nests display
  cases hl : display.index.lookup expr.headPosition with
  | none =>
    rw [annotFragment_missing hl, printedArtifacts, hl]
    exact he.element .missingAnnot (by decide)
  | some value =>
    by_cases hv : ∀ args, value ≠ .tuple printAnnotation args
    · have hnone : printedArtifacts display expr = [] := by
        cases value with
        | tuple name args =>
          have hn : name ≠ printAnnotation := fun h => hv args (h ▸ rfl)
          simp only [printedArtifacts, hl, if_neg hn]
        | _ => simp only [printedArtifacts, hl]
      rw [annotFragment_other hl hv, hnone]
      exact he.element .annot (by decide)
    · simp only [not_forall, not_not] at hv
      obtain ⟨args, rfl⟩ := hv
      cases hp : Members.get? printedArg args with
      | none =>
        have hnone : printedArtifacts display expr = [] := by simp [printedArtifacts, hl, hp]
        rw [annotFragment_nothingPrinted hl hp, hnone]
        exact he.element .annot (by decide)
      | some printed =>
        have hsome : printedArtifacts display expr = printed.embedded := by
          simp [printedArtifacts, hl, hp]
        rw [annotFragment_printed hl hp, hsome]
        exact (he.append (nests_lineBreak.append printed.fragment_nests)).element .annot (by decide)

theorem optionSpans_nest (types : List Ty) :
    ∀ fragment ∈ (optionSpans types).value, fragment.Nests [] := by
  induction types with
  | nil => exact fun _ h => nomatch h
  | cons type rest ih =>
    intro fragment h
    rcases List.mem_cons.1 h with rfl | h
    · exact type.fragment_nests.element .span (by decide)
    · exact ih fragment h

theorem typeVarsFragment_nests (vars : Members Ty) : (typeVarsFragment vars).value.Nests [] :=
  enclosed_nests "<" ">" (Ty.entryFragments_nest vars)

/-- Only annotations embed anything. -/
def Statement.embedded : Statement → List Artifact
  | .globalAnnot expr => printedArtifacts display expr
  | _ => []

theorem Statement.fragment_nests {statement : Statement}
    (h : ∀ text, statement ≠ .comment text) :
    (statement.fragment display).value.Nests (statement.embedded display) := by
  cases statement with
  | decl d => exact d.fragment_nests display
  | multiTypeDef name vars options =>
    have hvars := ((typeVarsFragment_nests vars).text_cons name).text_cons "class "
    have hoptions := (nests_join_nil " | " (optionSpans_nest options)).text_cons " = "
    exact (hvars.append hoptions).element .statement (by decide)
  | typeDef type => exact (type.fragment_nests.text_cons "data ").element .statement (by decide)
  | classInstance typeName vars className =>
    have hvars := ((typeVarsFragment_nests vars).text_cons typeName).text_cons "instance "
    have hclass := (nests_text className).text_cons " of "
    exact (hvars.append hclass).element .statement (by decide)
  | classDecl name vars =>
    have hvars := ((typeVarsFragment_nests vars).text_cons name).text_cons "class "
    exact hvars.element .statement (by decide)
  | globalAnnot expr => exact annotFragment_nests display expr
  | comment text => exact absurd rfl (h text)
  | unknown tag raw => exact nests_nil

theorem statementFragments_nest {statements : List Statement}
    (h : ∀ text, .comment text ∉ statements) :
    List.Forall₂ Nests (statementFragments display statements).value
      (statements.map (Statement.embedded display)) := by
  induction statements with
  | nil => exact .nil
  | cons statement rest ih =>
    have hs : ∀ text, statement ≠ .comment text := by
      rintro text rfl
      exact h text List.mem_cons_self
    exact .cons (Statement.fragment_nests display hs)
      (ih fun text hm => h text (List.mem_cons_of_mem _ hm))

theorem statementsFragment_nests {statements : List Statement}
    (h : ∀ text, .comment text ∉ statements) :
    (statementsFragment display statements).value.Nests
      (statements.flatMap (Statement.embedded display)) :=
  nests_join "\n" (statementFragments_nest display h)

end

/-- The files of a listing. -/
def Json.listedArtifacts : Json → List Artifact
  | .str contents => [⟨defaultListingName, contents⟩]
  | .obj files => files.map fun (name, contents) => ⟨name, contents.plainText⟩
  | _ => []

theorem fileSections_nest (files : Members Json) :
    List.Forall₂ Nests (fileSections files)
      ((Json.obj files).listedArtifacts.map Artifact.embedded) := by
  induction files with
  | nil => exact .nil
  | cons file rest ih =>
    obtain ⟨name, contents⟩ := file
    have hheading := (nests_ofText name).element .heading (by decide)
    have hfile := hheading.append (Artifact.fragment_nests ⟨name, contents.plainText⟩)
    exact .cons (hfile.element .artifactSection (by decide)) ih

theorem listingFragment_nests (data : Json) :
    (listingFragment data).value.Nests (data.listedArtifacts.flatMap Artifact.embedded) := by
  cases data with
  | str contents =>
    have h := Artifact.fragment_nests ⟨defaultListingName, contents⟩
    rw [Json.listedArtifacts, List.flatMap_singleton]
    exact h
  | obj files => exact nests_join "\n" (fileSections_nest files)
  | _ => exact nests_nil

namespace Json

mutual

theorem outline_nests : (value : Json) → value.outline.Nests []
  | null => nests_text "null"
  | bool b => nests_text (if b then "true" else "false")
  | int _ => nests_text _
  | float _ => nests_text _
  | str s => nests_ofText s
  | arr items => (outlineItems_nest items).element .items (by decide)
  | obj members => by
    have hall := outlineMembers_nest (fun _ => true) members
    have hrest := (outlineMembers_nest (!isTag ·) members).element .members (by decide)
    have hinner : Nests (if contentsAlone members then outlineContents members
        else if members.all isTag then []
        else [.element .members (outlineMembers (!isTag ·) members)]) [] := by
      by_cases hc : contentsAlone members
      · rw [if_pos hc]
        exact outlineContents_nest members
      by_cases ht : members.all isTag
      · rw [if_neg hc, if_pos ht]
        exact nests_nil
      · rw [if_neg hc, if_neg ht]
        exact hrest
    have hsummary (tag : Text) := (nests_ofText tag).element .summary (by decide)
    unfold outline
    split
    next => exact ((hsummary _).append hinner).element .outline (by decide)
    next => exact hall.element .members (by decide)

theorem outlineItems_nest : (items : List Json) → (outlineItems items).Nests []
  | [] => nests_nil
  | item :: rest =>
    (item.outline_nests.element .item (by decide)).append (outlineItems_nest rest)

theorem outlineMembers_nest (keep : Text × Json → Bool) : (members : List (Text × Json)) →
    (outlineMembers keep members).Nests []
  | [] => nests_nil
  | (key, value) :: rest => by
    have hkey := (nests_ofText key).element .key (by decide)
    have hvalue := value.outline_nests.element .value (by decide)
    unfold outlineMembers
    split
    next => exact hkey.append (hvalue.append (outlineMembers_nest keep rest))
    next => exact outlineMembers_nest keep rest

theorem outlineContents_nest : (members : List (Text × Json)) → (outlineContents members).Nests []
  | [] => nests_nil
  | (key, value) :: rest => by
    have hvalue := value.outline_nests
    unfold outlineContents
    split
    next =>
      split
      next => exact nests_nil
      next => exact hvalue
    next => exact outlineContents_nest rest

end
end Json
end WebDocs
