import WebDocs.Proofs.Fragment.AnnotationResult
import WebDocs.Proofs.Fragment.NodeText
import WebDocs.Proofs.Markup.PlainText

namespace WebDocs

open Fragment

theorem Fragment.enclosed_shows {fragments : List Fragment} {texts : List (List CodePoint)}
    (left right : Text) (h : List.Forall₂ Shows fragments texts) :
    Shows (if fragments.isEmpty then [] else
      .text left :: join ", " fragments ++ [.text right]) (enclosed left right texts) := by
  cases h with
  | nil => exact shows_nil
  | cons hf hrest =>
    have hj := shows_join ", " (List.Forall₂.cons hf hrest)
    exact (hj.text_cons left).append (shows_text right)

mutual

theorem Ty.fragment_shows : (type : Ty) → type.fragment.value.Shows type.text
  | .top => shows_text "TopType"
  | .typeVar name => shows_ofText name
  | .sum parts => shows_join " | " (Ty.partFragments_show parts)
  | .unknown _ _ => shows_nil

theorem Ty.partFragments_show : (parts : List PartialType) →
    List.Forall₂ Shows (Ty.partFragments parts).value (Ty.partTexts parts)
  | [] => .nil
  | .mk name options :: rest =>
    List.rel_append (Ty.optionFragments_show name options) (Ty.partFragments_show rest)

theorem Ty.optionFragments_show (name : Text) : (options : List TypeOption) →
    List.Forall₂ Shows (Ty.optionFragments name options).value (Ty.optionTexts name options)
  | [] => .nil
  | .mk vars args :: rest => by
    have hv := enclosed_shows "<" ">" (Ty.entryFragments_show vars)
    have ha := shows_join ", " (Ty.entryFragments_show args)
    have h := (((hv.text_cons name).append (ha.text_cons "(")).append
      (shows_text ")")).element .partialType
    exact .cons h (Ty.optionFragments_show name rest)

theorem Ty.entryFragments_show : (entries : List (Text × Ty)) →
    List.Forall₂ Shows (Ty.entryFragments entries).value (Ty.entryTexts entries)
  | [] => .nil
  | (name, type) :: rest => by
    have h := type.fragment_shows.append ((shows_text name).text_cons " ")
    exact .cons h (Ty.entryFragments_show rest)

end

theorem Fragment.join_eq_nil (separator : Text) {fragments : List Fragment}
    (h : ∀ fragment ∈ fragments, fragment ≠ []) :
    join separator fragments = [] ↔ fragments = [] := by
  match fragments with
  | [] => simp [join]
  | [fragment] => simpa [join] using h fragment
  | fragment :: _ :: _ => simp [join]

theorem joined_eq_nil (separator : Text) {texts : List (List CodePoint)}
    (h : ∀ text ∈ texts, text ≠ []) : joined separator texts = [] ↔ texts = [] := by
  match texts with
  | [] => simp [joined]
  | [text] => simpa [joined] using h text
  | text :: _ :: _ =>
    have ht := h text List.mem_cons_self
    simp [joined, List.intercalate, ht]

/-- An option shows at least its brackets. -/
theorem Ty.optionFragments_ne_nil (name : Text) (options : List TypeOption) :
    (∀ fragment ∈ (Ty.optionFragments name options).value, fragment ≠ []) ∧
      ∀ text ∈ Ty.optionTexts name options, text ≠ [] := by
  induction options with
  | nil => exact ⟨fun _ h => absurd h List.not_mem_nil, fun _ h => absurd h List.not_mem_nil⟩
  | cons option rest ih =>
    obtain ⟨vars, args⟩ := option
    refine ⟨List.forall_mem_cons.2 ⟨List.cons_ne_nil _ _, ih.1⟩, ?_⟩
    refine List.forall_mem_cons.2 ⟨?_, ih.2⟩
    simp

theorem Ty.partFragments_ne_nil (parts : List PartialType) :
    (∀ fragment ∈ (Ty.partFragments parts).value, fragment ≠ []) ∧
      ∀ text ∈ Ty.partTexts parts, text ≠ [] := by
  induction parts with
  | nil => exact ⟨fun _ h => absurd h List.not_mem_nil, fun _ h => absurd h List.not_mem_nil⟩
  | cons part rest ih =>
    obtain ⟨name, options⟩ := part
    have h := Ty.optionFragments_ne_nil name options
    exact ⟨List.forall_mem_append.2 ⟨h.1, ih.1⟩, List.forall_mem_append.2 ⟨h.2, ih.2⟩⟩

/-- A type shows nothing exactly when it has no text. -/
theorem Ty.fragment_eq_nil (type : Ty) : type.fragment.value = [] ↔ type.text = [] := by
  cases type with
  | top =>
    have h : ("TopType" : Text).toList ≠ [] := by decide
    exact ⟨fun hf => absurd hf (List.cons_ne_nil _ _), fun ht => absurd ht h⟩
  | typeVar name =>
    show ofText name = [] ↔ name.toList = []
    by_cases hn : name = "" <;> simp [ofText, hn]
  | sum parts =>
    have h := Ty.partFragments_ne_nil parts
    have hl := (Ty.partFragments_show parts).length_eq
    show join " | " (Ty.partFragments parts).value = [] ↔ joined " | " (Ty.partTexts parts) = []
    rw [join_eq_nil _ h.1, joined_eq_nil _ h.2, ← List.length_eq_zero_iff, hl,
      List.length_eq_zero_iff]
  | unknown tag raw => exact ⟨fun _ => rfl, fun _ => rfl⟩

theorem Meta.fragment_shows (style : MetaStyle) (info : Meta) :
    (info.fragment style).value.Shows (info.text style) := by
  obtain ⟨type, position⟩ := info
  cases style with
  | typed => exact type.fragment_shows
  | declared =>
    cases type with
    | top => exact shows_nil
    | _ => exact Ty.fragment_shows _

theorem Meta.fragment_eq_nil (style : MetaStyle) (info : Meta) :
    (info.fragment style).value = [] ↔ info.text style = [] := by
  obtain ⟨type, position⟩ := info
  cases style with
  | typed => exact type.fragment_eq_nil
  | declared =>
    cases type with
    | top => exact ⟨fun _ => rfl, fun _ => rfl⟩
    | _ => exact Ty.fragment_eq_nil _

theorem Obj.entryFragments_show (style : MetaStyle) (entries : List (Text × Meta)) :
    List.Forall₂ Shows (Obj.entryFragments style entries).value
      (entries.map (Obj.entryText style)) := by
  induction entries with
  | nil => exact .nil
  | cons entry rest ih =>
    obtain ⟨name, info⟩ := entry
    refine .cons ?_ ih
    have hi := info.fragment_shows style
    have he := info.fragment_eq_nil style
    simp only [Obj.entryText, List.isEmpty_iff]
    by_cases ht : info.text style = []
    · rw [if_pos (he.2 ht), if_pos ht]
      exact shows_text name
    · rw [if_neg (fun h => ht (he.1 h)), if_neg ht]
      exact hi.append ((shows_text name).text_cons " ")

theorem Obj.fragment_shows (style : MetaStyle) (details : Bool) (obj : Obj) :
    (obj.fragment style details).value.Shows (obj.text style details) := by
  have hv := enclosed_shows "<" ">" (Obj.entryFragments_show style obj.vars)
  have ha := enclosed_shows "(" ")" (Obj.entryFragments_show style obj.args)
  have hi := (((obj.info.fragment_shows style).text_cons " - ").text_cons obj.basis)
  cases details with
  | false => exact ((hv.text_cons obj.name).append ha).element .obj
  | true =>
    have hd := (hi.element .objDetails).append (shows_text " ")
    exact ((hd.append (hv.text_cons obj.name)).append ha).element .obj

theorem Json.ofString_toString_int (n : Int) : (toString n : Text) = .ofChars (printInt n) := by
  have h : (toString n).toList = printInt n := by
    cases n <;> simp [printInt, Decimal.signText, Decimal.digitsOf, toString, Int.repr, Nat.repr]
  rw [Text.ofString, h]

/-- What is shown of a constant is its literal. -/
theorem toList_constantText (value : Json) : (constantText value).toList = value.literal := by
  cases value with
  | bool b => cases b <;> rfl
  | int n =>
    rw [Json.literal, Json.ofString_toString_int]
    exact congrArg Text.toList (Text.ofString_ofList _)
  | str s => rfl
  | _ => exact congrArg Text.toList (Text.ofString_ofList _)

section

variable (display : Display)

mutual

theorem Expr.fragment_shows : (expr : Expr) →
    (expr.fragment display).value.Shows (expr.text display)
  | .constant _ value => by
    have h := shows_ofText (constantText value)
    rwa [toList_constantText] at h
  | .name _ name => shows_ofText name
  | .apply _ base args => by
    have ha := (shows_join ", " (Arg.fragments_show args)).text_cons "("
    exact ((base.fragment_shows.append ha).append (shows_text ")")).element .span
  | .paren inner => ((inner.fragment_shows.text_cons "(").append (shows_text ")")).element .span
  | .methods base calls =>
    (base.fragment_shows.append (Expr.callFragment_shows calls)).element .span
  | .ifThenElse _ condition yes no => by
    have hc := condition.fragment_shows.text_cons "if "
    have hy := yes.fragment_shows.text_cons " then "
    have hn := no.fragment_shows.text_cons " else "
    exact ((hc.append hy).append hn).element .span
  | .branch kind _ subject arms => by
    have hs := subject.fragment_shows.text_cons (kind.keyword ++ " ")
    have ha := ((Arm.fragments_show arms).element .indented).text_cons " of"
    exact (hs.append ha).element .span
  | .unknown _ _ => shows_nil

theorem Expr.callFragment_shows : (calls : List Expr) →
    (Expr.callFragment display calls).value.Shows (Expr.callText display calls)
  | [] => shows_nil
  | call :: rest => (call.fragment_shows.text_cons ".").append (Expr.callFragment_shows rest)

theorem Arg.fragments_show : (args : List Arg) →
    List.Forall₂ Shows (Arg.fragments display args).value (Arg.texts display args)
  | [] => .nil
  | .named name value :: rest =>
    .cons ((value.fragment_shows.text_cons " = ").text_cons name) (Arg.fragments_show rest)
  | .positional value :: rest => .cons value.fragment_shows (Arg.fragments_show rest)
  | .unknown _ _ :: rest => .cons shows_nil (Arg.fragments_show rest)

theorem Guard.fragment_shows : (guard : Guard) →
    (guard.fragment display).value.Shows (guard.text display)
  | .ifGuard condition => condition.fragment_shows.text_cons " if "
  | .elseGuard => shows_text " else"
  | .noGuard => shows_nil
  | .unknown _ _ => shows_nil

theorem Arm.fragments_show : (arms : List Arm) →
    (Arm.fragments display arms).value.Shows (Arm.text display arms)
  | [] => shows_nil
  | .mk pattern guard :: rest => by
    have hp := pattern.fragment_shows display.metas display.details
    exact ((hp.append guard.fragment_shows).element .arm).append (Arm.fragments_show rest)

end

theorem Artifact.hasEnding_iff (ending name : List CodePoint) :
    hasEnding ending name ↔ ending <:+ name :=
  List.isPrefixOf_iff_prefix.trans List.reverse_prefix

/-- A text does not end in two ways. -/
theorem Artifact.kindOf_of_html {name : Text} (h : (".html" : Text).toList <:+ name.toList) :
    kindOf name = .embedded := by
  have hll : ¬hasEnding (".ll" : Text).toList name.toList := by
    rw [hasEnding_iff]
    intro hll
    exact absurd (List.suffix_of_suffix_length_le hll h (by decide)) (by decide)
  rw [kindOf, if_neg hll, if_pos ((hasEnding_iff _ _).2 h)]

theorem Artifact.fragment_shows (artifact : Artifact) :
    artifact.fragment.Shows (fileText artifact.name artifact.contents) := by
  unfold Artifact.fragment
  by_cases h : (".html" : Text).toList <:+ artifact.name.toList
  · rw [fileText, if_pos h, kind, kindOf_of_html h]
    exact shows_frame _ _
  · have hkind : artifact.kind ≠ .embedded := by
      unfold kind kindOf
      split
      next => exact ArtifactKind.noConfusion
      next => rw [if_neg fun he => h ((hasEnding_iff _ _).1 he)]; exact ArtifactKind.noConfusion
    rw [fileText, if_neg h]
    cases hk : artifact.kind with
    | code => exact ((shows_ofText _).element .code).element .codeBlock
    | embedded => exact absurd hk hkind
    | text => exact (shows_ofText _).element .textBlock

/-- The text of a tuple is that of the artifact it carries. -/
theorem Val.text_tuple (name : Text) (args : Members Val) :
    Val.text (.tuple name args) = (Artifact.ofVal? (.tuple name args)).elim []
      fun artifact => fileText artifact.name artifact.contents := by
  cases ha : Artifact.ofVal? (.tuple name args) with
  | some artifact =>
    obtain ⟨_, ht, hn, hc⟩ := Artifact.ofVal?_eq_some_iff.1 ha
    cases ht
    simp only [Val.text, if_true, hn, hc, Option.elim_some]
  | none =>
    rw [Val.text]
    split
    next hname =>
      split
      next n c hn hc =>
        have h : Artifact.ofVal? (.tuple name args) = some ⟨n, c⟩ :=
          Artifact.ofVal?_eq_some_iff.2 ⟨args, congrArg (Val.tuple · args) hname, hn, hc⟩
        rw [ha] at h
        cases h
      next => rfl
    next => rfl

theorem Val.fragment_shows (value : Val) : value.fragment.value.Shows value.text := by
  cases value with
  | tuple name args =>
    rw [Val.text_tuple, Val.fragment]
    cases Artifact.ofVal? (.tuple name args) with
    | none => exact shows_nil
    | some artifact => exact artifact.fragment_shows
  | str s => exact (shows_ofText s).element .textBlock
  | int n =>
    rw [Val.text, Json.ofString_toString_int]
    exact (shows_text _).element .textBlock
  | float x => exact (shows_text _).element .textBlock
  | unknown tag raw => exact shows_nil

mutual

theorem Decl.fragment_shows : (decl : Decl) →
    (decl.fragment display).value.Shows (decl.text display)
  | .mk obj guard subs body => by
    have ho := obj.fragment_shows display.metas display.details
    have hg := guard.fragment_shows display
    have hs := SubStatement.fragments_show subs
    have hbelow : Shows (if subs.isEmpty then [] else
        [.element .indented (SubStatement.fragments display subs).value])
        (SubStatement.text display subs) := by
      cases subs with
      | nil => exact shows_nil
      | cons sub rest => exact hs.element .indented
    cases body with
    | none => exact (((ho.append hg).append shows_nil).append hbelow).element .decl
    | some body =>
      have hb := (body.fragment_shows display).text_cons " = "
      exact (((ho.append hg).append hb).append hbelow).element .decl

theorem SubStatement.fragments_show : (subs : List SubStatement) →
    (SubStatement.fragments display subs).value.Shows (SubStatement.text display subs)
  | [] => shows_nil
  | .decl d :: rest => d.fragment_shows.append (SubStatement.fragments_show rest)
  | .annot expr :: rest =>
    ((expr.fragment_shows display).element .annot).append (SubStatement.fragments_show rest)
  | .unknown _ _ :: rest => SubStatement.fragments_show rest

end

theorem annotFragment_shows (expr : Expr) :
    (annotFragment display expr).value.Shows
      (Expr.text display expr ++ printedText display expr) := by
  have he := expr.fragment_shows display
  have hshown (kind : Element) (hp : printedText display expr = []) :
      Shows [.element kind (expr.fragment display).value]
        (Expr.text display expr ++ printedText display expr) := by
    rw [hp, List.append_nil]
    exact he.element kind
  cases hl : display.index.lookup expr.headPosition with
  | none =>
    rw [annotFragment_missing hl]
    exact hshown .missingAnnot (by simp only [printedText, hl])
  | some value =>
    by_cases hv : ∀ args, value ≠ .tuple printAnnotation args
    · rw [annotFragment_other hl hv]
      refine hshown .annot ?_
      cases value with
      | tuple name args =>
        have hn : name ≠ printAnnotation := fun h => hv args (h ▸ rfl)
        simp only [printedText, hl, if_neg hn]
      | _ => simp only [printedText, hl]
    · simp only [not_forall, not_not] at hv
      obtain ⟨args, rfl⟩ := hv
      cases hp : Members.get? printedArg args with
      | none =>
        rw [annotFragment_nothingPrinted hl hp]
        exact hshown .annot (by simp [printedText, hl, hp])
      | some printed =>
        have ht : printedText display expr = printed.text := by simp [printedText, hl, hp]
        rw [annotFragment_printed hl hp, ht]
        exact (he.append (shows_lineBreak.append printed.fragment_shows)).element .annot

theorem optionSpans_show (types : List Ty) :
    List.Forall₂ Shows (optionSpans types).value (types.map Ty.text) := by
  induction types with
  | nil => exact .nil
  | cons type rest ih => exact .cons (type.fragment_shows.element .span) ih

theorem typeVarsFragment_shows (vars : Members Ty) :
    (typeVarsFragment vars).value.Shows (typeVarsText vars) :=
  enclosed_shows "<" ">" (Ty.entryFragments_show vars)

theorem Statement.fragment_shows {statement : Statement}
    (h : ∀ text, statement ≠ .comment text) :
    (statement.fragment display).value.Shows (statement.text display) := by
  cases statement with
  | decl d => exact d.fragment_shows display
  | multiTypeDef name vars options =>
    have hv := ((typeVarsFragment_shows vars).text_cons name).text_cons "class "
    have ho := (shows_join " | " (optionSpans_show options)).text_cons " = "
    exact (hv.append ho).element .statement
  | typeDef type => exact (type.fragment_shows.text_cons "data ").element .statement
  | classInstance typeName vars className =>
    have hv := ((typeVarsFragment_shows vars).text_cons typeName).text_cons "instance "
    have hc := (shows_text className).text_cons " of "
    exact (hv.append hc).element .statement
  | classDecl name vars =>
    exact (((typeVarsFragment_shows vars).text_cons name).text_cons "class ").element .statement
  | globalAnnot expr => exact annotFragment_shows display expr
  | comment text => exact absurd rfl (h text)
  | unknown tag raw => exact shows_nil

end

end WebDocs
