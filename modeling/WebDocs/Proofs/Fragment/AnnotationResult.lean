import WebDocs.Fragment.Node

namespace WebDocs

variable {display : Display} {expr : Expr}

theorem annotFragment_missing (h : display.index.lookup expr.headPosition = none) :
    annotFragment display expr =
      ⟨[.element .missingAnnot (expr.fragment display).value],
        (expr.fragment display).log ++ [.missingResult expr.headPosition]⟩ := by
  simp only [annotFragment, h]
  rfl

theorem annotFragment_printed {args : List (Text × Val)} {printed : Val}
    (h : display.index.lookup expr.headPosition = some (.tuple printAnnotation args))
    (hp : Members.get? printedArg args = some printed) :
    annotFragment display expr =
      ⟨[.element .annot ((expr.fragment display).value ++ .lineBreak :: printed.fragment.value)],
        (expr.fragment display).log ++ printed.fragment.log⟩ := by
  simp only [annotFragment, h, if_true, hp]
  show Logged.mk _ (_ ++ (_ ++ [])) = _
  rw [List.append_nil]
  rfl

theorem annotFragment_nothingPrinted {args : List (Text × Val)}
    (h : display.index.lookup expr.headPosition = some (.tuple printAnnotation args))
    (hp : Members.get? printedArg args = none) :
    annotFragment display expr =
      ⟨[.element .annot (expr.fragment display).value],
        (expr.fragment display).log ++ [.nothingPrinted expr.headPosition]⟩ := by
  simp only [annotFragment, h, if_true, hp]
  rfl

theorem annotFragment_other {value : Val}
    (h : display.index.lookup expr.headPosition = some value)
    (hv : ∀ args, value ≠ .tuple printAnnotation args) :
    annotFragment display expr =
      ⟨[.element .annot (expr.fragment display).value], (expr.fragment display).log⟩ := by
  have hlog (shown : Fragment) (log : List Notice) : Logged.mk shown (log ++ []) = ⟨shown, log⟩ := by
    rw [List.append_nil]
  simp only [annotFragment, h]
  cases value with
  | tuple name args =>
    have hn : name ≠ printAnnotation := by
      rintro rfl
      exact hv args rfl
    simp only [if_neg hn]
    exact hlog _ _
  | _ => exact hlog _ _

end WebDocs
