import WebDocs.Proofs.Dump.Document
import WebDocs.Proofs.Dump.Recorded
import WebDocs.Proofs.Fragment.AnnotationResult

namespace WebDocs

theorem Document.rooted {payload : Json} {document : Document}
    (h : Document.decode payload = .ok document) : Rooted document.annotations := by
  obtain ⟨_, entries, _, _, _, hentries⟩ := decode_eq_ok_iff.1 h
  intro entry he
  obtain ⟨i, hi⟩ := List.mem_iff_getElem?.1 he
  obtain ⟨raw, _, _, _, _, _, hp, _⟩ := getElem?_of_forall₂ hentries.flip hi
  exact hp

/-- How the annotation of an expression is shown with the value that is recorded for it. -/
inductive ShownWith (display : Display) (expr : Expr) : Option Val → Logged Fragment → Prop
  | missing : ShownWith display expr none
      ⟨[.element .missingAnnot (expr.fragment display).value],
        (expr.fragment display).log ++ [.missingResult expr.headPosition]⟩
  | printed {args : List (Text × Val)} {value : Val}
      (hp : Members.get? printedArg args = some value) :
      ShownWith display expr (some (.tuple printAnnotation args))
        ⟨[.element .annot ((expr.fragment display).value ++ .lineBreak :: value.fragment.value)],
          (expr.fragment display).log ++ value.fragment.log⟩
  | nothingPrinted {args : List (Text × Val)} (hp : Members.get? printedArg args = none) :
      ShownWith display expr (some (.tuple printAnnotation args))
        ⟨[.element .annot (expr.fragment display).value],
          (expr.fragment display).log ++ [.nothingPrinted expr.headPosition]⟩
  | other {value : Val} (hv : ∀ args, value ≠ .tuple printAnnotation args) :
      ShownWith display expr (some value)
        ⟨[.element .annot (expr.fragment display).value], (expr.fragment display).log⟩

theorem shownWith_annotFragment (display : Display) (expr : Expr) :
    ShownWith display expr (display.index.lookup expr.headPosition)
      (annotFragment display expr) := by
  cases h : display.index.lookup expr.headPosition with
  | none => exact annotFragment_missing h ▸ .missing
  | some value =>
    by_cases hv : ∃ args, value = .tuple printAnnotation args
    · obtain ⟨args, rfl⟩ := hv
      cases hp : Members.get? printedArg args with
      | none => exact annotFragment_nothingPrinted h hp ▸ .nothingPrinted hp
      | some printed => exact annotFragment_printed h hp ▸ .printed hp
    · have hv' : ∀ args, value ≠ .tuple printAnnotation args := fun args he => hv ⟨args, he⟩
      exact annotFragment_other h hv' ▸ .other hv'

/-- In a document that was read, the annotations are the entries of the payload in order, each with
its expression and its value. An annotation of a page is shown with the value that is found for its
expression, which is that of the last entry that is rooted where the expression is, unless a position
splits a pair into its halves. It is shown as missing if there is no such entry, as for an expression
without a position. Brackets and method calls around the expression, or around the expressions of the
entries, leave the choice as it is. -/
theorem annotation_joins_last {payload : Json} {document : Document} {display : Display}
    (h : Document.decode payload = .ok document)
    (hd : display.index = PositionIndex.ofAnnotations document.annotations) :
    (∃ pages entries, payload = .arr [.arr pages, .arr entries] ∧
      List.Forall₂ (fun raw entry => ∃ expr value, raw.unpack2 = .ok (expr, value) ∧
        entry.expr = Expr.decode expr ∧ Val.decode value = .ok entry.value)
        entries document.annotations) ∧
    (∀ expr : Expr,
      ShownWith display expr (display.index.lookup expr.headPosition)
        (Statement.fragment display (.globalAnnot expr)) ∧
      (UnsplitPositions document.annotations → expr.headPosition.Unsplit →
        (∀ entry ∈ document.annotations, ¬entry.At expr.headPosition) ∧
            ShownWith display expr none (Statement.fragment display (.globalAnnot expr)) ∨
          ∃ i entry, LastAt document.annotations expr.headPosition i entry ∧
            ShownWith display expr (some entry.value)
              (Statement.fragment display (.globalAnnot expr))) ∧
      (expr.headPosition = .null →
        (∀ entry ∈ document.annotations, ¬entry.At expr.headPosition) ∧
          ShownWith display expr none (Statement.fragment display (.globalAnnot expr)))) ∧
    ∀ (inner expr : Expr) (others : List Annot) (i : Nat), inner.Wraps expr →
      List.Forall₂ (fun entry other => entry.expr.Wraps other.expr) document.annotations others →
      ((∃ other, LastAt others expr.headPosition i other) ↔
        ∃ entry, LastAt document.annotations inner.headPosition i entry) := by
  have hr := Document.rooted h
  refine ⟨?_, fun expr => ?_, fun inner expr others i hw hall => lastAt_wraps_iff i hw hall⟩
  · obtain ⟨pages, entries, hpayload, _, _, hentries⟩ := Document.decode_eq_ok_iff.1 h
    refine ⟨pages, entries, hpayload, hentries.imp fun raw entry hraw => ?_⟩
    obtain ⟨rawExpr, rawValue, hu, he, _, hv⟩ := hraw
    exact ⟨rawExpr, rawValue, hu, he, hv⟩
  · have hshown := shownWith_annotFragment display expr
    refine ⟨hshown, fun hu hp => ?_, fun hnull => ⟨fun _ _ hat => hat.ne_null hnull, ?_⟩⟩
    · obtain hnone | ⟨i, entry, hlast⟩ := exists_lastAt
      · rw [hd, PositionIndex.lookup_eq_none hr hu hp hnone] at hshown
        exact .inl ⟨hnone, hshown⟩
      · rw [hd, PositionIndex.lookup_of_lastAt hr hu hp hlast] at hshown
        exact .inr ⟨i, entry, hlast, hshown⟩
    · rw [hnull] at hshown
      exact hshown

namespace Joined

/-- A name at a position. -/
def nameAt (position : Json) : Json :=
  .obj [("tag", .str "Value"), ("contents", .arr [.arr [.null, position], .str "f"])]

/-- A page with one annotation, and entries. -/
def payloadOf (expr : Json) (entries : List Json) : Json :=
  .arr [
    .arr [.arr [.arr [.null, .arr [.obj [("tag", .str "GlobalAnnot"), ("contents", expr)]]],
      .str "main", .null]],
    .arr entries]

/-- The annotation of the page is in brackets; the members of the position of the last entry are in
another order. -/
def payload : Json :=
  payloadOf
    (.obj [("tag", .str "Paren"), ("contents",
      nameAt (.obj [("line", .int 1), ("column", .int 2)]))])
    [.arr [nameAt (.obj [("line", .int 1), ("column", .int 2)]),
        .obj [("tag", .str "StrVal"), ("contents", .str "first")]],
      .arr [nameAt (.obj [("column", .int 2), ("line", .int 1)]),
        .obj [("tag", .str "TupleVal"), ("name", .str "#print"),
          ("args", .obj [("p", .obj [("tag", .str "StrVal"), ("contents", .str "last")])])]]]

def name (position : Json) : Expr := .name ⟨.unknown none .null, position⟩ "f"

def expr : Expr := .paren (name (.obj [("line", .int 1), ("column", .int 2)]))

def first : Annot where
  position := .obj [("line", .int 1), ("column", .int 2)]
  expr := name (.obj [("line", .int 1), ("column", .int 2)])
  value := .str "first"

def last : Annot where
  position := .obj [("column", .int 2), ("line", .int 1)]
  expr := name (.obj [("column", .int 2), ("line", .int 1)])
  value := .tuple "#print" [("p", .str "last")]

def document : Document := ⟨[⟨"main", [.globalAnnot expr], []⟩], [first, last]⟩

def displayOf (document : Document) : Display :=
  ⟨.ofAnnotations document.annotations, .typed, true, id⟩

theorem decode_payload : Document.decode payload = .ok document := rfl

theorem last_at : last.At expr.headPosition :=
  ⟨Json.noConfusion, (Json.sorted_eq_iff _ _).1 rfl⟩

theorem unsplit_pair (key other : String) (m n : Int) :
    Json.Unsplit (.obj [(key, .int m), (other, .int n)]) := by
  refine .obj (List.forall_mem_cons.2 ⟨Text.unsplit_ofString key, ?_⟩)
    (List.forall_mem_cons.2 ⟨.int m, ?_⟩)
  · exact List.forall_mem_singleton.2 (Text.unsplit_ofString other)
  · exact List.forall_mem_singleton.2 (.int n)

theorem unsplitPositions : UnsplitPositions document.annotations :=
  List.forall_mem_cons.2 ⟨unsplit_pair "line" "column" 1 2,
    List.forall_mem_singleton.2 (unsplit_pair "column" "line" 2 1)⟩

end Joined

/-- The last entry is shown, although the first one has its members in the order of the page. -/
theorem annotation_joins_last_printed :
    Document.decode Joined.payload = .ok Joined.document ∧
      ShownWith (Joined.displayOf Joined.document) Joined.expr
        (some (.tuple "#print" [("p", .str "last")]))
        (Statement.fragment (Joined.displayOf Joined.document) (.globalAnnot Joined.expr)) := by
  refine ⟨Joined.decode_payload, ?_⟩
  have hjoin := ((@annotation_joins_last Joined.payload Joined.document
    (Joined.displayOf Joined.document) Joined.decode_payload rfl).2.1 Joined.expr).2.1
    Joined.unsplitPositions (Joined.unsplit_pair "line" "column" 1 2)
  rcases hjoin with ⟨hnone, -⟩ | ⟨i, entry, ⟨hi, -, hlast⟩, hshown⟩
  · exact absurd Joined.last_at (hnone Joined.last (by simp [Joined.document]))
  · match i with
    | 0 => exact absurd Joined.last_at (hlast 1 Joined.last Nat.zero_lt_one rfl)
    | 1 =>
      cases hi
      exact hshown
    | _ + 2 => cases hi

namespace Joined

/-- The two halves of a pair. -/
def halvesText : Text := ⟨[.surrogate ⟨0, by decide⟩, .surrogate ⟨0x400, by decide⟩]⟩

def halves : Json := .str halvesText

/-- The character of the pair. -/
def pair : Json := .str "𐀀"

theorem halves_ne_pair : ¬Json.Same halves pair := by
  intro h
  have hsorted : halves.sorted = pair.sorted := (Json.sorted_eq_iff _ _).2 h
  exact absurd (congrArg Text.length (Json.str.inj hsorted)) (by decide)

theorem positionKey_halves : positionKey halves = positionKey pair := by decide +kernel

def split : Annot := ⟨halves, name halves, .str "value"⟩

def splitPayload : Json :=
  payloadOf (nameAt pair)
    [.arr [nameAt halves, .obj [("tag", .str "StrVal"), ("contents", .str "value")]]]

def splitDocument : Document := ⟨[⟨"main", [.globalAnnot (name pair)], []⟩], [split]⟩

theorem lookup_pair :
    (displayOf splitDocument).index.lookup (name pair).headPosition = some (.str "value") := by
  have hindex : (displayOf splitDocument).index = ⟨[(positionKey halves, .str "value")]⟩ := rfl
  rw [hindex, positionKey_halves]
  show Members.get? (positionKey pair) [(positionKey pair, Val.str "value")] = _
  exact if_pos rfl

end Joined

/-- The entry at the halves of a pair is not rooted at the character of the pair, but an annotation
there is not shown as missing. -/
theorem annotation_joins_split_pair :
    Document.decode Joined.splitPayload = .ok Joined.splitDocument ∧
      (∀ entry ∈ Joined.splitDocument.annotations, ¬entry.At Joined.pair) ∧
      ¬ShownWith (Joined.displayOf Joined.splitDocument) (Joined.name Joined.pair) none
        (Statement.fragment (Joined.displayOf Joined.splitDocument)
          (.globalAnnot (Joined.name Joined.pair))) := by
  refine ⟨rfl, List.forall_mem_singleton.2 fun hat => Joined.halves_ne_pair hat.2, ?_⟩
  rw [show Statement.fragment _ (.globalAnnot _) = _ from
    annotFragment_other Joined.lookup_pair fun _ => Val.noConfusion]
  nofun

end WebDocs
