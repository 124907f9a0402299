import WebDocs.Proofs.Dump.Place

namespace WebDocs

open Json (Context)

variable {α β γ : Type}

theorem toOption_map {ε : Type} (f : α → β) (x : Except ε α) :
    (f <$> x).toOption = x.toOption.map f := by
  cases x with
  | error e => rfl
  | ok a => rfl

/-- For every value the first reading fails, or it is the second one inside a fixed tree. -/
def Follows (outer : Json → Except ShapeError β) (inner : Json → Except ShapeError α) : Prop :=
  (∀ value, (outer value).toOption = none) ∨ ∃ tree : α → β, Surrounds tree ∧
    ∀ value, (outer value).toOption = (inner value).toOption.map tree

namespace Follows

variable {inner : Json → Except ShapeError α}

theorem wraps {outer : Json → Except ShapeError β} {tree : α → β} (ht : Surrounds tree)
    (h : ∀ value, outer value = tree <$> inner value) : Follows outer inner :=
  .inr ⟨tree, ht, fun value => by rw [h, toOption_map]⟩

/-- What stands beside the hole is read before. -/
theorem behind {outer : γ → Json → Except ShapeError β} (x : Except ShapeError γ)
    (h : ∀ c, Follows (outer c) inner) : Follows (fun value => x >>= (outer · value)) inner := by
  cases x with
  | error e => exact .inl fun _ => rfl
  | ok c => exact h c

/-- What stands beside the hole is read after. -/
theorem before {outer : Json → Except ShapeError β} (x : Except ShapeError γ) {tree : γ → α → β}
    (ht : ∀ c, Surrounds (tree c))
    (h : ∀ value, outer value = inner value >>= fun a => x >>= fun c => pure (tree c a)) :
    Follows outer inner := by
  cases x with
  | error e =>
    refine .inl fun value => ?_
    rw [h]
    cases inner value with
    | error e => rfl
    | ok a => rfl
  | ok c =>
    refine wraps (ht c) fun value => ?_
    rw [h]
    cases inner value with
    | error e => rfl
    | ok a => rfl

end Follows

theorem mapM_middle {ε : Type} (f : α → Except ε β) (before : List α) (a : α) (after : List α) :
    (before ++ a :: after).mapM f = before.mapM f >>= fun bs => f a >>= fun b =>
      after.mapM f >>= fun cs => pure (bs ++ b :: cs) := by
  rw [List.mapM_append, List.mapM_cons]
  simp

theorem Follows.middle {f : γ → Except ShapeError β} {p : Json → γ}
    {inner : Json → Except ShapeError α} {tree : α → β}
    (ht : ∀ bs cs : List β, Surrounds fun a => bs ++ tree a :: cs)
    (h : ∀ value, f (p value) = tree <$> inner value) (before after : List γ) :
    Follows (fun value => (before ++ p value :: after).mapM f) inner := by
  simp only [mapM_middle]
  refine behind _ fun bs => ?_
  refine .before (after.mapM f) (ht bs) fun value => ?_
  rw [h]
  cases inner value with
  | error e => rfl
  | ok a => rfl

namespace Members

theorem put_middle (key : Text) (members : Members α) :
    ∃ before after : Members α, ∀ value, members.put key value = before ++ (key, value) :: after := by
  induction members with
  | nil => exact ⟨[], [], fun _ => rfl⟩
  | cons first rest ih =>
    obtain ⟨k, v⟩ := first
    by_cases hk : k = key
    · exact ⟨[], rest, fun value => by rw [put, if_pos hk, hk, List.nil_append]⟩
    · obtain ⟨before, after, h⟩ := ih
      exact ⟨(k, v) :: before, after, fun value => by
        rw [put, if_neg hk, h, List.cons_append]⟩

theorem put_of_ne {key other : Text} (h : other ≠ key) (x : α) (before after : Members α) :
    ∃ before' after' : Members α, ∀ value,
      (before ++ (key, value) :: after : Members α).put other x =
        before' ++ (key, value) :: after' := by
  induction before with
  | nil => exact ⟨[], after.put other x, fun value => by
      rw [List.nil_append, put, if_neg h.symm, List.nil_append]⟩
  | cons first rest ih =>
    obtain ⟨k, v⟩ := first
    by_cases hk : k = other
    · exact ⟨(k, x) :: rest, after, fun value => by
        rw [List.cons_append, put, if_pos hk, List.cons_append]⟩
    · obtain ⟨before', after', h⟩ := ih
      exact ⟨(k, v) :: before', after', fun value => by
        rw [List.cons_append, put, if_neg hk, h, List.cons_append]⟩

/-- The value of a pair without a later pair of the same name has one place in the map. -/
theorem ofPairs_middle {key : Text} {after : List (Text × α)} (before : List (Text × α))
    (h : ∀ x, (key, x) ∉ after) :
    ∃ before' after' : Members α, ∀ value,
      ofPairs (before ++ (key, value) :: after) = before' ++ (key, value) :: after' := by
  have hfold : ∀ found behind : Members α, ∃ before' after' : Members α, ∀ value,
      after.foldl (fun found pair => put pair.1 pair.2 found)
        (found ++ (key, value) :: behind) = before' ++ (key, value) :: after' := by
    induction after with
    | nil => exact fun found behind => ⟨found, behind, fun _ => rfl⟩
    | cons pair rest ih =>
      intro found behind
      have hne : pair.1 ≠ key := fun hk => h pair.2 (hk ▸ List.mem_cons_self)
      obtain ⟨found', behind', hp⟩ := put_of_ne hne pair.2 found behind
      obtain ⟨before', after', hf⟩ :=
        ih (fun x hx => h x (List.mem_cons_of_mem _ hx)) found' behind'
      exact ⟨before', after', fun value => by rw [List.foldl_cons, hp, hf]⟩
  obtain ⟨found, behind, hp⟩ := put_middle key (ofPairs before)
  obtain ⟨before', after', hf⟩ := hfold found behind
  refine ⟨before', after', fun value => ?_⟩
  rw [ofPairs, List.foldl_append, List.foldl_cons]
  change after.foldl _ ((ofPairs before).put key value) = _
  rw [hp]
  exact hf value

end Members

theorem eachOf_total (f : Json → α) (raw : Json) :
    eachOf (total f) raw = List.map f <$> raw.elements := by
  cases h : raw.elements with
  | error e => rw [eachOf, h]; rfl
  | ok items => rw [eachOf, h]; exact List.mapM_pure

theorem eachOfOrNone_total (f : Json → α) (raw : Json) :
    eachOfOrNone (total f) raw = List.map f <$> raw.elementsOrNone := by
  cases h : raw.elementsOrNone with
  | error e => rw [eachOfOrNone, h]; rfl
  | ok items => rw [eachOfOrNone, h]; exact List.mapM_pure

theorem eachOf_headOf (f : Json → α) (raw : Json) :
    eachOf (headOf (total f)) raw =
      raw.elements >>= fun items => List.map f <$> items.mapM (Json.item 0) := by
  unfold eachOf
  congr 1
  funext items
  induction items with
  | nil => rfl
  | cons item rest ih =>
    simp only [List.mapM_cons, ih, headOf]
    cases item.item 0 with
    | error e => rfl
    | ok head =>
      cases rest.mapM (Json.item 0) with
      | error e => rfl
      | ok heads => rfl

theorem membersOf_total (f : Json → α) (raw : Json) :
    membersOf (total f) raw = Members.mapValues f <$> raw.mapping := by
  cases h : raw.mapping with
  | error e => rw [membersOf, h]; rfl
  | ok members => rw [membersOf, h]; exact List.mapM_pure

namespace Follows

section

variable {read : Json → Except ShapeError α}

theorem element (before after : List Json) :
    Follows (fun value => eachOf read (.arr (before ++ value :: after))) read :=
  .middle .element (fun value => (id_map (read value)).symm) before after

theorem elementOrNone (before after : List Json) :
    Follows (fun value => eachOfOrNone read (.arr (before ++ value :: after))) read := by
  have h : ∀ value, eachOfOrNone read (.arr (before ++ value :: after)) =
      eachOf read (.arr (before ++ value :: after)) := by
    intro value
    have he : (Json.arr (before ++ value :: after)).isEmpty = false := by cases before <;> rfl
    rw [eachOfOrNone, Json.elementsOrNone, he]
    rfl
  simp only [h]
  exact element before after

theorem member (before : Members Json) (key : Text) (after : Members Json) :
    Follows (fun value => membersOf read (.obj (before ++ (key, value) :: after))) read :=
  .middle (f := memberBy read) (p := (key, ·)) (.member · key) (fun _ => rfl) before after

theorem pair {key : Json} {name : Text} {after : List Json} (before : List Json)
    (hk : key.name = .ok name) (hl : ∀ pair ∈ after, ∀ value, pair.entry ≠ .ok (name, value)) :
    Follows (fun value => membersOf read (.arr (before ++ .arr [key, value] :: after))) read := by
  have hentry : ∀ value, Json.entry (.arr [key, value]) = .ok (name, value) := by
    intro value
    change (key.name >>= fun name => pure (name, value)) = _
    rw [hk]
    rfl
  have hread : ∀ value, membersOf read (.arr (before ++ .arr [key, value] :: after)) =
      before.mapM Json.entry >>= fun bs => after.mapM Json.entry >>= fun cs =>
        (Members.ofPairs (bs ++ (name, value) :: cs)).mapM (memberBy read) := by
    intro value
    change ((before ++ .arr [key, value] :: after).mapM Json.entry >>= fun pairs =>
      pure (Members.ofPairs pairs)) >>= _ = _
    rw [mapM_middle, hentry]
    simp only [bind_assoc, pure_bind]
    rfl
  simp only [hread]
  refine .behind _ fun bs => ?_
  cases hcs : after.mapM Json.entry with
  | error e => exact .inl fun _ => rfl
  | ok cs =>
    have hlast : ∀ x, (name, x) ∉ cs := by
      intro x hx
      obtain ⟨pair, hp, he⟩ := mem_of_mapM hcs hx
      exact hl pair hp x he
    obtain ⟨before', after', hm⟩ := Members.ofPairs_middle bs hlast
    change Follows (fun value =>
      (Members.ofPairs (bs ++ (name, value) :: cs)).mapM (memberBy read)) read
    simp only [hm]
    exact .middle (f := memberBy read) (p := (name, ·)) (.member · name) (fun _ => rfl)
      before' after'

theorem head (after : List Json) :
    Follows (fun value => headOf read (.arr (value :: after))) read :=
  .wraps .whole fun value => (id_map (read value)).symm

end

theorem sum :
    Follows (Ty.build Ty.decode .sum) (eachOf (Ty.decodePartial Ty.decode)) :=
  .wraps .sum fun _ => by simp only [Ty.build, eachOf, map_bind, bind_pure_comp]

theorem options (name : Json) :
    Follows (fun value => Ty.decodePartial Ty.decode (.arr [name, value]))
      (eachOf (Ty.decodeOption Ty.decode)) :=
  .before name.name .options fun value => by
    rw [eachOf, bind_assoc]
    rfl

theorem optionVars (x args : Json) :
    Follows (fun value => Ty.decodeOption Ty.decode (.arr [value, x, args]))
      (membersOf (total Ty.decode)) :=
  .before args.mapping (fun args => .optionVars (args.mapValues Ty.decode)) fun value => by
    rw [membersOf_total, bind_map_left]
    rfl

theorem optionArgs (vars x : Json) :
    Follows (fun value => Ty.decodeOption Ty.decode (.arr [vars, x, value]))
      (membersOf (total Ty.decode)) := by
  refine .behind vars.mapping fun vars => ?_
  refine .wraps (.optionArgs (vars.mapValues Ty.decode)) fun value => ?_
  rw [membersOf_total, Functor.map_map]
  rfl

theorem info (after : List Json) :
    Follows (fun value => total Meta.decode (.arr (value :: after))) (total Ty.decode) := by
  cases after with
  | nil => exact .wraps (.info .null) fun _ => rfl
  | cons position rest => exact .wraps (.info position) fun _ => rfl

theorem objInfo (basis name vars args : Json) :
    Follows (fun value => Obj.decode (.arr [value, basis, name, vars, args]))
      (total Meta.decode) := by
  refine .behind name.name fun name => ?_
  refine .behind vars.mapping fun vars => ?_
  refine .behind args.mapping fun pairs => ?_
  refine .behind (pairs.mapM Obj.decodeArg) fun args => ?_
  exact .wraps (.objInfo basis.plainText name (vars.mapValues Meta.decode) args) fun _ => rfl

theorem objVars (info basis name args : Json) :
    Follows (fun value => Obj.decode (.arr [info, basis, name, value, args]))
      (membersOf (total Meta.decode)) := by
  refine .behind name.name fun name => ?_
  refine .before (args.mapping >>= (·.mapM Obj.decodeArg))
    (fun args => .objVars (Meta.decode info) basis.plainText name args) fun value => ?_
  rw [membersOf_total, bind_map_left]
  simp only [bind_assoc]

theorem objArgs (info basis name vars : Json) :
    Follows (fun value => Obj.decode (.arr [info, basis, name, vars, value]))
      (membersOf (headOf (total Meta.decode))) := by
  have harg : Obj.decodeArg = memberBy (headOf (total Meta.decode)) := by
    funext entry
    unfold Obj.decodeArg memberBy headOf
    cases entry.2.item 0 with
    | error e => rfl
    | ok info => rfl
  refine .behind name.name fun name => ?_
  refine .behind vars.mapping fun vars => ?_
  refine .wraps (.objArgs (Meta.decode info) basis.plainText name (vars.mapValues Meta.decode))
    fun value => ?_
  rw [membersOf, ← harg, map_bind]
  simp only [bind_pure_comp]

theorem named (name : Json) :
    Follows (fun value => Arg.build Expr.decode .named (.arr [name, value]))
      (total Expr.decode) :=
  .behind name.name fun name => .wraps (.named name) fun _ => rfl

theorem armObj (guard : Json) :
    Follows (fun value => Arm.decodeBy Expr.decode (.arr [value, guard])) Obj.decode :=
  .wraps (.armObj (Guard.decode guard)) fun value => by
    rw [← bind_pure_comp]
    rfl

theorem armGuard (obj : Json) :
    Follows (fun value => Arm.decodeBy Expr.decode (.arr [obj, value])) (total Guard.decode) :=
  .behind (Obj.decode obj) fun obj => .wraps (.armGuard obj) fun _ => rfl

theorem constantInfo (after : List Json) :
    Follows (fun value => Expr.build Expr.decode .constant (.arr (value :: after)))
      (total Meta.decode) := by
  cases after with
  | nil => exact .inl fun _ => rfl
  | cons value rest =>
    exact .behind value.constant fun value => .wraps (.constantInfo value) fun _ => rfl

theorem nameInfo (after : List Json) :
    Follows (fun value => Expr.build Expr.decode .name (.arr (value :: after)))
      (total Meta.decode) := by
  cases after with
  | nil => exact .inl fun _ => rfl
  | cons name rest =>
    exact .behind name.name fun name => .wraps (.nameInfo name) fun _ => rfl

theorem applyInfo (based args : Json) :
    Follows (fun value => Expr.build Expr.decode .apply (.arr [value, based, args]))
      (total Meta.decode) := by
  refine .behind based.unpack2 fun (_, base) => ?_
  refine .behind args.elements fun args => ?_
  exact .wraps (.applyInfo (Expr.decode base) (args.map Arg.decode)) fun _ => rfl

theorem applyBase (info x args : Json) :
    Follows (fun value => Expr.build Expr.decode .apply (.arr [info, .arr [x, value], args]))
      (total Expr.decode) := by
  refine .behind args.elements fun args => ?_
  exact .wraps (.applyBase (Meta.decode info) (args.map Arg.decode)) fun _ => rfl

theorem applyArgs (info based : Json) :
    Follows (fun value => Expr.build Expr.decode .apply (.arr [info, based, value]))
      (eachOf (total Arg.decode)) := by
  refine .behind based.unpack2 fun (_, base) => ?_
  refine .wraps (.applyArgs (Meta.decode info) (Expr.decode base)) fun value => ?_
  rw [eachOf_total, Functor.map_map, ← bind_pure_comp]
  rfl

theorem methodsBase (calls : Json) :
    Follows (fun value => Expr.build Expr.decode .methods (.arr [value, calls]))
      (total Expr.decode) := by
  refine .behind calls.elements fun calls => ?_
  exact .wraps (.methodsBase (calls.map Expr.decode)) fun _ => rfl

theorem methodsCalls (base : Json) :
    Follows (fun value => Expr.build Expr.decode .methods (.arr [base, value]))
      (eachOf (total Expr.decode)) := by
  refine .wraps (.methodsCalls (Expr.decode base)) fun value => ?_
  rw [eachOf_total, Functor.map_map, ← bind_pure_comp]
  rfl

theorem branchInfo (kind : Branching) (subject arms : Json) :
    Follows (fun value => Expr.build Expr.decode (.branch kind) (.arr [value, subject, arms]))
      (total Meta.decode) := by
  refine .behind arms.elements fun items => ?_
  refine .behind (items.mapM (Arm.decodeBy Expr.decode)) fun arms => ?_
  exact .wraps (.branchInfo kind (Expr.decode subject) arms) fun _ => rfl

theorem branchSubject (kind : Branching) (info arms : Json) :
    Follows (fun value => Expr.build Expr.decode (.branch kind) (.arr [info, value, arms]))
      (total Expr.decode) := by
  refine .behind arms.elements fun items => ?_
  refine .behind (items.mapM (Arm.decodeBy Expr.decode)) fun arms => ?_
  exact .wraps (.branchSubject kind (Meta.decode info) arms) fun _ => rfl

theorem branchArms (kind : Branching) (info subject : Json) :
    Follows (fun value => Expr.build Expr.decode (.branch kind) (.arr [info, subject, value]))
      (eachOf (Arm.decodeBy Expr.decode)) :=
  .wraps (.branchArms kind (Meta.decode info) (Expr.decode subject)) fun value => by
    rw [eachOf, map_bind]
    simp only [← bind_pure_comp]
    rfl

/-- What the head of a declaration is taken apart into. -/
def declHead (head : Json) : Except ShapeError (Obj × Guard) := do
  let (_, objAndGuard) ← head.unpack2
  let (obj, guard) ← objAndGuard.unpack2
  return (← Obj.decode obj, Guard.decode guard)

theorem declHead_pair (x obj guard : Json) :
    declHead (.arr [x, .arr [obj, guard]]) = (·, Guard.decode guard) <$> Obj.decode obj := by
  rw [← bind_pure_comp]
  rfl

/-- What the rest of a declaration is taken apart into. -/
def declRest (subs body : Json) : Except ShapeError (List SubStatement × Option Expr) := do
  return (← eachOfOrNone (total SubStatement.decode) subs, ← bodyOf body)

theorem decodeDecl_eq (head subs body : Json) :
    Decl.decode (.arr [head, subs, body]) =
      declHead head >>= fun head => declRest subs body >>= fun rest =>
        pure (.mk head.1 head.2 rest.1 rest.2) := by
  unfold Decl.decode Decl.decodeBy declHead declRest
  rw [eachOfOrNone_total]
  simp only [bind_assoc, pure_bind, bind_map_left]
  cases body <;> rfl

theorem declObj (x guard subs body : Json) :
    Follows (fun value => Decl.decode (.arr [.arr [x, .arr [value, guard]], subs, body]))
      Obj.decode :=
  .before (declRest subs body) (fun rest => .declObj (Guard.decode guard) rest.1 rest.2)
    fun value => by
      rw [decodeDecl_eq, declHead_pair, bind_map_left]

theorem declGuard (x obj subs body : Json) :
    Follows (fun value => Decl.decode (.arr [.arr [x, .arr [obj, value]], subs, body]))
      (total Guard.decode) := by
  simp only [decodeDecl_eq, declHead_pair, bind_map_left]
  refine .behind (Obj.decode obj) fun obj => ?_
  refine .behind (declRest subs body) fun rest => ?_
  exact .wraps (.declGuard obj rest.1 rest.2) fun _ => rfl

theorem declSubs (head body : Json) :
    Follows (fun value => Decl.decode (.arr [head, value, body]))
      (eachOfOrNone (total SubStatement.decode)) := by
  simp only [decodeDecl_eq]
  refine .behind (declHead head) fun (obj, guard) => ?_
  refine .before (bodyOf body) (.declSubs obj guard) fun value => ?_
  rw [declRest]
  simp only [bind_assoc, pure_bind]

theorem declBody (head subs : Json) :
    Follows (fun value => Decl.decode (.arr [head, subs, value])) bodyOf := by
  simp only [decodeDecl_eq]
  refine .behind (declHead head) fun (obj, guard) => ?_
  simp only [declRest, bind_assoc, pure_bind]
  refine .behind (eachOfOrNone (total SubStatement.decode) subs) fun subs => ?_
  exact .wraps (.declBody obj guard subs) fun value => bind_pure_comp ..

theorem subDecl :
    Follows (SubStatement.build SubStatement.decode .decl) Decl.decode :=
  .wraps .subDecl fun _ => by rw [← bind_pure_comp]; rfl

theorem decl : Follows (Statement.build .decl) Decl.decode :=
  .wraps .decl fun _ => by rw [← bind_pure_comp]; rfl

theorem multiVars (name options : Json) :
    Follows (fun value => Statement.build .multiTypeDef (.arr [name, value, options]))
      (membersOf (total Ty.decode)) := by
  refine .behind options.elements fun items => ?_
  refine .behind (items.mapM (Json.item 0)) fun heads => ?_
  refine .behind name.name fun name => ?_
  refine .wraps (.multiVars name (heads.map Ty.decode)) fun value => ?_
  rw [membersOf_total, ← bind_pure_comp, bind_map_left]
  exact bind_assoc ..

theorem multiOptions (name vars : Json) :
    Follows (fun value => Statement.build .multiTypeDef (.arr [name, vars, value]))
      (eachOf (headOf (total Ty.decode))) := by
  refine .before (do return (← name.name, ← Statement.typeVars vars))
    (fun head => .multiOptions head.1 head.2) fun value => ?_
  rw [eachOf_headOf]
  change (value.elements >>= fun items => items.mapM (Json.item 0) >>= fun heads =>
    name.name >>= fun name => Statement.typeVars vars >>= fun vars =>
      pure (Statement.multiTypeDef name vars (heads.map Ty.decode))) = _
  simp only [bind_assoc, pure_bind, bind_map_left]

theorem typeDef (after : List Json) :
    Follows (fun value => Statement.build .typeDef (.arr (value :: after))) (total Ty.decode) :=
  .wraps .typeDef fun _ => rfl

theorem instanceVars (name className : Json) :
    Follows (fun value => Statement.build .classInstance (.arr [.arr [name, value], className]))
      (membersOf (total Ty.decode)) := by
  refine .behind name.name fun name => ?_
  refine .before className.name (.instanceVars name) fun value => ?_
  rw [membersOf_total, bind_map_left]
  exact bind_assoc ..

theorem classVars (name : Json) :
    Follows (fun value => Statement.build .classDecl (.arr [name, value]))
      (membersOf (total Ty.decode)) := by
  refine .behind name.name fun name => ?_
  refine .wraps (.classVars name) fun value => ?_
  rw [membersOf_total, ← bind_pure_comp, bind_map_left]
  exact bind_assoc ..

end Follows
end WebDocs
