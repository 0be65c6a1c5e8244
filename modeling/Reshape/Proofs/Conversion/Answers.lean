import Reshape.Proofs.Conversion.Questions

/-!
# Answers of a custom map

In a conversion that succeeds, an answer of the custom map stands as it is in the place of the
access that it was asked about, and an access without answer becomes what a conversion without
custom map makes of its converted target (`Becomes`). Only a default in the place of an access
around it (`DefaultAround`) leaves neither to be seen. `custom_map_is_final` says so, and that the
custom map is asked once about each access that does not lie strictly inside an answered one,
parents first and from left to right.
-/

namespace Reshape.Conversion

variable {σ : Type} {task : Task σ} {scopes : Scopes} {element : Option String}
  {start finish : State σ} {e e' : Expr} {customMap : CustomMap}

/-- `task.withoutMap` is the task without a custom map. -/
def Task.withoutMap (task : Task σ) : Task σ :=
  { task with options := { task.options with customMap := none } }

/-- `Becomes task customMap scopes access start e' finish` says what becomes of an access that the
custom map is asked about: the answer, with nothing done to it; or, if there is none, what becomes
of it without a custom map, given its converted target. -/
inductive Becomes (task : Task σ) (customMap : CustomMap) (scopes : Scopes)
    (access : MemberAccess) : State σ → Expr → State σ → Prop where
  | answered {start answer} :
      customMap access task.root = some answer →
      Becomes task customMap scopes access start answer
        { start with events := start.events ++ [.asked access task.root true] }
  | unanswered {start target' middle e' finish} :
      customMap access task.root = none →
      Yields (counterpart task scopes none access.target)
        { start with events := start.events ++ [.asked access task.root false] } target' middle →
      Yields (task.withoutMap.resolve scopes access target') middle e' finish →
      Becomes task customMap scopes access start e' finish

/-- `scopesWithin scopes e e'` are the scopes in the direct parts of `e`, whose counterpart is
`e'`. -/
def scopesWithin (scopes : Scopes) : Expr → Expr → Scopes
  | .lambda p _, .lambda p' _ => (p, p') :: scopes
  | _, _ => scopes

/-- `scopesAt scopes e e' path` are the scopes in a place of `e`, whose counterpart is `e'`. -/
def scopesAt (scopes : Scopes) (e e' : Expr) : List Nat → Scopes
  | [] => scopes
  | place :: path =>
    match e.children[place]?, e'.children[place]? with
    | some part, some part' => scopesAt (scopesWithin scopes e e') part part' path
    | _, _ => scopes

/-- `DefaultAround events e e' path` says that an access strictly around a place in `e` became a
default in its counterpart `e'`. -/
def DefaultAround (events : List ConversionEvent) (e e' : Expr) (path : List Nat) : Prop :=
  ∃ outer access name searched, outer <+: path ∧ outer ≠ path ∧ e.accessAt? outer = some access ∧
    .substituted access name searched ∈ events ∧
    e'.part? outer = some (.constant (Value.ofType access.field.type) access.field.type)

/-- `FoundAt task customMap scopes start finish e e' path access` says that in a place of `e'`, the
counterpart of `e`, stands what became of the access there between two states of the conversion. -/
def FoundAt (task : Task σ) (customMap : CustomMap) (scopes : Scopes) (start finish : State σ)
    (e e' : Expr) (path : List Nat) (access : MemberAccess) : Prop :=
  ∃ before node after, before.Extends task.reader start ∧ finish.Extends task.reader after ∧
    e'.part? path = some node ∧
    Becomes task customMap (scopesAt scopes e e' path) access before node after

/-! ## Steps -/

/-- An access becomes the answer of the custom map, or is converted without it. -/
theorem becomes_of_member (hmap : task.options.customMap = some customMap) {target : Expr}
    {field : FieldDescriptor}
    (h : Yields (counterpart task scopes element (.member target field)) start e' finish) :
    Becomes task customMap scopes ⟨target, field⟩ start e' finish := by
  rw [counterpart_member_of_map hmap, yields_bind] at h
  obtain ⟨_, asked, hasked, h⟩ := h
  rw [yields_note] at hasked
  subst hasked
  rw [CustomMap.answers] at h
  split at h
  · rename_i answer hanswer
    obtain ⟨rfl, rfl⟩ := yields_pure.1 h
    rw [hanswer]
    exact .answered hanswer
  · rename_i hnone
    rw [hnone, yields_bind] at h
    obtain ⟨target', middle, htarget, hresolve⟩ := h
    exact .unanswered hnone htarget hresolve

/-- The direct parts of any other expression are converted one by one. -/
theorem forall₂_parts (hown : e.asAccess? = none)
    (h : Yields (counterpart task scopes element e) start e' finish) :
    List.Forall₂ (fun part part' => ∃ element,
        ConvertsWithin task (scopesWithin scopes e e') element start finish part part')
      e.children e'.children := by
  cases e with
  | member => cases hown
  | parameter p =>
      obtain ⟨rfl, _⟩ := counterpart_parameter h
      exact .nil
  | constant value type =>
      obtain ⟨rfl, _⟩ := counterpart_constant h
      exact .nil
  | binary op left right =>
      obtain ⟨left', middle, right', hleft, hright, rfl⟩ := counterpart_binary h
      refine .cons ⟨none, start, middle, .refl _, counterpart_extends hright, hleft⟩ ?_
      exact .cons ⟨none, middle, finish, counterpart_extends hleft, .refl _, hright⟩ .nil
  | unary op operand =>
      obtain ⟨operand', hoperand, rfl⟩ := counterpart_unary h
      exact .cons ⟨none, start, finish, .refl _, .refl _, hoperand⟩ .nil
  | call method receiver arguments =>
      obtain ⟨receiver', middle, arguments', _, hreceiver, harguments, rfl⟩ := counterpart_call h
      have hreceived := counterpart_extends hreceiver
      refine .cons ⟨none, start, middle, .refl _, argument_counterparts_extend harguments,
        hreceiver⟩ ?_
      exact (argument_counterparts_forall harguments).imp fun _ _ hargument =>
        ⟨_, hargument.mono hreceived (.refl _)⟩
  | conditional test ifTrue ifFalse =>
      obtain ⟨test', tested, ifTrue', middle, ifFalse', htest, htrue, hfalse, rfl⟩ :=
        counterpart_conditional h
      have htested := counterpart_extends htest
      have hlast := counterpart_extends hfalse
      have hmiddle := counterpart_extends htrue
      refine .cons ⟨none, start, tested, .refl _, hlast.trans hmiddle, htest⟩ ?_
      refine .cons ⟨none, tested, middle, htested, hlast, htrue⟩ ?_
      exact .cons ⟨none, middle, finish, hmiddle.trans htested, .refl _, hfalse⟩ .nil
  | lambda p body =>
      obtain ⟨p', middle, body', hparameter, hbody, rfl⟩ := counterpart_lambda h
      have hmiddle := (lambdaParameter_grows task element p).extends_of_yields hparameter
      exact .cons ⟨none, middle, finish, hmiddle, .refl _, hbody⟩ .nil
  | init shape bindings =>
      obtain ⟨bindings', hbindings, rfl⟩ := counterpart_init h
      refine List.forall₂_map_left_iff.2 (List.forall₂_map_right_iff.2 ?_)
      exact (binding_counterparts_forall hbindings).imp fun _ _ hbinding => ⟨none, hbinding.2⟩

theorem DefaultAround.mono {events later : List ConversionEvent} {path : List Nat}
    (h : DefaultAround events e e' path) (hlater : events <+: later) :
    DefaultAround later e e' path := by
  obtain ⟨outer, access, name, searched, hprefix, hne, haccess, hevent, hdefault⟩ := h
  exact ⟨outer, access, name, searched, hprefix, hne, haccess, hlater.subset hevent, hdefault⟩

/-- A default in a part is one in the whole. -/
theorem DefaultAround.of_part {events : List ConversionEvent} {part part' : Expr} {place : Nat}
    {path : List Nat} (hpart : e.children[place]? = some part)
    (hpart' : e'.children[place]? = some part') (h : DefaultAround events part part' path) :
    DefaultAround events e e' (place :: path) := by
  obtain ⟨outer, access, name, searched, hprefix, hne, haccess, hevent, hdefault⟩ := h
  refine ⟨place :: outer, access, name, searched, List.cons_prefix_cons.2 ⟨rfl, hprefix⟩,
    fun heq => hne (List.cons.inj heq).2, ?_, hevent, ?_⟩
  · rw [Expr.accessAt?_cons, hpart, Option.bind_some, haccess]
  · rw [Expr.part?, hpart', Option.bind_some, hdefault]

theorem FoundAt.mono {first last : State σ} {path : List Nat} {access : MemberAccess}
    (h : FoundAt task customMap scopes start finish e e' path access)
    (hfirst : start.Extends task.reader first) (hlast : last.Extends task.reader finish) :
    FoundAt task customMap scopes first last e e' path access := by
  obtain ⟨before, node, after, hbefore, hafter, hfound⟩ := h
  exact ⟨before, node, after, hbefore.trans hfirst, hlast.trans hafter, hfound⟩

/-- What is found in a part is found in the whole. -/
theorem FoundAt.of_part {part part' : Expr} {place : Nat} {path : List Nat} {access : MemberAccess}
    (hpart : e.children[place]? = some part) (hpart' : e'.children[place]? = some part')
    (h : FoundAt task customMap (scopesWithin scopes e e') start finish part part' path access) :
    FoundAt task customMap scopes start finish e e' (place :: path) access := by
  obtain ⟨before, node, after, hbefore, hafter, hnode, hbecomes⟩ := h
  refine ⟨before, node, after, hbefore, hafter, ?_, ?_⟩
  · rw [Expr.part?, hpart', Option.bind_some, hnode]
  · rw [scopesAt, hpart, hpart']
    exact hbecomes

/-- An access without answer becomes one of its converted target, or a default. -/
theorem member_or_default (hmap : task.options.customMap = some customMap) {target : Expr}
    {field : FieldDescriptor}
    (h : Yields (counterpart task scopes element (.member target field)) start e' finish)
    (hnone : customMap.answers task.root ⟨target, field⟩ = false) :
    (∃ asked target' middle field', asked.Extends task.reader start ∧
      finish.Extends task.reader middle ∧
      Yields (counterpart task scopes none target) asked target' middle ∧
      e' = .member target' field') ∨
    (e' = .constant (Value.ofType field.type) field.type ∧
      ∃ name searched, .substituted ⟨target, field⟩ name searched ∈ finish.events) := by
  cases becomes_of_member hmap h with
  | answered hanswer =>
      rw [CustomMap.answers, hanswer] at hnone
      cases hnone
  | unanswered _ htarget hresolve =>
      have hlast := (resolve_grows task.withoutMap _ _ _).extends_of_yields hresolve
      rw [resolve_eq, yields_bind] at hresolve
      obtain ⟨⟨name, origin⟩, named, hname, hconclude⟩ := hresolve
      rcases yields_conclude hconclude with ⟨_, field', _, _, rfl⟩ | ⟨_, _, rfl, searched, hevent⟩
      · exact Or.inl ⟨_, _, _, field', grows_note _ _, hlast, htarget, rfl⟩
      · exact Or.inr ⟨rfl, name, searched, hevent⟩

/-- An access that the custom map is asked about is found in its place, or lies in one that became a
default. -/
theorem found_or_default (hmap : task.options.customMap = some customMap) {path : List Nat}
    {access : MemberAccess} (h : Yields (counterpart task scopes element e) start e' finish)
    (haccess : e.accessAt? path = some access)
    (hopen : e.OpenAt (customMap.answers task.root) path) :
    DefaultAround finish.events e e' path ∨
      FoundAt task customMap scopes start finish e e' path access := by
  induction path generalizing scopes element e e' start finish with
  | nil =>
      cases e with
      | member target field =>
          cases haccess
          exact Or.inr ⟨start, e', finish, .refl _, .refl _, rfl, becomes_of_member hmap h⟩
      | _ => cases haccess
  | cons place path ih =>
      rw [Expr.accessAt?_cons] at haccess
      obtain ⟨part, hpart, haccess⟩ := Option.bind_eq_some_iff.1 haccess
      obtain ⟨hwhole, hopen⟩ := (Expr.openAt_cons hpart).1 hopen
      cases hown : e.asAccess? with
      | none =>
          have hparts := rel_getElem?_of_forall₂ (forall₂_parts hown h) place
          rw [hpart] at hparts
          generalize hpart' : e'.children[place]? = found at hparts
          cases hparts with
          | some hconverts =>
              obtain ⟨_, before, after, hbefore, hafter, hyields⟩ := hconverts
              exact (ih hyields haccess hopen).imp
                (fun hdefault => (hdefault.of_part hpart hpart').mono hafter.events)
                fun hfound => (hfound.of_part hpart hpart').mono hbefore hafter
      | some own =>
          cases e with
          | member target field =>
              cases hown
              obtain ⟨rfl, rfl⟩ : place = 0 ∧ target = part := by
                cases place with
                | zero => exact ⟨rfl, Option.some.inj hpart⟩
                | succ place => cases hpart
              rcases member_or_default hmap h (hwhole _ rfl) with
                ⟨asked, target', middle, field', hasked, hlast, htarget, rfl⟩ |
                ⟨rfl, name, searched, hevent⟩
              · exact (ih htarget haccess hopen).imp
                  (fun hdefault => (hdefault.of_part rfl rfl).mono hlast.events)
                  fun hfound => (hfound.of_part rfl rfl).mono hasked hlast
              · -- the access itself became a default, and nothing in it is left
                exact Or.inl ⟨[], ⟨target, field⟩, name, searched, List.nil_prefix,
                  (List.cons_ne_nil _ _).symm, rfl, hevent, rfl⟩
          | _ => cases hown

/-! ## Predicates -/

variable {registry : Registry} {options : Options} {predicate : Predicate}
  {destination : String} {clock : Clock} {scope nextIdentity : Nat} {cache : Cache}

/-- The custom map is asked about the accesses of a predicate that do not lie strictly inside an
answered one, about each once, parents first and from left to right, with the access as it was and
the destination parameter; a conversion that fails has asked the first few of these questions. In
one that succeeds, each answer stands as it is in the place of the access, and an access without
answer is converted as without a custom map, unless an access around it became a default. -/
theorem custom_map_is_final (hmap : options.customMap = some customMap) :
    let root := rootParameter predicate destination nextIdentity
    let initial : State Cache := ⟨nextIdentity, cache, []⟩
    let outcome := predicate.convert registry options clock scope destination nextIdentity cache
    let questions := predicate.body.questions (customMap.answers root)
    (questions.Pairwise fun question later => question.path < later.path) ∧
    (∀ question, question ∈ questions ↔
      predicate.body.accessAt? question.path = some question.access ∧
        predicate.body.OpenAt (customMap.answers root) question.path) ∧
    outcome.2.calls <+: callsOf root questions ∧
    ∀ converted, outcome.1 = .ok converted →
      converted.parameter = root ∧ outcome.2.calls = callsOf root questions ∧
      ∃ source, predicate.shape? = some source ∧
        let task := bodyTask registry options (.cached clock (registry.table scope)) predicate
          source destination nextIdentity
        ∀ question ∈ questions,
          DefaultAround outcome.2.events predicate.body converted.body question.path ∨
          FoundAt task customMap [(predicate.parameter, root)] initial outcome.2 predicate.body
            converted.body question.path question.access := by
  intro root initial outcome questions
  have hquestions : ∀ question, question ∈ questions ↔
      predicate.body.accessAt? question.path = some question.access ∧
        predicate.body.OpenAt (customMap.answers root) question.path :=
    fun _ => Expr.mem_questions
  obtain ⟨made, hmade, hfirst, hall⟩ := run_calls hmap initial
  have hcalls : outcome.2.calls = made := hmade
  refine ⟨Expr.questions_sorted _ _, hquestions, by rw [hcalls]; exact hfirst, ?_⟩
  intro converted hok
  have hyields : Yields (run registry options (.cached clock (registry.table scope)) predicate
      destination) initial converted outcome.2 := Prod.ext hok rfl
  obtain ⟨source, body, middle, hshapes, hbody, rfl, _, hfinish⟩ := yields_run hyields
  refine ⟨rfl, by rw [hcalls]; exact hall _ hok, source, (shapes_eq_ok hshapes).1, ?_⟩
  intro task question hquestion
  obtain ⟨haccess, hopen⟩ := (hquestions question).1 hquestion
  have hinitial : (bodyState predicate source destination initial).Extends task.reader initial :=
    ⟨Nat.le_succ _, List.prefix_append _ _, .refl⟩
  have hlast : outcome.2.Extends task.reader middle := by
    rw [hfinish]
    exact grows_note _ middle
  exact (found_or_default hmap hbody haccess hopen).imp (fun hdefault => hdefault.mono hlast.events)
    fun hfound => hfound.mono hinitial hlast

end Reshape.Conversion

namespace Reshape.Sample

open Conversion

/-- `parcel` is a shape that holds an order, under another name than `gift` does. -/
def parcel : ShapeDefinition := ⟨"Parcel", none, [⟨"Inside", .shape "Order", none⟩]⟩

/-- `parcels` has the shapes of orders and of what holds them. -/
def parcels : Registry :=
  ⟨[order.shape, gift.shape, parcel.shape], order.annotations ++ gift.annotations⟩

/-- `content` is the order that a gift holds. -/
def content : MemberAccess :=
  ⟨.parameter ⟨0, some "g", .shape "Gift"⟩, ⟨"Content", .shape "Order", "Gift"⟩⟩

/-- `present` asks for a gift with a large order that is fragile. -/
def present : Predicate where
  parameter := ⟨0, some "g", .shape "Gift"⟩
  body := .binary .and
    (.binary .greater (.member content.toExpr ⟨"Total", .integer, "Order"⟩)
      (.constant (.integer 3) .integer))
    (.binary .equal (.member content.toExpr ⟨"Note", .string, "Order"⟩)
      (.constant (.string "fragile") .string))

/-- `unwrap` finds the order of a gift in a parcel, and has an answer for every note. -/
def unwrap : CustomMap := fun access root =>
  if access.field.name = "Content" then
    some (.member (.parameter root) ⟨"Inside", .shape "Order", "Parcel"⟩)
  else if access.field.name = "Note" then some (.constant .null .string)
  else none

/-- `sent` is the counterpart of `present` over parcels. -/
def sent : Predicate where
  parameter := ⟨1, some "g", .shape "Parcel"⟩
  body := .binary .and
    (.binary .greater
      (.member (.member (.parameter ⟨1, some "g", .shape "Parcel"⟩)
        ⟨"Inside", .shape "Order", "Parcel"⟩) ⟨"Total", .integer, "Order"⟩)
      (.constant (.integer 3) .integer))
    (.binary .equal (.constant .null .string) (.constant (.string "fragile") .string))

end Reshape.Sample

namespace Reshape.Conversion

/-- Gifts are converted to parcels. The custom map has no answer for the total and is asked about
the order then; it has one for the note, and is not asked about the order again. -/
theorem unwrap_is_final :
    let root : Parameter := ⟨1, some "g", .shape "Parcel"⟩
    ∃ final,
      Sample.present.convert Sample.parcels ⟨none, some Sample.unwrap, .throw⟩ id 0 "Parcel" 1
        (.empty .unbounded) = (.ok Sample.sent, final) ∧
      final.calls = [(⟨Sample.content.toExpr, ⟨"Total", .integer, "Order"⟩⟩, root),
        (Sample.content, root), (⟨Sample.content.toExpr, ⟨"Note", .string, "Order"⟩⟩, root)] := by
  intro root
  obtain ⟨_, _, _, hsuccess⟩ := @custom_map_is_final Sample.unwrap Sample.parcels
    ⟨none, some Sample.unwrap, .throw⟩ Sample.present "Parcel" id 0 1 (.empty .unbounded) rfl
  obtain ⟨_, hcalls, _⟩ := hsuccess Sample.sent rfl
  exact ⟨_, rfl, hcalls⟩

end Reshape.Conversion
