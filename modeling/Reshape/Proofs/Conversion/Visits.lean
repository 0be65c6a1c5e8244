import Reshape.Proofs.Conversion.Naming

/-!
# Accesses that a conversion visits

`Descends` takes a conversion from an expression to a part that it converts next, and `Visits` says
that a conversion comes to an access that way. A conversion that succeeds visits every access
(`visits_every_access`), and what the conversion of a visited access does, whether or not it
succeeds, is to look up its `attemptedName` (`Visits.perform_counterpart`). `visited_name` puts the
two together.
-/

namespace Reshape.Conversion

variable {σ : Type} {task : Task σ} {holds : σ → Prop}

/-- A `Position` is where a conversion stands: the binders around, with their scopes, the
expression that comes next, with the element shape of the receiver when it is an argument of a
call, and the state. -/
structure Position (σ : Type) where
  binders : List Binder
  scopes : Scopes
  element : Option String
  expr : Expr
  state : State σ

/-- `Descends task position next` says that a conversion that stands at `position` comes to `next`,
at one of the direct parts. -/
inductive Descends (task : Task σ) : Position σ → Position σ → Prop where
  | target {binders scopes element target field start middle} :
      Yields (task.consult ⟨target, field⟩) start none middle →
      Descends task ⟨binders, scopes, element, .member target field, start⟩
        ⟨binders, scopes, none, target, middle⟩
  | left {binders scopes element op left right start} :
      Descends task ⟨binders, scopes, element, .binary op left right, start⟩
        ⟨binders, scopes, none, left, start⟩
  | right {binders scopes element op left left' right start middle} :
      Yields (counterpart task scopes none left) start left' middle →
      Descends task ⟨binders, scopes, element, .binary op left right, start⟩
        ⟨binders, scopes, none, right, middle⟩
  | operand {binders scopes element op operand start} :
      Descends task ⟨binders, scopes, element, .unary op operand, start⟩
        ⟨binders, scopes, none, operand, start⟩
  | receiver {binders scopes element method receiver arguments start} :
      method.accepts arguments.length →
      Descends task ⟨binders, scopes, element, .call method receiver arguments, start⟩
        ⟨binders, scopes, none, receiver, start⟩
  | argument {binders scopes element method receiver receiver' before before' argument after start
      received middle} :
      method.accepts (before ++ argument :: after).length →
      Yields (counterpart task scopes none receiver) start receiver' received →
      Yields (argumentCounterparts task scopes receiver'.resultType.elementShapeName? before)
        received before' middle →
      Descends task
        ⟨binders, scopes, element, .call method receiver (before ++ argument :: after), start⟩
        ⟨binders, scopes, receiver'.resultType.elementShapeName?, argument, middle⟩
  | test {binders scopes element test ifTrue ifFalse start} :
      Descends task ⟨binders, scopes, element, .conditional test ifTrue ifFalse, start⟩
        ⟨binders, scopes, none, test, start⟩
  | ifTrue {binders scopes element test test' ifTrue ifFalse start middle} :
      Yields (counterpart task scopes none test) start test' middle →
      Descends task ⟨binders, scopes, element, .conditional test ifTrue ifFalse, start⟩
        ⟨binders, scopes, none, ifTrue, middle⟩
  | ifFalse {binders scopes element test test' ifTrue ifTrue' ifFalse start tested middle} :
      Yields (counterpart task scopes none test) start test' tested →
      Yields (counterpart task scopes none ifTrue) tested ifTrue' middle →
      Descends task ⟨binders, scopes, element, .conditional test ifTrue ifFalse, start⟩
        ⟨binders, scopes, none, ifFalse, middle⟩
  | body {binders scopes element p p' body start middle} :
      Yields (task.lambdaParameter element p) start p' middle →
      Descends task ⟨binders, scopes, element, .lambda p body, start⟩
        ⟨task.binder element p :: binders, (p, p') :: scopes, none, body, middle⟩
  | binding {binders scopes element shape before before' name value after start middle} :
      Yields (bindingCounterparts task scopes before) start before' middle →
      Descends task
        ⟨binders, scopes, element, .init shape (before ++ (name, value) :: after), start⟩
        ⟨binders, scopes, none, value, middle⟩

/-- A `Visit` is an access that a conversion comes to: the binders around, with their scopes, the
element shape of the receiver when the access is an argument of a call, the access, and the state;
then the converted target, and the state in which the access is resolved. -/
structure Visit (σ : Type) where
  binders : List Binder
  scopes : Scopes
  element : Option String
  access : MemberAccess
  start : State σ
  target : Expr
  state : State σ

/-- `visit.position` is where a conversion stands when it comes to the access. -/
def Visit.position (visit : Visit σ) : Position σ :=
  ⟨visit.binders, visit.scopes, visit.element, visit.access.toExpr, visit.start⟩

/-- `Visits task position visit` says that a conversion that stands at `position` comes to an access
in it, and to resolving it. -/
def Visits (task : Task σ) (position : Position σ) (visit : Visit σ) : Prop :=
  Relation.ReflTransGen (Descends task) position visit.position ∧
    ∃ middle, Yields (task.consult visit.access) visit.start none middle ∧
      Yields (counterpart task visit.scopes none visit.access.target) middle visit.target
        visit.state

/-- `bodyPosition predicate destination root state` is where the conversion of a body starts. -/
def bodyPosition (predicate : Predicate) (destination : String) (root : Parameter)
    (state : State σ) : Position σ :=
  ⟨[⟨predicate.parameter, some destination⟩], [(predicate.parameter, root)], none, predicate.body,
    state⟩

/-! ## What holds at every position -/

/-- `position.Sound task holds` is what holds wherever a conversion stands: binders and scopes
agree, the parameters of the expression came before the root, the next identity does not, and the
store has the property `holds`. -/
structure Position.Sound (task : Task σ) (holds : σ → Prop) (position : Position σ) : Prop where
  placed : Placed task position.binders position.scopes
  older : position.expr.OlderThan task.root.identity
  root : task.root.identity ≤ position.state.nextIdentity
  store : holds position.state.store

/-- Going on with a part, in a later state, keeps what holds. -/
theorem Position.Sound.part {position : Position σ} (h : position.Sound task holds)
    (hread : ∀ field store, holds store → holds (task.reader field store).2.1) (part : Expr)
    (hpart : part ∈ position.expr.children) {state : State σ}
    (hstate : state.Extends task.reader position.state) (element : Option String) :
    (Position.mk position.binders position.scopes element part state).Sound task holds :=
  ⟨h.placed, h.older.child hpart, Nat.le_trans h.root hstate.identity, hstate.keeps hread h.store⟩

/-- A lambda's binder tells what became of its parameter. -/
theorem places_binder {element : Option String} {p p' : Parameter} {start finish : State σ}
    (h : Yields (task.lambdaParameter element p) start p' finish)
    (hp : p.identity < task.root.identity) (hroot : task.root.identity ≤ start.nextIdentity) :
    (task.binder element p).Places task.root (p, p') := by
  refine ⟨rfl, hp, ?_⟩
  rcases yields_lambdaParameter h with ⟨hsource, rfl, _⟩ | ⟨hother, rfl, _⟩
  · simp only [Task.binder, if_pos hsource]
    exact ⟨trivial, hroot⟩
  · simp only [Task.binder, if_neg hother]

theorem Descends.sound {position next : Position σ} (h : Descends task position next)
    (hread : ∀ field store, holds store → holds (task.reader field store).2.1)
    (hsound : position.Sound task holds) : next.Sound task holds := by
  cases h with
  | target hconsult =>
      exact hsound.part hread _ (by simp [Expr.children])
        ((consult_grows task _).extends_of_yields hconsult) none
  | left => exact hsound.part hread _ (by simp [Expr.children]) (.refl _) none
  | right hleft =>
      exact hsound.part hread _ (by simp [Expr.children]) (counterpart_extends hleft) none
  | operand => exact hsound.part hread _ (by simp [Expr.children]) (.refl _) none
  | receiver => exact hsound.part hread _ (by simp [Expr.children]) (.refl _) none
  | argument _ hreceiver hbefore =>
      exact hsound.part hread _ (by simp [Expr.children])
        ((argument_counterparts_extend hbefore).trans (counterpart_extends hreceiver)) _
  | test => exact hsound.part hread _ (by simp [Expr.children]) (.refl _) none
  | ifTrue htest =>
      exact hsound.part hread _ (by simp [Expr.children]) (counterpart_extends htest) none
  | ifFalse htest htrue =>
      exact hsound.part hread _ (by simp [Expr.children])
        ((counterpart_extends htrue).trans (counterpart_extends htest)) none
  | @body _ _ _ p p' body _ _ hparameter =>
      -- only a lambda adds a binder, and its scope with it
      have hbody := hsound.part hread body (by simp [Expr.children])
        ((lambdaParameter_grows task _ _).extends_of_yields hparameter) none
      obtain ⟨scope, hscope, hscopeRoot⟩ := hsound.placed.root
      refine ⟨⟨.cons ?_ hsound.placed.places, scope, List.mem_cons_of_mem _ hscope, hscopeRoot⟩,
        hbody.older, hbody.root, hbody.store⟩
      exact places_binder hparameter (hsound.older.own rfl) hsound.root
  | binding hbefore =>
      exact hsound.part hread _ (by simp [Expr.children]) (binding_counterparts_extend hbefore) none

/-- Whatever a conversion comes to, what holds at the start still holds. -/
theorem sound_of_descends {position next : Position σ}
    (h : Relation.ReflTransGen (Descends task) position next)
    (hread : ∀ field store, holds store → holds (task.reader field store).2.1)
    (hsound : position.Sound task holds) : next.Sound task holds := by
  induction h with
  | refl => exact hsound
  | tail _ hstep ih => exact hstep.sound hread ih

/-- A visited access is resolved once its target has been converted. -/
theorem Visits.counterpart_eq {position : Position σ} {visit : Visit σ}
    (h : Visits task position visit) :
    perform (counterpart task visit.scopes visit.element visit.access.toExpr) visit.start =
      perform (task.resolve visit.scopes visit.access visit.target) visit.state := by
  obtain ⟨_, middle, hconsult, htarget⟩ := h
  rw [MemberAccess.toExpr, counterpart, perform_bind, hconsult]
  exact (perform_bind _ _ middle).trans (by rw [htarget])

/-- The conversion of an access that is visited from a sound position looks up its
`attemptedName`. -/
theorem Visits.perform_counterpart {position : Position σ} {visit : Visit σ}
    (h : Visits task position visit) (hsound : position.Sound task holds)
    (hmap : task.options.customMap = none) (hroot : task.root.shape? = some task.destination)
    (hfaithful : task.reader.Faithful task.registry.mapsTo? holds) :
    let direct := isDirectAt task.source task.destination visit.binders visit.access
    let attempt := attemptedName task.registry task.options visit.access.field direct
    ∃ asked,
      perform (counterpart task visit.scopes visit.element visit.access.toExpr) visit.start =
        perform (task.conclude visit.access visit.target attempt.1 attempt.2) asked ∧
      (¬ (direct ∧ task.options.mappedName? visit.access.field.name = none) →
        asked = visit.state) := by
  intro direct attempt
  have ⟨hreach, middle, hconsult, htarget⟩ := h
  have haccess := sound_of_descends hreach hfaithful.keeps hsound
  have hpart := haccess.part hfaithful.keeps visit.access.target
    (by simp [Visit.position, MemberAccess.toExpr, Expr.children])
    (((counterpart_extends htarget).trans
      ((consult_grows task _).extends_of_yields hconsult))) none
  have hdirect := haccess.placed.isDirect_eq hmap hroot hpart.older htarget visit.access.field
  obtain ⟨asked, hname, hunasked⟩ := perform_destinationName hfaithful hpart.store
    visit.access.field direct
  refine ⟨asked, ?_, hunasked⟩
  rw [h.counterpart_eq, resolve_eq, perform_bind,
    show task.isDirect visit.scopes visit.target visit.access.field = direct from hdirect, hname]

/-- Where the conversion of a body starts, everything holds that holds at every position. -/
theorem bodyPosition_sound {registry : Registry} {options : Options} {predicate : Predicate}
    {source destination : String} {reader : AnnotationReader σ} (state : State σ)
    (holder : predicate.OlderThan state.nextIdentity) (hstore : holds state.store) :
    (bodyPosition predicate destination
      (rootParameter predicate destination state.nextIdentity)
      (bodyState predicate source destination state)).Sound
        (bodyTask registry options reader predicate source destination state.nextIdentity)
        holds where
  placed := by
    refine ⟨.cons ⟨rfl, ?_, rfl, Nat.le_refl _⟩ .nil, _, List.mem_cons_self, rfl⟩
    exact holder _ List.mem_cons_self
  older p hp := holder p (List.mem_cons_of_mem _ hp)
  root := Nat.le_succ _
  store := hstore

/-! ## Every access is visited -/

/-- An argument is converted after those before it. -/
theorem argument_split {scopes : Scopes} {element : Option String}
    {arguments arguments' : List Expr} {start finish : State σ}
    (h : Yields (argumentCounterparts task scopes element arguments) start arguments' finish)
    {e : Expr} (he : e ∈ arguments) :
    ∃ before after before' middle e' last, arguments = before ++ e :: after ∧
      Yields (argumentCounterparts task scopes element before) start before' middle ∧
      Yields (counterpart task scopes element e) middle e' last := by
  induction arguments generalizing start arguments' with
  | nil => cases he
  | cons argument rest ih =>
      simp only [argumentCounterparts, yields_bind, yields_pure] at h
      obtain ⟨argument', middle, hargument, rest', _, hrest, rfl, rfl⟩ := h
      rcases List.mem_cons.1 he with rfl | he
      · exact ⟨[], rest, [], start, argument', middle, rfl,
          by simp [argumentCounterparts, yields_pure], hargument⟩
      · obtain ⟨before, after, before', reached, e', last, rfl, hbefore, he'⟩ := ih hrest he
        refine ⟨argument :: before, after, argument' :: before', reached, e', last, rfl, ?_, he'⟩
        simp only [argumentCounterparts, yields_bind, yields_pure]
        exact ⟨_, _, hargument, _, _, hbefore, rfl, rfl⟩

/-- A bound expression is converted after those before it. -/
theorem binding_split {scopes : Scopes} {bindings bindings' : List (String × Expr)}
    {start finish : State σ}
    (h : Yields (bindingCounterparts task scopes bindings) start bindings' finish)
    {binding : String × Expr} (hbinding : binding ∈ bindings) :
    ∃ before after before' middle e' last, bindings = before ++ binding :: after ∧
      Yields (bindingCounterparts task scopes before) start before' middle ∧
      Yields (counterpart task scopes none binding.2) middle e' last := by
  induction bindings generalizing start bindings' with
  | nil => cases hbinding
  | cons head rest ih =>
      simp only [bindingCounterparts, yields_bind, yields_pure] at h
      obtain ⟨value', middle, hvalue, rest', _, hrest, rfl, rfl⟩ := h
      rcases List.mem_cons.1 hbinding with rfl | hbinding
      · exact ⟨[], rest, [], start, value', middle, rfl, by simp [bindingCounterparts, yields_pure],
          hvalue⟩
      · obtain ⟨before, after, before', reached, e', last, rfl, hbefore, he'⟩ := ih hrest hbinding
        refine ⟨head :: before, after, (head.1, value') :: before', reached, e', last, rfl, ?_, he'⟩
        simp only [bindingCounterparts, yields_bind, yields_pure]
        exact ⟨_, _, hvalue, _, _, hbefore, rfl, rfl⟩

/-- A conversion that comes to a part visits what it visits in the part. -/
theorem Visits.of_descends {position next : Position σ} {visit : Visit σ}
    (hstep : Descends task position next) (h : Visits task next visit) :
    Visits task position visit :=
  ⟨.head hstep h.1, h.2⟩

/-- The conversion of an expression that succeeds comes to every part of it, and converts it. -/
theorem exists_descends (hmap : task.options.customMap = none) {binders : List Binder}
    {scopes : Scopes} {element : Option String} {e e' part : Expr} {start finish : State σ}
    (h : Yields (counterpart task scopes element e) start e' finish) (hpart : part ∈ e.children) :
    ∃ binders' scopes' element' reached part' last,
      Descends task ⟨binders, scopes, element, e, start⟩
        ⟨binders', scopes', element', part, reached⟩ ∧
      Yields (counterpart task scopes' element' part) reached part' last := by
  cases e with
  | parameter | constant => cases hpart
  | member target field =>
      obtain ⟨target', _, _, _, _, htarget, _⟩ := counterpart_member hmap h
      cases List.mem_singleton.1 hpart
      refine ⟨_, _, _, _, _, _, .target ?_, htarget⟩
      simp [Task.consult, hmap, yields_pure]
  | binary op left right =>
      obtain ⟨_, _, _, hleft, hright, _⟩ := counterpart_binary h
      simp only [Expr.children, List.mem_cons, List.not_mem_nil, or_false] at hpart
      rcases hpart with rfl | rfl
      · exact ⟨_, _, _, _, _, _, .left, hleft⟩
      · exact ⟨_, _, _, _, _, _, .right hleft, hright⟩
  | unary op operand =>
      obtain ⟨_, hoperand, _⟩ := counterpart_unary h
      cases List.mem_singleton.1 hpart
      exact ⟨_, _, _, _, _, _, .operand, hoperand⟩
  | call method receiver arguments =>
      obtain ⟨_, _, _, haccepts, hreceiver, harguments, _⟩ := counterpart_call h
      rcases List.mem_cons.1 hpart with rfl | hpart
      · exact ⟨_, _, _, _, _, _, .receiver haccepts, hreceiver⟩
      · obtain ⟨before, after, _, _, _, _, rfl, hbefore, hargument⟩ :=
          argument_split harguments hpart
        exact ⟨_, _, _, _, _, _, .argument haccepts hreceiver hbefore, hargument⟩
  | conditional test ifTrue ifFalse =>
      obtain ⟨_, _, _, _, _, htest, htrue, hfalse, _⟩ := counterpart_conditional h
      simp only [Expr.children, List.mem_cons, List.not_mem_nil, or_false] at hpart
      rcases hpart with rfl | rfl | rfl
      · exact ⟨_, _, _, _, _, _, .test, htest⟩
      · exact ⟨_, _, _, _, _, _, .ifTrue htest, htrue⟩
      · exact ⟨_, _, _, _, _, _, .ifFalse htest htrue, hfalse⟩
  | lambda p body =>
      obtain ⟨_, _, _, hparameter, hbody, _⟩ := counterpart_lambda h
      cases List.mem_singleton.1 hpart
      exact ⟨_, _, _, _, _, _, .body hparameter, hbody⟩
  | init shape bindings =>
      obtain ⟨_, hbindings, _⟩ := counterpart_init h
      obtain ⟨⟨name, value⟩, hbinding, rfl⟩ := List.mem_map.1 hpart
      obtain ⟨before, after, _, _, _, _, rfl, hbefore, hvalue⟩ :=
        binding_split hbindings hbinding
      exact ⟨_, _, _, _, _, _, .binding hbefore, hvalue⟩

/-- The conversion of an expression that succeeds visits every access in it. -/
theorem visits_every_access (hmap : task.options.customMap = none) {binders : List Binder}
    {scopes : Scopes} {element : Option String} {e e' : Expr} {start finish : State σ}
    (h : Yields (counterpart task scopes element e) start e' finish) {access : MemberAccess}
    (haccess : access.toExpr ∈ e.nodes) :
    ∃ visit, Visits task ⟨binders, scopes, element, e, start⟩ visit ∧ visit.access = access := by
  induction e using Expr.children_induction generalizing binders scopes element e' start finish with
  | step e ih =>
      rw [Expr.nodes_eq, List.mem_cons, List.mem_flatMap] at haccess
      rcases haccess with rfl | ⟨part, hpart, haccess⟩
      · obtain ⟨target', asked, _, _, _, htarget, _⟩ := counterpart_member hmap h
        have hconsult : Yields (task.consult access) start none start := by
          simp [Task.consult, hmap, yields_pure]
        exact ⟨⟨binders, scopes, element, access, start, target', asked⟩,
          ⟨.refl, start, hconsult, htarget⟩, rfl⟩
      · obtain ⟨binders', scopes', element', reached, part', last, hstep, hyields⟩ :=
          exists_descends hmap h hpart
        obtain ⟨visit, hvisit, hsame⟩ := ih part hpart hyields haccess
        exact ⟨visit, hvisit.of_descends hstep, hsame⟩

/-! ## Names of visited accesses -/

section

variable {registry : Registry} {options : Options} {predicate : Predicate}
  {source destination : String} {clock : Clock} {scope nextIdentity : Nat} {cache : Cache}

/-- Every access that the conversion of a body visits is looked up under its `attemptedName`: only a
direct one under a name of the member map or an annotation. Any other is resolved without even
reading the annotation. And a conversion that succeeds has visited every access of the predicate. -/
theorem visited_name (holder : predicate.OlderThan nextIdentity)
    (hmap : options.customMap = none) (hcache : cache.AgreesWith (registry.table scope))
    {task : Task Cache} (htask : task = bodyTask registry options
      (.cached clock (registry.table scope)) predicate source destination nextIdentity) :
    let position := bodyPosition predicate destination task.root
      (bodyState predicate source destination ⟨nextIdentity, cache, []⟩)
    (∀ visit, Visits task position visit →
      let direct := isDirectAt source destination visit.binders visit.access
      let attempt := attemptedName registry options visit.access.field direct
      ∃ asked,
        perform (counterpart task visit.scopes visit.element visit.access.toExpr) visit.start =
          perform (task.conclude visit.access visit.target attempt.1 attempt.2) asked ∧
        (¬ (direct ∧ options.mappedName? visit.access.field.name = none) →
          asked = visit.state)) ∧
    ∀ converted final, predicate.shape? = some source →
      predicate.convert registry options clock scope destination nextIdentity cache =
        (.ok converted, final) →
      ∀ access : MemberAccess, access.toExpr ∈ predicate.body.nodes →
        ∃ visit, Visits task position visit ∧ visit.access = access := by
  subst htask
  intro position
  refine ⟨fun visit hvisit => ?_, fun converted final hsource hconvert access haccess => ?_⟩
  · have hsound : position.Sound
        (bodyTask registry options (.cached clock (registry.table scope)) predicate source
          destination nextIdentity)
        fun cache => cache.AgreesWith (registry.table scope) :=
      bodyPosition_sound ⟨nextIdentity, cache, []⟩ holder hcache
    exact hvisit.perform_counterpart hsound hmap rfl (AnnotationReader.cached_faithful clock _)
  · obtain ⟨found, _, _, hshapes, hbody, _⟩ := yields_run hconvert
    obtain rfl : found = source := Option.some.inj ((shapes_eq_ok hshapes).1.symm.trans hsource)
    exact visits_every_access hmap hbody haccess

/-- The total of an order is accessed directly, and looked up under its annotation; and all other
accesses of the predicate are visited, too. -/
theorem sample_visited_name :
    let task := bodyTask Sample.registry .default (.cached id (Sample.registry.table 0))
      Sample.predicate "Order" "View" 1
    let start : State Cache :=
      bodyState Sample.predicate "Order" "View" ⟨1, .empty .unbounded, []⟩
    let access : MemberAccess :=
      ⟨.parameter Sample.parameter, ⟨"Total", .integer, "Order"⟩⟩
    let visit : Visit Cache :=
      ⟨[⟨Sample.parameter, some "View"⟩], [(Sample.parameter, task.root)], none, access, start,
        .parameter task.root, start⟩
    let position := bodyPosition Sample.predicate "View" task.root start
    Visits task position visit ∧
      (∃ asked, perform (counterpart task visit.scopes none access.toExpr) start =
        perform (task.conclude access visit.target "Amount" .annotated) asked) ∧
      ∀ access : MemberAccess, access.toExpr ∈ Sample.predicate.body.nodes →
        ∃ visit, Visits task position visit ∧ visit.access = access := by
  intro task start access visit position
  have hvisit : Visits task position visit :=
    ⟨.tail (.tail .refl .left) .left, start, rfl, rfl⟩
  obtain ⟨hname, hevery⟩ :=
    @visited_name Sample.registry .default _ "Order" "View" id 0 1 (.empty .unbounded)
      Sample.predicate_olderThan rfl (Cache.empty_agreesWith .unbounded _) task rfl
  obtain ⟨asked, hresolve, _⟩ := hname visit hvisit
  exact ⟨hvisit, ⟨asked, hresolve⟩, hevery _ _ rfl Sample.conversion_eq⟩

end

end Reshape.Conversion
