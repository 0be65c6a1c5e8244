import Reshape.Proofs.Conversion.Handling
import Reshape.Proofs.Conversion.Transfer

/-!
# Strict conversions

A conversion that fails on an access without counterpart, and asks no custom map, is the transfer of
the body to the destination parameter, if no lambda is over the source shape:
`convert_eq_ok_iff`. The other error handling gives the same result then, with nothing substituted:
`convert_of_strict`.
-/

namespace Reshape

/-- `predicate.readFields` are the fields that a predicate reads on its parameter. -/
def Predicate.readFields (predicate : Predicate) : List FieldDescriptor :=
  predicate.body.nodes.filterMap fun
    | .member target field => if target.isReferenceTo predicate.parameter then some field else none
    | _ => none

/-- The fields that a predicate reads are those accessed on its parameter. -/
theorem Predicate.mem_readFields {predicate : Predicate} {field : FieldDescriptor} :
    field ∈ predicate.readFields ↔ ∃ target, .member target field ∈ predicate.body.nodes ∧
      target.isReferenceTo predicate.parameter := by
  rw [Predicate.readFields, List.mem_filterMap]
  constructor
  · rintro ⟨node, hnode, hfield⟩
    cases node with
    | member target found =>
        cases htarget : target.isReferenceTo predicate.parameter with
        | true =>
            obtain rfl : found = field := by simpa [htarget] using hfield
            exact ⟨target, hnode, htarget⟩
        | false => simp [htarget] at hfield
    | _ => cases hfield
  · rintro ⟨target, hnode, htarget⟩
    exact ⟨_, hnode, if_pos htarget⟩

namespace Conversion

variable {α β : Type}

/-! ## Settled actions -/

/-- `Settles action result` says that an action succeeds with what `result` is, and fails when it is
nothing, whatever the state it starts in. -/
def Settles (action : Action Unit α) (result : Option α) : Prop :=
  ∀ state, (perform action state).1.toOption = result

/-- A result that is given is settled. -/
theorem settles_pure (a : α) : Settles (pure a) (some a) := fun _ => rfl

theorem settles_throw (error : Error) : Settles (throw error : Action Unit α) none := fun _ => rfl

/-- A composed action goes on with what its first part settles on. -/
theorem settles_bind {action : Action Unit α} {result : Option α} {next : α → Action Unit β}
    {next? : α → Option β} (h : Settles action result)
    (hnext : ∀ a, result = some a → Settles (next a) (next? a)) :
    Settles (action >>= next) (result.bind next?) := by
  intro state
  have hfirst := h state
  rw [perform_bind]
  rcases hperform : perform action state with ⟨error | a, middle⟩
  all_goals rw [hperform] at hfirst
  · rw [← hfirst]
    rfl
  · rw [← hfirst]
    exact hnext a hfirst.symm middle

/-! ## Expressions -/

/-- `task.transfer original` is the transfer that puts the destination parameter in the place of
`original`. -/
def Task.transfer {σ : Type} (task : Task σ) (original : Parameter) : Transfer :=
  ⟨task.registry, task.options, task.source, original, task.root⟩

/-- `Carried task original around e` says that `e` is a part of a predicate over `original`, inside
the lambdas around, in which no lambda is over the source shape or hides the original, and references
with one identity are to one parameter. -/
structure Carried (task : Task Unit) (original : Parameter) (around : List (Parameter × Value))
    (e : Expr) : Prop where
  kept : KeptAround task original around
  older : e.OlderThan task.root.identity
  closed : e.ClosedIn (around.map Prod.fst ++ [original])
  lambda : ∀ p body, .lambda p body ∈ e.nodes →
    p.shape? ≠ some task.source ∧ original.denotes p = false
  coherent : ∀ p ∈ around.map Prod.fst ++ e.parameters,
    ∀ q ∈ around.map Prod.fst ++ e.parameters, p.denotes q → p = q

variable {task : Task Unit} {original : Parameter} {around : List (Parameter × Value)}
  {element : Option String} {e target target' part : Expr} {field : FieldDescriptor}

/-- A part that is closed inside the same lambdas is carried inside them. -/
theorem Carried.of_child (h : Carried task original around e) (hpart : part ∈ e.children)
    (hown : e.own? = none) : Carried task original around part where
  kept := h.kept
  older := h.older.child hpart
  closed := (Expr.closedIn_parts hown).1 h.closed part hpart
  lambda p body hnode := h.lambda p body (Expr.mem_nodes_of_child hnode hpart)
  coherent := by
    have hmono : ∀ p ∈ around.map Prod.fst ++ part.parameters,
        p ∈ around.map Prod.fst ++ e.parameters := by
      intro p hp
      refine List.mem_append.2 ((List.mem_append.1 hp).imp_right fun hp => ?_)
      exact Expr.mem_parameters_of_child hp hpart
    intro p hp q hq
    exact h.coherent p (hmono p hp) q (hmono q hq)

/-- The body of a lambda is carried inside the lambda. -/
theorem Carried.body {p : Parameter} {body : Expr}
    (h : Carried task original around (.lambda p body)) :
    Carried task original ((p, .null) :: around) body where
  kept := by
    intro b hb
    rcases List.mem_cons.1 hb with rfl | hb
    · exact ⟨h.older.own rfl, (h.lambda p body (Expr.self_mem_nodes _)).2⟩
    · exact h.kept b hb
  older := h.older.child (by simp [Expr.children])
  closed := Expr.closedIn_lambda.1 h.closed
  lambda q inner hnode := h.lambda q inner (Expr.mem_nodes_of_child hnode (by simp [Expr.children]))
  coherent := by
    have hmono : ∀ q ∈ ((p, Value.null) :: around).map Prod.fst ++ body.parameters,
        q ∈ around.map Prod.fst ++ (Expr.lambda p body).parameters := by
      intro q hq
      rw [List.map_cons, List.cons_append, List.mem_cons, List.mem_append] at hq
      rcases hq with rfl | hq | hq
      · exact List.mem_append_right _ (Expr.mem_parameters_of_own rfl)
      · exact List.mem_append_left _ hq
      · exact List.mem_append_right _
          (Expr.mem_parameters_of_child hq (by simp [Expr.children]))
    intro q hq r hr
    exact h.coherent q (hmono q hq) r (hmono r hr)

/-- A reference is replaced as the transfer says. -/
theorem Carried.replacement_eq {p : Parameter} (h : Carried task original around (.parameter p)) :
    task.replacement (keptScopes task original around) p =
      (task.transfer original).parameter p := by
  cases hdenotes : p.denotes original with
  | true =>
      rw [h.kept.replacement_original hdenotes]
      exact (if_pos hdenotes).symm
  | false =>
      obtain ⟨b, hb, hfind, _⟩ := find_around h.closed hdenotes
      have hsame : b.1 = p :=
        h.coherent b.1 (List.mem_append_left _ (List.mem_map_of_mem hb)) p
          (List.mem_append_right _ (Expr.mem_parameters_of_own rfl))
          (by simpa using List.find?_some hfind)
      rw [replacement_around hfind, hsame]
      show p = if p.denotes original then _ else p
      rw [hdenotes]
      rfl

/-- An access is direct when it is made on the original to a field of the source shape. -/
theorem Carried.isDirect_eq (h : Carried task original around (.member target field))
    (hplain : task.Plain original fun _ => True)
    (htarget : (task.transfer original).carry? target = some target') :
    task.isDirect (keptScopes task original around) target' field =
      (target.isReferenceTo original && field.declaringShape == task.source) := by
  have holder : target.OlderThan task.root.identity := h.older.child (by simp [Expr.children])
  by_cases hparameter : ∃ q, target' = .parameter q
  · obtain ⟨q, rfl⟩ := hparameter
    obtain ⟨p, rfl, hq⟩ := Transfer.eq_parameter_of_carry? htarget
    have hp : p.identity < task.root.identity := holder.own rfl
    show _ = (p.denotes original && _)
    cases hdenotes : p.denotes original with
    | true =>
        obtain rfl : task.root = q := (if_pos hdenotes).symm.trans hq
        rw [h.kept.isDirect_root hplain, Bool.true_and]
    | false =>
        obtain rfl : p = q := (if_neg (by simp [Task.transfer, hdenotes])).symm.trans hq
        rw [Task.isDirect, (h.kept.placed hplain.older hplain.root).isIntroduced_of_lt hp,
          Bool.false_and]
  · have hother : target.isReferenceTo original = false := by
      cases target with
      | parameter p => exact (hparameter ⟨_, (Transfer.carry?_parameter.1 htarget).symm⟩).elim
      | _ => rfl
    rw [hother, Bool.false_and]
    unfold Task.isDirect
    split
    · rename_i q
      exact (hparameter ⟨q, rfl⟩).elim
    · rfl

/-- An access is settled by looking up its name on what its target is carried over to. -/
theorem Carried.resolve_settles (h : Carried task original around (.member target field))
    (hplain : task.Plain original fun _ => True) (hstrict : task.options.errorHandling = .throw)
    (htarget : (task.transfer original).carry? target = some target') :
    Settles (task.resolve (keptScopes task original around) ⟨target, field⟩ target')
      (do return .member target' (← (task.transfer original).field? target field target')) := by
  intro state
  have hholds : (fun _ : Unit => True) state.store := trivial
  obtain ⟨asked, hname, _⟩ := perform_destinationName hplain.faithful hholds field
    (task.isDirect (keptScopes task original around) target' field)
  rw [resolve_eq, perform_bind, hname, h.isDirect_eq hplain htarget]
  show (perform (task.conclude _ _ ((task.transfer original).name target field) _) asked).1.toOption
    = _
  rw [Task.conclude, Transfer.field?]
  show _ = (target'.shape?.bind fun shape => task.registry.member? shape _).bind _
  cases hfound : target'.shape?.bind fun shape =>
      task.registry.member? shape ((task.transfer original).name target field) with
  | some found => rfl
  | none =>
      rw [Task.missing, hstrict]
      rfl

/-- Arguments settle on what they are carried over to. -/
theorem argument_counterparts_settle {arguments : List Expr}
    (h : ∀ e ∈ arguments, Settles (counterpart task (keptScopes task original around) element e)
      ((task.transfer original).carry? e)) :
    Settles (argumentCounterparts task (keptScopes task original around) element arguments)
      ((task.transfer original).carryArguments? arguments) := by
  induction arguments with
  | nil => exact settles_pure []
  | cons argument rest ih =>
      rw [argumentCounterparts, Transfer.carryArguments?]
      refine settles_bind (h argument List.mem_cons_self) fun argument' _ => ?_
      refine settles_bind (ih fun e he => h e (List.mem_cons_of_mem _ he)) fun rest' _ => ?_
      exact settles_pure (argument' :: rest')

/-- Bindings settle on what they are carried over to. -/
theorem binding_counterparts_settle {bindings : List (String × Expr)}
    (h : ∀ b ∈ bindings, Settles (counterpart task (keptScopes task original around) none b.2)
      ((task.transfer original).carry? b.2)) :
    Settles (bindingCounterparts task (keptScopes task original around) bindings)
      ((task.transfer original).carryBindings? bindings) := by
  induction bindings with
  | nil => exact settles_pure []
  | cons binding rest ih =>
      rw [bindingCounterparts, Transfer.carryBindings?]
      refine settles_bind (h binding List.mem_cons_self) fun value' _ => ?_
      refine settles_bind (ih fun b hb => h b (List.mem_cons_of_mem _ hb)) fun rest' _ => ?_
      exact settles_pure ((binding.1, value') :: rest')

/-- The counterpart of an expression is what it is carried over to. -/
theorem counterpart_settles (hplain : task.Plain original fun _ => True)
    (hstrict : task.options.errorHandling = .throw) (h : Carried task original around e) :
    Settles (counterpart task (keptScopes task original around) element e)
      ((task.transfer original).carry? e) := by
  induction e generalizing around element with
  | parameter p =>
      rw [counterpart, h.replacement_eq]
      exact settles_pure _
  | member target field ih =>
      have hconsult : task.consult ⟨target, field⟩ = pure none := by
        rw [Task.consult, hplain.map]
      rw [counterpart, hconsult, pure_bind, Transfer.carry?]
      refine settles_bind (ih (h.of_child (by simp [Expr.children]) rfl)) fun target' htarget => ?_
      exact h.resolve_settles hplain hstrict htarget
  | constant value type =>
      rw [counterpart, Transfer.carry?]
      exact settles_pure _
  | binary op left right ihleft ihright =>
      rw [counterpart, Transfer.carry?]
      refine settles_bind (ihleft (h.of_child (by simp [Expr.children]) rfl)) fun left' _ => ?_
      refine settles_bind (ihright (h.of_child (by simp [Expr.children]) rfl)) fun right' _ => ?_
      exact settles_pure _
  | unary op operand ih =>
      rw [counterpart, Transfer.carry?]
      refine settles_bind (ih (h.of_child (by simp [Expr.children]) rfl)) fun operand' _ => ?_
      exact settles_pure _
  | call method receiver arguments ihreceiver iharguments =>
      rw [counterpart, Transfer.carry?]
      cases method.accepts arguments.length with
      | false => exact settles_throw _
      | true =>
          refine settles_bind (ihreceiver (h.of_child (by simp [Expr.children]) rfl))
            fun receiver' _ => ?_
          refine settles_bind (argument_counterparts_settle fun e he => ?_) fun arguments' _ => ?_
          · exact iharguments e he (h.of_child (by simp [Expr.children, he]) rfl)
          · exact settles_pure _
  | conditional test ifTrue ifFalse ihtest ihtrue ihfalse =>
      rw [counterpart, Transfer.carry?]
      refine settles_bind (ihtest (h.of_child (by simp [Expr.children]) rfl)) fun test' _ => ?_
      refine settles_bind (ihtrue (h.of_child (by simp [Expr.children]) rfl)) fun ifTrue' _ => ?_
      refine settles_bind (ihfalse (h.of_child (by simp [Expr.children]) rfl)) fun ifFalse' _ => ?_
      exact settles_pure _
  | lambda p body ih =>
      have hparameter : task.lambdaParameter element p = pure p := by
        rw [Task.lambdaParameter, if_neg (h.lambda p body (Expr.self_mem_nodes _)).1]
      rw [counterpart, hparameter, pure_bind, Transfer.carry?]
      refine settles_bind (ih h.body) fun body' _ => ?_
      exact settles_pure _
  | init shape bindings ih =>
      rw [counterpart, Transfer.carry?]
      refine settles_bind (binding_counterparts_settle fun b hb => ?_) fun bindings' _ => ?_
      · exact ih b hb (h.of_child (List.mem_map_of_mem hb) rfl)
      · exact settles_pure _

/-! ## Predicates -/

variable {registry : Registry} {options : Options} {predicate converted : Predicate}
  {source destination : String} {clock : Clock} {scope nextIdentity : Nat} {cache : Cache}

/-- `bodyTransfer registry options predicate source destination identity` is the transfer of the
body of a predicate over the source shape to a destination parameter with the given identity. -/
def bodyTransfer (registry : Registry) (options : Options) (predicate : Predicate)
    (source destination : String) (identity : Nat) : Transfer :=
  ⟨registry, options, source, predicate.parameter, rootParameter predicate destination identity⟩

/-- The body of a predicate over the source shape settles on what it is carried over to. -/
theorem body_settles (registry : Registry) (destination : String)
    (hranges : predicate.RangesOver source) (hcoherent : predicate.Coherent)
    (holder : predicate.OlderThan nextIdentity) (hmap : options.customMap = none)
    (hstrict : options.errorHandling = .throw) :
    Settles
      (counterpart (bodyTask registry options (.direct (registry.table 0)) predicate source
        destination nextIdentity)
        [(predicate.parameter, rootParameter predicate destination nextIdentity)] none
        predicate.body)
      ((bodyTransfer registry options predicate source destination nextIdentity).carry?
        predicate.body) := by
  have hplain : (bodyTask registry options (.direct (registry.table 0)) predicate source destination
      nextIdentity).Plain predicate.parameter fun _ => True :=
    ⟨hmap, ⟨fun _ _ _ => rfl, fun _ _ _ => trivial⟩, rfl, holder _ List.mem_cons_self⟩
  have hcarried : Carried (bodyTask registry options (.direct (registry.table 0)) predicate source
      destination nextIdentity) predicate.parameter [] predicate.body :=
    ⟨by simp [KeptAround], fun p hp => holder p (List.mem_cons_of_mem _ hp), hranges.closed,
      fun p body hnode => ⟨hranges.lambda p body hnode, hranges.lambda_apart hcoherent hnode⟩,
      fun p hp q hq => hcoherent p (List.mem_cons_of_mem _ hp) q (List.mem_cons_of_mem _ hq)⟩
  exact counterpart_settles hplain hstrict hcarried

/-- A conversion whose body has a counterpart succeeds if a boolean stays one. -/
theorem yields_run_of_body {σ : Type} {reader : AnnotationReader σ} (start : State σ)
    {middle : State σ} {body : Expr} (hshapes : shapes registry predicate destination = .ok source)
    (hbody : Yields (counterpart
        (bodyTask registry options reader predicate source destination start.nextIdentity)
        [(predicate.parameter, rootParameter predicate destination start.nextIdentity)] none
        predicate.body)
      (bodyState predicate source destination start) body middle)
    (hboolean : predicate.isBoolean →
      (⟨rootParameter predicate destination start.nextIdentity, body⟩ : Predicate).isBoolean) :
    ∃ finish, Yields (run registry options reader predicate destination) start
      ⟨rootParameter predicate destination start.nextIdentity, body⟩ finish := by
  let converted : Predicate := ⟨rootParameter predicate destination start.nextIdentity, body⟩
  refine ⟨{ middle with events := middle.events ++ [.finished converted] }, ?_⟩
  rw [run, yields_bind]
  refine ⟨source, start, by rw [Yields, perform_liftM, hshapes], ?_⟩
  simp only [yields_bind, yields_note, yields_fresh]
  refine ⟨(), _, rfl, _, _, ⟨rfl, rfl⟩, body, middle, hbody, ?_⟩
  split
  · rename_i hno
    rw [Bool.and_eq_true, Bool.not_eq_true'] at hno
    exact absurd (hboolean hno.1) (by rw [Bool.not_eq_true]; exact hno.2)
  · simp only [yields_bind, yields_note, yields_pure]
    exact ⟨(), _, rfl, rfl, rfl⟩

/-- A strict conversion from the table gives the predicate whose body the body is carried over to,
if both shapes are registered and a boolean stays one. -/
theorem convertDirectly_eq_ok_iff (hranges : predicate.RangesOver source)
    (hcoherent : predicate.Coherent) (holder : predicate.OlderThan nextIdentity)
    (hmap : options.customMap = none) (hstrict : options.errorHandling = .throw) :
    (predicate.convertDirectly registry options destination nextIdentity).1 = .ok converted ↔
      (registry.shape? source).isSome ∧ (registry.shape? destination).isSome ∧
        converted.parameter = rootParameter predicate destination nextIdentity ∧
        (bodyTransfer registry options predicate source destination nextIdentity).carry?
          predicate.body = some converted.body ∧
        (predicate.isBoolean → converted.isBoolean) := by
  let start : State Unit := ⟨nextIdentity, (), []⟩
  have hsettles := body_settles registry destination hranges hcoherent holder hmap hstrict
    (bodyState predicate source destination start)
  constructor
  · intro h
    have hyields : Yields (run registry options (.direct (registry.table 0)) predicate destination)
        start converted (predicate.convertDirectly registry options destination nextIdentity).2 :=
      Prod.ext h rfl
    obtain ⟨found, body, middle, hshapes, hbody, rfl, hboolean, _⟩ := yields_run hyields
    obtain ⟨hshape, hsource, hdestination⟩ := shapes_eq_ok hshapes
    obtain rfl : source = found := Option.some.inj (hranges.shape?.symm.trans hshape)
    refine ⟨hsource, hdestination, rfl, ?_, hboolean⟩
    rw [hbody] at hsettles
    exact hsettles.symm
  · rintro ⟨hsource, hdestination, hparameter, hcarry, hboolean⟩
    obtain ⟨p, body⟩ := converted
    obtain rfl : p = rootParameter predicate destination nextIdentity := hparameter
    rw [hcarry] at hsettles
    rcases hperform : perform (counterpart _ _ _ _) (bodyState predicate source destination start)
      with ⟨_ | found, middle⟩
    all_goals rw [hperform] at hsettles
    · cases hsettles
    · cases hsettles
      obtain ⟨finish, hrun⟩ := yields_run_of_body start
        (shapes_of_registered hranges.shape? hsource hdestination) hperform hboolean
      exact congrArg Prod.fst hrun

/-- Through a cache that agrees with the registry, a strict conversion gives the same. -/
theorem convert_eq_ok_iff (hranges : predicate.RangesOver source)
    (hcoherent : predicate.Coherent) (holder : predicate.OlderThan nextIdentity)
    (hmap : options.customMap = none) (hstrict : options.errorHandling = .throw)
    (hcache : cache.AgreesWith (registry.table scope)) :
    (predicate.convert registry options clock scope destination nextIdentity cache).1 =
        .ok converted ↔
      (registry.shape? source).isSome ∧ (registry.shape? destination).isSome ∧
        converted.parameter = rootParameter predicate destination nextIdentity ∧
        (bodyTransfer registry options predicate source destination nextIdentity).carry?
          predicate.body = some converted.body ∧
        (predicate.isBoolean → converted.isBoolean) := by
  obtain ⟨hsame, _⟩ := convert_mirrors_of_agrees options predicate destination nextIdentity clock
    hcache
  rw [← convertDirectly_eq_ok_iff hranges hcoherent holder hmap hstrict]
  exact Eq.congr_left hsame

/-- What a strict conversion gives, a conversion under any error handling gives without
substituting a default. -/
theorem convert_of_strict
    (hcache : cache.AgreesWith (registry.table scope))
    (h : (predicate.convertDirectly registry { options with errorHandling := .throw } destination
      nextIdentity).1 = .ok converted) :
    ∃ final, predicate.convert registry options clock scope destination nextIdentity cache =
      (.ok converted, final) ∧ final.substitutions = [] := by
  obtain ⟨hsame, hmirrors⟩ := convert_mirrors_of_agrees options predicate destination nextIdentity
    clock hcache
  have hlock := convertDirectly_lockstep registry options predicate destination nextIdentity
  obtain ⟨hlenient, hnone⟩ := (hlock.ok_iff rfl).1 h
  -- the strict conversion succeeds, so that it does what the lenient one does
  have hboth : (predicate.convertDirectly registry options destination nextIdentity).1 =
        .ok converted ∧
      (predicate.convertDirectly registry options destination nextIdentity).2.substitutions =
        [] := by
    obtain ⟨memberMap, customMap, handling⟩ := options
    cases handling with
    | returnDefault => exact ⟨hlenient, hnone⟩
    | throw =>
        rcases hlock.together with ⟨heq, _⟩ | ⟨first, rest, hfailure, _⟩
        · exact ⟨h, by rw [← hnone, ← heq]⟩
        · rw [hfailure] at h
          cases h
  exact ⟨_, Prod.ext (hsame.trans hboth.1) rfl, hmirrors.substitutions.trans hboth.2⟩

/-- A strict conversion that succeeds substitutes no default. -/
theorem substitutions_of_strict (hstrict : options.errorHandling = .throw)
    (hcache : cache.AgreesWith (registry.table scope)) {final : State Cache}
    (hconvert : predicate.convert registry options clock scope destination nextIdentity cache =
      (.ok converted, final)) : final.substitutions = [] := by
  have hoptions : { options with errorHandling := .throw } = options := by
    rw [← hstrict]
  obtain ⟨hsame, _⟩ := convert_mirrors_of_agrees options predicate destination nextIdentity clock
    hcache
  have hdirect : (predicate.convertDirectly registry { options with errorHandling := .throw }
      destination nextIdentity).1 = .ok converted := by
    rw [hoptions, ← hsame, hconvert]
  obtain ⟨found, hfound, hnone⟩ := convert_of_strict hcache hdirect
  rw [hconvert] at hfound
  cases hfound
  exact hnone

end Conversion

/-! ## Orders with a large item -/

namespace Sample

/-- `largeOver p items total` asks for items that are counted above the total, given a parameter and
its fields for both. -/
def largeOver (p : Parameter) (items total : FieldDescriptor) : Predicate where
  parameter := p
  body := .call .any (.member (.parameter p) items)
    [.lambda entry
      (.binary .greater (.member (.parameter entry) ⟨"Count", .integer, "Item"⟩)
        (.member (.parameter p) total))]

/-- `large` asks for an order with an item counted above the total. -/
def large : Predicate :=
  largeOver parameter ⟨"Items", .list (.shape "Item"), "Order"⟩ ⟨"Total", .integer, "Order"⟩

/-- `largeView` is the counterpart of `large` over views. -/
def largeView : Predicate :=
  largeOver ⟨2, some "o", .shape "View"⟩ ⟨"Items", .list (.shape "Item"), "View"⟩
    ⟨"Amount", .integer, "View"⟩

theorem large_coherent : large.Coherent := by
  unfold Predicate.Coherent
  decide

theorem large_olderThan : large.OlderThan 2 := by
  unfold Predicate.OlderThan
  decide

theorem large_readsFieldsOf : large.ReadsFieldsOf "Order" where
  type := rfl
  closed := by
    simp (disch := decide) [large, largeOver, entry, parameter, Expr.closedIn_parts,
      Expr.closedIn_parameter, Expr.closedIn_lambda, Expr.children, Parameter.denotes]
  lambda := by
    simp [large, largeOver, entry, Expr.nodes, Expr.nodesOfArguments, Parameter.shape?,
      FieldType.shapeName?]
  bare := rfl
  read := by
    simp [large, largeOver, entry, parameter, Expr.nodes, Expr.nodesOfArguments, Expr.children,
      Expr.isReferenceTo, Parameter.denotes]

theorem large_lambda {p : Parameter} {body : Expr} (hnode : .lambda p body ∈ large.body.nodes) :
    p = entry := by
  simp only [large, largeOver, Expr.nodes, Expr.nodesOfArguments, List.append_nil,
    List.cons_append, List.nil_append, List.mem_cons, Expr.lambda.injEq, reduceCtorEq, false_or,
    List.not_mem_nil, or_false] at hnode
  exact hnode.1

/-- The accesses of `large`. -/
theorem large_accesses {target : Expr} {field : FieldDescriptor}
    (hnode : .member target field ∈ large.body.nodes) :
    target = .parameter parameter ∧ field = ⟨"Items", .list (.shape "Item"), "Order"⟩ ∨
      target = .parameter entry ∧ field = ⟨"Count", .integer, "Item"⟩ ∨
      target = .parameter parameter ∧ field = ⟨"Total", .integer, "Order"⟩ := by
  simpa [large, largeOver, Expr.nodes, Expr.nodesOfArguments] using hnode

end Sample

end Reshape
