import Mathlib.Data.Set.Basic
import Reshape.Proofs.Conversion.Isolation
import Reshape.Proofs.Conversion.Reading
import Reshape.Proofs.Document.Represents
import Reshape.Proofs.Shape.History
import Reshape.Shape.Record

/-!
# Models that grow

What works over a registry still works, with the same result, when more shapes have been registered:
records are read, documents are bound and predicates are converted as before. A conversion over a
registry whose fields mention registered shapes only, of a predicate that does the same, looks
nothing up on any other shape; so it fails as before as well. Both are one induction over the
expression, for the two conversions side by side: `Conversion.keeps_counterpart`.
-/

namespace Reshape

variable {registry later : Registry}

/-! ## Records -/

namespace Registry

/-- `Kept result result'` says that a reading that succeeds still does, with the same value. -/
def Kept {α : Type} (result result' : Except ValueError α) : Prop :=
  ∀ a, result = .ok a → result' = .ok a

/-- Results for members of the same names, those that succeed being kept. -/
abbrev KeptMembers (results results' : List (String × Except ValueError Value)) : Prop :=
  List.Forall₂ (fun member member' => member.1 = member'.1 ∧ Kept member.2 member'.2) results
    results'

/-- The value of a field is kept when the results for the members are. -/
theorem fieldValue_kept {results results' : List (String × Except ValueError Value)}
    (h : KeptMembers results results') (field : FieldDescriptor) :
    Kept (fieldValue results field) (fieldValue results' field) := by
  induction h with
  | nil => exact fun _ hvalue => hvalue
  | @cons member member' rest rest' hmember _ ih =>
      obtain ⟨name, result⟩ := member
      obtain ⟨name', result'⟩ := member'
      obtain ⟨rfl, hresult⟩ := hmember
      intro value hvalue
      rw [fieldValue, Entries.lookup_entry_cons] at hvalue ⊢
      by_cases hname : field.name = name
      · rw [if_pos hname] at hvalue ⊢
        exact hresult value hvalue
      · rw [if_neg hname] at hvalue ⊢
        exact ih value hvalue

/-- A record is kept when the results for its members are. -/
theorem assemble_kept {shape : Shape} {results results' : List (String × Except ValueError Value)}
    (h : KeptMembers results results') :
    Kept (assemble shape results) (assemble shape results') := by
  intro record hrecord
  rw [assemble] at hrecord ⊢
  split at hrecord
  · cases hrecord
  · rename_i hknown
    have hknown' : (results'.find? fun member => !shape.hasField member.1) = none := by
      rw [List.find?_eq_none] at hknown ⊢
      intro member' hmember'
      obtain ⟨member, hmember, hname, _⟩ := exists_left_of_forall₂ h hmember'
      exact hname ▸ hknown member hmember
    rw [hknown']
    obtain ⟨fields, hfields, hrecord⟩ := except_bind_eq_ok.1 hrecord
    refine except_bind_eq_ok.2 ⟨fields, mapM_eq_ok.2 ?_, hrecord⟩
    refine (mapM_eq_ok.1 hfields).imp fun field entry hentry => ?_
    obtain ⟨value, hvalue, hentry⟩ := except_bind_eq_ok.1 hentry
    exact except_bind_eq_ok.2 ⟨value, fieldValue_kept h field value hvalue, hentry⟩

mutual

/-- JSON that is read as a value of a type is read as the same value. -/
theorem Extends.valueOfJson_kept (h : registry.Extends later) (json : Json) (type : FieldType) :
    Kept (registry.valueOfJson json type) (later.valueOfJson json type) := by
  intro value hvalue
  cases json with
  | null => exact hvalue
  | bool b => exact hvalue
  | number number => exact hvalue
  | string text => exact hvalue
  | array items =>
      rw [valueOfJson] at hvalue ⊢
      split at hvalue
      · obtain ⟨values, hvalues, rfl⟩ := except_map_eq_ok.1 hvalue
        exact except_map_eq_ok.2 ⟨values, h.itemsOfJson_kept _ items values hvalues, rfl⟩
      · exact hvalue
  | object members =>
      rw [valueOfJson] at hvalue ⊢
      split at hvalue
      · split at hvalue
        · rename_i shape hshape
          simp only [h.shape?_eq_some hshape]
          exact assemble_kept (h.memberResults_kept shape members) value hvalue
        · cases hvalue
      · exact hvalue

/-- Items that are read under a registry are read alike under one that extends it. -/
theorem Extends.itemsOfJson_kept (h : registry.Extends later) (element : FieldType)
    (items : List Json) :
    Kept (registry.itemsOfJson element items) (later.itemsOfJson element items) := by
  intro values hvalues
  cases items with
  | nil => exact hvalues
  | cons item rest =>
      rw [itemsOfJson] at hvalues ⊢
      obtain ⟨value, hvalue, hvalues⟩ := except_bind_eq_ok.1 hvalues
      obtain ⟨others, hothers, hvalues⟩ := except_bind_eq_ok.1 hvalues
      exact except_bind_eq_ok.2 ⟨value, h.valueOfJson_kept item element value hvalue,
        except_bind_eq_ok.2 ⟨others, h.itemsOfJson_kept element rest others hothers, hvalues⟩⟩

/-- Members that are read under a registry are read alike under one that extends it. -/
theorem Extends.memberResults_kept (h : registry.Extends later) (shape : Shape)
    (members : List (String × Json)) :
    KeptMembers (registry.memberResults shape members) (later.memberResults shape members) := by
  cases members with
  | nil => exact .nil
  | cons member rest =>
      obtain ⟨name, json⟩ := member
      rw [memberResults, memberResults]
      exact .cons ⟨rfl, h.valueOfJson_kept json _⟩ (h.memberResults_kept shape rest)

end

/-- A record that is read is read as the same record. -/
theorem Extends.recordOfJson_kept (h : registry.Extends later) (shape : String) (json : Json) :
    Kept (registry.recordOfJson shape json) (later.recordOfJson shape json) := by
  intro record hrecord
  rw [recordOfJson] at hrecord ⊢
  split at hrecord
  · cases hrecord
  · rename_i found hfound
    rw [h.shape?_eq_some hfound]
    split at hrecord
    · exact assemble_kept (h.memberResults_kept found _) record hrecord
    · cases hrecord

end Registry

/-! ## Documents -/

namespace Document

variable {scopes : List Parameter} {start finish : Nat}

/-- An access that is found is found as before. -/
theorem access_kept (h : registry.Extends later) {target e : Expr} {field : String}
    (haccess : Expr.access registry target field = .ok e) :
    Expr.access later target field = .ok e := by
  rw [Expr.access] at haccess ⊢
  split at haccess
  · cases haccess
  · split at haccess
    · rename_i found hfound
      rw [h.member?_eq_some hfound]
      exact haccess
    · cases haccess

/-- Arguments that are bound stay so when each of them does. -/
theorem binds_arguments_kept {nodes : List Node} {es : List Expr}
    (hnodes : ∀ node ∈ nodes, ∀ {start finish : Nat} {e : Expr},
      Binds (bindNode registry scopes node) start e finish →
        Binds (bindNode later scopes node) start e finish)
    (h : Binds (bindArguments registry scopes nodes) start es finish) :
    Binds (bindArguments later scopes nodes) start es finish := by
  induction nodes generalizing start es with
  | nil => exact h
  | cons node rest ih =>
      obtain ⟨e, middle, rest', he, hrest, rfl⟩ := binds_arguments_cons.1 h
      exact binds_arguments_cons.2 ⟨e, middle, rest', hnodes node List.mem_cons_self he,
        ih (fun node hnode => hnodes node (List.mem_cons_of_mem _ hnode)) hrest, rfl⟩

theorem binds_bindings_kept {nodes : List (String × Node)} {bindings : List (String × Expr)}
    (hnodes : ∀ binding ∈ nodes, ∀ {start finish : Nat} {e : Expr},
      Binds (bindNode registry scopes binding.2) start e finish →
        Binds (bindNode later scopes binding.2) start e finish)
    (h : Binds (bindBindings registry scopes nodes) start bindings finish) :
    Binds (bindBindings later scopes nodes) start bindings finish := by
  induction nodes generalizing start bindings with
  | nil => exact h
  | cons binding rest ih =>
      obtain ⟨e, middle, rest', he, hrest, rfl⟩ := binds_bindings_cons.1 h
      exact binds_bindings_cons.2 ⟨e, middle, rest', hnodes binding List.mem_cons_self he,
        ih (fun binding hbinding => hnodes binding (List.mem_cons_of_mem _ hbinding)) hrest, rfl⟩

/-- A node that is bound is bound to the same expression. -/
theorem binds_node_kept (hextends : registry.Extends later) {node : Node} {e : Expr}
    (h : Binds (bindNode registry scopes node) start e finish) :
    Binds (bindNode later scopes node) start e finish := by
  induction node generalizing scopes start finish e with
  | parameter name => exact h
  | member target field ih =>
      obtain ⟨target', htarget, haccess⟩ := binds_member.1 h
      exact binds_member.2 ⟨target', ih htarget, access_kept hextends haccess⟩
  | constant value type => exact h
  | binary op left right ihleft ihright =>
      obtain ⟨left', middle, right', hleft, hright, rfl⟩ := binds_binary.1 h
      exact binds_binary.2 ⟨left', middle, right', ihleft hleft, ihright hright, rfl⟩
  | unary op operand ih =>
      obtain ⟨operand', hoperand, rfl⟩ := binds_unary.1 h
      exact binds_unary.2 ⟨operand', ih hoperand, rfl⟩
  | call method receiver arguments ihreceiver iharguments =>
      obtain ⟨receiver', middle, arguments', hreceiver, harguments, rfl⟩ := binds_call.1 h
      exact binds_call.2 ⟨receiver', middle, arguments', ihreceiver hreceiver,
        binds_arguments_kept (fun node hnode => iharguments node hnode) harguments, rfl⟩
  | conditional test ifTrue ifFalse ihtest ihtrue ihfalse =>
      obtain ⟨test', tested, ifTrue', middle, ifFalse', htest, htrue, hfalse, rfl⟩ :=
        binds_conditional.1 h
      exact binds_conditional.2 ⟨test', tested, ifTrue', middle, ifFalse', ihtest htest,
        ihtrue htrue, ihfalse hfalse, rfl⟩
  | lambda name text body ih =>
      obtain ⟨type, body', htype, hbody, rfl⟩ := binds_lambda.1 h
      exact binds_lambda.2 ⟨type, body', htype, ih hbody, rfl⟩
  | init shape bindings ih =>
      obtain ⟨bindings', hbindings, rfl⟩ := binds_init.1 h
      exact binds_init.2 ⟨bindings',
        binds_bindings_kept (fun binding hbinding => ih binding hbinding) hbindings, rfl⟩

/-- A document that is bound is bound to the same predicate. -/
theorem bind_kept (hextends : registry.Extends later) {document : Document} {identity : Nat}
    {result : Predicate × Nat} (h : document.bind registry identity = .ok result) :
    document.bind later identity = .ok result := by
  obtain ⟨predicate, next⟩ := result
  obtain ⟨hshape, hparameter, hbody⟩ := bind_eq_ok.1 h
  refine bind_eq_ok.2 ⟨?_, hparameter, binds_node_kept hextends hbody⟩
  rwa [hextends.shape? _ hshape]

end Document

/-! ## Types that occur -/

/-- `e.ownTypes` are the types that the root of `e` is given. -/
def Expr.ownTypes : Expr → List FieldType
  | .parameter p => [p.type]
  | .member _ field => [field.type]
  | .constant _ type => [type]
  | .lambda p _ => [p.type]
  | .init shape _ => [.shape shape]
  | _ => []

/-- `e.types` are the types that occur in `e`: of parameters, accessed fields and constants, and the
shapes that are initialized. -/
def Expr.types (e : Expr) : List FieldType := e.nodes.flatMap Expr.ownTypes

/-- `predicate.types` are the types that occur in a predicate. -/
def Predicate.types (predicate : Predicate) : List FieldType :=
  predicate.parameter.type :: predicate.body.types

/-- The types at the top of an expression are among its types. -/
theorem Expr.mem_types_of_own {e : Expr} {type : FieldType} (h : type ∈ e.ownTypes) :
    type ∈ e.types :=
  List.mem_flatMap.2 ⟨e, e.self_mem_nodes, h⟩

theorem Expr.mem_types_of_child {e part : Expr} {type : FieldType} (h : type ∈ part.types)
    (hpart : part ∈ e.children) : type ∈ e.types := by
  obtain ⟨node, hnode, htype⟩ := List.mem_flatMap.1 h
  exact List.mem_flatMap.2 ⟨node, mem_nodes_of_child hnode hpart, htype⟩

/-- `registry.registered` are the names of the registered shapes. -/
def Registry.registered (registry : Registry) : Set String := {name | name ∈ registry.shapeNames}

/-- `registry.GrownTo later names failing options` says that `later` extends a registry in which
fields mention only `names`, without a custom map. If `failing`, the names are registered, so that
what is not found is not found later either; else a conversion fails where something is not
found. -/
structure Registry.GrownTo (registry later : Registry) (names : Set String) (failing : Prop)
    (options : Options) : Prop where
  grows : registry.Extends later
  closed {shape name : String} {field : FieldDescriptor} :
    registry.member? shape name = some field → field.type.MentionsOnly names
  registered : failing → ∀ name ∈ names, (registry.shape? name).isSome
  strict : failing ∨ options.errorHandling = .throw
  plain : options.customMap = none

namespace Conversion

variable {α β : Type}

/-! ## Related actions -/

/-- `Keeps failing holds action action'` says that `action'` succeeds with the same result, and
leaves the same state, when `action` succeeds, which it does with results that have the property
`holds`; and if `failing`, that it fails with the same code when `action` fails. -/
structure Keeps (failing : Prop) (holds : α → Prop) (action action' : Action Unit α) : Prop where
  success {start finish : State Unit} {a : α} :
    Yields action start a finish → holds a ∧ Yields action' start a finish
  failure {start : State Unit} {error : Error} : failing →
    (perform action start).1 = .error error →
      ∃ error', (perform action' start).1 = .error error' ∧ error'.code = error.code

variable {failing : Prop} {holds : α → Prop} {holds' : β → Prop}

/-- An action goes with itself. -/
theorem keeps_self {action : Action Unit α}
    (h : ∀ {start finish a}, Yields action start a finish → holds a) :
    Keeps failing holds action action where
  success hyields := ⟨h hyields, hyields⟩
  failure _ herror := ⟨_, herror, rfl⟩

/-- A result that is given is kept. -/
theorem keeps_pure {a : α} (h : holds a) : Keeps failing holds (pure a) (pure a) :=
  keeps_self fun hyields => (yields_pure.1 hyields).1 ▸ h

/-- An error is kept when its code is. -/
theorem keeps_throw {error error' : Error} (h : error'.code = error.code) :
    Keeps failing holds (throw error) (throw error') where
  success hyields := absurd hyields yields_throw
  failure _ herror := ⟨error', rfl, by cases herror; exact h⟩

/-- A new parameter has the type that it is given. -/
theorem keeps_fresh {names : Set String} (name : Option String) {type : FieldType}
    (h : type.MentionsOnly names) :
    Keeps failing (fun p => p.type.MentionsOnly names) (fresh name type) (fresh name type) := by
  refine keeps_self fun hyields => ?_
  obtain ⟨rfl, _⟩ := yields_fresh.1 hyields
  exact h

/-- Composed actions go with each other when both parts do. -/
theorem keeps_bind {action action' : Action Unit α} {next next' : α → Action Unit β}
    (h : Keeps failing holds action action')
    (hnext : ∀ a, holds a → Keeps failing holds' (next a) (next' a)) :
    Keeps failing holds' (action >>= next) (action' >>= next') where
  success hyields := by
    obtain ⟨a, middle, hfirst, hsecond⟩ := yields_bind.1 hyields
    obtain ⟨ha, hfirst⟩ := h.success hfirst
    obtain ⟨hb, hsecond⟩ := (hnext a ha).success hsecond
    exact ⟨hb, yields_bind.2 ⟨a, middle, hfirst, hsecond⟩⟩
  failure {start error} hfailing herror := by
    rw [perform_bind] at herror ⊢
    rcases hfirst : perform action start with ⟨first | a, middle⟩
    · rw [hfirst] at herror
      obtain ⟨error', herror', hcode⟩ := h.failure hfailing (congrArg Prod.fst hfirst)
      cases herror
      rcases hsecond : perform action' start with ⟨second, middle'⟩
      rw [hsecond] at herror'
      obtain rfl : second = .error error' := herror'
      exact ⟨error', rfl, hcode⟩
    · rw [hfirst] at herror
      obtain ⟨ha, hyields⟩ := h.success hfirst
      rw [hyields]
      exact (hnext a ha).failure hfailing herror

/-! ## Steps -/

/-- `plainTask registry options source destination root` is a task that reads annotations from the
registry itself. -/
def plainTask (registry : Registry) (options : Options) (source destination : String)
    (root : Parameter) : Task Unit :=
  ⟨registry, options, source, destination, root, .direct (registry.table 0)⟩

variable {names : Set String} {options : Options} {source destination : String} {root : Parameter}
  {scopes : Scopes} {element : Option String}

/-- The annotation of a field of the source shape is as before, so an access is looked up under the
same name. -/
theorem destinationName_grown (hgrown : registry.GrownTo later names failing options)
    (hsource : (registry.shape? source).isSome) {field : FieldDescriptor} {direct : Bool}
    (hdirect : direct = true → field.declaringShape = source) :
    (plainTask later options source destination root).destinationName field direct =
      (plainTask registry options source destination root).destinationName field direct := by
  cases direct with
  | false => rfl
  | true =>
      have hannotation : later.mapsTo? field.id = registry.mapsTo? field.id := by
        refine hgrown.grows.mapsTo? field.id ?_
        rwa [FieldDescriptor.id, hdirect rfl]
      have hread : annotationOf (.direct (later.table 0)) field.id =
          annotationOf (.direct (registry.table 0)) field.id := by
        simp only [annotationOf, AnnotationReader.direct, Registry.table, hannotation]
      simp only [Task.destinationName, plainTask, hread]

/-- What is not found on a shape of the names is not found later, if failing is kept as well. -/
theorem member?_eq_none (hgrown : registry.GrownTo later names failing options)
    (hfailing : failing) {target : Expr} (htarget : target.resultType.MentionsOnly names)
    {name : String}
    (hnone : (target.shape?.bind fun shape => registry.member? shape name) = none) :
    (target.shape?.bind fun shape => later.member? shape name) = none := by
  rw [Option.bind_eq_none_iff] at hnone ⊢
  intro shape hshape
  have hregistered := hgrown.registered hfailing shape (htarget.shapeName hshape)
  rw [hgrown.grows.member? hregistered]
  exact hnone shape hshape

/-- An access whose target has a type of the names is concluded as before. -/
theorem keeps_conclude (hgrown : registry.GrownTo later names failing options)
    {access : MemberAccess} (haccess : access.field.type.MentionsOnly names) {target : Expr}
    (htarget : target.resultType.MentionsOnly names) (name : String) (origin : NameOrigin) :
    Keeps failing (fun e' => e'.resultType.MentionsOnly names)
      ((plainTask registry options source destination root).conclude access target name origin)
      ((plainTask later options source destination root).conclude access target name origin) := by
  rw [Task.conclude, Task.conclude]
  dsimp only [plainTask]
  cases hfound : target.shape?.bind fun shape => registry.member? shape name with
  | some field =>
      obtain ⟨shape, hshape, hfield⟩ := Option.bind_eq_some_iff.1 hfound
      have hlater : (target.shape?.bind fun shape => later.member? shape name) = some field :=
        Option.bind_eq_some_iff.2 ⟨shape, hshape, hgrown.grows.member?_eq_some hfield⟩
      rw [hlater]
      refine keeps_bind (keeps_self fun _ => trivial) fun _ _ => ?_
      exact keeps_pure (hgrown.closed hfield)
  | none =>
      cases hhandling : options.errorHandling with
      | throw =>
          simp only [Task.missing, hhandling]
          refine ⟨fun hyields => absurd hyields yields_throw, fun hfailing herror => ?_⟩
          rw [member?_eq_none hgrown hfailing htarget hfound]
          exact ⟨_, rfl, by cases herror; rfl⟩
      | returnDefault =>
          have hfailing : failing := hgrown.strict.resolve_right (by simp [hhandling])
          rw [member?_eq_none hgrown hfailing htarget hfound]
          simp only [Task.missing, hhandling]
          refine keeps_bind (keeps_self fun _ => trivial) fun _ _ => ?_
          exact keeps_pure haccess

/-- An access whose target has a type of the names is resolved as before. -/
theorem keeps_resolve (hgrown : registry.GrownTo later names failing options)
    (hsource : (registry.shape? source).isSome) {access : MemberAccess}
    (haccess : access.field.type.MentionsOnly names) {target : Expr}
    (htarget : target.resultType.MentionsOnly names) :
    Keeps failing (fun e' => e'.resultType.MentionsOnly names)
      ((plainTask registry options source destination root).resolve scopes access target)
      ((plainTask later options source destination root).resolve scopes access target) := by
  have hdirect : (plainTask registry options source destination root).isDirect scopes target
      access.field = true → access.field.declaringShape = source := source_of_isDirect
  have hsame : (plainTask later options source destination root).isDirect scopes target
      access.field = (plainTask registry options source destination root).isDirect scopes target
        access.field := rfl
  rw [resolve_eq, resolve_eq, hsame, destinationName_grown hgrown hsource hdirect]
  exact keeps_bind (keeps_self fun _ => trivial) fun name _ =>
    keeps_conclude hgrown haccess htarget name.1 name.2

/-- There is no custom map to give an answer. -/
theorem keeps_consult (hgrown : registry.GrownTo later names failing options)
    {access : MemberAccess} :
    Keeps failing (fun answer => answer = none)
      ((plainTask registry options source destination root).consult access)
      ((plainTask later options source destination root).consult access) := by
  rw [Task.consult, Task.consult]
  simp only [plainTask, hgrown.plain]
  exact keeps_pure rfl

/-- The parameter of a lambda is the same, and of a type of the names. -/
theorem keeps_lambdaParameter (hdestination : destination ∈ names)
    (helement : ∀ shape, element = some shape → shape ∈ names) {p : Parameter}
    (hp : p.type.MentionsOnly names) :
    Keeps failing (fun p' => p'.type.MentionsOnly names)
      ((plainTask registry options source destination root).lambdaParameter element p)
      ((plainTask later options source destination root).lambdaParameter element p) := by
  refine keeps_self fun hyields => ?_
  rcases yields_lambdaParameter hyields with ⟨_, rfl, _⟩ | ⟨_, rfl, _⟩
  · cases element with
    | none => exact FieldType.mentionsOnly_shape hdestination
    | some shape => exact FieldType.mentionsOnly_shape (helement shape rfl)
  · exact hp

/-! ## Expressions -/

/-- What comes of arguments is kept when it is for each of them. -/
theorem keeps_arguments {task task' : Task Unit} {holds : Expr → Prop} {arguments : List Expr}
    (h : ∀ e ∈ arguments, Keeps failing holds (counterpart task scopes element e)
      (counterpart task' scopes element e)) :
    Keeps failing (fun _ => True) (argumentCounterparts task scopes element arguments)
      (argumentCounterparts task' scopes element arguments) := by
  induction arguments with
  | nil => exact keeps_pure trivial
  | cons argument rest ih =>
      rw [argumentCounterparts, argumentCounterparts]
      refine keeps_bind (h argument List.mem_cons_self) fun _ _ => ?_
      exact keeps_bind (ih fun e he => h e (List.mem_cons_of_mem _ he)) fun _ _ =>
        keeps_pure trivial

theorem keeps_bindings {task task' : Task Unit} {holds : Expr → Prop}
    {bindings : List (String × Expr)}
    (h : ∀ binding ∈ bindings, Keeps failing holds (counterpart task scopes none binding.2)
      (counterpart task' scopes none binding.2)) :
    Keeps failing (fun _ => True) (bindingCounterparts task scopes bindings)
      (bindingCounterparts task' scopes bindings) := by
  induction bindings with
  | nil => exact keeps_pure trivial
  | cons binding rest ih =>
      rw [bindingCounterparts, bindingCounterparts]
      refine keeps_bind (h binding List.mem_cons_self) fun _ _ => ?_
      exact keeps_bind (ih fun b hb => h b (List.mem_cons_of_mem _ hb)) fun _ _ =>
        keeps_pure trivial

/-- An expression all of whose types are of the names is converted as before, to one of such a
type. The types of the counterparts carry the induction, since fields are looked up on them and
lambdas over items take over their elements. -/
theorem keeps_counterpart (hgrown : registry.GrownTo later names failing options)
    (hsource : (registry.shape? source).isSome) (hdestination : destination ∈ names)
    (hroot : root.type.MentionsOnly names)
    (hscopes : ∀ scope ∈ scopes, scope.2.type.MentionsOnly names)
    (helement : ∀ shape, element = some shape → shape ∈ names) {e : Expr}
    (he : ∀ type ∈ e.types, type.MentionsOnly names) :
    Keeps failing (fun e' => e'.resultType.MentionsOnly names)
      (counterpart (plainTask registry options source destination root) scopes element e)
      (counterpart (plainTask later options source destination root) scopes element e) := by
  have hnone : ∀ shape, (none : Option String) = some shape → shape ∈ names := by simp
  have hown {e : Expr} (he : ∀ type ∈ e.types, type.MentionsOnly names) {type : FieldType}
      (htype : type ∈ e.ownTypes) : type.MentionsOnly names := he type (Expr.mem_types_of_own htype)
  have hchild {e part : Expr} (he : ∀ type ∈ e.types, type.MentionsOnly names)
      (hpart : part ∈ e.children) : ∀ type ∈ part.types, type.MentionsOnly names :=
    fun type htype => he type (Expr.mem_types_of_child htype hpart)
  induction e generalizing scopes element with
  | parameter p =>
      rw [counterpart, counterpart]
      refine keeps_pure (replacement_mentionsOnly (fun _ => ?_) hroot hscopes)
      exact hown he (by simp [Expr.ownTypes])
  | member target field ih =>
      rw [counterpart, counterpart]
      refine keeps_bind (keeps_consult hgrown) ?_
      rintro _ rfl
      refine keeps_bind (ih hscopes hnone (hchild he (by simp [Expr.children]))) ?_
      intro target' htarget
      exact keeps_resolve hgrown hsource (hown he (by simp [Expr.ownTypes])) htarget
  | constant value type =>
      rw [counterpart, counterpart]
      have htype : type.MentionsOnly names := hown he (by simp [Expr.ownTypes])
      exact keeps_pure htype
  | binary op left right ihleft ihright =>
      rw [counterpart, counterpart]
      refine keeps_bind (ihleft hscopes hnone (hchild he (by simp [Expr.children]))) ?_
      intro left' hleft
      refine keeps_bind (ihright hscopes hnone (hchild he (by simp [Expr.children]))) ?_
      intro right' _
      refine keeps_pure ?_
      rw [Expr.resultType]
      split
      · exact FieldType.mentionsOnly_of_mentioned_none rfl
      · exact Expr.arithmeticType_mentionsOnly hleft
  | unary op operand ih =>
      rw [counterpart, counterpart]
      refine keeps_bind (ih hscopes hnone (hchild he (by simp [Expr.children]))) ?_
      intro operand' hoperand
      refine keeps_pure ?_
      cases op with
      | not => exact FieldType.mentionsOnly_of_mentioned_none rfl
      | negate => exact hoperand
  | call method receiver arguments ihreceiver iharguments =>
      rw [counterpart, counterpart]
      split
      · refine keeps_bind (ihreceiver hscopes hnone (hchild he (by simp [Expr.children]))) ?_
        intro receiver' hreceiver
        have harguments := fun e (hmem : e ∈ arguments) => iharguments e hmem hscopes
          (fun shape => hreceiver.elementShapeName) (hchild he (by simp [Expr.children, hmem]))
        refine keeps_bind (keeps_arguments harguments) fun arguments' _ => keeps_pure ?_
        cases method <;> exact FieldType.mentionsOnly_of_mentioned_none rfl
      · exact keeps_throw rfl
  | conditional test ifTrue ifFalse ihtest ihtrue ihfalse =>
      rw [counterpart, counterpart]
      refine keeps_bind (ihtest hscopes hnone (hchild he (by simp [Expr.children]))) fun _ _ => ?_
      refine keeps_bind (ihtrue hscopes hnone (hchild he (by simp [Expr.children]))) ?_
      intro ifTrue' htrue
      refine keeps_bind (ihfalse hscopes hnone (hchild he (by simp [Expr.children]))) fun _ _ => ?_
      exact keeps_pure htrue
  | lambda p body ih =>
      rw [counterpart, counterpart]
      have hp : p.type.MentionsOnly names := hown he (by simp [Expr.ownTypes])
      refine keeps_bind (keeps_lambdaParameter hdestination helement hp) fun p' hp' => ?_
      have hinner : ∀ scope ∈ (p, p') :: scopes, scope.2.type.MentionsOnly names := by
        simpa [hp'] using hscopes
      refine keeps_bind (ih hinner hnone (hchild he (by simp [Expr.children]))) ?_
      exact fun body' hbody => keeps_pure hbody
  | init shape bindings ih =>
      rw [counterpart, counterpart]
      have hbindings := fun b (hb : b ∈ bindings) =>
        ih b hb hscopes hnone (hchild he (List.mem_map_of_mem hb))
      have hshape : (FieldType.shape shape).MentionsOnly names := hown he (by simp [Expr.ownTypes])
      exact keeps_bind (keeps_bindings hbindings) fun bindings' _ => keeps_pure hshape

/-! ## Predicates -/

variable {predicate : Predicate}

/-- The two shapes are there as before. If failing is kept as well, the source shape is one of the
names and so is there, like the destination shape. -/
theorem keeps_shapes (hgrown : registry.GrownTo later names failing options)
    (hdestination : destination ∈ names)
    (hparameter : predicate.parameter.type.MentionsOnly names) :
    Keeps failing (fun source => (registry.shape? source).isSome)
      (liftM (shapes registry predicate destination))
      (liftM (shapes later predicate destination)) where
  success {start finish source} hyields := by
    rw [Yields, perform_liftM, Prod.mk.injEq] at hyields ⊢
    obtain ⟨hshapes, rfl⟩ := hyields
    obtain ⟨hshape, hsource, hregistered⟩ := shapes_eq_ok hshapes
    refine ⟨hsource, shapes_of_registered hshape ?_ ?_, rfl⟩
    · rwa [hgrown.grows.shape? _ hsource]
    · rwa [hgrown.grows.shape? _ hregistered]
  failure {start error} hfailing herror := by
    rw [perform_liftM] at herror ⊢
    cases hshape : predicate.shape? with
    | none =>
        rw [shapes, hshape] at herror ⊢
        exact ⟨error, herror, rfl⟩
    | some source =>
        have hsource := hgrown.registered hfailing source (hparameter.shapeName hshape)
        have hregistered := hgrown.registered hfailing destination hdestination
        rw [shapes_of_registered hshape hsource hregistered] at herror
        cases herror

/-- A predicate all of whose types are of the names is converted as before. -/
theorem keeps_run (hgrown : registry.GrownTo later names failing options)
    (hdestination : destination ∈ names)
    (htypes : ∀ type ∈ predicate.types, type.MentionsOnly names) :
    Keeps failing (fun _ => True)
      (run registry options (.direct (registry.table 0)) predicate destination)
      (run later options (.direct (later.table 0)) predicate destination) := by
  obtain ⟨hparameter, hbody⟩ := List.forall_mem_cons.1 htypes
  have hdestinationType : (FieldType.shape destination).MentionsOnly names :=
    FieldType.mentionsOnly_shape hdestination
  rw [run, run]
  refine keeps_bind (keeps_shapes hgrown hdestination hparameter) fun source hsource => ?_
  refine keeps_bind (keeps_self fun _ => trivial) fun _ _ => ?_
  refine keeps_bind (keeps_fresh _ hdestinationType) fun root hroot => ?_
  refine keeps_bind (keeps_counterpart hgrown hsource hdestination hroot ?_ ?_ hbody) ?_
  · simpa using hroot
  · simp
  · intro body _
    exact keeps_self fun _ => trivial

variable {clock clock' : Clock} {scope scope' : Nat} {cache cache' : Cache}

/-- Through caches that agree with the registries, a conversion that succeeds is as before, and one
that fails does so with the same code if failing is kept as well. -/
theorem convert_kept (hgrown : registry.GrownTo later names failing options)
    (hdestination : destination ∈ names)
    (htypes : ∀ type ∈ predicate.types, type.MentionsOnly names)
    (hcache : cache.AgreesWith (registry.table scope))
    (hcache' : cache'.AgreesWith (later.table scope')) (nextIdentity : Nat) :
    let before := predicate.convert registry options clock scope destination nextIdentity cache
    let after := predicate.convert later options clock' scope' destination nextIdentity cache'
    (∀ converted, before.1 = .ok converted → after.1 = .ok converted) ∧
      (failing → after.1.mapError Error.code = before.1.mapError Error.code) := by
  intro before after
  have hbefore : before.1 =
      (predicate.convertDirectly registry options destination nextIdentity).1 :=
    (convert_mirrors_of_agrees options predicate destination nextIdentity clock hcache).1
  have hafter : after.1 = (predicate.convertDirectly later options destination nextIdentity).1 :=
    (convert_mirrors_of_agrees options predicate destination nextIdentity clock' hcache').1
  have hkeeps := keeps_run hgrown hdestination htypes
  have hsuccess : ∀ converted, before.1 = .ok converted → after.1 = .ok converted := by
    intro converted hconverted
    rw [hbefore] at hconverted
    rw [hafter]
    exact congrArg Prod.fst (hkeeps.success (Prod.ext hconverted rfl)).2
  refine ⟨hsuccess, fun hfailing => ?_⟩
  cases hresult : before.1 with
  | ok converted => rw [hsuccess converted hresult]
  | error error =>
      obtain ⟨error', herror', hcode⟩ := hkeeps.failure hfailing (hbefore.symm.trans hresult)
      rw [hafter.trans herror']
      exact congrArg Except.error hcode

/-- A conversion that fails where something is not found goes on as before when it finds all. -/
theorem grownTo_strict (registry : Registry) (definitions : List ShapeDefinition)
    (hplain : options.customMap = none) (hthrow : options.errorHandling = .throw) :
    registry.GrownTo (registry.attemptAll definitions) Set.univ False options where
  grows := registry.extends_attemptAll definitions
  closed _ := fun _ _ => trivial
  registered := False.elim
  strict := Or.inr hthrow
  plain := hplain

/-- A conversion that knows only registered shapes finds and misses the same. -/
theorem grownTo_registered (definitions : List ShapeDefinition)
    (hplain : options.customMap = none) (hclosed : registry.ClosedOn registry.registered) :
    registry.GrownTo (registry.attemptAll definitions) registry.registered True options where
  grows := registry.extends_attemptAll definitions
  closed hfield := by
    obtain ⟨found, hfound, _, hmem, _⟩ := Registry.mem_of_member? hfield
    exact hclosed found hfound (List.mem_map_of_mem hfound) _ hmem
  registered _ _ hname := Registry.isSome_shape?.2 hname
  strict := Or.inl trivial
  plain := hplain

/-- What works over a registry works with the same result when more shapes have been registered:
binding a document, reading a record, and a conversion that fails on an access without counterpart.
If all fields of the registry, and all types that occur in the predicate, mention registered shapes
only, any conversion to a registered shape gives the same or fails with the same code. -/
theorem growth_keeps_results (registry : Registry) (definitions : List ShapeDefinition)
    (predicate : Predicate) (destination : String) (options : Options) (clock clock' : Clock)
    (nextIdentity : Nat) (hplain : options.customMap = none)
    (hcache : cache.AgreesWith (registry.table scope))
    (hcache' : cache'.AgreesWith ((registry.attemptAll definitions).table scope')) :
    let later := registry.attemptAll definitions
    let before := predicate.convert registry options clock scope destination nextIdentity cache
    let after := predicate.convert later options clock' scope' destination nextIdentity cache'
    (∀ (document : Document) identity result, document.bind registry identity = .ok result →
      document.bind later identity = .ok result) ∧
    (∀ shape json record, registry.recordOfJson shape json = .ok record →
      later.recordOfJson shape json = .ok record) ∧
    (options.errorHandling = .throw →
      ∀ converted, before.1 = .ok converted → after.1 = .ok converted) ∧
    (registry.ClosedOn registry.registered →
      (∀ type ∈ predicate.types, type.MentionsOnly registry.registered) →
      destination ∈ registry.registered →
      after.1.mapError Error.code = before.1.mapError Error.code) := by
  intro later before after
  have hextends : registry.Extends later := registry.extends_attemptAll definitions
  refine ⟨fun document identity result => Document.bind_kept hextends,
    fun shape json => hextends.recordOfJson_kept shape json, fun hthrow => ?_,
    fun hclosed htypes hdestination => ?_⟩
  · have hgrown := grownTo_strict registry definitions hplain hthrow
    exact (convert_kept hgrown trivial (fun _ _ _ _ => trivial) hcache hcache' nextIdentity).1
  · have hgrown := grownTo_registered definitions hplain hclosed
    exact (convert_kept hgrown hdestination htypes hcache hcache' nextIdentity).2 trivial

/-- Orders are converted to views as before when there are gifts as well. -/
theorem growth_keeps_orders :
    let later := Sample.registry.attemptAll [Sample.gift, Sample.order]
    let after := Sample.predicate.convert later .default id 0 "View" 1 (.empty .unbounded)
    later.shapeNames = ["Order", "View", "Item", "Gift"] ∧ after.1 = .ok Sample.converted ∧
      after.1.mapError Error.code = Sample.conversion.1.mapError Error.code := by
  intro later after
  obtain ⟨_, _, hsuccess, hsame⟩ := growth_keeps_results Sample.registry
    [Sample.gift, Sample.order] Sample.predicate "View" .default id id 1 rfl
    (Cache.empty_agreesWith .unbounded (Sample.registry.table 0))
    (Cache.empty_agreesWith .unbounded (later.table 0))
  have hnames (name : String) : name ∈ Sample.registry.registered ↔
      name = "Order" ∨ name = "View" ∨ name = "Item" := by
    simp [Registry.registered, Registry.shapeNames, Sample.registry, Sample.order, Sample.view,
      Sample.item, ShapeDefinition.shape]
  have hclosed {names : Set String} (horder : "Order" ∈ names) (hitem : "Item" ∈ names) :
      Sample.registry.ClosedOn names := by
    simp [Registry.ClosedOn, Sample.registry, Sample.order, Sample.view, Sample.item, horder, hitem,
      ShapeDefinition.shape, FieldType.MentionsOnly, FieldType.mentioned?]
  refine ⟨rfl, hsuccess rfl Sample.converted rfl,
    hsame (hclosed ?_ ?_) ?_ ((hnames _).2 (by simp))⟩
  · simp [hnames]
  · simp [hnames]
  · simp [Predicate.types, Expr.types, Expr.ownTypes, Expr.nodes, Expr.nodesOfArguments,
      Sample.predicate, Sample.parameter, hnames, FieldType.MentionsOnly, FieldType.mentioned?]

end Conversion

end Reshape
