import Reshape.Proofs.Conversion.Naming
import Reshape.Proofs.Evaluation.Outcome

/-!
# Meaning of converted predicates

A converted predicate tests a record of the destination shape as the original tests one of the
source shape, provided the one record holds under the resolved names what the other holds:
`converted_same_test`. The original has to read its parameter field by field, and an access may have
become a default only where it was made on the parameter itself.

The induction compares an expression with its counterpart in two environments that bind the
parameters of the lambdas around to the same items, and only differ in the record at the end.
-/

namespace Reshape

open Conversion Evaluation

/-! ## Predicates that read fields -/

/-- `predicate.RangesOver source` says that a predicate over the source shape refers to nothing but
its own parameter and those of its lambdas, and that no lambda is over the source shape. -/
structure Predicate.RangesOver (source : String) (predicate : Predicate) : Prop where
  type : predicate.parameter.type = .shape source
  closed : predicate.body.ClosedIn [predicate.parameter]
  lambda : ∀ p body, .lambda p body ∈ predicate.body.nodes → p.shape? ≠ some source

/-- A predicate that ranges over a shape has that shape. -/
theorem Predicate.RangesOver.shape? {source : String} {predicate : Predicate}
    (h : predicate.RangesOver source) : predicate.shape? = some source := by
  rw [Predicate.shape?, Parameter.shape?, h.type]
  rfl

/-- No lambda of such a predicate hides its parameter. -/
theorem Predicate.RangesOver.lambda_apart {source : String} {predicate : Predicate}
    (h : predicate.RangesOver source) (hcoherent : predicate.Coherent) {p : Parameter}
    {body : Expr} (hnode : .lambda p body ∈ predicate.body.nodes) :
    predicate.parameter.denotes p = false := by
  rw [← Bool.not_eq_true]
  intro hdenotes
  have hp : p ∈ predicate.parameters :=
    List.mem_cons_of_mem _ (List.mem_filterMap.2 ⟨_, hnode, rfl⟩)
  obtain rfl := hcoherent _ List.mem_cons_self p hp hdenotes
  exact h.lambda _ body hnode h.shape?

/-- `predicate.ReadsFieldsOf source` says that a predicate over the source shape refers to nothing
but its own parameter and those of its lambdas, that no lambda is over the source shape, and that
its own parameter only stands as the target of accesses to fields that the source shape declares. -/
structure Predicate.ReadsFieldsOf (source : String) (predicate : Predicate) : Prop where
  type : predicate.parameter.type = .shape source
  closed : predicate.body.ClosedIn [predicate.parameter]
  lambda : ∀ p body, .lambda p body ∈ predicate.body.nodes → p.shape? ≠ some source
  bare : predicate.body.isReferenceTo predicate.parameter = false
  read : ∀ node ∈ predicate.body.nodes, ∀ part ∈ node.children,
    part.isReferenceTo predicate.parameter →
      ∃ target field, node = .member target field ∧ field.declaringShape = source

/-- A predicate that reads the fields of a shape ranges over it. -/
theorem Predicate.ReadsFieldsOf.rangesOver {source : String} {predicate : Predicate}
    (h : predicate.ReadsFieldsOf source) : predicate.RangesOver source :=
  ⟨h.type, h.closed, h.lambda⟩

theorem Predicate.ReadsFieldsOf.shape? {source : String} {predicate : Predicate}
    (h : predicate.ReadsFieldsOf source) : predicate.shape? = some source :=
  h.rangesOver.shape?

/-- In a predicate that reads the fields of a shape, no lambda takes the place of its parameter. -/
theorem Predicate.ReadsFieldsOf.lambda_apart {source : String} {predicate : Predicate}
    (h : predicate.ReadsFieldsOf source) (hcoherent : predicate.Coherent) {p : Parameter}
    {body : Expr} (hnode : .lambda p body ∈ predicate.body.nodes) :
    predicate.parameter.denotes p = false :=
  h.rangesOver.lambda_apart hcoherent hnode

namespace Conversion

/-- `FieldsAgree registry options destination original fields fields' e` says that `fields'` hold
what `e` reads directly on `original` from `fields`: the same under the resolved name if the
destination shape has a field of that name, and else the default of the field's type. -/
def FieldsAgree (registry : Registry) (options : Options) (destination : String)
    (original : Parameter) (fields fields' : List (String × Value)) (e : Expr) : Prop :=
  ∀ target field, .member target field ∈ e.nodes → target.isReferenceTo original →
    let name := (directName registry options field).1
    if (registry.member? destination name).isSome then
      fields'.lookup name = fields.lookup field.name
    else fields.lookup field.name = some (Value.ofType field.type)

/-- `DefaultsOnlyOn original state` says that only accesses made on `original` itself have become a
default so far. -/
def DefaultsOnlyOn {σ : Type} (original : Parameter) (state : State σ) : Prop :=
  ∀ access name searched, .substituted access name searched ∈ state.events →
    access.target.isReferenceTo original

variable {σ : Type} {task : Task σ} {original p : Parameter}

/-- What holds of the defaults at the end of a conversion held of them before. -/
theorem DefaultsOnlyOn.earlier {reader : AnnotationReader σ} {later earlier : State σ}
    (h : DefaultsOnlyOn original later) (hextends : later.Extends reader earlier) :
    DefaultsOnlyOn original earlier :=
  fun access name searched hevent => h access name searched (hextends.events.subset hevent)

/-! ## Parameters around a lambda -/

section

variable {γ : Type} {around : List (Parameter × γ)}

/-- Past parameters that do not denote it, the original is found at the end. -/
theorem find_original (haround : ∀ b ∈ around, original.denotes b.1 = false)
    (hp : p.denotes original) (c : γ) :
    ((around ++ [(original, c)]).find? fun b => b.1.denotes p) = some (original, c) := by
  have hnone : (around.find? fun b => b.1.denotes p) = none := by
    rw [List.find?_eq_none]
    intro b hb hdenotes
    have hother := haround b hb
    simp only [Parameter.denotes, beq_iff_eq, beq_eq_false_iff_ne] at hother hdenotes hp
    omega
  have hlast : original.denotes p := by
    rw [Parameter.denotes_iff] at hp ⊢
    exact hp.symm
  simp [List.find?_append, hnone, hlast]

/-- Any other parameter of a closed expression is found before the end, and is found again by the
parameter found. -/
theorem find_around (hclosed : Expr.ClosedIn (around.map Prod.fst ++ [original]) (.parameter p))
    (hp : p.denotes original = false) :
    ∃ b ∈ around, (around.find? fun b => b.1.denotes p) = some b ∧
      (around.find? fun c => c.1.denotes b.1) = some b := by
  obtain ⟨q, hq, hdenotes⟩ := Expr.closedIn_parameter.1 hclosed
  rcases List.mem_append.1 hq with hq | hq
  · obtain ⟨b, hb, rfl⟩ := List.mem_map.1 hq
    have hsome : (around.find? fun b => b.1.denotes p).isSome :=
      List.find?_isSome.2 ⟨b, hb, hdenotes⟩
    obtain ⟨found, hfound⟩ := Option.isSome_iff_exists.1 hsome
    have hsame : found.1.identity = p.identity :=
      Parameter.denotes_iff.1 (by simpa using List.find?_some hfound)
    refine ⟨found, List.mem_of_find?_eq_some hfound, hfound, ?_⟩
    simpa only [Parameter.denotes, hsame] using hfound
  · rw [List.mem_singleton.1 hq, Parameter.denotes_iff] at hdenotes
    simp [Parameter.denotes, hdenotes] at hp

end

variable {around : List (Parameter × Value)}

/-- `KeptAround task original around` says that the lambdas around keep their parameters: they came
before the root, and none hides the original. -/
def KeptAround (task : Task σ) (original : Parameter) (around : List (Parameter × Value)) : Prop :=
  ∀ b ∈ around, b.1.identity < task.root.identity ∧ original.denotes b.1 = false

/-- `keptScopes task original around` are the scopes inside lambdas that keep their parameters. -/
def keptScopes (task : Task σ) (original : Parameter) (around : List (Parameter × Value)) :
    Scopes :=
  around.map (fun b => (b.1, b.1)) ++ [(original, task.root)]

/-- `keptBinders task original around` are the binders inside lambdas that keep their parameters. -/
def keptBinders (task : Task σ) (original : Parameter) (around : List (Parameter × Value)) :
    List Binder :=
  around.map (fun b => ⟨b.1, none⟩) ++ [⟨original, some task.destination⟩]

/-- Around an expression whose lambdas are kept, binders and scopes go together. -/
theorem KeptAround.placed (h : KeptAround task original around)
    (horiginal : original.identity < task.root.identity)
    (hroot : task.root.type = .shape task.destination) :
    Placed task (keptBinders task original around) (keptScopes task original around) where
  places := by
    induction around with
    | nil => exact .cons ⟨rfl, horiginal, hroot, Nat.le_refl _⟩ .nil
    | cons b around ih =>
        refine .cons ⟨rfl, (h b List.mem_cons_self).1, rfl⟩ (ih fun b' hb' => ?_)
        exact h b' (List.mem_cons_of_mem _ hb')
  root := ⟨(original, task.root), by simp [keptScopes], rfl⟩

/-- The original gives way to the root. -/
theorem KeptAround.replacement_original (h : KeptAround task original around)
    (hp : p.denotes original) :
    task.replacement (keptScopes task original around) p = task.root := by
  have haround : ∀ b ∈ around.map fun b => (b.1, b.1), original.denotes b.1 = false := by
    intro b hb
    obtain ⟨b', hb', rfl⟩ := List.mem_map.1 hb
    exact (h b' hb').2
  rw [Task.replacement, keptScopes, find_original haround hp]

/-- Any other parameter of a closed expression is replaced by that of the lambda that it denotes. -/
theorem replacement_around {b : Parameter × Value}
    (hfind : (around.find? fun b => b.1.denotes p) = some b) :
    task.replacement (keptScopes task original around) p = b.1 := by
  have hscope : ((keptScopes task original around).find? fun scope => scope.1.denotes p) =
      some (b.1, b.1) := by
    rw [keptScopes, List.find?_append, List.find?_map]
    show (Option.map _ (around.find? fun b => b.1.denotes p)).or _ = _
    rw [hfind]
    rfl
  rw [Task.replacement, hscope]

/-- The original is bound to the record at the end. -/
theorem lookup_original {record : Value} (haround : ∀ b ∈ around, original.denotes b.1 = false)
    (hp : p.denotes original) : lookup (around ++ [(original, record)]) p = .ok record := by
  rw [lookup, find_original haround hp]

/-- Any other parameter of a closed expression is bound to the item of its lambda. -/
theorem lookup_around {last b : Parameter × Value}
    (hfind : (around.find? fun b => b.1.denotes p) = some b) :
    lookup (around ++ [last]) p = .ok b.2 := by
  rw [lookup, List.find?_append, hfind]
  rfl

/-! ## Readable expressions -/

/-- `Readable task original around fields fields' e` says that `e` is a part of a predicate over the
original, inside the lambdas around, that reads its parameter field by field and has no lambda over
the source shape, and that two records agree on what it reads. -/
structure Readable (task : Task σ) (original : Parameter) (around : List (Parameter × Value))
    (fields fields' : List (String × Value)) (e : Expr) : Prop where
  older : e.OlderThan task.root.identity
  closed : e.ClosedIn (around.map Prod.fst ++ [original])
  lambda : ∀ p body, .lambda p body ∈ e.nodes →
    p.shape? ≠ some task.source ∧ original.denotes p = false
  bare : e.isReferenceTo original = false
  read : ∀ node ∈ e.nodes, ∀ part ∈ node.children, part.isReferenceTo original →
    ∃ target field, node = .member target field ∧ field.declaringShape = task.source
  agree : FieldsAgree task.registry task.options task.destination original fields fields' e

namespace Readable

variable {fields fields' : List (String × Value)} {e part : Expr}

/-- What is readable but for its place is readable where it is closed and not bare. -/
theorem of_child (h : Readable task original around fields fields' e) (hpart : part ∈ e.children)
    {inside : List (Parameter × Value)}
    (hclosed : part.ClosedIn (inside.map Prod.fst ++ [original]))
    (hbare : part.isReferenceTo original = false) :
    Readable task original inside fields fields' part where
  older := h.older.child hpart
  closed := hclosed
  lambda p body hnode := h.lambda p body (Expr.mem_nodes_of_child hnode hpart)
  bare := hbare
  read node hnode := h.read node (Expr.mem_nodes_of_child hnode hpart)
  agree target field hnode := h.agree target field (Expr.mem_nodes_of_child hnode hpart)

/-- Only accesses have the original itself as a part. -/
theorem bare_child (h : Readable task original around fields fields' e) (hpart : part ∈ e.children)
    (hother : ∀ target field, e ≠ .member target field) : part.isReferenceTo original = false := by
  rw [← Bool.not_eq_true]
  intro hreference
  obtain ⟨target, field, he, _⟩ := h.read e e.self_mem_nodes part hpart hreference
  exact hother target field he

/-- The parts of anything but an access and a lambda are readable in the same place. -/
theorem child (h : Readable task original around fields fields' e) (hpart : part ∈ e.children)
    (hown : e.own? = none) (hother : ∀ target field, e ≠ .member target field) :
    Readable task original around fields fields' part :=
  h.of_child hpart ((Expr.closedIn_parts hown).1 h.closed part hpart) (h.bare_child hpart hother)

/-- The body of a lambda is readable inside the lambda, whatever the item. -/
theorem body {p : Parameter} {body : Expr}
    (h : Readable task original around fields fields' (.lambda p body)) (item : Value) :
    Readable task original ((p, item) :: around) fields fields' body :=
  h.of_child (by simp [Expr.children]) (Expr.closedIn_lambda.1 h.closed)
    (h.bare_child (by simp [Expr.children]) (by simp))

end Readable

/-! ## Accesses -/

/-- `task.Plain original holds` says that a task has no custom map, that it reads annotations
faithfully while the store has the property `holds`, and that its root is a parameter of the
destination shape that came after the original. -/
structure Task.Plain (task : Task σ) (original : Parameter) (holds : σ → Prop) : Prop where
  map : task.options.customMap = none
  faithful : task.reader.Faithful task.registry.mapsTo? holds
  root : task.root.type = .shape task.destination
  older : original.identity < task.root.identity

variable {holds : σ → Prop} {element : Option String} {start finish : State σ}
  {fields fields' : List (String × Value)} {e e' : Expr}

/-- An access on the root is direct when the source shape declares the field. -/
theorem KeptAround.isDirect_root (h : KeptAround task original around)
    (hplain : task.Plain original holds) (field : FieldDescriptor) :
    task.isDirect (keptScopes task original around) (.parameter task.root) field =
      (field.declaringShape == task.source) := by
  have hscope : (original, task.root) ∈ keptScopes task original around := by simp [keptScopes]
  have hplaced := h.placed hplain.older hplain.root
  rw [Task.isDirect, hplaced.isIntroduced_of_le hscope (Nat.le_refl _), Parameter.shape?,
    hplain.root]
  simp [FieldType.shapeName?]

/-- Accesses on anything but the original are not direct. -/
theorem KeptAround.isDirect_other (h : KeptAround task original around)
    (hplain : task.Plain original holds)
    (hclosed : e.ClosedIn (around.map Prod.fst ++ [original]))
    (hbare : e.isReferenceTo original = false)
    (hyields : Yields (counterpart task (keptScopes task original around) element e) start e'
      finish) (field : FieldDescriptor) :
    task.isDirect (keptScopes task original around) e' field = false := by
  unfold Task.isDirect
  split
  · rename_i q
    obtain ⟨p, rfl⟩ := eq_parameter_of_counterpart hplain.map hyields
    obtain ⟨b, hb, hfind, _⟩ := find_around hclosed hbare
    obtain ⟨heq, _⟩ := counterpart_parameter hyields
    rw [replacement_around hfind, Expr.parameter.injEq] at heq
    have hplaced := h.placed hplain.older hplain.root
    rw [heq, hplaced.isIntroduced_of_lt (h b hb).1, Bool.false_and]
  · rfl

/-- An access on the original and its counterpart have the same outcome on records that agree on
it. -/
theorem KeptAround.original_access_sameOutcome (h : KeptAround task original around)
    (hplain : task.Plain original holds) (hstore : holds start.store)
    {target : Expr} {field : FieldDescriptor} (htarget : target.isReferenceTo original)
    (hreadable : Readable task original around fields fields' (.member target field))
    (hyields : Yields (counterpart task (keptScopes task original around) element
      (.member target field)) start e' finish) :
    SameOutcome
      (evaluate (around ++ [(original, .record task.source fields)]) (.member target field))
      (evaluate (around ++ [(task.root, .record task.destination fields')]) e') := by
  obtain ⟨_, _, heq, hfield⟩ := hreadable.read _ (Expr.self_mem_nodes _) target
    (by simp [Expr.children]) htarget
  have hagree := hreadable.agree target field (Expr.self_mem_nodes _) htarget
  cases heq
  obtain ⟨p, rfl⟩ : ∃ p, target = .parameter p := by
    cases target with
    | parameter p => exact ⟨p, rfl⟩
    | _ => cases htarget
  obtain ⟨target', asked, name, origin, named, hyields, hname, hconclude⟩ :=
    counterpart_member hplain.map hyields
  obtain ⟨rfl, rfl⟩ := counterpart_parameter hyields
  have hbound : evaluate (around ++ [(original, .record task.source fields)]) (.parameter p) =
      .ok (.record task.source fields) := by
    rw [evaluate]
    exact lookup_original (fun b hb => (h b hb).2) htarget
  have hrootBound : evaluate (around ++ [(task.root, .record task.destination fields')])
      (.parameter task.root) = .ok (.record task.destination fields') := by
    rw [evaluate]
    refine lookup_original (fun b hb => ?_) (Parameter.denotes_self _)
    have holder := (h b hb).1
    simp only [Parameter.denotes, beq_eq_false_iff_ne]
    omega
  have hrootShape : (Expr.parameter task.root).shape? = some task.destination := by
    rw [Expr.shape?, Expr.resultType, hplain.root]
    rfl
  -- the access is direct, so that the records agree on it under the name that is looked up
  rw [h.replacement_original htarget] at hname hconclude
  have hresolved := yields_destinationName hplain.faithful hstore hname
  rw [h.isDirect_root hplain, hfield, beq_self_eq_true, attemptedName, if_pos rfl] at hresolved
  rw [← hresolved] at hagree
  rcases yields_conclude hconclude with ⟨shape, found, hshape, hfound, rfl⟩ | ⟨hnone, _, rfl, _⟩
  · obtain rfl : task.destination = shape := Option.some.inj (hrootShape.symm.trans hshape)
    obtain ⟨_, _, _, _, rfl⟩ := Registry.mem_of_member? hfound
    rw [if_pos (by rw [hfound]; rfl)] at hagree
    rw [evaluate_member_of_ok hbound, evaluate_member_of_ok hrootBound]
    exact fieldOf_record hagree
  · rw [hrootShape] at hnone
    have hmissing : task.registry.member? task.destination name = none := hnone
    rw [if_neg (by rw [hmissing]; exact Bool.false_ne_true)] at hagree
    rw [evaluate_member_of_ok hbound, fieldOf, hagree, evaluate]
    exact .refl _

/-- Any other access has the same outcome as its counterpart when the targets have: the name stays,
and no default takes its place. -/
theorem KeptAround.other_access_sameOutcome (h : KeptAround task original around)
    (hplain : task.Plain original holds) {target target' : Expr} {field : FieldDescriptor}
    (hclosed : target.ClosedIn (around.map Prod.fst ++ [original]))
    (hother : target.isReferenceTo original = false) {asked named : State σ} {name : String}
    {origin : NameOrigin}
    (htarget : Yields (counterpart task (keptScopes task original around) none target) start target'
      asked)
    (hstore : holds asked.store)
    (hname : Yields (task.destinationName field
      (task.isDirect (keptScopes task original around) target' field)) asked (name, origin) named)
    (hconclude : Yields (task.conclude ⟨target, field⟩ target' name origin) named e' finish)
    (hdefaults : DefaultsOnlyOn original finish) {environment environment' : Environment}
    (htargets : SameOutcome (evaluate environment target) (evaluate environment' target')) :
    SameOutcome (evaluate environment (.member target field)) (evaluate environment' e') := by
  rw [h.isDirect_other hplain hclosed hother htarget] at hname
  have hsame := yields_destinationName hplain.faithful hstore hname
  obtain ⟨rfl, _⟩ : name = field.name ∧ origin = .sameName := by
    simpa [attemptedName] using hsame
  rcases yields_conclude hconclude with
    ⟨shape, found, _, hfound, rfl⟩ | ⟨_, _, _, searched, hevent⟩
  · obtain ⟨_, _, _, _, hfoundName⟩ := Registry.mem_of_member? hfound
    exact evaluate_member hfoundName.symm htargets
  · have hdirect := hdefaults _ _ _ hevent
    rw [hother] at hdirect
    cases hdirect

/-- No access becomes a lambda. -/
theorem isLambda_of_conclude {access : MemberAccess} {target : Expr} {name : String}
    {origin : NameOrigin} (h : Yields (task.conclude access target name origin) start e' finish) :
    e'.isLambda = false := by
  rcases yields_conclude h with ⟨_, _, _, _, rfl⟩ | ⟨_, _, rfl, _⟩
  · rfl
  · rfl

/-! ## Expressions -/

/-- An expression and its counterpart are alike: they have the same outcome on records that agree on
what is read directly. -/
theorem counterpart_alike (hplain : task.Plain original holds) (hstore : holds start.store)
    (hdefaults : DefaultsOnlyOn original finish) (haround : KeptAround task original around)
    (hreadable : Readable task original around fields fields' e)
    (h : ConvertsWithin task (keptScopes task original around) element start finish e e') :
    Alike (around ++ [(original, .record task.source fields)])
      (around ++ [(task.root, .record task.destination fields')]) e e' := by
  -- every part is converted between the same two states, so that the store at the start and the
  -- events at the finish stay fixed, and only the lambdas around change
  induction e generalizing around element e' with
  | parameter p =>
      obtain ⟨_, _, _, _, hyields⟩ := h
      obtain ⟨b, _, hfind, hfind'⟩ := find_around hreadable.closed hreadable.bare
      obtain ⟨rfl, _⟩ := counterpart_parameter hyields
      refine .other rfl rfl ?_
      rw [replacement_around hfind, evaluate, evaluate, lookup_around hfind, lookup_around hfind']
      exact .refl _
  | member target field ih =>
      obtain ⟨before, after, hbefore, hafter, hyields⟩ := h
      have hkeeps := hplain.faithful.keeps
      have hbeforeStore := hbefore.keeps hkeeps hstore
      obtain ⟨target', asked, name, origin, named, htarget, hname, hconclude⟩ :=
        counterpart_member hplain.map hyields
      refine .other rfl (isLambda_of_conclude hconclude) ?_
      -- the original and the root are bound to different records, so that an access on them is
      -- compared as a whole, and any other by its target
      cases hown : target.isReferenceTo original with
      | true =>
          exact haround.original_access_sameOutcome hplain hbeforeStore hown hreadable hyields
      | false =>
          have hclosed : target.ClosedIn (around.map Prod.fst ++ [original]) :=
            (Expr.closedIn_parts rfl).1 hreadable.closed target (by simp [Expr.children])
          have hconcluded := ((conclude_grows task _ _ _ _).extends_of_yields hconclude).trans
            ((destinationName_grows task _ _).extends_of_yields hname)
          have htargetAlike := ih haround
            (hreadable.of_child (by simp [Expr.children]) hclosed hown)
            ⟨before, asked, hbefore, hafter.trans hconcluded, htarget⟩
          exact haround.other_access_sameOutcome hplain hclosed hown htarget
            ((counterpart_extends htarget).keeps hkeeps hbeforeStore) hname hconclude
            (hdefaults.earlier hafter) htargetAlike.sameOutcome
  | constant value type =>
      obtain ⟨_, _, _, _, hyields⟩ := h
      obtain ⟨rfl, _⟩ := counterpart_constant hyields
      refine .other rfl rfl ?_
      rw [evaluate, evaluate]
      exact .refl _
  | binary op left right ihleft ihright =>
      obtain ⟨before, after, hbefore, hafter, hyields⟩ := h
      obtain ⟨left', middle, right', hleft, hright, rfl⟩ := counterpart_binary hyields
      have hleftAlike := ihleft haround (hreadable.child (by simp [Expr.children]) rfl (by simp))
        ⟨before, middle, hbefore, hafter.trans (counterpart_extends hright), hleft⟩
      have hrightAlike := ihright haround (hreadable.child (by simp [Expr.children]) rfl (by simp))
        ⟨middle, after, (counterpart_extends hleft).trans hbefore, hafter, hright⟩
      exact .other rfl rfl (evaluate_binary hleftAlike.sameOutcome hrightAlike.sameOutcome)
  | unary op operand ih =>
      obtain ⟨before, after, hbefore, hafter, hyields⟩ := h
      obtain ⟨operand', hoperand, rfl⟩ := counterpart_unary hyields
      have hoperandAlike := ih haround (hreadable.child (by simp [Expr.children]) rfl (by simp))
        ⟨before, after, hbefore, hafter, hoperand⟩
      exact .other rfl rfl (evaluate_unary hoperandAlike.sameOutcome)
  | call method receiver arguments ihreceiver iharguments =>
      obtain ⟨before, after, hbefore, hafter, hyields⟩ := h
      obtain ⟨receiver', middle, arguments', _, hreceiver, harguments, rfl⟩ :=
        counterpart_call hyields
      have hreceiverAlike := ihreceiver haround
        (hreadable.child (by simp [Expr.children]) rfl (by simp))
        ⟨before, middle, hbefore, hafter.trans (argument_counterparts_extend harguments),
          hreceiver⟩
      have hforall := argument_counterparts_forall harguments
      refine .other rfl rfl (evaluate_call hreceiverAlike.sameOutcome ?_)
      refine List.forall₂_iff_zip.2 ⟨hforall.length_eq, fun {e e'} hmem => ?_⟩
      have hargument : e ∈ arguments := (List.of_mem_zip hmem).1
      exact iharguments e hargument haround
        (hreadable.child (by simp [Expr.children, hargument]) rfl (by simp))
        ((List.forall₂_zip hforall hmem).mono ((counterpart_extends hreceiver).trans hbefore)
          hafter)
  | conditional test ifTrue ifFalse ihtest ihtrue ihfalse =>
      obtain ⟨before, after, hbefore, hafter, hyields⟩ := h
      obtain ⟨test', tested, ifTrue', middle, ifFalse', htest, htrue, hfalse, rfl⟩ :=
        counterpart_conditional hyields
      have htested := (counterpart_extends htest).trans hbefore
      have hmiddle := hafter.trans (counterpart_extends hfalse)
      have htestAlike := ihtest haround (hreadable.child (by simp [Expr.children]) rfl (by simp))
        ⟨before, tested, hbefore, hmiddle.trans (counterpart_extends htrue), htest⟩
      have htrueAlike := ihtrue haround (hreadable.child (by simp [Expr.children]) rfl (by simp))
        ⟨tested, middle, htested, hmiddle, htrue⟩
      have hfalseAlike := ihfalse haround (hreadable.child (by simp [Expr.children]) rfl (by simp))
        ⟨middle, after, (counterpart_extends htrue).trans htested, hafter, hfalse⟩
      exact .other rfl rfl (evaluate_conditional htestAlike.sameOutcome htrueAlike.sameOutcome
        hfalseAlike.sameOutcome)
  | lambda p body ih =>
      obtain ⟨before, after, hbefore, hafter, hyields⟩ := h
      obtain ⟨p', middle, body', hparameter, hbody, rfl⟩ := counterpart_lambda hyields
      obtain ⟨hother, hapart⟩ := hreadable.lambda p body (Expr.self_mem_nodes _)
      rcases yields_lambdaParameter hparameter with ⟨hsource, _⟩ | ⟨_, rfl, rfl⟩
      · exact (hother hsource).elim
      · refine .lambda fun item => Alike.sameOutcome ?_
        have hinside : KeptAround task original ((p', item) :: around) := by
          intro b hb
          rcases List.mem_cons.1 hb with rfl | hb
          · exact ⟨hreadable.older.own rfl, hapart⟩
          · exact haround b hb
        exact ih hinside (hreadable.body item) ⟨middle, after, hbefore, hafter, hbody⟩
  | init shape bindings ih =>
      obtain ⟨before, after, hbefore, hafter, hyields⟩ := h
      obtain ⟨bindings', hbindings, rfl⟩ := counterpart_init hyields
      have hforall := binding_counterparts_forall hbindings
      refine .other rfl rfl (evaluate_init ?_)
      refine List.forall₂_iff_zip.2 ⟨hforall.length_eq, fun {b b'} hmem => ?_⟩
      obtain ⟨hname, hvalue⟩ := List.forall₂_zip hforall hmem
      have hbinding : b ∈ bindings := (List.of_mem_zip hmem).1
      have hvalueAlike := ih b hbinding haround
        (hreadable.child (List.mem_map_of_mem hbinding) rfl (by simp)) (hvalue.mono hbefore hafter)
      exact ⟨hname, hvalueAlike.sameOutcome⟩

/-! ## Predicates -/

variable {registry : Registry} {options : Options} {predicate converted : Predicate}
  {source destination : String} {clock : Clock} {scope nextIdentity : Nat} {cache : Cache}
  {finish : State Cache}

/-- A record of the predicate's shape is tested by evaluating the body. -/
theorem test_record (h : predicate.shape? = some source) (fields : List (String × Value)) :
    predicate.test (.record source fields) = (do
      booleanOf (← evaluate [(predicate.parameter, .record source fields)] predicate.body)) := by
  have hadmits : predicate.admits (.record source fields) = .ok () := by
    simp [Predicate.admits, h]
  rw [Predicate.test, Predicate.result, hadmits]
  rfl

/-- The body of a predicate that reads its parameter field by field and that of its counterpart are
alike, the parameter of each being bound to a record of its shape, and the records agreeing on what
is read. -/
theorem converted_alike (hreads : predicate.ReadsFieldsOf source)
    (hcoherent : predicate.Coherent) (holder : predicate.OlderThan nextIdentity)
    (hmap : options.customMap = none) (hcache : cache.AgreesWith (registry.table scope))
    (hconvert : predicate.convert registry options clock scope destination nextIdentity cache =
      (.ok converted, finish))
    (hdefaults : DefaultsOnlyOn predicate.parameter finish) {fields fields' : List (String × Value)}
    (hagree : FieldsAgree registry options destination predicate.parameter fields fields'
      predicate.body) :
    converted.shape? = some destination ∧
      Alike [(predicate.parameter, .record source fields)]
        [(converted.parameter, .record destination fields')] predicate.body converted.body := by
  obtain ⟨found, body, middle, hshapes, hyields, rfl, _, rfl⟩ := yields_run hconvert
  obtain rfl : source = found :=
    Option.some.inj (hreads.shape?.symm.trans (shapes_eq_ok hshapes).1)
  let task := bodyTask registry options (.cached clock (registry.table scope)) predicate source
    destination nextIdentity
  have hplain : task.Plain predicate.parameter fun cache =>
      cache.AgreesWith (registry.table scope) :=
    ⟨hmap, AnnotationReader.cached_faithful clock _, rfl, holder _ List.mem_cons_self⟩
  have hreadable : Readable task predicate.parameter [] fields fields' predicate.body :=
    ⟨fun p hp => holder p (List.mem_cons_of_mem _ hp), hreads.closed,
      fun p body hnode => ⟨hreads.lambda p body hnode, hreads.lambda_apart hcoherent hnode⟩,
      hreads.bare, hreads.read, hagree⟩
  have haround : KeptAround task predicate.parameter [] := by simp [KeptAround]
  have hbodyDefaults : DefaultsOnlyOn predicate.parameter middle :=
    fun access name searched hevent =>
      hdefaults access name searched (List.mem_append_left _ hevent)
  have hstore : (bodyState predicate source destination ⟨nextIdentity, cache, []⟩).store.AgreesWith
      (registry.table scope) := hcache
  exact ⟨rfl, counterpart_alike hplain hstore hbodyDefaults haround hreadable
    ⟨_, _, .refl _, .refl _, hyields⟩⟩

/-- A predicate that reads its parameter field by field and its counterpart have the same outcome:
on a record of the source shape the one, on a record of the destination shape that agrees on what is
read the other. -/
theorem converted_same_test (hreads : predicate.ReadsFieldsOf source)
    (hcoherent : predicate.Coherent) (holder : predicate.OlderThan nextIdentity)
    (hmap : options.customMap = none) (hcache : cache.AgreesWith (registry.table scope))
    (hconvert : predicate.convert registry options clock scope destination nextIdentity cache =
      (.ok converted, finish))
    (hdefaults : DefaultsOnlyOn predicate.parameter finish) {fields fields' : List (String × Value)}
    (hagree : FieldsAgree registry options destination predicate.parameter fields fields'
      predicate.body) :
    SameOutcome (predicate.test (.record source fields))
      (converted.test (.record destination fields')) := by
  obtain ⟨hshape, halike⟩ :=
    converted_alike hreads hcoherent holder hmap hcache hconvert hdefaults hagree
  rw [test_record hreads.shape?, test_record hshape]
  exact halike.sameOutcome.bind_same booleanOf

end Conversion

/-! ## An order without a note -/

namespace Sample

/-- `entry` is the parameter of the lambda in `unnoted`. -/
def entry : Parameter := ⟨1, some "i", .shape "Item"⟩

/-- `unnoted` asks for an order without a note that has an item counted above the total. -/
def unnoted : Predicate where
  parameter := parameter
  body := .binary .and
    (.binary .equal (.member (.parameter parameter) ⟨"Note", .string, "Order"⟩)
      (.constant .null .any))
    (.call .any (.member (.parameter parameter) ⟨"Items", .list (.shape "Item"), "Order"⟩)
      [.lambda entry
        (.binary .greater (.member (.parameter entry) ⟨"Count", .integer, "Item"⟩)
          (.member (.parameter parameter) ⟨"Total", .integer, "Order"⟩))])

/-- `unnotedView` is the counterpart of `unnoted` over views, which have no notes. -/
def unnotedView : Predicate where
  parameter := ⟨2, some "o", .shape "View"⟩
  body := .binary .and (.binary .equal (.constant .null .string) (.constant .null .any))
    (.call .any
      (.member (.parameter ⟨2, some "o", .shape "View"⟩)
        ⟨"Items", .list (.shape "Item"), "View"⟩)
      [.lambda entry
        (.binary .greater (.member (.parameter entry) ⟨"Count", .integer, "Item"⟩)
          (.member (.parameter ⟨2, some "o", .shape "View"⟩) ⟨"Amount", .integer, "View"⟩))])

/-- `unnotedConversion` is what comes of converting `unnoted` to views, with defaults. -/
def unnotedConversion : Except Error Predicate × State Cache :=
  unnoted.convert registry ⟨none, none, .returnDefault⟩ id 0 "View" 2 (.empty .unbounded)

/-- `orderFields` are the fields of an order that `unnoted` holds for. -/
def orderFields : List (String × Value) :=
  [("Total", .integer 3), ("Note", .null),
    ("Items", .list [.record "Item" [("Count", .integer 5)]])]

/-- `viewFields` are the fields of a view of that order. -/
def viewFields : List (String × Value) :=
  [("Amount", .integer 3), ("Items", .list [.record "Item" [("Count", .integer 5)]])]

theorem unnotedConversion_eq : unnotedConversion = (.ok unnotedView, unnotedConversion.2) := rfl

theorem unnoted_readsFieldsOf : unnoted.ReadsFieldsOf "Order" where
  type := rfl
  closed := by
    simp (disch := decide) [unnoted, entry, parameter, Expr.closedIn_parts,
      Expr.closedIn_parameter, Expr.closedIn_lambda, Expr.children, Parameter.denotes]
  lambda := by
    simp [unnoted, entry, Expr.nodes, Expr.nodesOfArguments, Parameter.shape?,
      FieldType.shapeName?]
  bare := rfl
  read := by
    simp [unnoted, entry, parameter, Expr.nodes, Expr.nodesOfArguments, Expr.children,
      Expr.isReferenceTo, Parameter.denotes]

theorem unnoted_fieldsAgree :
    FieldsAgree registry ⟨none, none, .returnDefault⟩ "View" parameter orderFields viewFields
      unnoted.body := by
  intro target field hnode htarget
  have hread : target = .parameter parameter ∧ field = ⟨"Note", .string, "Order"⟩ ∨
      target = .parameter parameter ∧ field = ⟨"Items", .list (.shape "Item"), "Order"⟩ ∨
      target = .parameter entry ∧ field = ⟨"Count", .integer, "Item"⟩ ∨
      target = .parameter parameter ∧ field = ⟨"Total", .integer, "Order"⟩ := by
    simpa [unnoted, Expr.nodes, Expr.nodesOfArguments] using hnode
  rcases hread with ⟨rfl, rfl⟩ | ⟨rfl, rfl⟩ | ⟨rfl, rfl⟩ | ⟨rfl, rfl⟩
  · rfl
  · rfl
  · cases htarget
  · rfl

theorem unnoted_defaultsOnlyOn : DefaultsOnlyOn parameter unnotedConversion.2 := by
  intro access name searched hevent
  have hall : (unnotedConversion.2.events.all fun
      | .substituted access _ _ => access.target.isReferenceTo parameter
      | _ => true) = true := rfl
  exact List.all_eq_true.1 hall _ hevent

end Sample

/-- The order without a note passes, and its view passes the counterpart, where the note has become
a default, the total has another name, and the lambda keeps its parameter. -/
theorem sample_same_test :
    Sample.unnotedConversion.1 = .ok Sample.unnotedView ∧
      Sample.unnoted.test (.record "Order" Sample.orderFields) = .ok true ∧
      SameOutcome (Sample.unnoted.test (.record "Order" Sample.orderFields))
        (Sample.unnotedView.test (.record "View" Sample.viewFields)) := by
  have hcoherent : Sample.unnoted.Coherent := by
    unfold Predicate.Coherent
    decide
  have holder : Sample.unnoted.OlderThan 2 := by
    unfold Predicate.OlderThan
    decide
  refine ⟨rfl, rfl, ?_⟩
  exact converted_same_test Sample.unnoted_readsFieldsOf hcoherent holder rfl
    (Cache.empty_agreesWith _ _) Sample.unnotedConversion_eq Sample.unnoted_defaultsOnlyOn
    Sample.unnoted_fieldsAgree

end Reshape
