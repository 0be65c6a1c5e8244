import Reshape.Proofs.Conversion.Compatibility

/-!
# Questions to a custom map

A custom map is asked about a field access before anything in the access is converted, and about
nothing in it when it answers. `Expr.questions` lists the accesses that it is asked about: those
that do not lie strictly inside an answered one (`mem_questions`), parents first and from left to
right (`questions_sorted`). A conversion calls the custom map for these in this order, for all of
them when it succeeds and for the first few when it fails (`counterpart_asks`, `run_calls`).
-/

namespace Reshape

/-- `customMap.answers root access` says that the custom map answers for an access. -/
def CustomMap.answers (customMap : CustomMap) (root : Parameter) (access : MemberAccess) : Bool :=
  (customMap access root).isSome

/-- A `Question` is an access that a custom map is asked about, and the path to it. -/
structure Question where
  path : List Nat
  access : MemberAccess

/-- `question.within place` is a question about a part as one about the whole, which has the part in
the given place. -/
def Question.within (place : Nat) (question : Question) : Question :=
  ⟨place :: question.path, question.access⟩

namespace Expr

/-- `e.asAccess?` is `e` as a field access, if it is one. -/
def asAccess? : Expr → Option MemberAccess
  | .member target field => some ⟨target, field⟩
  | _ => none

/-- `e.accessAt? path` is the field access in a place of `e`. -/
def accessAt? (e : Expr) (path : List Nat) : Option MemberAccess := (e.part? path).bind asAccess?

/-- `e.OpenAt answered path` says that no access strictly around a place of `e` is answered. -/
def OpenAt (answered : MemberAccess → Bool) (e : Expr) (path : List Nat) : Prop :=
  ∀ outer access, outer <+: path → outer ≠ path → e.accessAt? outer = some access →
    answered access = false

mutual
/-- `e.questions answered` are the questions to a custom map about `e`, in order, if the map answers
for the `answered` accesses. -/
def questions (answered : MemberAccess → Bool) : Expr → List Question
  | .parameter _ | .constant _ _ => []
  | .member target field =>
    ⟨[], ⟨target, field⟩⟩ ::
      if answered ⟨target, field⟩ then [] else (target.questions answered).map (.within 0)
  | .binary _ left right =>
    (left.questions answered).map (.within 0) ++ (right.questions answered).map (.within 1)
  | .unary _ operand => (operand.questions answered).map (.within 0)
  | .call _ receiver arguments =>
    (receiver.questions answered).map (.within 0) ++ questionsOfArguments answered 1 arguments
  | .conditional test ifTrue ifFalse =>
    (test.questions answered).map (.within 0) ++ ((ifTrue.questions answered).map (.within 1) ++
      (ifFalse.questions answered).map (.within 2))
  | .lambda _ body => (body.questions answered).map (.within 0)
  | .init _ bindings => questionsOfBindings answered 0 bindings

/-- `questionsOfArguments answered place arguments` are the questions about arguments, of which the
first stands in the given place. -/
def questionsOfArguments (answered : MemberAccess → Bool) (place : Nat) :
    List Expr → List Question
  | [] => []
  | argument :: rest =>
    (argument.questions answered).map (.within place) ++
      questionsOfArguments answered (place + 1) rest

/-- `questionsOfBindings answered place bindings` are the questions about bound expressions, of
which the first stands in the given place. -/
def questionsOfBindings (answered : MemberAccess → Bool) (place : Nat) :
    List (String × Expr) → List Question
  | [] => []
  | (_, value) :: rest =>
    (value.questions answered).map (.within place) ++ questionsOfBindings answered (place + 1) rest
end

variable {answered : MemberAccess → Bool}

attribute [local simp] questions questionsOfArguments questionsOfBindings

/-- Bindings raise the questions of the bound expressions. -/
theorem questions_of_bindings_eq (place : Nat) (bindings : List (String × Expr)) :
    questionsOfBindings answered place bindings =
      questionsOfArguments answered place (bindings.map (·.2)) := by
  induction bindings generalizing place with
  | nil => rfl
  | cons binding rest ih => simp [ih]

/-- The questions about an access are the access itself and, unless it is answered, those about its
target. -/
theorem questions_of_access {e : Expr} {access : MemberAccess}
    (h : e.asAccess? = some access) :
    e.questions answered = ⟨[], access⟩ ::
      if answered access then [] else questionsOfArguments answered 0 e.children := by
  cases e with
  | member target field =>
      cases h
      simp [children]
  | _ => cases h

/-- The questions about any other expression are those about its direct parts. -/
theorem questions_of_parts {e : Expr} (h : e.asAccess? = none) :
    e.questions answered = questionsOfArguments answered 0 e.children := by
  cases e with
  | member => cases h
  | init => simp [children, questions_of_bindings_eq]
  | _ => simp [children]

/-- Questions about expressions in a row are questions about one of them. -/
theorem mem_questionsOfArguments {first : Nat} {parts : List Expr} {path : List Nat}
    {access : MemberAccess} :
    ⟨path, access⟩ ∈ questionsOfArguments answered first parts ↔
      ∃ index part inner, parts[index]? = some part ∧ ⟨inner, access⟩ ∈ questions answered part ∧
        path = (first + index) :: inner := by
  induction parts generalizing first with
  | nil => simp
  | cons part rest ih =>
      rw [questionsOfArguments, List.mem_append, ih, List.mem_map]
      constructor
      · rintro (⟨⟨inner, _⟩, hinner, heq⟩ | ⟨index, found, inner, hfound, hinner, rfl⟩)
        · cases heq
          exact ⟨0, part, inner, rfl, hinner, rfl⟩
        · exact ⟨index + 1, found, inner, hfound, hinner, by rw [Nat.add_right_comm, Nat.add_assoc]⟩
      · rintro ⟨_ | index, found, inner, hfound, hinner, rfl⟩
        · cases hfound
          exact Or.inl ⟨_, hinner, rfl⟩
        · refine Or.inr ⟨index, found, inner, hfound, hinner, ?_⟩
          rw [Nat.add_right_comm, Nat.add_assoc]

/-- The whole is asked about if it is an access. -/
theorem mem_questions_nil {e : Expr} {access : MemberAccess} :
    ⟨[], access⟩ ∈ e.questions answered ↔ e.asAccess? = some access := by
  have hparts : ∀ parts, ⟨[], access⟩ ∉ questionsOfArguments answered 0 parts := by
    intro parts hmem
    obtain ⟨_, _, _, _, _, heq⟩ := mem_questionsOfArguments.1 hmem
    cases heq
  cases hown : e.asAccess? with
  | none => simp [questions_of_parts hown, hparts]
  | some own =>
      rw [questions_of_access hown]
      cases answered own <;> simp [hparts, eq_comm]

/-- A part is asked about as it would be alone, unless the whole is an answered access. -/
theorem mem_questions_cons {e : Expr} {place : Nat} {path : List Nat} {access : MemberAccess} :
    ⟨place :: path, access⟩ ∈ e.questions answered ↔
      (∀ own, e.asAccess? = some own → answered own = false) ∧
        ∃ part, e.children[place]? = some part ∧ ⟨path, access⟩ ∈ part.questions answered := by
  have hparts : ∀ parts, ⟨place :: path, access⟩ ∈ questionsOfArguments answered 0 parts ↔
      ∃ part, parts[place]? = some part ∧ ⟨path, access⟩ ∈ part.questions answered := by
    intro parts
    rw [mem_questionsOfArguments]
    constructor
    · rintro ⟨index, part, inner, hpart, hinner, heq⟩
      rw [Nat.zero_add] at heq
      obtain ⟨rfl, rfl⟩ := List.cons.inj heq
      exact ⟨part, hpart, hinner⟩
    · rintro ⟨part, hpart, hinner⟩
      exact ⟨place, part, path, hpart, hinner, by rw [Nat.zero_add]⟩
  cases hown : e.asAccess? with
  | none => simp [questions_of_parts hown, hparts]
  | some own =>
      rw [questions_of_access hown]
      cases hanswered : answered own <;> simp [hparts, hanswered]

/-! ## Places -/

/-- A path leads first to a part and then on from there. -/
theorem accessAt?_cons (e : Expr) (place : Nat) (path : List Nat) :
    e.accessAt? (place :: path) = e.children[place]?.bind fun part => part.accessAt? path := by
  rw [accessAt?, part?, Option.bind_assoc]
  rfl

/-- Nothing is around the whole. -/
theorem openAt_nil (answered : MemberAccess → Bool) (e : Expr) : e.OpenAt answered [] :=
  fun _ _ houter hne => absurd (List.prefix_nil.1 houter) hne

/-- Around a place in a part stand the whole and what is around it in the part. -/
theorem openAt_cons {e part : Expr} {place : Nat} {path : List Nat}
    (hpart : e.children[place]? = some part) :
    e.OpenAt answered (place :: path) ↔
      (∀ own, e.asAccess? = some own → answered own = false) ∧ part.OpenAt answered path := by
  have hinner : ∀ outer, e.accessAt? (place :: outer) = part.accessAt? outer := by
    intro outer
    rw [accessAt?_cons, hpart, Option.bind_some]
  constructor
  · intro h
    refine ⟨fun own hown => h [] own List.nil_prefix (List.cons_ne_nil _ _).symm hown,
      fun outer access houter hne haccess => ?_⟩
    rw [← hinner] at haccess
    exact h (place :: outer) access (List.cons_prefix_cons.2 ⟨rfl, houter⟩)
      (fun heq => hne (List.cons.inj heq).2) haccess
  · rintro ⟨hwhole, hinside⟩ outer access houter hne haccess
    cases outer with
    | nil => exact hwhole access haccess
    | cons first outer =>
        obtain ⟨rfl, hprefix⟩ := List.cons_prefix_cons.1 houter
        rw [hinner] at haccess
        exact hinside outer access hprefix (fun heq => hne (by rw [heq])) haccess

/-- The questions about an expression are the accesses in it that do not lie strictly inside an
answered one. -/
theorem mem_questions {e : Expr} {question : Question} :
    question ∈ e.questions answered ↔
      e.accessAt? question.path = some question.access ∧ e.OpenAt answered question.path := by
  obtain ⟨path, access⟩ := question
  induction path generalizing e with
  | nil =>
      rw [mem_questions_nil, and_iff_left (openAt_nil answered e)]
      rfl
  | cons place path ih =>
      rw [mem_questions_cons]
      cases hpart : e.children[place]? with
      | none => simp [accessAt?_cons, hpart]
      | some part =>
          rw [openAt_cons hpart, accessAt?_cons, hpart, Option.bind_some]
          simp only [Option.some.injEq, exists_eq_left', ih]
          tauto

/-! ## Order -/

/-- Questions about parts in a row come in the order of the parts. -/
theorem questionsOfArguments_sorted {first : Nat} {parts : List Expr}
    (h : ∀ part ∈ parts, (part.questions answered).Pairwise fun q q' => q.path < q'.path) :
    (questionsOfArguments answered first parts).Pairwise fun q q' => q.path < q'.path := by
  induction parts generalizing first with
  | nil => exact .nil
  | cons part rest ih =>
      rw [questionsOfArguments, List.pairwise_append, List.pairwise_map]
      refine ⟨?_, ih fun e he => h e (List.mem_cons_of_mem _ he), ?_⟩
      · exact (h part List.mem_cons_self).imp fun hlt => List.cons_lt_cons_iff.2 (.inr ⟨rfl, hlt⟩)
      · rintro question hquestion ⟨path, access⟩ hlater
        obtain ⟨inner, _, rfl⟩ := List.mem_map.1 hquestion
        obtain ⟨index, _, _, _, _, rfl⟩ := mem_questionsOfArguments.1 hlater
        exact List.cons_lt_cons_iff.2 (.inl (by omega))

/-- Questions come parents first and from left to right: the paths ascend in lexicographic order. -/
theorem questions_sorted (answered : MemberAccess → Bool) (e : Expr) :
    (e.questions answered).Pairwise fun q q' => q.path < q'.path := by
  induction e using children_induction with
  | step e ih =>
      have hparts := @questionsOfArguments_sorted answered 0 e.children ih
      cases hown : e.asAccess? with
      | none => rwa [questions_of_parts hown]
      | some own =>
          rw [questions_of_access hown]
          cases answered own with
          | true => exact List.pairwise_singleton _ _
          | false =>
              refine List.pairwise_cons.2 ⟨?_, hparts⟩
              rintro ⟨path, access⟩ hinner
              obtain ⟨_, _, _, _, _, rfl⟩ := mem_questionsOfArguments.1 hinner
              exact List.nil_lt_cons _ _

end Expr

/-- `event.call?` is the call of the custom map that an event stands for: the access and the
parameter that the map was given. -/
def ConversionEvent.call? : ConversionEvent → Option (MemberAccess × Parameter)
  | .asked access root _ => some (access, root)
  | _ => none

/-- `callsOf root questions` are the calls by which questions are asked. -/
def callsOf (root : Parameter) (questions : List Question) : List (MemberAccess × Parameter) :=
  questions.map fun question => (question.access, root)

theorem callsOf_within (root : Parameter) (place : Nat) (questions : List Question) :
    callsOf root (questions.map (.within place)) = callsOf root questions := by
  simp [callsOf, Question.within]

theorem callsOf_append (root : Parameter) (questions questions' : List Question) :
    callsOf root (questions ++ questions') = callsOf root questions ++ callsOf root questions' :=
  List.map_append

namespace Conversion

variable {σ α β : Type}

/-! ## Calls that an action makes -/

/-- `state.calls` are the calls of the custom map so far. -/
def State.calls (state : State σ) : List (MemberAccess × Parameter) :=
  state.events.filterMap ConversionEvent.call?

/-- Events that are added add their calls. -/
theorem State.calls_add (state : State σ) (events : List ConversionEvent) :
    State.calls { state with events := state.events ++ events } =
      state.calls ++ events.filterMap ConversionEvent.call? :=
  List.filterMap_append

/-- `Asks calls action` says that an action makes these calls of the custom map, in this order: all
of them if it succeeds, and the first few if it fails. -/
def Asks (calls : List (MemberAccess × Parameter)) (action : Action σ α) : Prop :=
  ∀ state, ∃ made, (perform action state).2.calls = state.calls ++ made ∧ made <+: calls ∧
    ∀ a, (perform action state).1 = .ok a → made = calls

/-- An action that adds no calls asks nothing. -/
theorem asks_none {action : Action σ α}
    (h : ∀ state, (perform action state).2.calls = state.calls) : Asks [] action :=
  fun state => ⟨[], by rw [h, List.append_nil], List.nil_prefix, fun _ _ => rfl⟩

theorem asks_pure (a : α) : Asks [] (pure a : Action σ α) := asks_none fun _ => rfl

/-- What fails at once has asked nothing of what it might have. -/
theorem asks_throw (calls : List (MemberAccess × Parameter)) (error : Error) :
    Asks calls (throw error : Action σ α) := by
  intro state
  refine ⟨[], by rw [perform_throw, List.append_nil], List.nil_prefix, fun _ h => ?_⟩
  cases h

/-- Noting an event asks what the event is about, if that is a question. -/
theorem asks_note (event : ConversionEvent) :
    Asks event.call?.toList (note event : Action σ Unit) := by
  intro state
  refine ⟨event.call?.toList, ?_, List.prefix_refl _, fun _ _ => rfl⟩
  rw [perform_note, State.calls_add, List.filterMap_cons, List.filterMap_nil]
  cases event.call? <;> rfl

theorem asks_fresh (name : Option String) (type : FieldType) :
    Asks [] (fresh name type : Action σ Parameter) :=
  asks_none fun _ => rfl

/-- Reading annotations calls no custom map. -/
theorem asks_read (reader : AnnotationReader σ) (field : FieldId) :
    Asks [] <| annotationOf reader field :=
  asks_none (filterMap_read (fun _ => rfl) reader field)

/-- A composed action asks what its first part asks, and then what the second does. -/
theorem asks_bind {calls calls' : List (MemberAccess × Parameter)} {action : Action σ α}
    {next : α → Action σ β} (h : Asks calls action) (hnext : ∀ a, Asks calls' (next a)) :
    Asks (calls ++ calls') (action >>= next) := by
  intro state
  obtain ⟨made, hmade, hfirst, hall⟩ := h state
  rw [perform_bind]
  rcases hperform : perform action state with ⟨_ | a, middle⟩
  all_goals rw [hperform] at hmade hall
  · exact ⟨made, hmade, hfirst.trans (List.prefix_append _ _), fun _ h => nomatch h⟩
  · -- the first action succeeded, so that it made all its calls
    obtain rfl := hall a rfl
    obtain ⟨more, hmore, hsecond, hrest⟩ := hnext a middle
    refine ⟨made ++ more, ?_, List.prefix_append_right_inj _ |>.2 hsecond, fun b hb => ?_⟩
    · rw [hmore, hmade, List.append_assoc]
    · rw [hrest b hb]

/-- What follows an action only by giving its result a form asks nothing more. -/
theorem asks_map {calls : List (MemberAccess × Parameter)} {action : Action σ α} {form : α → β}
    (h : Asks calls action) : Asks calls (action >>= fun a => pure (form a)) := by
  simpa using asks_bind h fun a => asks_pure (form a)

/-! ## Calls that a conversion makes -/

variable {task : Task σ} {scopes : Scopes} {element : Option String} {customMap : CustomMap}

theorem destinationName_asks (task : Task σ) (field : FieldDescriptor) (direct : Bool) :
    Asks [] (task.destinationName field direct) := by
  rw [Task.destinationName]
  split
  · split
    · exact asks_pure _
    · refine asks_bind (asks_read _ _) fun answer => ?_
      split
      · split
        · exact asks_pure _
        · exact asks_pure _
      · exact asks_pure _
  · exact asks_pure _

theorem conclude_asks (task : Task σ) (access : MemberAccess) (target : Expr) (name : String)
    (origin : NameOrigin) : Asks [] (task.conclude access target name origin) := by
  rw [Task.conclude]
  split
  · exact asks_map (asks_note _)
  · rw [Task.missing]
    split
    · exact asks_map (asks_note _)
    · exact asks_throw _ _

/-- Resolving an access asks the custom map nothing more. -/
theorem resolve_asks (task : Task σ) (scopes : Scopes) (access : MemberAccess) (target : Expr) :
    Asks [] (task.resolve scopes access target) := by
  rw [resolve_eq]
  exact asks_bind (destinationName_asks task _ _) fun _ => conclude_asks task _ _ _ _

theorem lambdaParameter_asks (task : Task σ) (element : Option String) (p : Parameter) :
    Asks [] (task.lambdaParameter element p) := by
  rw [Task.lambdaParameter]
  split
  · dsimp only
    split
    · exact asks_bind (asks_note _) fun _ => asks_fresh _ _
    · exact asks_fresh _ _
  · exact asks_pure _

/-- The custom map is asked about an access first. What it answers is the counterpart; if it has no
answer, the target is converted and the access resolved. -/
theorem counterpart_member_of_map (hmap : task.options.customMap = some customMap) (target : Expr)
    (field : FieldDescriptor) :
    counterpart task scopes element (.member target field) = (do
      note (.asked ⟨target, field⟩ task.root (customMap.answers task.root ⟨target, field⟩))
      match customMap ⟨target, field⟩ task.root with
      | some answer => return answer
      | none =>
        let converted ← counterpart task scopes none target
        task.resolve scopes ⟨target, field⟩ converted) := by
  rw [counterpart, Task.consult, hmap]
  simp only [bind_assoc, pure_bind]
  rfl

/-- Arguments ask one after the other. -/
theorem argument_counterparts_ask {answered : MemberAccess → Bool} {arguments : List Expr}
    (place : Nat) (h : ∀ e ∈ arguments, Asks (callsOf task.root (e.questions answered))
      (counterpart task scopes element e)) :
    Asks (callsOf task.root (Expr.questionsOfArguments answered place arguments))
      (argumentCounterparts task scopes element arguments) := by
  induction arguments generalizing place with
  | nil => exact asks_pure _
  | cons argument rest ih =>
      rw [argumentCounterparts, Expr.questionsOfArguments, callsOf_append, callsOf_within]
      refine asks_bind (h argument List.mem_cons_self) fun _ => asks_map ?_
      exact ih _ fun e he => h e (List.mem_cons_of_mem _ he)

theorem binding_counterparts_ask {answered : MemberAccess → Bool}
    {bindings : List (String × Expr)} (place : Nat)
    (h : ∀ b ∈ bindings, Asks (callsOf task.root (b.2.questions answered))
      (counterpart task scopes none b.2)) :
    Asks (callsOf task.root (Expr.questionsOfBindings answered place bindings))
      (bindingCounterparts task scopes bindings) := by
  induction bindings generalizing place with
  | nil => exact asks_pure _
  | cons binding rest ih =>
      rw [bindingCounterparts, Expr.questionsOfBindings, callsOf_append, callsOf_within]
      refine asks_bind (h binding List.mem_cons_self) fun _ => asks_map ?_
      exact ih _ fun b hb => h b (List.mem_cons_of_mem _ hb)

/-- A conversion asks the custom map the questions about the expression, in their order. -/
theorem counterpart_asks (hmap : task.options.customMap = some customMap) (scopes : Scopes)
    (element : Option String) (e : Expr) :
    Asks (callsOf task.root (e.questions (customMap.answers task.root)))
      (counterpart task scopes element e) := by
  induction e generalizing scopes element with
  | parameter p => rw [counterpart]; exact asks_pure _
  | member target field ih =>
      rw [counterpart_member_of_map hmap, Expr.questions]
      refine asks_bind (asks_note _) fun _ => ?_
      -- with an answer at hand, nothing in the target is asked about
      rw [CustomMap.answers]
      cases customMap ⟨target, field⟩ task.root with
      | some answer => exact asks_pure _
      | none =>
          have htarget := asks_bind (ih scopes none) fun converted =>
            resolve_asks task scopes ⟨target, field⟩ converted
          rw [List.append_nil, ← callsOf_within task.root 0] at htarget
          exact htarget
  | constant value type => rw [counterpart]; exact asks_pure _
  | binary op left right ihleft ihright =>
      rw [counterpart, Expr.questions, callsOf_append, callsOf_within, callsOf_within]
      exact asks_bind (ihleft scopes none) fun _ => asks_map (ihright scopes none)
  | unary op operand ih =>
      rw [counterpart, Expr.questions, callsOf_within]
      exact asks_map (ih scopes none)
  | call method receiver arguments ihreceiver iharguments =>
      rw [counterpart, Expr.questions, callsOf_append, callsOf_within]
      split
      · refine asks_bind (ihreceiver scopes none) fun _ => asks_map ?_
        exact argument_counterparts_ask 1 fun e he => iharguments e he scopes _
      · exact asks_throw _ _
  | conditional test ifTrue ifFalse ihtest ihtrue ihfalse =>
      rw [counterpart, Expr.questions, callsOf_append, callsOf_append, callsOf_within,
        callsOf_within, callsOf_within]
      refine asks_bind (ihtest scopes none) fun _ => ?_
      exact asks_bind (ihtrue scopes none) fun _ => asks_map (ihfalse scopes none)
  | lambda p body ih =>
      rw [counterpart, Expr.questions, callsOf_within]
      exact asks_bind (lambdaParameter_asks task _ _) fun _ => asks_map (ih _ none)
  | init shape bindings ih =>
      rw [counterpart, Expr.questions]
      exact asks_map (binding_counterparts_ask 0 fun b hb => ih b hb scopes none)

/-! ## Calls of the conversion of a predicate -/

variable {registry : Registry} {options : Options} {reader : AnnotationReader σ}
  {predicate : Predicate} {destination : String}

/-- `checked predicate root body` ends the conversion of a predicate, the body being converted. -/
def checked (predicate : Predicate) (root : Parameter) (body : Expr) : Action σ Predicate := do
  let converted : Predicate := ⟨root, body⟩
  if predicate.isBoolean && !converted.isBoolean then throw (noResult body)
  note (.finished converted)
  return converted

theorem checked_asks (predicate : Predicate) (root : Parameter) (body : Expr) :
    Asks [] (checked predicate root body : Action σ Predicate) := by
  rw [checked]
  dsimp only
  split
  · exact asks_bind (asks_throw [] _) fun _ => asks_map (asks_note _)
  · exact asks_map (asks_note _)

/-- Once the shapes are settled, the body is converted in a task and a state of its own. -/
theorem perform_run (start : State σ) :
    perform (run registry options reader predicate destination) start =
      match shapes registry predicate destination with
      | .error error => (.error error, start)
      | .ok source =>
        let task := bodyTask registry options reader predicate source destination start.nextIdentity
        perform (counterpart task [(predicate.parameter, task.root)] none predicate.body >>=
            checked predicate task.root)
          (bodyState predicate source destination start) := by
  rw [run, perform_bind, perform_liftM]
  cases shapes registry predicate destination <;> rfl

/-- The conversion of a predicate asks the questions about its body. -/
theorem run_calls (hmap : options.customMap = some customMap) (start : State σ) :
    let root := rootParameter predicate destination start.nextIdentity
    let outcome := perform (run registry options reader predicate destination) start
    let calls := callsOf root (predicate.body.questions (customMap.answers root))
    ∃ made, outcome.2.calls = start.calls ++ made ∧ made <+: calls ∧
      ∀ converted, outcome.1 = .ok converted → made = calls := by
  intro root outcome calls
  dsimp only [outcome]
  rw [perform_run]
  cases shapes registry predicate destination with
  | error error =>
      exact ⟨[], (List.append_nil _).symm, List.nil_prefix, fun _ h => nomatch h⟩
  | ok source =>
      let task := bodyTask registry options reader predicate source destination start.nextIdentity
      have hbody : Asks calls
          (counterpart task [(predicate.parameter, root)] none predicate.body) :=
        counterpart_asks hmap _ _ _
      have hasks := asks_bind hbody (checked_asks predicate root)
      rw [List.append_nil] at hasks
      have hstart : (bodyState predicate source destination start).calls = start.calls := by
        simp [State.calls, bodyState, ConversionEvent.call?]
      rw [← hstart]
      exact hasks _

end Conversion

end Reshape
