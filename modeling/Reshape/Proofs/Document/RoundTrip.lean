import Reshape.Proofs.Document.WellFormed
import Reshape.Proofs.Value.Json

/-!
# Documents of bound predicates

Describing a bound predicate loses nothing, as long as its constants are plain: the document that
describes it can be bound again, to a predicate that is the same and in which every reference has
the same binder (`describe_bind`).

A description writes names, texts of types and JSON. The names are those of parameters that binding
found by name, the types were read from texts, and the constants from JSON, so all of them are read
back. `SameBinding` says what two predicates have in common that differ in identities alone.
-/

namespace Reshape

open Conversion (Referent referent)

/-! ## Expressions that differ in identities -/

/-- `SameBinding root root' lambdas e e'` says that `e` and `e'` differ in the identities of their
parameters alone, and that every reference denotes the same binder in both, in predicates over
`root` and `root'` and inside lambdas over the given parameters. -/
inductive SameBinding (root root' : Parameter) :
    List (Parameter × Parameter) → Expr → Expr → Prop where
  | parameter {lambdas p q} :
      p.same q → referent root (lambdas.map Prod.fst) p ≠ .free →
      referent root' (lambdas.map Prod.snd) q = referent root (lambdas.map Prod.fst) p →
      SameBinding root root' lambdas (.parameter p) (.parameter q)
  | member {lambdas target target' field} :
      SameBinding root root' lambdas target target' →
      SameBinding root root' lambdas (.member target field) (.member target' field)
  | constant {lambdas value type} :
      value.same value →
      SameBinding root root' lambdas (.constant value type) (.constant value type)
  | binary {lambdas op left left' right right'} :
      SameBinding root root' lambdas left left' → SameBinding root root' lambdas right right' →
      SameBinding root root' lambdas (.binary op left right) (.binary op left' right')
  | unary {lambdas op operand operand'} :
      SameBinding root root' lambdas operand operand' →
      SameBinding root root' lambdas (.unary op operand) (.unary op operand')
  | call {lambdas method receiver receiver' arguments arguments'} :
      SameBinding root root' lambdas receiver receiver' → arguments.length = arguments'.length →
      (∀ e e', (e, e') ∈ arguments.zip arguments' → SameBinding root root' lambdas e e') →
      SameBinding root root' lambdas (.call method receiver arguments)
        (.call method receiver' arguments')
  | conditional {lambdas test test' ifTrue ifTrue' ifFalse ifFalse'} :
      SameBinding root root' lambdas test test' → SameBinding root root' lambdas ifTrue ifTrue' →
      SameBinding root root' lambdas ifFalse ifFalse' →
      SameBinding root root' lambdas (.conditional test ifTrue ifFalse)
        (.conditional test' ifTrue' ifFalse')
  | lambda {lambdas p q body body'} :
      p.same q → SameBinding root root' ((p, q) :: lambdas) body body' →
      SameBinding root root' lambdas (.lambda p body) (.lambda q body')
  | init {lambdas shape bindings bindings'} :
      bindings.map Prod.fst = bindings'.map Prod.fst →
      (∀ b b', (b, b') ∈ bindings.zip bindings' → SameBinding root root' lambdas b.2 b'.2) →
      SameBinding root root' lambdas (.init shape bindings) (.init shape bindings')

/-- Parameters are the same when they have one name and one type. -/
theorem Parameter.same_iff {p q : Parameter} : p.same q ↔ p.name = q.name ∧ p.type = q.type := by
  simp [Parameter.same]

namespace SameBinding

variable {root root' : Parameter} {lambdas : List (Parameter × Parameter)} {e e' : Expr}

/-- What is bound alike has one type. -/
theorem resultType_eq (h : SameBinding root root' lambdas e e') : e'.resultType = e.resultType := by
  induction h with
  | parameter hsame => exact (Parameter.same_iff.1 hsame).2.symm
  | binary _ _ ihleft ihright => rw [Expr.resultType, Expr.resultType, ihleft, ihright]
  | @unary _ op _ _ _ ih =>
      cases op with
      | not => rfl
      | negate => exact ih
  | conditional _ _ _ _ ihtrue _ => exact ihtrue
  | lambda _ _ ih => exact ih
  | _ => rfl

/-- Bindings of the same names are related one by one when what they bind is. -/
theorem forall₂_bindings (related : Expr → Expr → Prop)
    {bindings bindings' : List (String × Expr)}
    (hnames : bindings.map Prod.fst = bindings'.map Prod.fst)
    (h : ∀ b b', (b, b') ∈ bindings.zip bindings' → related b.2 b'.2) :
    List.Forall₂ (fun b b' => b.1 = b'.1 ∧ related b.2 b'.2) bindings bindings' := by
  rw [← List.forall₂_eq_eq_eq, List.forall₂_map_left_iff, List.forall₂_map_right_iff] at hnames
  rw [List.forall₂_iff_zip]
  exact ⟨hnames.length_eq, fun hmem => ⟨List.forall₂_zip hnames hmem, h _ _ hmem⟩⟩

/-- Expressions that differ in identities are the same. -/
theorem same (h : SameBinding root root' lambdas e e') : e.same e' := by
  induction h with
  | parameter hsame => exact hsame
  | member _ ih => simp [Expr.same, ih]
  | constant hsame => simp [Expr.same, hsame]
  | binary _ _ ihleft ihright => simp [Expr.same, ihleft, ihright]
  | unary _ ih => simp [Expr.same, ih]
  | call _ hlength _ ihreceiver iharguments =>
      have harguments := List.forall₂_iff_zip.2 ⟨hlength, fun hmem => iharguments _ _ hmem⟩
      simp [Expr.same, ihreceiver, Expr.sameArguments_iff.2 harguments]
  | conditional _ _ _ ihtest ihtrue ihfalse => simp [Expr.same, ihtest, ihtrue, ihfalse]
  | lambda hsame _ ih => simp [Expr.same, hsame, ih]
  | init hnames _ ih =>
      have hbindings := forall₂_bindings (fun e e' => e.same e') hnames ih
      simp [Expr.same, Expr.sameBindings_iff.2 hbindings]

/-- Arguments have one description when they have it one by one. -/
theorem ofArguments_eq {arguments arguments' : List Expr}
    (h : List.Forall₂ (fun e e' => Node.ofExpr e' = Node.ofExpr e) arguments arguments') :
    Node.ofArguments arguments' = Node.ofArguments arguments := by
  induction h with
  | nil => rfl
  | cons hhead _ ih => rw [Node.ofArguments, Node.ofArguments, hhead, ih]

theorem ofBindings_eq {bindings bindings' : List (String × Expr)}
    (h : List.Forall₂ (fun b b' => b.1 = b'.1 ∧ Node.ofExpr b'.2 = Node.ofExpr b.2) bindings
      bindings') : Node.ofBindings bindings' = Node.ofBindings bindings := by
  induction h with
  | nil => rfl
  | cons hhead _ ih => rw [Node.ofBindings, Node.ofBindings, hhead.1, hhead.2, ih]

/-- Expressions that differ in identities are written down alike. -/
theorem ofExpr_eq (h : SameBinding root root' lambdas e e') : Node.ofExpr e' = Node.ofExpr e := by
  induction h with
  | parameter hsame => rw [Node.ofExpr, Node.ofExpr, (Parameter.same_iff.1 hsame).1]
  | member _ ih => rw [Node.ofExpr, Node.ofExpr, ih]
  | constant => rfl
  | binary _ _ ihleft ihright => rw [Node.ofExpr, Node.ofExpr, ihleft, ihright]
  | unary _ ih => rw [Node.ofExpr, Node.ofExpr, ih]
  | call _ hlength _ ihreceiver iharguments =>
      have harguments := List.forall₂_iff_zip.2 ⟨hlength, fun hmem => iharguments _ _ hmem⟩
      rw [Node.ofExpr, Node.ofExpr, ihreceiver, ofArguments_eq harguments]
  | conditional _ _ _ ihtest ihtrue ihfalse =>
      rw [Node.ofExpr, Node.ofExpr, ihtest, ihtrue, ihfalse]
  | lambda hsame _ ih =>
      obtain ⟨hname, htype⟩ := Parameter.same_iff.1 hsame
      rw [Node.ofExpr, Node.ofExpr, hname, htype, ih]
  | init hnames _ ih =>
      have hbindings :=
        forall₂_bindings (fun e e' => Node.ofExpr e' = Node.ofExpr e) hnames ih
      rw [Node.ofExpr, Node.ofExpr, ofBindings_eq hbindings]

end SameBinding

/-! ## Constants -/

/-- `json.isPlain` says that JSON is null, a boolean, a text or a 64-bit integer. -/
def Json.isPlain : Json → Bool
  | .null | .bool _ | .string _ => true
  | .number value => value.toInt64?.isSome
  | .array _ | .object _ => false

namespace Document

/-- `PlainConstant json text` says that a constant of a document has no type and is null, a boolean,
a text or a 64-bit integer, or that it has a type and is bound to none but a plain value. -/
def PlainConstant (json : Json) : Option String → Prop
  | none => json.isPlain
  | some text => ∀ value type,
    bindConstant json (some text) = .ok (.constant value type) → value.Plain

/-- A type that a document gives is read from its text. -/
theorem readType_render {text : String} {type : FieldType} (h : readType text = .ok type) :
    readType type.render = .ok type :=
  readType_eq_ok.2 (FieldType.read_render (FieldType.nameable_of_ofChars (readType_eq_ok.1 h)))

/-- Plain JSON is read as a plain value, whose type can be read and under which it is read back. -/
theorem readConstant_any {json : Json} {value : Value} (hplain : json.isPlain)
    (h : readConstant .any json = .ok value) :
    value.Plain ∧ value.inferredType.Nameable ∧
      Value.ofJson? value.inferredType value.toJson = .ok value := by
  rw [readConstant_eq_ok] at h
  cases json with
  | null => cases h; exact ⟨.null, trivial, rfl⟩
  | bool b => cases h; exact ⟨.boolean b, trivial, rfl⟩
  | string text => cases h; exact ⟨.string text, trivial, rfl⟩
  | number number =>
      obtain ⟨n, hn⟩ := Option.isSome_iff_exists.1 hplain
      have hvalue : Value.ofPlainJson (.number number) = value := Except.ok.inj h
      rw [Value.ofPlainJson, hn] at hvalue
      obtain rfl := hvalue
      have hread : Value.ofJson? .integer (.number number) = .ok (.integer n) := by
        show Value.orMismatch .integer _ (number.toInt64?.map .integer) = _
        rw [hn]
        rfl
      exact ⟨.integer n, trivial, Value.ofJson_toJson hread (.integer n)⟩
  | array items => cases hplain
  | object members => cases hplain

/-- A plain constant is bound again from how it is written down. -/
theorem bindConstant_toJson {json : Json} {text : Option String} {value : Value} {type : FieldType}
    (hplain : PlainConstant json text) (h : bindConstant json text = .ok (.constant value type)) :
    value.Plain ∧ bindConstant value.toJson (some type.render) = .ok (.constant value type) := by
  cases text with
  | none =>
      obtain ⟨found, hfound, heq⟩ := bindConstant_none.1 h
      cases heq
      obtain ⟨hvalue, hname, hback⟩ := readConstant_any hplain hfound
      refine ⟨hvalue, bindConstant_some.2 ⟨_, _, ?_, readConstant_eq_ok.2 hback, rfl⟩⟩
      exact readType_eq_ok.2 (FieldType.read_render hname)
  | some text =>
      have hvalue := hplain value type h
      obtain ⟨_, _, htype, hfound, heq⟩ := bindConstant_some.1 h
      cases heq
      have hback := Value.ofJson_toJson (readConstant_eq_ok.1 hfound) hvalue
      exact ⟨hvalue, bindConstant_some.2
        ⟨_, _, readType_render htype, readConstant_eq_ok.2 hback, rfl⟩⟩

end Document

namespace Node

/-- `node.Plain` says that the constants in a node are plain. -/
def Plain (node : Node) : Prop :=
  ∀ constant ∈ node.constants, Document.PlainConstant constant.1 constant.2

end Node

namespace Expr

/-- `e.ConstantsRead` says that the constants in `e` are bound again from how they are written down,
and that their values are the same as themselves. -/
def ConstantsRead (e : Expr) : Prop :=
  ∀ value type, .constant value type ∈ e.nodes → value.same value ∧
    Document.bindConstant value.toJson (some type.render) = .ok (.constant value type)

theorem ConstantsRead.child {e part : Expr} (h : e.ConstantsRead) (hpart : part ∈ e.children) :
    part.ConstantsRead :=
  fun value type hconstant => h value type (mem_nodes_of_child hconstant hpart)

end Expr

namespace Document

/-- The constants of what a plain node stands for have plain values, which are read back. -/
theorem Represents.constant_plain {registry : Registry} {root : Parameter}
    {lambdas : List Parameter} {node : Node} {e : Expr}
    (h : Represents registry root lambdas node e) (hplain : node.Plain) {value : Value}
    {type : FieldType} (hconstant : .constant value type ∈ e.nodes) :
    value.Plain ∧ bindConstant value.toJson (some type.render) = .ok (.constant value type) := by
  obtain ⟨_, _, hrepresents, hconstants⟩ := h.nodes _ hconstant
  cases hrepresents with
  | constant hbind =>
      have hmem := hconstants (List.mem_singleton_self _)
      exact bindConstant_toJson (hplain _ hmem) hbind

/-- The constants of what a plain node stands for are read back. -/
theorem Represents.constantsRead {registry : Registry} {root : Parameter}
    {lambdas : List Parameter} {node : Node} {e : Expr}
    (h : Represents registry root lambdas node e) (hplain : node.Plain) : e.ConstantsRead := by
  intro value type hconstant
  obtain ⟨hvalue, hback⟩ := h.constant_plain hplain hconstant
  exact ⟨hvalue.same_self, hback⟩

/-! ## Binding again -/

variable {registry : Registry} {root root' : Parameter} {lambdas : List (Parameter × Parameter)}
  {start : Nat}

/-- What is found by name has the name. -/
theorem name_of_binder {root p : Parameter} {lambdas : List Parameter} {name : Option String}
    (h : (nameReferent root lambdas name).binder? root lambdas = some p) : p.name = name := by
  rw [← findParameter_eq_ok, findParameter] at h
  split at h
  · rename_i found hfound
    cases h
    simpa using List.find?_some hfound
  · cases h

/-- `Alike root root' lambdas` says that two predicates and the lambdas around have parameters of
the same names and types. -/
def Alike (root root' : Parameter) (lambdas : List (Parameter × Parameter)) : Prop :=
  root.same root' ∧ ∀ pair ∈ lambdas, pair.1.same pair.2

/-- Parameters of the same names and types have the same binders by name. -/
theorem Alike.nameReferent_eq (h : Alike root root' lambdas) (name : Option String) :
    nameReferent root' (lambdas.map Prod.snd) name =
      nameReferent root (lambdas.map Prod.fst) name := by
  have hnames : (lambdas.map Prod.snd).map Parameter.name =
      (lambdas.map Prod.fst).map Parameter.name := by
    rw [List.map_map, List.map_map]
    exact List.map_congr_left fun pair hpair => (Parameter.same_iff.1 (h.2 pair hpair)).1.symm
  rw [nameReferent, nameReferent, hnames, (Parameter.same_iff.1 h.1).1]

/-- Binders at the same place have parameters of the same name and type. -/
theorem Alike.binder (h : Alike root root' lambdas) {r : Referent} {p : Parameter}
    (hbinder : r.binder? root (lambdas.map Prod.fst) = some p) :
    ∃ q, r.binder? root' (lambdas.map Prod.snd) = some q ∧ p.same q := by
  cases r with
  | lambda depth =>
      rw [Referent.binder?, List.getElem?_map, Option.map_eq_some_iff] at hbinder
      obtain ⟨pair, hpair, rfl⟩ := hbinder
      refine ⟨pair.2, ?_, h.2 pair (List.mem_of_getElem? hpair)⟩
      rw [Referent.binder?, List.getElem?_map, hpair]
      rfl
  | root =>
      cases hbinder
      exact ⟨root', rfl, h.1⟩
  | free => cases hbinder

/-- `Rebinds registry root root' lambdas e` says that what `e` is written down as can be bound
inside lambdas over the second of the parameters, to an expression that differs from `e` in
identities. -/
def Rebinds (registry : Registry) (root root' : Parameter) (lambdas : List (Parameter × Parameter))
    (e : Expr) : Prop :=
  ∀ start, Counted (lambdas.map Prod.snd ++ [root']) start →
    ∃ e' finish, Binds (bindNode registry (lambdas.map Prod.snd ++ [root']) (Node.ofExpr e))
      start e' finish ∧ start ≤ finish ∧ SameBinding root root' lambdas e e'

/-- Arguments are bound again when each of them is. -/
theorem rebinds_arguments {es : List Expr} (h : ∀ e ∈ es, Rebinds registry root root' lambdas e)
    (hcounted : Counted (lambdas.map Prod.snd ++ [root']) start) :
    ∃ es' finish, Binds (bindArguments registry (lambdas.map Prod.snd ++ [root'])
        (Node.ofArguments es)) start es' finish ∧ start ≤ finish ∧ es.length = es'.length ∧
      ∀ e e', (e, e') ∈ es.zip es' → SameBinding root root' lambdas e e' := by
  induction es generalizing start with
  | nil => exact ⟨[], start, binds_arguments_nil.2 ⟨rfl, rfl⟩, Nat.le_refl _, rfl, by simp⟩
  | cons e rest ih =>
      obtain ⟨e', middle, hbinds, hmiddle, hsame⟩ := h e List.mem_cons_self start hcounted
      obtain ⟨rest', finish, hrest, hfinish, hlength, hrestSame⟩ :=
        ih (fun other hother => h other (List.mem_cons_of_mem _ hother)) (hcounted.mono hmiddle)
      refine ⟨e' :: rest', finish, binds_arguments_cons.2 ⟨e', middle, rest', hbinds, hrest, rfl⟩,
        Nat.le_trans hmiddle hfinish, by simp [hlength], fun other other' hmem => ?_⟩
      rcases List.mem_cons.1 hmem with heq | hmem
      · cases heq
        exact hsame
      · exact hrestSame other other' hmem

theorem rebinds_bindings {bindings : List (String × Expr)}
    (h : ∀ b ∈ bindings, Rebinds registry root root' lambdas b.2)
    (hcounted : Counted (lambdas.map Prod.snd ++ [root']) start) :
    ∃ bindings' finish, Binds (bindBindings registry (lambdas.map Prod.snd ++ [root'])
        (Node.ofBindings bindings)) start bindings' finish ∧ start ≤ finish ∧
      bindings.map Prod.fst = bindings'.map Prod.fst ∧
      ∀ b b', (b, b') ∈ bindings.zip bindings' → SameBinding root root' lambdas b.2 b'.2 := by
  induction bindings generalizing start with
  | nil => exact ⟨[], start, binds_bindings_nil.2 ⟨rfl, rfl⟩, Nat.le_refl _, rfl, by simp⟩
  | cons b rest ih =>
      obtain ⟨e', middle, hbinds, hmiddle, hsame⟩ := h b List.mem_cons_self start hcounted
      obtain ⟨rest', finish, hrest, hfinish, hnames, hrestSame⟩ :=
        ih (fun other hother => h other (List.mem_cons_of_mem _ hother)) (hcounted.mono hmiddle)
      refine ⟨(b.1, e') :: rest', finish,
        binds_bindings_cons.2 ⟨e', middle, rest', hbinds, hrest, rfl⟩,
        Nat.le_trans hmiddle hfinish, by simp [hnames], fun other other' hmem => ?_⟩
      rcases List.mem_cons.1 hmem with heq | hmem
      · cases heq
        exact hsame
      · exact hrestSame other other' hmem

/-- What a node stands for can be bound again from how it is written down, inside parameters of the
same names and types, as far as constants are read back. -/
theorem Represents.rebinds {around : List Parameter} {node : Node} {e : Expr}
    (h : Represents registry root around node e) (hconstants : e.ConstantsRead)
    (haround : lambdas.map Prod.fst = around) (halike : Alike root root' lambdas) :
    Rebinds registry root root' lambdas e := by
  induction h generalizing lambdas with
  | @parameter around name p hbinder hreferent =>
      subst haround
      intro start hcounted
      obtain ⟨q, hq, hsame⟩ := halike.binder hbinder
      have hfind : findParameter (lambdas.map Prod.snd ++ [root']) p.name = .ok q := by
        rw [findParameter_eq_ok, name_of_binder hbinder, halike.nameReferent_eq]
        exact hq
      refine ⟨.parameter q, start, binds_parameter.2 ⟨q, hfind, rfl, rfl⟩, Nat.le_refl _,
        .parameter hsame ?_ ?_⟩
      · rw [hreferent]
        exact Conversion.Referent.ne_free_of_binder hbinder
      · rw [hreferent]
        exact Conversion.referent_of_binder hcounted.nodup hq
  | member _ hshape hfield ih =>
      intro start hcounted
      obtain ⟨target', finish, hbinds, hfinish, hsame⟩ :=
        ih (hconstants.child (by simp [Expr.children])) haround halike start hcounted
      refine ⟨_, finish, binds_member.2 ⟨target', hbinds, ?_⟩, hfinish, .member hsame⟩
      rw [Expr.shape?, ← hsame.resultType_eq, ← Expr.shape?] at hshape
      rw [Expr.access, hshape]
      dsimp only
      rw [Registry.name_of_member? hfield]
  | constant =>
      intro start _
      obtain ⟨hvalue, hback⟩ := hconstants _ _ (Expr.self_mem_nodes _)
      exact ⟨_, start, binds_constant.2 ⟨hback, rfl⟩, Nat.le_refl _, .constant hvalue⟩
  | binary _ _ ihleft ihright =>
      intro start hcounted
      obtain ⟨left', middle, hleft, hmiddle, hleftSame⟩ :=
        ihleft (hconstants.child (by simp [Expr.children])) haround halike start hcounted
      obtain ⟨right', finish, hright, hfinish, hrightSame⟩ :=
        ihright (hconstants.child (by simp [Expr.children])) haround halike middle
          (hcounted.mono hmiddle)
      exact ⟨_, finish, binds_binary.2 ⟨left', middle, right', hleft, hright, rfl⟩,
        Nat.le_trans hmiddle hfinish, .binary hleftSame hrightSame⟩
  | unary _ ih =>
      intro start hcounted
      obtain ⟨operand', finish, hoperand, hfinish, hsame⟩ :=
        ih (hconstants.child (by simp [Expr.children])) haround halike start hcounted
      exact ⟨_, finish, binds_unary.2 ⟨operand', hoperand, rfl⟩, hfinish, .unary hsame⟩
  | @call _ _ _ _ _ arguments' _ hlength _ ihreceiver iharguments =>
      intro start hcounted
      have hparts : ∀ e ∈ arguments', Rebinds registry root root' lambdas e := by
        intro e he
        obtain ⟨node, hmem⟩ := exists_mem_zip hlength he
        exact iharguments node e hmem (hconstants.child (by simp [Expr.children, he])) haround
          halike
      obtain ⟨receiver', middle, hreceiver, hmiddle, hreceiverSame⟩ :=
        ihreceiver (hconstants.child (by simp [Expr.children])) haround halike start hcounted
      obtain ⟨rebound, finish, harguments, hfinish, hlength', hsame⟩ :=
        rebinds_arguments hparts (hcounted.mono hmiddle)
      exact ⟨_, finish, binds_call.2 ⟨receiver', middle, rebound, hreceiver, harguments, rfl⟩,
        Nat.le_trans hmiddle hfinish, .call hreceiverSame hlength' hsame⟩
  | conditional _ _ _ ihtest ihtrue ihfalse =>
      intro start hcounted
      obtain ⟨test', tested, htest, htested, htestSame⟩ :=
        ihtest (hconstants.child (by simp [Expr.children])) haround halike start hcounted
      obtain ⟨ifTrue', middle, htrue, hmiddle, htrueSame⟩ :=
        ihtrue (hconstants.child (by simp [Expr.children])) haround halike tested
          (hcounted.mono htested)
      obtain ⟨ifFalse', finish, hfalse, hfinish, hfalseSame⟩ :=
        ihfalse (hconstants.child (by simp [Expr.children])) haround halike middle
          (hcounted.mono (Nat.le_trans htested hmiddle))
      exact ⟨_, finish, binds_conditional.2
          ⟨test', tested, ifTrue', middle, ifFalse', htest, htrue, hfalse, rfl⟩,
        Nat.le_trans htested (Nat.le_trans hmiddle hfinish),
        .conditional htestSame htrueSame hfalseSame⟩
  | @lambda around text body p body' htype _ ih =>
      intro start hcounted
      -- the parameter of the lambda gets another identity, and keeps its name and type
      let q : Parameter := ⟨start, p.name, p.type⟩
      have hq : p.same q := Parameter.same_iff.2 ⟨rfl, rfl⟩
      have hinner : Alike root root' ((p, q) :: lambdas) :=
        ⟨halike.1, List.forall_mem_cons.2 ⟨hq, halike.2⟩⟩
      obtain ⟨body'', finish, hbody, hfinish, hsame⟩ :=
        ih (hconstants.child (by simp [Expr.children])) (by rw [List.map_cons, haround]) hinner
          (start + 1) (hcounted.cons p.name p.type)
      exact ⟨_, finish, binds_lambda.2 ⟨p.type, body'', readType_render htype, hbody, rfl⟩,
        Nat.le_trans (Nat.le_succ _) hfinish, .lambda hq hsame⟩
  | @init _ _ _ bindings' hnames _ ih =>
      intro start hcounted
      have hparts : ∀ b' ∈ bindings', Rebinds registry root root' lambdas b'.2 := by
        intro b' hb'
        obtain ⟨b, hmem⟩ := exists_binding_mem_zip hnames hb'
        exact ih b b' hmem (hconstants.child (List.mem_map_of_mem hb')) haround halike
      obtain ⟨rebound, finish, hbindings, hfinish, hnames', hsame⟩ :=
        rebinds_bindings hparts hcounted
      exact ⟨_, finish, binds_init.2 ⟨rebound, hbindings, rfl⟩, hfinish, .init hnames' hsame⟩

/-- A predicate over a registered shape that a document stands for can be bound again from its
description, as far as constants are read back. -/
theorem Represents.describe_binds {predicate : Predicate} {node : Node} {shape : String}
    (h : Represents registry predicate.parameter [] node predicate.body)
    (hconstants : predicate.body.ConstantsRead)
    (htype : predicate.parameter.type = .shape shape) (hshape : (registry.shape? shape).isSome)
    (identity' : Nat) :
    ∃ predicate' next', predicate.describe.bind registry identity' = .ok (predicate', next') ∧
      predicate.same predicate' ∧
      SameBinding predicate.parameter predicate'.parameter [] predicate.body predicate'.body ∧
      predicate'.describe = predicate.describe := by
  let root' : Parameter := ⟨identity', predicate.parameter.name, predicate.parameter.type⟩
  have hroot : predicate.parameter.same root' := Parameter.same_iff.2 ⟨rfl, rfl⟩
  have halike : Alike predicate.parameter root' [] := ⟨hroot, by simp⟩
  have hcounted : Counted ([] ++ [root']) (identity' + 1) := by
    simp [Counted, root']
  obtain ⟨body, next', hbinds, _, hsame⟩ :=
    h.rebinds hconstants rfl halike (identity' + 1) hcounted
  have hdescribed : predicate.describe.shape = shape := by
    rw [Predicate.describe, Predicate.shape?, Parameter.shape?, htype]
    rfl
  refine ⟨⟨root', body⟩, next', bind_eq_ok.2 ⟨?_, ?_, hbinds⟩, ?_, hsame, ?_⟩
  · rw [hdescribed]
    exact hshape
  · rw [hdescribed, ← htype]
    rfl
  · rw [Predicate.same, hroot, hsame.same, Bool.true_and]
  · rw [Predicate.describe, Predicate.describe, hsame.ofExpr_eq]
    rfl

end Document

open Document in
/-- The document that describes a bound predicate can be bound again when the constants of the first
document are plain. This gives the same predicate, up to identities, in which references have the
same binders, and which is described alike. -/
theorem describe_bind {registry : Registry} {document : Document} {identity next : Nat}
    {predicate : Predicate} (hplain : document.body.Plain)
    (hbind : document.bind registry identity = .ok (predicate, next)) (identity' : Nat) :
    ∃ predicate' next', predicate.describe.bind registry identity' = .ok (predicate', next') ∧
      predicate.same predicate' ∧
      SameBinding predicate.parameter predicate'.parameter [] predicate.body predicate'.body ∧
      predicate'.describe = predicate.describe := by
  obtain ⟨hshape, hparameter, _⟩ := bind_eq_ok.1 hbind
  obtain ⟨hrepresents, _⟩ := bind_represents hbind
  have htype : predicate.parameter.type = .shape document.shape := by
    rw [hparameter]
  exact hrepresents.describe_binds (hrepresents.constantsRead hplain) htype hshape identity'

namespace Sample

theorem document_plain : document.body.Plain := by
  have hconstants : document.body.constants =
      [(.null, none), (.array [.string "fragile", .string "heavy"], some "List<String>")] := rfl
  rw [Node.Plain, hconstants, List.forall_mem_cons, List.forall_mem_singleton]
  refine ⟨rfl, fun value type hvalue => ?_⟩
  rw [bindConstant_list] at hvalue
  cases hvalue
  exact .list (by simp [Value.Plain.string])

end Sample

/-- The predicate of noted orders with a fragile or heavy part has two parameters of one name.
Binding its description keeps them apart. -/
theorem sample_describe_bind :
    Sample.document.bind Sample.registry 0 = .ok (Sample.documented, 2) ∧
      ∃ predicate next,
        Sample.documented.describe.bind Sample.registry 7 = .ok (predicate, next) ∧
        Sample.documented.same predicate ∧
        SameBinding Sample.noted predicate.parameter [] Sample.documented.body predicate.body ∧
        predicate.describe = Sample.documented.describe :=
  ⟨Sample.bind_document, describe_bind Sample.document_plain Sample.bind_document 7⟩

end Reshape
