import Reshape.Proofs.Expr.Places

/-!
# Texts are unambiguous

An expression is legible when its names are identifiers, its constants are null, booleans or
integers that are not negative, and its calls have as many arguments as the method accepts. The text
of a legible expression is read back (`readsAt_render`), and so two of them have the same text only
if they are the same up to what the text does not show (`render_unambiguous`).
-/

namespace Reshape

/-- `reserved` are the words that are no names. -/
def reserved : List String := ["null", "true", "false", "new", "string"]

/-- `isIdentifier name` says that a name is a letter followed by letters and digits, and not
reserved. -/
def isIdentifier (name : String) : Bool :=
  (name.toList.head?.any Char.isAlpha) && name.toList.all Char.isAlphanum &&
    !(reserved.contains name)

/-- `p.isLegible` says that the name of a parameter is an identifier, if it has one. -/
def Parameter.isLegible (p : Parameter) : Bool := p.name.all isIdentifier

/-- `value.isLegible` says that a value is null, a boolean or an integer that is not negative. -/
def Value.isLegible : Value → Bool
  | .null | .boolean _ => true
  | .integer n => 0 ≤ n
  | _ => false

namespace Expr

/-- `node.isLegible` says that the root of an expression is written in a way that can be read. -/
def isLegible : Expr → Bool
  | .parameter p | .lambda p _ => p.isLegible
  | .member _ field => isIdentifier field.name
  | .constant value _ => value.isLegible
  | .call method _ arguments => method.accepts arguments.length
  | .init shape bindings => isIdentifier shape && bindings.all fun b => isIdentifier b.1
  | .binary .. | .unary .. | .conditional .. => true

/-- `e.Legible` says that all nodes of an expression are written in a way that can be read. -/
def Legible (e : Expr) : Prop := ∀ node ∈ e.nodes, node.isLegible

instance (e : Expr) : Decidable e.Legible := inferInstanceAs (Decidable (∀ node ∈ e.nodes, _))

/-! ## Names and constants -/

section

variable {name : String}

/-- Letters come after the digits. -/
theorem not_digit_of_alpha {c : Char} (h : c.isAlpha) : c.isDigit = false := by
  have hleast : 'A'.toNat ≤ c.toNat := by
    rcases Bool.or_eq_true_iff.1 h with hupper | hlower
    · exact UInt32.le_iff_toNat_le.1 (of_decide_eq_true hupper).1
    · have hless := of_decide_eq_true (Bool.and_eq_true_iff.1 hlower).1
      exact Nat.le_trans (by decide) (UInt32.le_iff_toNat_le.1 hless)
  rw [Bool.eq_false_iff, Ne, Char.isDigit_iff_toNat]
  exact fun hdigit => absurd (Nat.le_trans hleast hdigit.2) (by decide)

/-- An identifier is a word. -/
theorem isWord_of_identifier (h : isIdentifier name) : IsWord name := by
  simp only [isIdentifier, Bool.and_eq_true, List.all_eq_true] at h
  refine ⟨?_, h.1.2⟩
  rintro rfl
  exact absurd h.1.1 (by decide)

/-- An identifier is none of the reserved words. -/
theorem not_reserved_of_identifier (h : isIdentifier name) : name ∉ reserved := by
  simp only [isIdentifier, Bool.and_eq_true, Bool.not_eq_true', List.contains_eq_mem,
    decide_eq_false_iff_not] at h
  exact h.2

/-- An identifier is the name of a parameter. -/
theorem ofWord_identifier (h : isIdentifier name) :
    ofWord? name = some (.parameter (.named (some name))) := by
  have hreserved := not_reserved_of_identifier h
  simp only [reserved, List.mem_cons, List.not_mem_nil, or_false, not_or] at hreserved
  obtain ⟨hnull, htrue, hfalse, -⟩ := hreserved
  simp only [isIdentifier, Bool.and_eq_true] at h
  rw [ofWord?, if_neg hnull, if_neg htrue, if_neg hfalse]
  cases hcs : name.toList with
  | nil => simp [hcs] at h
  | cons c cs =>
      have hc : c.isDigit = false := not_digit_of_alpha (by simpa [hcs] using h.1.1)
      simp [hc]

/-- A legible parameter is read from its name. -/
theorem readsAt_parameter {p : Parameter} (h : p.isLegible) :
    ReadsAt primaryPrecedence (.parameter (.named p.name)) p.displayName := by
  rw [Parameter.displayName]
  cases hname : p.name with
  | none => exact .unnamed
  | some name =>
      have hidentifier : isIdentifier name := by simpa [Parameter.isLegible, hname] using h
      have hreserved := not_reserved_of_identifier hidentifier
      refine .ofWord (isWord_of_identifier hidentifier) ?_ ?_ (ofWord_identifier hidentifier)
      · rintro rfl
        exact hreserved (by decide)
      · rintro rfl
        exact hreserved (by decide)

/-- The digits of a number are the constant that holds it. -/
theorem readsAt_digits (n : Nat) :
    ReadsAt primaryPrecedence (.constant (.integer (Int64.ofNat n)) .any)
      (String.ofList (Nat.toDigits 10 n)) := by
  have hdigits : ∀ c ∈ Nat.toDigits 10 n, c.isDigit :=
    fun c hc => Nat.isDigit_of_mem_toDigits (by decide) (by decide) hc
  obtain ⟨c, cs, hcs⟩ := List.exists_cons_of_ne_nil (Nat.toDigits_ne_nil (n := n) (b := 10))
  have hc : c.isDigit := hdigits c (by simp [hcs])
  -- a word that starts with a letter is no number
  have hother : ∀ word : String, (word.toList.head?.all fun d => !d.isDigit) →
      String.ofList (Nat.toDigits 10 n) ≠ word := by
    rintro word hword rfl
    simp [hcs, hc] at hword
  have hword : IsWord (String.ofList (Nat.toDigits 10 n)) := by
    refine ⟨fun hempty => ?_, fun d hd => ?_⟩
    · simp [String.ofList_eq_empty_iff] at hempty
    · rw [String.toList_ofList] at hd
      rw [Char.isAlphanum, hdigits d hd, Bool.or_true]
  refine .ofWord hword (hother _ (by decide)) (hother _ (by decide)) ?_
  rw [ofWord?, if_neg (hother _ (by decide)), if_neg (hother _ (by decide)),
    if_neg (hother _ (by decide)), String.toList_ofList, hcs]
  dsimp only
  rw [if_pos hc, ← hcs, Nat.ofDigitChars_toDigits (by decide) (by decide)]

/-- A legible constant is read from its value. -/
theorem readsAt_constant {value : Value} (h : value.isLegible) :
    ReadsAt primaryPrecedence (.constant value .any) value.render := by
  have hnull : IsWord "null" := isWord_of_all (by decide) (by decide)
  have htrue : IsWord "true" := isWord_of_all (by decide) (by decide)
  have hfalse : IsWord "false" := isWord_of_all (by decide) (by decide)
  cases value with
  | null => exact .ofWord hnull (by decide) (by decide) rfl
  | boolean b =>
      cases b with
      | true => exact .ofWord htrue (by decide) (by decide) rfl
      | false => exact .ofWord hfalse (by decide) (by decide) rfl
  | integer n =>
      have hnonneg : (0 : Int64) ≤ n := by simpa [Value.isLegible] using h
      rw [Int64.le_iff_toInt_le, Int64.toInt_zero] at hnonneg
      obtain ⟨m, hm⟩ := Int.eq_ofNat_of_zero_le hnonneg
      obtain rfl : Int64.ofNat m = n := by
        rw [← Int64.ofInt_eq_ofNat, ← hm, Int64.ofInt_toInt]
      rw [Value.render, hm]
      exact readsAt_digits m
  | _ => cases h

end

/-! ## All expressions -/

/-- No method takes more than one argument. -/
theorem le_one_of_accepts {method : Method} {count : Nat} (h : method.accepts count) :
    count ≤ 1 := by
  cases method <;> simp [Method.accepts] at h <;> omega

theorem eq_zero_of_accepts {method : Method} {count : Nat} (h : method.accepts count)
    (hstatic : method.isStatic) : count = 0 := by
  cases method with
  | isNullOrEmpty => simpa [Method.accepts] using h
  | _ => cases hstatic

/-- A call is read back when its receiver and its arguments are. -/
theorem readsAt_call {method : Method} {receiver : Expr} {arguments : List Expr}
    (haccepts : method.accepts arguments.length)
    (hreceiver : ∀ least ≤ primaryPrecedence, ReadsAt least receiver.shown
      (renderAt least receiver))
    (harguments : ∀ argument ∈ arguments, ReadsAt conditionalPrecedence argument.shown
      (renderAt conditionalPrecedence argument)) (least : Nat) :
    ReadsAt primaryPrecedence (.call method receiver.shown (shownArguments arguments))
      (renderAt least (.call method receiver arguments)) := by
  rw [renderAt]
  by_cases hstatic : method.isStatic
  · obtain rfl := List.length_eq_zero_iff.1 (eq_zero_of_accepts haccepts hstatic)
    rw [if_pos hstatic]
    exact (hreceiver _ (Nat.zero_le _)).static
  · rw [if_neg hstatic]
    refine (hreceiver _ (Nat.le_refl _)).call fun haccesses => ?_
    cases arguments with
    | nil => exact .arguments_nil haccesses
    | cons argument more =>
        obtain rfl : more = [] := by
          have hcount := le_one_of_accepts haccepts
          simpa using hcount
        have hargument := harguments argument List.mem_cons_self
        exact .arguments_one (hargument.whole (.close _)) haccesses

theorem Legible.root {e : Expr} (h : e.Legible) : e.isLegible := h e e.self_mem_nodes

/-- The parts of a legible expression are legible. -/
theorem Legible.child {e part : Expr} (h : e.Legible) (hpart : part ∈ e.children) : part.Legible :=
  fun node hnode => h node (mem_nodes_of_child hnode hpart)

/-- A legible expression is read back in every place, without what its text does not show. -/
theorem readsAt_render {e : Expr} (h : e.Legible) {least : Nat}
    (hleast : least ≤ primaryPrecedence) :
    ReadsAt least e.shown (renderAt least e) := by
  induction e generalizing least with
  | parameter p => exact (readsAt_parameter h.root).mono hleast
  | member target field ih =>
      have htarget := ih (h.child (by simp [children])) (Nat.le_refl _)
      exact (htarget.member (isWord_of_identifier h.root)).mono hleast
  | constant value type => exact (readsAt_constant h.root).mono hleast
  | binary op left right ihleft ihright =>
      have hleft := ihleft (h.child (by simp [children])) (leftPrecedence_le op)
      have hright := ihright (h.child (by simp [children])) (rightPrecedence_le op)
      exact (hleft.binary hright).enclosed hleast
  | unary op operand ih =>
      have hoperand : ReadsAt op.precedence operand.shown (renderAt op.precedence operand) :=
        ih (h.child (by simp [children])) (Nat.le_succ 8)
      exact hoperand.unary.enclosed hleast
  | call method receiver arguments ihreceiver iharguments =>
      have hreceiver : ∀ least ≤ primaryPrecedence, ReadsAt least receiver.shown
          (renderAt least receiver) := fun _ => ihreceiver (h.child (by simp [children]))
      refine (readsAt_call h.root hreceiver (fun argument hargument => ?_) least).mono hleast
      exact iharguments argument hargument (h.child (by simp [children, hargument]))
        (Nat.zero_le _)
  | conditional test ifTrue ifFalse ihtest ihtrue ihfalse =>
      have htest := ihtest (h.child (by simp [children]))
        (show conditionalPrecedence + 1 ≤ primaryPrecedence by decide)
      have htrue := ihtrue (h.child (by simp [children])) (Nat.zero_le _)
      have hfalse := ihfalse (h.child (by simp [children])) (Nat.zero_le _)
      exact (htest.conditional htrue hfalse).enclosed hleast
  | lambda p body ih =>
      have hbody := ih (h.child (by simp [children])) (Nat.zero_le _)
      exact ((readsAt_parameter h.root).lambda hbody).enclosed hleast
  | init shape bindings ih =>
      have hroot := h.root
      simp only [isLegible, Bool.and_eq_true, List.all_eq_true] at hroot
      refine (ReadsAt.init (isWord_of_identifier hroot.1) (reads_bindings ?_ ?_ [])).mono hleast
      · exact fun b hb => isWord_of_identifier (hroot.2 b hb)
      · exact fun b hb => ih b hb (h.child (List.mem_map_of_mem hb)) (Nat.zero_le _)

/-- Legible expressions have the same text exactly if they are the same up to what their texts do
not show. -/
theorem render_unambiguous {a b : Expr} (ha : a.Legible) (hb : b.Legible) :
    a.render = b.render ↔ a.shown = b.shown := by
  constructor
  · intro htext
    have hreadA := (readsAt_render ha (Nat.zero_le _)).whole .nothing
    have hreadB := (readsAt_render hb (Nat.zero_le _)).whole .nothing
    rw [show renderAt 0 a = renderAt 0 b from htext] at hreadA
    exact congrArg Prod.fst (hreadA.unique hreadB)
  · intro hshown
    rw [render, render, ← renderAt_shown a, hshown, renderAt_shown]

end Expr

/-! ## Differences and products -/

namespace Sample

/-- `total identity` is the total of an order that a parameter of this identity refers to. -/
def total (identity : Nat) : Expr :=
  .member (.parameter ⟨identity, some "order", .shape "Order"⟩) ⟨"Total", .integer, "Order"⟩

/-- `product identity` is a difference multiplied by a negative number. -/
def product (identity : Nat) : Expr :=
  .binary .multiply (.binary .subtract (total identity) (.constant (.integer 1) .integer))
    (.unary .negate (.constant (.integer 2) .long))

/-- `remainder identity` is a difference from a product with a negative number. -/
def remainder (identity : Nat) : Expr :=
  .binary .subtract (total identity)
    (.binary .multiply (.constant (.integer 1) .integer)
      (.unary .negate (.constant (.integer 2) .long)))

/-- A product and the difference of the same operands have different texts, with whatever
parameters. -/
theorem product_unambiguous :
    (product 1).Legible ∧ (product 2).Legible ∧ (remainder 2).Legible ∧
      (product 1).render = "(order.Total - 1) * -2" ∧
      (product 1).render = (product 2).render ∧ (product 1).render ≠ (remainder 2).render := by
  have hone : (product 1).Legible := by decide
  have htwo : (product 2).Legible := by decide
  have hremainder : (remainder 2).Legible := by decide
  refine ⟨hone, htwo, hremainder, by decide, ?_, ?_⟩
  · exact (Expr.render_unambiguous hone htwo).2 rfl
  · intro htext
    cases (Expr.render_unambiguous hone hremainder).1 htext

end Sample

end Reshape
