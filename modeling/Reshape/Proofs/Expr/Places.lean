import Reshape.Proofs.Expr.Reader

/-!
# Texts in their places

The text of an expression is read back in the place it is written for. How tightly the place binds
decides what the reader is asked for there (`Expr.ReadsAt`), and parentheses make a text fit
anywhere (`ReadsAt.enclosed`). What follows must not be taken for a part of the expression
(`Expr.Follows`): an operator only follows a place where it binds less tightly. Each form of
expressions is read back when its parts are.
-/

namespace Reshape.Expr

/-! ## What follows an expression -/

/-- `Follows least text` says that `text` may follow an expression in a place where it has to bind
with `least`. -/
inductive Follows (least : Nat) : List Char → Prop where
  | nothing : Follows least []
  | close (rest) : Follows least (")".toList ++ rest)
  | comma (rest) : Follows least (", ".toList ++ rest)
  | colon (rest) : Follows least (" : ".toList ++ rest)
  | brace (rest) : Follows least (" \x7d".toList ++ rest)
  | question (rest) : 0 < least → Follows least (" ? ".toList ++ rest)
  | operator (op : BinaryOp) (rest) : leftPrecedence op ≤ least →
      Follows least ((" " ++ op.symbol ++ " ").toList ++ rest)

namespace Follows

variable {least more : Nat} {text : List Char}

/-- What may follow in a place may follow where an expression has to bind more tightly. -/
theorem mono (h : Follows least text) (hle : least ≤ more) : Follows more text := by
  cases h with
  | nothing => exact .nothing
  | close => exact .close _
  | comma => exact .comma _
  | colon => exact .colon _
  | brace => exact .brace _
  | question _ hleast => exact .question _ (Nat.lt_of_lt_of_le hleast hle)
  | operator op _ hop => exact .operator op _ (Nat.le_trans hop hle)

/-- What follows starts with a blank, a closing parenthesis or a comma. -/
theorem head (h : Follows least text) : ∀ c ∈ text.head?, c ∈ [' ', ')', ','] := by
  cases h with
  | nothing => simp
  | operator op rest => cases op <;> simp [BinaryOp.symbol]
  | _ => simp

/-- What may follow an expression does not go on with its last word. -/
theorem delimited (h : Follows least text) : Delimited text :=
  fun c hc => List.mem_append_left ['.'] (h.head c hc)

/-- What may follow an expression is no access. -/
theorem no_access (h : Follows least text) : text.dropPrefix? ".".toList = none := by
  cases text with
  | nil => rfl
  | cons c rest =>
      have hc : c ≠ '.' := by
        rintro rfl
        exact absurd (h.head '.' rfl) (by decide)
      simp [List.dropPrefix?, hc]

theorem no_arrow (h : Follows least text) : text.dropPrefix? " => ".toList = none := by
  cases h with
  | operator op rest => cases op <;> simp [BinaryOp.symbol, List.dropPrefix?]
  | _ => simp [List.dropPrefix?]

/-- What may follow where anything may stand is no question mark. -/
theorem no_question (h : Follows 0 text) : text.dropPrefix? " ? ".toList = none := by
  cases h with
  | question _ hleast => exact absurd hleast (Nat.lt_irrefl 0)
  | operator op rest => cases op <;> simp [BinaryOp.symbol, List.dropPrefix?]
  | _ => simp [List.dropPrefix?]

/-- An operator that follows has left operands that bind as the place requires. -/
theorem le_of_operator (h : Follows least text) {op : BinaryOp} {rest : List Char}
    (hop : operator? text = some (op, rest)) : leftPrecedence op ≤ least := by
  cases h with
  | operator other after hother =>
      rw [operator_append] at hop
      cases hop
      exact hother
  | _ => simp [operator?, BinaryOp.all, BinaryOp.symbol, List.dropPrefix?] at hop

/-- Operands end where no operator that follows binds as tightly as asked for. -/
theorem more_stop (h : Follows least text) {below : Nat} {left : Expr}
    (hbelow : ∀ op : BinaryOp, leftPrecedence op ≤ least → op.precedence < below) :
    Reads (.more below left text) (left, text) :=
  .more_stop fun op _ hop => hbelow op (h.le_of_operator hop)

end Follows

/-! ## Places -/

/-- The left operand of an operator is no conditional. -/
theorem one_lt_leftPrecedence (op : BinaryOp) : 1 < leftPrecedence op := by
  cases op <;> decide

theorem precedence_pos (op : BinaryOp) : 0 < op.precedence := by
  cases op <;> decide

theorem precedence_lt_primary (op : BinaryOp) : op.precedence < primaryPrecedence := by
  cases op <;> decide

/-- The left operand binds at least as tightly as the operator. -/
theorem precedence_le_left (op : BinaryOp) : op.precedence ≤ leftPrecedence op := by
  cases op <;> decide

theorem leftPrecedence_le (op : BinaryOp) : leftPrecedence op ≤ primaryPrecedence := by
  cases op <;> decide

theorem rightPrecedence_le (op : BinaryOp) : rightPrecedence op ≤ primaryPrecedence := by
  cases op <;> decide

theorem precedence_le_right (op : BinaryOp) : op.precedence ≤ rightPrecedence op := by
  cases op <;> decide

/-- A sign binds more tightly than any operator. -/
theorem precedence_lt_sign (op : BinaryOp) (sign : UnaryOp) : op.precedence < sign.precedence := by
  cases sign <;> cases op <;> decide

/-- An operator that may follow a row of another one does not go on with its right operand. -/
theorem precedence_lt_right {op other : BinaryOp} (h : leftPrecedence other ≤ op.precedence) :
    other.precedence < rightPrecedence op := by
  revert h
  cases op <;> cases other <;> decide

/-- `ReadsAt least e text` says that `e` is read from `text` in places where it has to bind with
`least`, or less tightly. -/
structure ReadsAt (least : Nat) (e : Expr) (text : String) : Prop where
  whole {rest} : Follows 0 rest → Reads (.whole (text.toList ++ rest)) (e, rest)
  operands {place below rest result} : 0 < place → place ≤ least → below ≤ place →
    Follows place rest → Reads (.more below e rest) result →
    Reads (.operands below (text.toList ++ rest)) result
  operand {rest result} : primaryPrecedence ≤ least → Delimited rest →
    Reads (.accesses e rest) result → Reads (.operand (text.toList ++ rest)) result

namespace ReadsAt

variable {least more : Nat} {e : Expr} {text : String}

/-- What is read where it has to bind tightly is read in any other place. -/
theorem mono (h : ReadsAt more e text) (hle : least ≤ more) : ReadsAt least e text where
  whole := h.whole
  operands hpos hplace := h.operands hpos (Nat.le_trans hplace hle)
  operand hprimary := h.operand (Nat.le_trans hprimary hle)

/-- What binds least stands in no row of operands, so that only the whole of it has to be read. -/
theorem of_whole (h : ∀ {rest}, Follows 0 rest → Reads (.whole (text.toList ++ rest)) (e, rest)) :
    ReadsAt conditionalPrecedence e text where
  whole := h
  operands hpos hplace := absurd hplace (Nat.not_le.2 hpos)
  operand hprimary := absurd hprimary (by decide)

/-- A row of operands that binds with `least` is the whole where no operator follows. -/
theorem of_operands (hleast : least < primaryPrecedence) (hpos : 0 < least)
    (h : ∀ {place below rest result}, 0 < place → place ≤ least → below ≤ place →
      Follows place rest → Reads (.more below e rest) result →
      Reads (.operands below (text.toList ++ rest)) result) : ReadsAt least e text where
  whole {rest} hrest := by
    have hmore : Reads (.more 1 e rest) (e, rest) := hrest.more_stop fun op hop =>
      absurd (Nat.lt_of_lt_of_le (one_lt_leftPrecedence op) hop) (by decide)
    exact .whole (h Nat.one_pos hpos (Nat.le_refl 1) (hrest.mono (Nat.zero_le 1)) hmore)
      hrest.no_arrow hrest.no_question
  operands := h
  operand hprimary := absurd hprimary (Nat.not_le.2 hleast)

/-- An operand that is read up to what follows it is a row of its own. -/
theorem of_signed (hleast : least < primaryPrecedence) (hpos : 0 < least)
    (h : ∀ {rest}, Follows least rest → Reads (.operand (text.toList ++ rest)) (e, rest)) :
    ReadsAt least e text :=
  of_operands hleast hpos fun _ hplace _ hrest hmore => .operands (h (hrest.mono hplace)) hmore

/-- An operand that accesses may follow is read everywhere. -/
theorem of_operand (h : ∀ {rest result}, Delimited rest → Reads (.accesses e rest) result →
    Reads (.operand (text.toList ++ rest)) result) : ReadsAt primaryPrecedence e text where
  whole :=
    have hrow : ReadsAt 1 e text := of_signed (by decide) Nat.one_pos fun hrest =>
      h hrest.delimited (.accesses_stop hrest.no_access)
    hrow.whole
  operands hpos hplace hbelow hrest hmore :=
    .operands (h hrest.delimited (.accesses_stop hrest.no_access)) hmore
  operand _ := h

/-- In parentheses an expression is read everywhere. -/
theorem parentheses (h : ReadsAt conditionalPrecedence e text) :
    ReadsAt primaryPrecedence e ("(" ++ text ++ ")") := by
  refine of_operand fun {rest result} _ haccesses => ?_
  have hwhole : Reads (.whole (text.toList ++ (")".toList ++ rest))) (e, ")".toList ++ rest) :=
    h.whole (.close rest)
  rw [String.toList_append, String.toList_append, List.append_assoc, List.append_assoc]
  exact .operand (sign_of_head (by decide) (by decide)) (.parenthesised hwhole) haccesses

/-- With parentheses where they are needed, an expression is read in every place. -/
theorem enclosed {own : Nat} (h : ReadsAt own e text) (hleast : least ≤ primaryPrecedence) :
    ReadsAt least e (enclosed (own < least) text) := by
  rw [Expr.enclosed]
  by_cases hneeded : own < least
  · rw [if_pos (by simpa using hneeded)]
    exact (h.mono (Nat.zero_le own)).parentheses.mono hleast
  · rw [if_neg (by simpa using hneeded)]
    exact h.mono (Nat.not_lt.1 hneeded)

/-! ## Forms of expressions -/

variable {left right operand test ifTrue ifFalse body target receiver : Expr}
  {leftText rightText operandText testText trueText falseText bodyText targetText receiverText :
    String}
  {name : String} {p : Parameter} {method : Method}

/-- A word that stands for a constant or a parameter is read everywhere. -/
theorem ofWord (hname : IsWord name) (hstring : name ≠ "string") (hnew : name ≠ "new")
    (h : ofWord? name = some e) : ReadsAt primaryPrecedence e name := by
  obtain ⟨c, cs, hcs, hc⟩ := hname.head
  refine of_operand fun {rest result} hrest haccesses => ?_
  have hsign : sign? (name.toList ++ rest) = none := by
    rw [hcs]
    refine sign_of_head ?_ ?_
    · rintro rfl
      exact absurd hc (by decide)
    · rintro rfl
      exact absurd hc (by decide)
  have hatom : Reads (.atom (name.toList ++ rest)) (e, rest) :=
    .atom_word hname hrest.not_alphanum (.named_constant hstring hnew h)
  exact .operand hsign hatom haccesses

theorem unnamed : ReadsAt primaryPrecedence (.parameter (.named none)) "_" :=
  of_operand fun _ haccesses =>
    .operand (sign_of_head (by decide) (by decide)) .unnamed haccesses

theorem member (h : ReadsAt primaryPrecedence target targetText) (hname : IsWord name) :
    ReadsAt primaryPrecedence (.member target (.named name)) (targetText ++ "." ++ name) := by
  refine of_operand fun {rest result} hrest haccesses => ?_
  have hdot : Delimited (("." ++ name).toList ++ rest) := by
    intro c hc
    rw [String.toList_append] at hc
    obtain rfl : '.' = c := Option.some.inj hc
    decide
  rw [String.append_assoc, String.toList_append, List.append_assoc]
  exact h.operand (Nat.le_refl _) hdot (.accesses_field hname hrest haccesses)

/-- A binary operation is read from operands that bind tightly enough on either side. -/
theorem binary {op : BinaryOp} (hleft : ReadsAt (leftPrecedence op) left leftText)
    (hright : ReadsAt (rightPrecedence op) right rightText) :
    ReadsAt op.precedence (.binary op left right)
      (leftText ++ " " ++ op.symbol ++ " " ++ rightText) := by
  refine of_operands (precedence_lt_primary op) (precedence_pos op) ?_
  intro place below rest result hpos hplace hbelow hrest hmore
  have hfollows : Follows op.precedence rest := hrest.mono hplace
  have htext : (leftText ++ " " ++ op.symbol ++ " " ++ rightText).toList ++ rest =
      leftText.toList ++ ((" " ++ op.symbol ++ " ").toList ++ (rightText.toList ++ rest)) := by
    simp
  have hrow : Reads (.operands (rightPrecedence op) (rightText.toList ++ rest)) (right, rest) :=
    hright.operands (Nat.lt_of_lt_of_le (precedence_pos op) (precedence_le_right op))
      (Nat.le_refl _) (Nat.le_refl _) (hfollows.mono (precedence_le_right op))
      (hfollows.more_stop fun _ hop => precedence_lt_right hop)
  rw [htext]
  exact hleft.operands (Nat.lt_of_lt_of_le (precedence_pos op) (precedence_le_left op))
    (Nat.le_refl _) (Nat.le_trans hbelow (Nat.le_trans hplace (precedence_le_left op)))
    (.operator op _ (Nat.le_refl _)) (.more_operator (Nat.le_trans hbelow hplace) hrow hmore)

theorem unary {op : UnaryOp} (h : ReadsAt op.precedence operand operandText) :
    ReadsAt op.precedence (.unary op operand) (op.symbol ++ operandText) := by
  have hpos : 0 < op.precedence := Nat.succ_pos 7
  refine of_signed (Nat.lt_succ_self 8) hpos fun {rest} hrest => ?_
  rw [String.toList_append, List.append_assoc]
  exact .unary (h.operands hpos (Nat.le_refl _) (Nat.le_refl _) hrest
    (hrest.more_stop fun other _ => precedence_lt_sign other op))

/-- The receiver of a static call is its one operand. -/
theorem static (h : ReadsAt conditionalPrecedence receiver receiverText) :
    ReadsAt primaryPrecedence (.call method receiver [])
      ("string." ++ method.name ++ "(" ++ receiverText ++ ")") := by
  refine of_operand fun {rest result} hrest haccesses => ?_
  have htext : ("string." ++ method.name ++ "(" ++ receiverText ++ ")").toList ++ rest =
      "string".toList ++ (("." ++ method.name ++ "(").toList ++
        (receiverText.toList ++ (")".toList ++ rest))) := by
    simp
  have hreceiver := h.whole (.close rest)
  have hword : IsWord "string" := isWord_of_all (by decide) (by decide)
  rw [htext]
  refine .operand (sign_of_head (by decide) (by decide)) (.atom_word hword ?_ ?_) haccesses
  · rw [String.toList_append, String.toList_append, List.append_assoc, List.append_assoc]
    exact not_alphanum_append "." _ (by decide)
  · exact .named_static hreceiver

/-- A conditional is read from its three parts, the test being none itself. -/
theorem conditional (htest : ReadsAt (conditionalPrecedence + 1) test testText)
    (htrue : ReadsAt conditionalPrecedence ifTrue trueText)
    (hfalse : ReadsAt conditionalPrecedence ifFalse falseText) :
    ReadsAt conditionalPrecedence (.conditional test ifTrue ifFalse)
      (testText ++ " ? " ++ trueText ++ " : " ++ falseText) := by
  refine of_whole fun {rest} hrest => ?_
  have htext : (testText ++ " ? " ++ trueText ++ " : " ++ falseText).toList ++ rest =
      testText.toList ++ (" ? ".toList ++ (trueText.toList ++ (" : ".toList ++
        (falseText.toList ++ rest)))) := by
    simp
  have hquestion : ∀ text, Follows 1 (" ? ".toList ++ text) := fun _ => .question _ Nat.one_pos
  have hmore : ∀ text, Reads (.more 1 test (" ? ".toList ++ text)) (test, " ? ".toList ++ text) :=
    fun text => (hquestion text).more_stop fun op hop =>
      absurd (Nat.lt_of_lt_of_le (one_lt_leftPrecedence op) hop) (Nat.lt_irrefl 1)
  rw [htext]
  exact .conditional (htest.operands Nat.one_pos (Nat.le_refl _) (Nat.le_refl _) (hquestion _)
    (hmore _)) (htrue.whole (.colon _)) (hfalse.whole hrest)

/-- A lambda is read from its parameter and its body. -/
theorem lambda (hp : ReadsAt primaryPrecedence (.parameter p) name)
    (hbody : ReadsAt conditionalPrecedence body bodyText) :
    ReadsAt conditionalPrecedence (.lambda p body) (name ++ " => " ++ bodyText) := by
  refine of_whole fun {rest} hrest => ?_
  have htext : (name ++ " => " ++ bodyText).toList ++ rest =
      name.toList ++ (" => ".toList ++ (bodyText.toList ++ rest)) := by
    simp
  have harrow : Delimited (" => ".toList ++ (bodyText.toList ++ rest)) := by
    simp [Delimited]
  have hparameter : Reads (.operand (name.toList ++ (" => ".toList ++ (bodyText.toList ++ rest))))
      (.parameter p, " => ".toList ++ (bodyText.toList ++ rest)) :=
    hp.operand (Nat.le_refl _) harrow (.accesses_stop (by simp [List.dropPrefix?]))
  have hstop : ∀ op text,
      operator? (" => ".toList ++ (bodyText.toList ++ rest)) ≠ some (op, text) := by
    simp [operator?, BinaryOp.all, BinaryOp.symbol, List.dropPrefix?]
  rw [htext]
  exact .lambda (.operands hparameter (.more_stop fun op text hop => absurd hop (hstop op text)))
    (hbody.whole hrest)

/-- A call is read after what it is made on, with its arguments in parentheses. -/
theorem call (h : ReadsAt primaryPrecedence target targetText) {text : String}
    {arguments : List Expr}
    (harguments : ∀ {rest result}, Reads (.accesses (.call method target arguments) rest) result →
      Reads (.arguments method target (text.toList ++ (")".toList ++ rest))) result) :
    ReadsAt primaryPrecedence (.call method target arguments)
      (targetText ++ "." ++ method.name ++ "(" ++ text ++ ")") := by
  refine of_operand fun {rest result} _ haccesses => ?_
  have htext : (targetText ++ "." ++ method.name ++ "(" ++ text ++ ")").toList ++ rest =
      targetText.toList ++ (("." ++ method.name ++ "(").toList ++
        (text.toList ++ (")".toList ++ rest))) := by
    simp
  have hdot : Delimited (("." ++ method.name ++ "(").toList ++
      (text.toList ++ (")".toList ++ rest))) := by
    simp [Delimited]
  rw [htext]
  exact h.operand (Nat.le_refl _) hdot (.accesses_call (harguments haccesses))

/-- An initializer is read from its shape and its bindings. -/
theorem init {shape : String} {bindings : List (String × Expr)} {text : String}
    (hshape : IsWord shape)
    (hbindings : ∀ rest, Reads (.bindings shape [] (text.toList ++ (" \x7d".toList ++ rest)))
      (.init shape bindings, rest)) :
    ReadsAt primaryPrecedence (.init shape bindings)
      ("new " ++ shape ++ " \x7b " ++ text ++ " \x7d") := by
  refine of_operand fun {rest result} _ haccesses => ?_
  have htext : ("new " ++ shape ++ " \x7b " ++ text ++ " \x7d").toList ++ rest =
      "new".toList ++ ((" " ++ shape ++ " \x7b ").toList ++
        (text.toList ++ (" \x7d".toList ++ rest))) := by
    simp
  have hword : IsWord "new" := isWord_of_all (by decide) (by decide)
  rw [htext]
  refine .operand (sign_of_head (by decide) (by decide)) (.atom_word hword ?_ ?_) haccesses
  · rw [String.toList_append, String.toList_append, List.append_assoc, List.append_assoc]
    exact not_alphanum_append " " _ (by decide)
  · exact .named_new hshape (hbindings rest)

end ReadsAt

/-- Bindings are read back one after the other. -/
theorem reads_bindings {shape : String} {bindings : List (String × Expr)}
    (hnames : ∀ b ∈ bindings, IsWord b.1)
    (hvalues : ∀ b ∈ bindings, ReadsAt conditionalPrecedence b.2.shown
      (renderAt conditionalPrecedence b.2)) (bound : List (String × Expr)) (rest : List Char) :
    Reads (.bindings shape bound ((renderBindings bindings).toList ++ (" \x7d".toList ++ rest)))
      (.init shape (bound ++ shownBindings bindings), rest) := by
  induction bindings generalizing bound with
  | nil =>
      rw [shownBindings, List.append_nil]
      exact .bindings_stop
  | cons binding others ih =>
      obtain ⟨name, value⟩ := binding
      obtain ⟨hname, hnames⟩ := List.forall_mem_cons.1 hnames
      obtain ⟨hvalue, hvalues⟩ := List.forall_mem_cons.1 hvalues
      have hothers := ih hnames hvalues (bound ++ [(name, value.shown)])
      rw [List.append_assoc] at hothers
      cases others with
      | nil =>
          have htext : (renderBindings [(name, value)]).toList ++ (" \x7d".toList ++ rest) =
              (name ++ " = ").toList ++ ((renderAt conditionalPrecedence value).toList ++
                (" \x7d".toList ++ rest)) := by
            simp [renderBindings]
          rw [htext]
          refine .bindings_binding hname (hvalue.whole (.brace rest)) ?_
          have hcomma : (" \x7d".toList ++ rest).dropPrefix? ", ".toList = none := by
            simp [List.dropPrefix?]
          rw [hcomma]
          exact hothers
      | cons next others =>
          have htext : (renderBindings ((name, value) :: next :: others)).toList ++
                (" \x7d".toList ++ rest) =
              (name ++ " = ").toList ++ ((renderAt conditionalPrecedence value).toList ++
                (", ".toList ++ ((renderBindings (next :: others)).toList ++
                  (" \x7d".toList ++ rest)))) := by
            simp [renderBindings_cons]
          rw [htext]
          refine .bindings_binding hname (hvalue.whole (.comma _)) ?_
          rw [dropPrefix_append]
          exact hothers

end Reshape.Expr
