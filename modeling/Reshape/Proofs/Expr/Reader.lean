import Mathlib.Order.Filter.AtTopBot.Basic
import Reshape.Number.Digits
import Reshape.Proofs.Expr.Shown

/-!
# Reading expressions

A reader for the texts of expressions, which goes from left to right and never back: `Expr.read`
reads what a `Goal` asks for and gives it with the characters that follow. Operators are read by
climbing: operands are joined as long as the next operator binds tightly enough.

The reader runs on fuel, and `Expr.Reads` says what it reads with any fuel that is enough. It has
one rule for each way in which the reader goes on, and relates a goal to at most one result
(`Reads.unique`).
-/

namespace Reshape.Expr

open Filter

/-- A `Goal` is what is to be read at the start of a text. -/
inductive Goal where
  /-- An expression, however loosely it binds. -/
  | whole (text : List Char)
  /-- Operands with operators between that bind with `least`, or tighter. -/
  | operands (least : Nat) (text : List Char)
  /-- What is left of such a row when the operands before are `left`. -/
  | more (least : Nat) (left : Expr) (text : List Char)
  /-- An operand with its sign, if it has one. -/
  | operand (text : List Char)
  /-- The first part of an operand. -/
  | atom (text : List Char)
  /-- What a word is the start of. -/
  | named (name : String) (text : List Char)
  /-- Accesses and calls that follow a target. -/
  | accesses (target : Expr) (text : List Char)
  /-- The arguments of a call, and what follows it. -/
  | arguments (method : Method) (target : Expr) (text : List Char)
  /-- The bindings of an initializer after those in `bound`. -/
  | bindings (shape : String) (bound : List (String × Expr)) (text : List Char)

/-- `operator? text` is the operator that `text` starts with, between blanks, and what follows. -/
def operator? (text : List Char) : Option (BinaryOp × List Char) :=
  BinaryOp.all.findSome? fun op =>
    (text.dropPrefix? (" " ++ op.symbol ++ " ").toList).map fun rest => (op, rest)

/-- `sign? text` is the unary operator that `text` starts with, and what follows. -/
def sign? (text : List Char) : Option (UnaryOp × List Char) :=
  UnaryOp.all.findSome? fun op => (text.dropPrefix? op.symbol.toList).map fun rest => (op, rest)

/-- `word text` are the letters and digits that `text` starts with, and what follows. -/
def word (text : List Char) : String × List Char :=
  (String.ofList (text.takeWhile Char.isAlphanum), text.dropWhile Char.isAlphanum)

/-- `ofWord? name` is the constant or the parameter that a word is. -/
def ofWord? (name : String) : Option Expr :=
  if name = "null" then some (.constant .null .any)
  else if name = "true" then some (.constant (.boolean true) .any)
  else if name = "false" then some (.constant (.boolean false) .any)
  else match name.toList with
    | [] => none
    | c :: rest =>
      if c.isDigit then
        some (.constant (.integer (Int64.ofNat (Nat.ofDigitChars 10 (c :: rest) 0))) .any)
      else some (.parameter (.named (some name)))

/-- `read fuel goal` is what is read for `goal`, and what follows it. -/
def read : Nat → Goal → Option (Expr × List Char)
  | 0, _ => none
  | fuel + 1, .whole text => do
    let (e, rest) ← read fuel (.operands 1 text)
    match rest.dropPrefix? " => ".toList, e with
    | some rest, .parameter p => do
      let (body, rest) ← read fuel (.whole rest)
      return (.lambda p body, rest)
    | some _, _ => none
    | none, e =>
      match rest.dropPrefix? " ? ".toList with
      | none => return (e, rest)
      | some rest => do
        let (ifTrue, rest) ← read fuel (.whole rest)
        let (ifFalse, rest) ← read fuel (.whole (← rest.dropPrefix? " : ".toList))
        return (.conditional e ifTrue ifFalse, rest)
  | fuel + 1, .operands least text => do
    let (left, rest) ← read fuel (.operand text)
    read fuel (.more least left rest)
  | fuel + 1, .more least left text =>
    match operator? text with
    | none => some (left, text)
    | some (op, rest) =>
      if op.precedence < least then some (left, text)
      else do
        let (right, rest) ← read fuel (.operands (rightPrecedence op) rest)
        read fuel (.more least (.binary op left right) rest)
  | fuel + 1, .operand text =>
    match sign? text with
    | some (op, rest) => do
      let (operand, rest) ← read fuel (.operands op.precedence rest)
      return (.unary op operand, rest)
    | none => do
      let (target, rest) ← read fuel (.atom text)
      read fuel (.accesses target rest)
  | fuel + 1, .atom text =>
    match text with
    | '(' :: rest => do
      let (e, rest) ← read fuel (.whole rest)
      return (e, ← rest.dropPrefix? ")".toList)
    | '_' :: rest => some (.parameter (.named none), rest)
    | text => read fuel (.named (word text).1 (word text).2)
  | fuel + 1, .named name text => do
    if name = "string" then
      let (name, rest) := word (← text.dropPrefix? ".".toList)
      let method ← Method.ofName? name
      let (receiver, rest) ← read fuel (.whole (← rest.dropPrefix? "(".toList))
      return (.call method receiver [], ← rest.dropPrefix? ")".toList)
    else if name = "new" then
      let (shape, rest) := word (← text.dropPrefix? " ".toList)
      read fuel (.bindings shape [] (← rest.dropPrefix? " \x7b ".toList))
    else
      return (← ofWord? name, text)
  | fuel + 1, .accesses target text =>
    match text.dropPrefix? ".".toList with
    | none => some (target, text)
    | some rest =>
      let (name, rest) := word rest
      match rest.dropPrefix? "(".toList with
      | none => read fuel (.accesses (.member target (.named name)) rest)
      | some rest => do read fuel (.arguments (← Method.ofName? name) target rest)
  | fuel + 1, .arguments method target text =>
    match text.dropPrefix? ")".toList with
    | some rest => read fuel (.accesses (.call method target []) rest)
    | none => do
      let (argument, rest) ← read fuel (.whole text)
      read fuel (.accesses (.call method target [argument]) (← rest.dropPrefix? ")".toList))
  | fuel + 1, .bindings shape bound text =>
    match text.dropPrefix? " \x7d".toList with
    | some rest => some (.init shape bound, rest)
    | none => do
      let (name, rest) := word text
      let (value, rest) ← read fuel (.whole (← rest.dropPrefix? " = ".toList))
      let rest := (rest.dropPrefix? ", ".toList).getD rest
      read fuel (.bindings shape (bound ++ [(name, value)]) rest)

/-! ## Words and signs -/

/-- What stands before a text is dropped. -/
theorem dropPrefix_append (before text : List Char) :
    (before ++ text).dropPrefix? before = some text :=
  List.dropPrefix?_append_of_beq text (beq_self_eq_true before)

/-- `Delimited text` says that no word goes on in `text`, and that it does not open a list of
arguments. -/
def Delimited (text : List Char) : Prop := ∀ c ∈ text.head?, c ∈ [' ', ')', ',', '.']

/-- `IsWord name` says that a name has only letters and digits. -/
def IsWord (name : String) : Prop := name ≠ "" ∧ ∀ c ∈ name.toList, c.isAlphanum

variable {text rest after : List Char} {name : String}

/-- A word ends where a delimited text begins. -/
theorem Delimited.not_alphanum (h : Delimited text) : ∀ c ∈ text.head?, c.isAlphanum = false := by
  have hends : [' ', ')', ',', '.'].all fun c => !c.isAlphanum := by decide
  intro c hc
  simpa using List.all_eq_true.1 hends c (h c hc)

/-- No word goes on where a sign follows. -/
theorem not_alphanum_append (sign : String) (text : List Char)
    (hsign : (sign.toList.head?.map Char.isAlphanum) = some false) :
    ∀ c ∈ (sign.toList ++ text).head?, c.isAlphanum = false := by
  cases hcs : sign.toList with
  | nil => simp [hcs] at hsign
  | cons c cs =>
      rintro d ⟨⟩
      simpa [hcs] using hsign

theorem Delimited.dropPrefix_open (h : Delimited text) : text.dropPrefix? "(".toList = none := by
  cases text with
  | nil => rfl
  | cons c rest =>
      have hc : c ≠ '(' := by
        rintro rfl
        exact absurd (h '(' rfl) (by decide)
      simp [List.dropPrefix?, hc]

/-- A text of letters and digits that is not empty is a word. -/
theorem isWord_of_all (hne : name ≠ "") (hall : name.toList.all Char.isAlphanum) : IsWord name :=
  ⟨hne, List.all_eq_true.1 hall⟩

theorem isWord_method (method : Method) : IsWord method.name := by
  cases method <;> exact isWord_of_all (by decide) (by decide)

theorem ofName_method (method : Method) : Method.ofName? method.name = some method := by
  cases method <;> decide

theorem IsWord.head (h : IsWord name) :
    ∃ c cs, name.toList = c :: cs ∧ c.isAlphanum := by
  cases hcs : name.toList with
  | nil => exact absurd (String.toList_eq_nil_iff.1 hcs) h.1
  | cons c cs => exact ⟨c, cs, rfl, h.2 c (by simp [hcs])⟩

/-- A word is read as far as it goes. -/
theorem word_append (hname : ∀ c ∈ name.toList, c.isAlphanum)
    (htext : ∀ c ∈ text.head?, c.isAlphanum = false) :
    word (name.toList ++ text) = (name, text) := by
  have hends : text.takeWhile Char.isAlphanum = [] ∧ text.dropWhile Char.isAlphanum = text := by
    cases text with
    | nil => exact ⟨rfl, rfl⟩
    | cons c rest => simp [htext c rfl]
  rw [word, List.takeWhile_append_of_pos hname, List.dropWhile_append_of_pos hname, hends.1,
    hends.2, List.append_nil, String.ofList_toList]

/-- A text that begins with another character has no sign. -/
theorem sign_of_head {c : Char} (hnot : c ≠ '!') (hminus : c ≠ '-') :
    sign? (c :: text) = none := by
  simp [sign?, UnaryOp.all, UnaryOp.symbol, List.dropPrefix?, hnot, hminus]

/-- The symbol of a unary operator is read as its sign. -/
theorem sign_append (op : UnaryOp) (text : List Char) :
    sign? (op.symbol.toList ++ text) = some (op, text) := by
  cases op <;> simp [sign?, UnaryOp.all, UnaryOp.symbol, List.dropPrefix?]

theorem operator_append (op : BinaryOp) (text : List Char) :
    operator? ((" " ++ op.symbol ++ " ").toList ++ text) = some (op, text) := by
  cases op <;> simp [operator?, BinaryOp.all, BinaryOp.symbol, List.dropPrefix?]

/-- No expression starts with a closing parenthesis. -/
theorem read_close (text : List Char) (fuel : Nat) :
    read fuel (.whole (")".toList ++ text)) = none := by
  have hnamed : ∀ fuel, read fuel (.named "" (')' :: text)) = none
    | 0 => rfl
    | _ + 1 => rfl
  have hatom : ∀ fuel, read fuel (.atom (')' :: text)) = none
    | 0 => rfl
    | fuel + 1 => hnamed fuel
  have hsign : sign? (')' :: text) = none := sign_of_head (by decide) (by decide)
  have hoperand : ∀ fuel, read fuel (.operand (')' :: text)) = none
    | 0 => rfl
    | fuel + 1 => by simp only [read, hsign, hatom fuel]; rfl
  have hoperands : ∀ fuel, read fuel (.operands 1 (')' :: text)) = none
    | 0 => rfl
    | fuel + 1 => by simp only [read, hoperand fuel]; rfl
  cases fuel with
  | zero => rfl
  | succ fuel =>
      show read (fuel + 1) (.whole (')' :: text)) = none
      simp only [read, hoperands fuel]
      rfl

/-! ## What is read -/

attribute [local simp] read

/-- `Reads goal result` says that `result` is read for `goal` with any fuel that is enough. -/
def Reads (goal : Goal) (result : Expr × List Char) : Prop :=
  ∀ᶠ fuel in atTop, read fuel goal = some result

namespace Reads

variable {goal : Goal} {result : Expr × List Char} {last : List Char} {shape : String}
  {e test ifTrue ifFalse left right target body argument receiver value : Expr} {p : Parameter}
  {least : Nat} {method : Method} {bound : List (String × Expr)}

/-- What is read is determined by the goal. -/
theorem unique {other : Expr × List Char} (h : Reads goal result) (hother : Reads goal other) :
    result = other := by
  obtain ⟨fuel, hfuel, hfuel'⟩ := (Eventually.and h hother).exists
  exact Option.some.inj (hfuel.symm.trans hfuel')

/-- What is read with one more than enough fuel is read. -/
theorem of_succ (h : ∀ᶠ fuel in atTop, read (fuel + 1) goal = some result) : Reads goal result := by
  rw [Reads, ← map_add_atTop_eq_nat 1]
  exact h

/-- A row of operands that neither an arrow nor a question mark follows is a whole expression. -/
theorem whole (h : Reads (.operands 1 text) (e, rest))
    (harrow : rest.dropPrefix? " => ".toList = none)
    (hquestion : rest.dropPrefix? " ? ".toList = none) : Reads (.whole text) (e, rest) := by
  refine of_succ ?_
  filter_upwards [h] with fuel h
  simp only [read, h, Option.bind_eq_bind, Option.bind_some, harrow, hquestion]
  rfl

/-- A parameter before an arrow begins a lambda, whose body is a whole expression. -/
theorem lambda (h : Reads (.operands 1 text) (.parameter p, " => ".toList ++ rest))
    (hbody : Reads (.whole rest) (body, after)) : Reads (.whole text) (.lambda p body, after) := by
  refine of_succ ?_
  filter_upwards [h, hbody] with fuel h hbody
  simp only [read, h, hbody, dropPrefix_append, Option.bind_eq_bind, Option.bind_some]
  rfl

/-- A row of operands before a question mark begins a conditional, whose two branches are whole
expressions. -/
theorem conditional (h : Reads (.operands 1 text) (test, " ? ".toList ++ rest))
    (htrue : Reads (.whole rest) (ifTrue, " : ".toList ++ after))
    (hfalse : Reads (.whole after) (ifFalse, last)) :
    Reads (.whole text) (.conditional test ifTrue ifFalse, last) := by
  have harrow : (" ? ".toList ++ rest).dropPrefix? " => ".toList = none := by
    simp [List.dropPrefix?]
  refine of_succ ?_
  filter_upwards [h, htrue, hfalse] with fuel h htrue hfalse
  simp only [read, h, harrow, htrue, hfalse, dropPrefix_append, Option.bind_eq_bind,
    Option.bind_some]
  rfl

/-- A row of operands is an operand with what goes on after it. -/
theorem operands (h : Reads (.operand text) (left, rest))
    (hmore : Reads (.more least left rest) result) : Reads (.operands least text) result := by
  refine of_succ ?_
  filter_upwards [h, hmore] with fuel h hmore
  simp only [read, h, hmore, Option.bind_eq_bind, Option.bind_some]

/-- No operand follows where there is no operator, or none that binds tightly enough. -/
theorem more_stop
    (h : ∀ op rest, operator? text = some (op, rest) → op.precedence < least) :
    Reads (.more least left text) (left, text) := by
  refine of_succ (Eventually.of_forall fun fuel => ?_)
  rw [read]
  split
  · rfl
  · rename_i op rest hop
    rw [if_pos (h op rest hop)]

/-- An operator that binds tightly enough goes on with a row, whose next operand is a row of tighter
operators. -/
theorem more_operator {op : BinaryOp} (hleast : least ≤ op.precedence)
    (hright : Reads (.operands (rightPrecedence op) text) (right, rest))
    (hmore : Reads (.more least (.binary op left right) rest) result) :
    Reads (.more least left ((" " ++ op.symbol ++ " ").toList ++ text)) result := by
  refine of_succ ?_
  filter_upwards [hright, hmore] with fuel hright hmore
  simp only [read, operator_append, if_neg (Nat.not_lt.2 hleast), hright, hmore,
    Option.bind_eq_bind, Option.bind_some]

/-- A sign stands before a row of operands that bind as tightly as it does. -/
theorem unary {op : UnaryOp} (h : Reads (.operands op.precedence text) (e, rest)) :
    Reads (.operand (op.symbol.toList ++ text)) (.unary op e, rest) := by
  refine of_succ ?_
  filter_upwards [h] with fuel h
  simp only [read, sign_append, h, Option.bind_eq_bind, Option.bind_some]
  rfl

/-- An operand without a sign is an atom with the accesses after it. -/
theorem operand (hsign : sign? text = none) (h : Reads (.atom text) (target, rest))
    (haccesses : Reads (.accesses target rest) result) : Reads (.operand text) result := by
  refine of_succ ?_
  filter_upwards [h, haccesses] with fuel h haccesses
  simp only [read, hsign, h, haccesses, Option.bind_eq_bind, Option.bind_some]

/-- Parentheses hold a whole expression. -/
theorem parenthesised (h : Reads (.whole text) (e, ")".toList ++ rest)) :
    Reads (.atom ("(".toList ++ text)) (e, rest) := by
  refine of_succ ?_
  filter_upwards [h] with fuel h
  show read (fuel + 1) (.atom ('(' :: text)) = _
  simp only [read, h, dropPrefix_append, Option.bind_eq_bind, Option.bind_some]
  rfl

/-- An underscore is a parameter without a name. -/
theorem unnamed : Reads (.atom ("_".toList ++ rest)) (.parameter (.named none), rest) :=
  of_succ (Eventually.of_forall fun _ => rfl)

/-- A word is read up to the end, and then for what it names. -/
theorem atom_word (hname : IsWord name) (htext : ∀ c ∈ text.head?, c.isAlphanum = false)
    (h : Reads (.named name text) result) : Reads (.atom (name.toList ++ text)) result := by
  obtain ⟨c, cs, hcs, hc⟩ := hname.head
  have hword := word_append hname.2 htext
  rw [hcs, List.cons_append] at hword ⊢
  refine of_succ ?_
  filter_upwards [h] with fuel h
  rw [read, hword]
  · exact h
  -- a word starts with neither a parenthesis nor an underscore
  · rintro _ hparenthesis
    obtain ⟨rfl, -⟩ := List.cons.inj hparenthesis
    exact absurd hc (by decide)
  · rintro _ hunderscore
    obtain ⟨rfl, -⟩ := List.cons.inj hunderscore
    exact absurd hc (by decide)

theorem named_constant (hstring : name ≠ "string") (hnew : name ≠ "new")
    (h : ofWord? name = some e) : Reads (.named name text) (e, text) := by
  refine of_succ (Eventually.of_forall fun fuel => ?_)
  simp only [read, if_neg hstring, if_neg hnew, h, Option.bind_eq_bind, Option.bind_some]
  rfl

/-- A method on strings takes its receiver in parentheses. -/
theorem named_static (h : Reads (.whole text) (receiver, ")".toList ++ rest)) :
    Reads (.named "string" (("." ++ method.name ++ "(").toList ++ text))
      (.call method receiver [], rest) := by
  have hword := word_append (isWord_method method).2 (not_alphanum_append "(" text (by decide))
  refine of_succ ?_
  filter_upwards [h] with fuel h
  rw [String.toList_append, String.toList_append, List.append_assoc, List.append_assoc]
  simp only [read, if_pos, dropPrefix_append, hword, ofName_method, h, Option.bind_eq_bind,
    Option.bind_some]
  rfl

/-- The name of a shape after `new` begins bindings. -/
theorem named_new (hshape : IsWord shape) (h : Reads (.bindings shape [] text) result) :
    Reads (.named "new" ((" " ++ shape ++ " \x7b ").toList ++ text)) result := by
  have hword := word_append hshape.2 (not_alphanum_append " \x7b " text (by decide))
  have hnew : "new" ≠ "string" := by decide
  refine of_succ ?_
  filter_upwards [h] with fuel h
  rw [String.toList_append, String.toList_append, List.append_assoc, List.append_assoc]
  simp only [read, if_neg hnew, if_pos, dropPrefix_append, hword, h, Option.bind_eq_bind,
    Option.bind_some]

theorem accesses_stop (h : text.dropPrefix? ".".toList = none) :
    Reads (.accesses target text) (target, text) := by
  refine of_succ (Eventually.of_forall fun fuel => ?_)
  simp only [read, h]

/-- A word after a point that is not called is a field. -/
theorem accesses_field (hname : IsWord name) (htext : Delimited text)
    (h : Reads (.accesses (.member target (.named name)) text) result) :
    Reads (.accesses target (("." ++ name).toList ++ text)) result := by
  refine of_succ ?_
  filter_upwards [h] with fuel h
  rw [String.toList_append, List.append_assoc]
  simp only [read, dropPrefix_append, word_append hname.2 htext.not_alphanum,
    htext.dropPrefix_open, h]

/-- The name of a method after a point, with a parenthesis, is a call. -/
theorem accesses_call (h : Reads (.arguments method target text) result) :
    Reads (.accesses target (("." ++ method.name ++ "(").toList ++ text)) result := by
  have hword := word_append (isWord_method method).2 (not_alphanum_append "(" text (by decide))
  refine of_succ ?_
  filter_upwards [h] with fuel h
  rw [String.toList_append, String.toList_append, List.append_assoc, List.append_assoc]
  simp only [read, dropPrefix_append, hword, ofName_method, h, Option.bind_eq_bind,
    Option.bind_some]

theorem arguments_nil (h : Reads (.accesses (.call method target []) text) result) :
    Reads (.arguments method target (")".toList ++ text)) result := by
  refine of_succ ?_
  filter_upwards [h] with fuel h
  simp only [read, dropPrefix_append, h]

/-- A call with an argument ends after it. -/
theorem arguments_one (hargument : Reads (.whole text) (argument, ")".toList ++ rest))
    (h : Reads (.accesses (.call method target [argument]) rest) result) :
    Reads (.arguments method target text) result := by
  have hclose : text.dropPrefix? ")".toList = none := by
    rw [Option.eq_none_iff_forall_ne_some]
    intro after hafter
    obtain ⟨before, rfl, hbefore⟩ := List.dropPrefix?_eq_some_iff.1 hafter
    obtain ⟨fuel, hfuel⟩ := Eventually.exists hargument
    rw [eq_of_beq hbefore, read_close] at hfuel
    cases hfuel
  refine of_succ ?_
  filter_upwards [hargument, h] with fuel hargument h
  simp only [read, hclose, hargument, dropPrefix_append, h, Option.bind_eq_bind, Option.bind_some]

theorem bindings_stop :
    Reads (.bindings shape bound (" \x7d".toList ++ text)) (.init shape bound, text) := by
  refine of_succ (Eventually.of_forall fun fuel => ?_)
  simp only [read, dropPrefix_append]

/-- A binding is a name and a whole expression, and others follow after a comma. -/
theorem bindings_binding (hname : IsWord name) (h : Reads (.whole text) (value, rest))
    (hrest : Reads (.bindings shape (bound ++ [(name, value)])
      ((rest.dropPrefix? ", ".toList).getD rest)) result) :
    Reads (.bindings shape bound ((name ++ " = ").toList ++ text)) result := by
  obtain ⟨c, cs, hcs, hc⟩ := hname.head
  have hword := word_append hname.2 (not_alphanum_append " = " text (by decide))
  have hblank : c ≠ ' ' := by
    rintro rfl
    exact absurd hc (by decide)
  have hbrace : (name.toList ++ (" = ".toList ++ text)).dropPrefix? " \x7d".toList = none := by
    simp [hcs, List.dropPrefix?, hblank]
  refine of_succ ?_
  filter_upwards [h, hrest] with fuel h hrest
  rw [String.toList_append, List.append_assoc]
  simp only [read, hbrace, hword, dropPrefix_append, h, hrest, Option.bind_eq_bind,
    Option.bind_some]

end Reads

end Reshape.Expr
