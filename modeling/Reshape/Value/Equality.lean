import Reshape.Value

/-!
# Sameness of values

Two values are the same when they have the same kind and parts. Decimals are the same when they
stand for one number, whatever their scale; records when they have one shape and the same fields in
any order. An integer is never the same as a decimal.
-/

namespace Reshape.Value

mutual
/-- `a.same b` says `a` and `b` are the same value. -/
def same : Value → Value → Bool
  | .null, .null => true
  | .boolean a, .boolean b => a == b
  | .integer a, .integer b => a == b
  | .decimal a, .decimal b => a.sameNumber b
  | .string a, .string b => a == b
  | .dateTime a, .dateTime b => a == b
  | .list as, .list bs => sameItems as bs
  | .record shape as, .record shape' bs =>
    shape == shape' && as.length == bs.length && sameFields as bs
  | _, _ => false

/-- `sameItems as bs` says the lists have the same items in order. -/
def sameItems : List Value → List Value → Bool
  | [], [] => true
  | a :: as, b :: bs => a.same b && sameItems as bs
  | _, _ => false

/-- `sameFields as bs` says every field of `as` is one of `bs`. -/
def sameFields : List (String × Value) → List (String × Value) → Bool
  | [], _ => true
  | (name, a) :: as, bs =>
    (match bs.lookup name with
      | some b => a.same b
      | none => false) && sameFields as bs
end

end Reshape.Value
