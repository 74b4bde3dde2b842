import RecordSieve.Failure
import RecordSieve.Pattern.Basic
import RecordSieve.Scalar.Comparison

/-!
# Evaluation

The answer of an operator on two scalars.
-/

namespace RecordSieve

/-- The expression of a scalar that serves as a pattern, which only a string can. -/
def Scalar.pattern? : Scalar → Except Failure Regex
  | .string pattern =>
      match Pattern.compile? pattern with
      | some regex => .ok regex
      | none => .error (.invalidPattern pattern)
  | other => .error (.incomparable .like .string other.kind)

namespace Operator

/-- What an ordering operator says about an order; without one, as with NaN, it says no. -/
def holds (op : Operator) : Option Ordering → Bool
  | none => false
  | some ordering =>
      match op with
      | ge => ordering ≠ .lt
      | gt => ordering = .gt
      | le => ordering ≠ .gt
      | _ => ordering = .lt

/-- The answer of an operator on two scalars. -/
def evaluate (op : Operator) (left right : Scalar) : Except Failure Bool :=
  match op with
  | eq => .ok (left.agrees right)
  | ne => .ok (!left.agrees right)
  | like => do
      let regex ← right.pattern?
      pure (regex.isMatch left.render.toList)
  | ge | gt | le | lt =>
      match left.compare? right with
      | some ordering => .ok (op.holds ordering)
      | none => .error (.incomparable op left.kind right.kind)

end Operator

end RecordSieve
