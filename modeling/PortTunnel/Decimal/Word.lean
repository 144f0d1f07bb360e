/-!
# Written numbers

Natural numbers below a bound as people write them: decimal digits, after an optional
plus sign.

* `Word.parse`: the number, or the first fault from the left.
-/

namespace PortTunnel.Decimal.Word

inductive Fault where
  | empty
  | invalidDigit
  | tooLarge
  deriving DecidableEq, Repr

def Fault.message : Fault → String
  | .empty => "cannot parse integer from empty string"
  | .invalidDigit => "invalid digit found in string"
  | .tooLarge => "number too large to fit in target type"

/-- Reads digits behind those of `n`. -/
def parseDigits (bound n : Nat) : List Char → Except Fault Nat
  | [] => .ok n
  | c :: cs =>
    if c.isDigit then
      let m := n * 10 + (c.toNat - 48)
      if m < bound then parseDigits bound m cs else .error .tooLarge
    else .error .invalidDigit

/-- A number below `bound`. -/
def parse (bound : Nat) (s : String) : Except Fault Nat :=
  match s.toList with
  | [] => .error .empty
  | ['+'] => .error .invalidDigit
  | '+' :: cs => parseDigits bound 0 cs
  | cs => parseDigits bound 0 cs

end PortTunnel.Decimal.Word
