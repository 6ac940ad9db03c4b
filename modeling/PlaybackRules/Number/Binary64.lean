/-!
# Binary floating point numbers with 64 bits

A finite number is a sign and a count of steps, where one step is the least positive number
`2 ^ (-1074)`.  Every finite number is a whole number of steps, so numbers compare as integers and
arithmetic is one exact quotient of naturals followed by one rounding, `steps`.
-/

namespace PlaybackRules

/-- A number of the IEEE 754 format with 64 bits.  `finite negative n` is `± n` steps of
`2 ^ (-1074)`; the two zeros are told apart by their sign. -/
inductive Binary64 where
  | nan
  | infinite (negative : Bool)
  | finite (negative : Bool) (steps : Nat)
  deriving DecidableEq, Repr, Inhabited

/-- The quotient `num / den` rounded to the nearest natural, a tie to the even neighbour. -/
def roundQuotient (num den : Nat) : Nat :=
  let quotient := num / den
  let twice := 2 * (num % den)
  if twice < den || (twice == den && quotient % 2 == 0) then quotient else quotient + 1

namespace Binary64

/-! ### The grid -/

/-- The number of steps that make one. -/
def one : Nat := Nat.pow 2 1074

/-- The first count of steps that is too large for a finite number. -/
def limit : Nat := Nat.pow 2 2098

/-- How many low bits of a count of steps lie below the last of its 53 significant bits. -/
def spareBits (steps : Nat) : Nat := steps.log2 + 1 - 53

/-- The representable count of steps nearest to `num / den`, a tie to the even significand. -/
def roundSteps (num den : Nat) : Nat :=
  let spare := spareBits (num / den)
  roundQuotient num (den * Nat.pow 2 spare) * Nat.pow 2 spare

/-- A sign with a count of steps, infinite when the count is too large. -/
def ofSteps (negative : Bool) (steps : Nat) : Binary64 :=
  if steps < limit then finite negative steps else infinite negative

/-- The number nearest to the rational `± num / den`. -/
def ofRatio (negative : Bool) (num den : Nat) : Binary64 :=
  ofSteps negative (roundSteps (num * one) den)

/-- The number nearest to an integer; the integers past the finite range have none. -/
def ofInt? (n : Int) : Option Binary64 :=
  match ofRatio (n < 0) n.natAbs 1 with
  | finite negative steps => some (finite negative steps)
  | _ => none

/-- Positive zero. -/
def zero : Binary64 := finite false 0

instance : Zero Binary64 := ⟨zero⟩

/-! ### Words -/

/-- Reads the 64 bits of the interchange format. -/
def ofBits (word : UInt64) : Binary64 :=
  let n := word.toNat
  let negative := n / Nat.pow 2 63 == 1
  let exponent := n / Nat.pow 2 52 % 2048
  let fraction := n % Nat.pow 2 52
  if exponent == 2047 then
    if fraction == 0 then infinite negative else nan
  else if exponent == 0 then finite negative fraction
  else finite negative ((Nat.pow 2 52 + fraction) * Nat.pow 2 (exponent - 1))

/-- Writes the 64 bits of the interchange format.  The leading bit of the significand is not stored:
it carries into the exponent field, which thus holds one more than `spareBits`. -/
def toBits : Binary64 → UInt64
  | nan => 0x7FF8000000000000
  | infinite negative => signBit negative + 0x7FF0000000000000
  | finite negative steps =>
    let spare := spareBits steps
    signBit negative + UInt64.ofNat (spare * Nat.pow 2 52 + steps / Nat.pow 2 spare)
where
  signBit (negative : Bool) : UInt64 := if negative then 0x8000000000000000 else 0

/-- The number held by a machine float. -/
def ofFloat (x : Float) : Binary64 := ofBits x.toBits

/-- The machine float that holds a number. -/
def toFloat (x : Binary64) : Float := Float.ofBits x.toBits

/-! ### Kinds of number -/

/-- Is it one of the two zeros? -/
def isZero : Binary64 → Bool
  | finite _ steps => steps == 0
  | _ => false

/-- Is it neither infinite nor nan? -/
def isFinite : Binary64 → Bool
  | finite _ _ => true
  | _ => false

/-! ### Arithmetic -/

/-- The correctly rounded quotient of a finite number by a finite number other than zero. -/
def quotient (a b : Bool × Nat) : Binary64 :=
  ofSteps (a.1 != b.1) (roundSteps (a.2 * one) b.2)

/-- The correctly rounded product. -/
def mul : Binary64 → Binary64 → Binary64
  | nan, _ => nan
  | _, nan => nan
  | infinite a, infinite b => infinite (a != b)
  | infinite a, finite b n => if n == 0 then nan else infinite (a != b)
  | finite a n, infinite b => if n == 0 then nan else infinite (a != b)
  | finite a n, finite b m => ofSteps (a != b) (roundSteps (n * m) one)

/-- The correctly rounded quotient. -/
def div : Binary64 → Binary64 → Binary64
  | nan, _ => nan
  | _, nan => nan
  | infinite _, infinite _ => nan
  | infinite a, finite b _ => infinite (a != b)
  | finite a _, infinite b => finite (a != b) 0
  | finite a n, finite b m =>
    if m == 0 then (if n == 0 then nan else infinite (a != b)) else quotient (a, n) (b, m)

instance : Mul Binary64 := ⟨mul⟩
instance : Div Binary64 := ⟨div⟩

/-- Rounds to two decimal places: to the nearest hundredth of the exact value, a tie to the even
hundredth, then to the number nearest to that decimal. -/
def roundHundredths : Binary64 → Binary64
  | finite negative steps => ofRatio negative (roundQuotient (steps * 100) one) 100
  | other => other

end Binary64

end PlaybackRules
