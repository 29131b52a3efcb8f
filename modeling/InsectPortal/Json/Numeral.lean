/-!
# Numbers as a JSON text writes them

A numeral keeps the form it is written in, so that a reader can ask for exactly the spelling it
needs. Its magnitude is read from the leading digits that a 64-bit count holds (`digits`), and the
power of ten that belongs to them; `isFinite` judges the product of the two in binary64. A binary64
number has 53 significant bits: `round` brings a whole number to the nearest one that fits and
leaves the magnitude free, and `inRange` asks whether the rounded number is still below the first
power of two that binary64 does not reach.
-/
namespace InsectPortal

namespace Binary64

def spacing (m : Nat) : Nat := Nat.pow 2 (m.log2 - 52)

/-- The nearest number of 53 significant bits; of two that are as near, the one whose last bit is
zero. -/
def round (m : Nat) : Nat :=
  let unit := spacing m
  let below := m / unit
  if 2 * (m % unit) < unit ∨ (2 * (m % unit) = unit ∧ below % 2 = 0) then below * unit
  else (below + 1) * unit

def inRange (m : Nat) : Bool := round m < Nat.pow 2 1024

end Binary64

/-- A number as it is written: `-12.50e3` has the whole part 12, the fraction digits 5 and 0 and
the exponent 3. -/
structure Numeral where
  negative : Bool
  whole : Nat
  fraction : List (Fin 10)
  exponent : Option Int
  deriving DecidableEq, Repr

namespace Numeral

def ofNat (n : Nat) : Numeral := ⟨false, n, [], none⟩

/-- The number as a count: no sign, no fraction and no exponent is written. -/
def toNat? (n : Numeral) : Option Nat :=
  if n.negative || !n.fraction.isEmpty || n.exponent.isSome then none else some n.whole

theorem toNat?_ofNat (n : Nat) : (ofNat n).toNat? = some n := rfl

def leading (m : Nat) : Nat × Nat :=
  if m < UInt64.size then (m, 0)
  else
    let (kept, dropped) := leading (m / 10)
    (kept, dropped + 1)
  termination_by m
  decreasing_by simp only [UInt64.size] at *; omega

def extend (m : Nat) : List (Fin 10) → Nat × Nat
  | [] => (m, 0)
  | d :: rest =>
    if m * 10 + d.val < UInt64.size then
      let (kept, taken) := extend (m * 10 + d.val) rest
      (kept, taken + 1)
    else (m, 0)

/-- The leading digits as one 64-bit count, and the power of ten it is multiplied by. A fraction
digit that still fits is read even where a digit of the whole part did not. -/
def digits (n : Numeral) : Nat × Int :=
  let (whole, dropped) := leading n.whole
  let (kept, taken) := extend whole n.fraction
  (kept, n.exponent.getD 0 + dropped - taken)

/-- Whether the number is within the range of binary64. The digits and the power of ten are
rounded each for itself, and the power is a finite number only up to 308. -/
def isFinite (n : Numeral) : Bool :=
  let (m, e) := n.digits
  m = 0 || e < 0 ||
    (e ≤ 308 && Binary64.inRange (Binary64.round m * Binary64.round (Nat.pow 10 e.toNat)))

end Numeral

end InsectPortal
