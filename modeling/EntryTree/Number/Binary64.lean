/-!
# Double-precision numbers

A finite double is a whole number of quanta of size `2 ^ -1074`, together with a sign that also
zero has. Operations compute with exact naturals and round once, to the nearest double and on a tie
to the even neighbour; what reaches `2 ^ 1024` is infinite. There is no value for an undefined
result, because nothing here can produce one.
-/

namespace EntryTree

/-- A double-precision number other than the undefined one. -/
inductive Binary64
  | finite (negative : Bool) (quanta : Nat)
  | infinite (negative : Bool)
  deriving DecidableEq, Repr

namespace Binary64

/-- The quanta in one. -/
def unity : Nat := Nat.pow 2 1074

/-- The quanta in the least power of two that is no longer finite. -/
def overflow : Nat := Nat.pow 2 2098

/-- The nearest natural to a quotient; the even one if two are equally near. -/
def roundHalfEven (numerator denominator : Nat) : Nat :=
  let quotient := numerator / denominator
  let twice := 2 * (numerator % denominator)
  if twice < denominator || (twice == denominator && quotient % 2 == 0) then quotient
  else quotient + 1

/-- The nearest natural to a quotient; the larger one if two are equally near. -/
def roundHalfUp (numerator denominator : Nat) : Nat :=
  (2 * numerator + denominator) / (2 * denominator)

/-- The distance between neighbouring doubles from `quanta` on: 53 leading bits are kept. -/
def spacing (quanta : Nat) : Nat :=
  Nat.pow 2 (quanta.log2 - 52)

/-- The quanta of the double nearest to a quotient of quanta. -/
def nearestQuanta (numerator denominator : Nat) : Nat :=
  let step := spacing (numerator / denominator)
  roundHalfEven numerator (denominator * step) * step

/-- The double nearest to `numerator / denominator`. -/
def ofRatio (negative : Bool) (numerator denominator : Nat) : Binary64 :=
  let quanta := nearestQuanta (numerator * unity) denominator
  if quanta < overflow then .finite negative quanta else .infinite negative

/-- The double nearest to an integer. -/
def ofInt (value : Int) : Binary64 :=
  ofRatio (value < 0) value.natAbs 1

/-- The double nearest to `digits` with the point moved `places` digits to the left. -/
def ofDecimal (digits places : Nat) : Binary64 :=
  ofRatio false digits (Nat.pow 10 places)

/-- The signed number of quanta, with infinities beyond every finite number. -/
def order : Binary64 → Int
  | .finite false quanta => quanta
  | .finite true quanta => -quanta
  | .infinite false => overflow
  | .infinite true => -overflow

instance : LT Binary64 := ⟨fun left right => left.order < right.order⟩

instance : DecidableLT Binary64 := fun left right => Int.decLt left.order right.order

/-- The product with a natural, rounded first to a double and then to a natural, halves up. -/
def timesRounded (factor : Nat) : Binary64 → Nat
  | .finite _ quanta => roundHalfUp (nearestQuanta (quanta * factor) 1) unity
  | .infinite _ => 0

/-- The sign and the exact decimal value of a finite double: `digits / 10 ^ places`. -/
def decimal? : Binary64 → Option (Bool × Nat × Nat)
  | .finite negative quanta =>
    let places := 1074 - shared quanta 1074
    some (negative, quanta / Nat.pow 2 (1074 - places) * Nat.pow 5 places, places)
  | .infinite _ => none
where
  /-- How often two divides the quanta, up to a limit. -/
  shared (quanta : Nat) : Nat → Nat
    | 0 => 0
    | limit + 1 => if quanta % 2 = 0 then shared (quanta / 2) limit + 1 else 0

end Binary64
end EntryTree
