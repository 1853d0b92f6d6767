/-!
# The shortest decimal

The text of a double: the fewest decimal digits that read back as the number, and of those the
nearest to it. `Binary` holds the number exactly, so all comparisons are between naturals.
-/

namespace HtmlComponent.Options

/-- A positive number, the mantissa times the exponent's power of two. -/
structure Binary where
  mantissa : Nat
  exponent : Int
  /-- Whether the number below is only half as far away as the number above. -/
  narrowBelow : Bool

namespace Binary

/-- Splits the bits of a finite double, its sign apart. -/
def ofBits (bits : Nat) : Binary :=
  let fraction : Nat := bits % 0x10000000000000
  let biased : Nat := bits / 0x10000000000000 % 0x800
  if biased = 0 then ⟨fraction, -1074, false⟩
  else ⟨fraction + 0x10000000000000, (biased : Int) - 1075, fraction == 0 && biased != 1⟩

/-- The number is the fraction `numerator / denominator`. -/
def numerator (b : Binary) : Nat :=
  4 * b.mantissa * Nat.pow 2 b.exponent.toNat

def denominator (b : Binary) : Nat :=
  4 * Nat.pow 2 (-b.exponent).toNat

/-- A quarter of the distance to the number above, in the numerator's unit. -/
def quarter (b : Binary) : Nat :=
  Nat.pow 2 b.exponent.toNat

/-- Whether the decimal `digits * 10 ^ power` rounds to the number, a half going to the even one. -/
def roundsTo (b : Binary) (digits : Nat) (power : Int) : Bool :=
  let value := digits * Nat.pow 10 power.toNat * b.denominator
  let grid := Nat.pow 10 (-power).toNat
  let low := (b.numerator - (if b.narrowBelow then b.quarter else 2 * b.quarter)) * grid
  let high := (b.numerator + 2 * b.quarter) * grid
  if b.mantissa % 2 = 0 then low ≤ value && value ≤ high else low < value && value < high

/-- The power of ten of the leading digit. -/
def leadingPower (b : Binary) : Int :=
  if b.denominator ≤ b.numerator then
    ((Nat.toDigits 10 (b.numerator / b.denominator)).length : Int) - 1
  else -((Nat.toDigits 10 ((b.denominator - 1) / b.numerator)).length : Int)

/-- The number's neighbour on the grid of multiples of `10 ^ power` that rounds to it, the nearer
one if both do. -/
def neighbour? (b : Binary) (power : Int) : Option Nat :=
  let value := b.numerator * Nat.pow 10 (-power).toNat
  let grid := b.denominator * Nat.pow 10 power.toNat
  let below := value / grid
  match b.roundsTo below power, b.roundsTo (below + 1) power with
  | false, false => none
  | true, false => some below
  | false, true => some (below + 1)
  | true, true =>
    let doubled := 2 * (value % grid)
    if doubled < grid || (doubled == grid && below % 2 == 0) then some below else some (below + 1)

/-- The digits of the shortest decimal, and the power of ten of the first of them. Seventeen digits
are always enough. -/
def shortest (b : Binary) : List Char × Int :=
  let found := (List.range 17).findSome? fun (n : Nat) =>
    (b.neighbour? (b.leadingPower - n)).map fun digits => (digits, b.leadingPower - n)
  let (digits, power) := found.getD (0, 0)
  let written := Nat.toDigits 10 digits
  ((written.reverse.dropWhile (· == '0')).reverse, power + written.length - 1)

end Binary

/-- Digits with the point after the first, or positional when the leading power is from -5 to 15. -/
def decimalText (digits : List Char) (power : Int) : List Char :=
  if power < -5 || 15 < power then
    let rest := digits.drop 1
    digits.take 1 ++ (if rest.isEmpty then [] else '.' :: rest) ++
      ['e', if power < 0 then '-' else '+'] ++ Nat.toDigits 10 power.natAbs
  else if power < 0 then
    ['0', '.'] ++ List.replicate (power.natAbs - 1) '0' ++ digits
  else
    let whole := power.toNat + 1
    digits.take whole ++ List.replicate (whole - digits.length) '0' ++ ['.'] ++
      (if digits.length ≤ whole then ['0'] else digits.drop whole)

/-- The text of a finite double. -/
def doubleText (x : Float) : String :=
  let bits := x.toBits.toNat
  let sign := if 0x8000000000000000 ≤ bits then ['-'] else []
  let b := Binary.ofBits bits
  if b.mantissa = 0 then String.ofList (sign ++ ['0', '.', '0'])
  else String.ofList (sign ++ decimalText b.shortest.1 b.shortest.2)

end HtmlComponent.Options
