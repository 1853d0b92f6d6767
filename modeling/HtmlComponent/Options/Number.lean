import HtmlComponent.Options.Fault

/-!
# Numbers in written options

No field of options is a number, so a number is only read to be named in a fault: exactly when it is
an integer of 64 bits, else as a double. Digits beyond 64 bits of significand only scale it.
-/

namespace HtmlComponent.Options

/-- The length of a text in UTF-8. -/
def byteCount : List Char → Nat
  | [] => 0
  | c :: cs => c.utf8Size + byteCount cs

/-- Stops at the text that is still unread. -/
def here {α : Type} (reason : Reason) (s : List Char) : Except Stop α :=
  .error ⟨reason, byteCount s⟩

/-- Stops one byte into the text that is still unread, or at its end. -/
def ahead {α : Type} (reason : Reason) (s : List Char) : Except Stop α :=
  .error ⟨reason, byteCount s - 1⟩

def digitValue (c : Char) : Nat :=
  c.toNat - '0'.toNat

/-- Reads digits on from the value `n` as long as it stays within the bound. Gives the value, the
number of digits read and the rest. -/
def takeDigits (bound n : Nat) : List Char → Nat × Nat × List Char
  | [] => (n, 0, [])
  | c :: cs =>
    if c.isDigit && n * 10 + digitValue c ≤ bound then
      let (value, count, rest) := takeDigits bound (n * 10 + digitValue c) cs
      (value, count + 1, rest)
    else (n, 0, c :: cs)

/-- The largest integer of 64 bits. -/
def maxSignificand : Nat :=
  0xFFFFFFFFFFFFFFFF

def startsWithDigit : List Char → Bool
  | [] => false
  | c :: _ => c.isDigit

def signed (negative : Bool) (x : Float) : Float :=
  if negative then -x else x

/-- The double `10 ^ n`, for `n` up to 308. -/
def tenPower (n : Nat) : Float :=
  Float.ofScientific 1 false n

/-- Scales `x` by a power of ten in steps that a double can hold; none when it grows out of range.
The fuel is one more than the number of steps. -/
def scaleTen : Nat → Float → Int → Option Float
  | 0, x, _ => some x
  | fuel + 1, x, power =>
    if power.natAbs ≤ 308 then
      if power < 0 then some (x / tenPower power.natAbs)
      else if (x * tenPower power.natAbs).isInf then none
      else some (x * tenPower power.natAbs)
    else if x == 0.0 then some x
    else if 0 < power then none
    else scaleTen fuel (x / tenPower 308) (power + 308)

/-- The double `significand * 10 ^ power`, read off before `s`. -/
def scaledDouble (negative : Bool) (significand : Nat) (power : Int) (s : List Char) :
    Except Stop (Found × List Char) :=
  match scaleTen (power.natAbs / 308 + 2) (Float.ofNat significand) power with
  | none => here .numberOutOfRange s
  | some x => .ok (.double (signed negative x), s)

/-- Reads the exponent after its mark. -/
def exponentPart (negative : Bool) (significand : Nat) (power : Int) (s : List Char) :
    Except Stop (Found × List Char) :=
  let (down, s) := match s with
    | '+' :: rest => (false, rest)
    | '-' :: rest => (true, rest)
    | _ => (false, s)
  if s.isEmpty then here .eofValue s
  else if !startsWithDigit s then ahead .invalidNumber s
  else
    let (n, _, rest) := takeDigits 0x7FFFFFFF 0 s
    if startsWithDigit rest then
      -- the exponent itself is too large to hold
      if significand != 0 && !down then ahead .numberOutOfRange rest
      else .ok (.double (signed negative 0.0), rest.dropWhile Char.isDigit)
    else scaledDouble negative significand (if down then power - n else power + n) rest

/-- Reads an exponent if there is one. -/
def afterDigits (negative : Bool) (significand : Nat) (power : Int) (s : List Char) :
    Except Stop (Found × List Char) :=
  match s with
  | 'e' :: rest => exponentPart negative significand power rest
  | 'E' :: rest => exponentPart negative significand power rest
  | _ => scaledDouble negative significand power s

/-- Reads the digits after a decimal point. -/
def fractionPart (negative : Bool) (significand : Nat) (power : Int) (s : List Char) :
    Except Stop (Found × List Char) :=
  if s.isEmpty then ahead .eofValue s
  else if !startsWithDigit s then ahead .invalidNumber s
  else
    let (value, count, rest) := takeDigits maxSignificand significand s
    afterDigits negative value (power - count) (rest.dropWhile Char.isDigit)

/-- Reads what follows the whole digits of a double. -/
def afterWhole (negative : Bool) (significand : Nat) (power : Int) (s : List Char) :
    Except Stop (Found × List Char) :=
  match s with
  | '.' :: rest => fractionPart negative significand power rest
  | _ => afterDigits negative significand power s

/-- A number without point and exponent. Minus zero and what 64 bits cannot hold are doubles. -/
def wholeNumber (negative : Bool) (n : Nat) : Found :=
  if !negative then .int n
  else if n = 0 || 0x8000000000000000 < n then .double (-(Float.ofNat n))
  else .int (-n)

/-- Reads what follows whole digits that 64 bits can hold. -/
def afterInteger (negative : Bool) (n : Nat) (s : List Char) : Except Stop (Found × List Char) :=
  match s with
  | '.' :: _ => afterWhole negative n 0 s
  | 'e' :: _ => afterWhole negative n 0 s
  | 'E' :: _ => afterWhole negative n 0 s
  | _ => .ok (wholeNumber negative n, s)

/-- Reads a number after its sign. -/
def number (negative : Bool) (s : List Char) : Except Stop (Found × List Char) :=
  match s with
  | [] => here .eofValue s
  | '0' :: rest =>
    if startsWithDigit rest then ahead .invalidNumber rest else afterInteger negative 0 rest
  | _ :: _ =>
    if !startsWithDigit s then ahead .invalidNumber s
    else
      let (n, _, rest) := takeDigits maxSignificand 0 s
      if startsWithDigit rest then
        let extra := rest.takeWhile Char.isDigit
        afterWhole negative n extra.length (rest.dropWhile Char.isDigit)
      else afterInteger negative n rest

end HtmlComponent.Options
