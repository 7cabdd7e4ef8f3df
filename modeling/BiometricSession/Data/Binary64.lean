import BiometricSession.Text.Decimal

/-!
# Binary floating-point numbers

Data formats hold numbers with a fraction as binary floating-point numbers of
64 bits.  Here such a number is kept as its sign, mantissa and exponent.  A
decimal is read as the nearest such number, of two the even one, or in one
multiplication or division of such numbers; a number is written with the fewest
digits of which it is the nearest number.
-/

namespace BiometricSession

/-- A binary floating-point number of 64 bits. -/
inductive Binary64 where
  /-- The number `mantissa * 2 ^ exponent`, negated if `negative`. -/
  | finite (negative : Bool) (mantissa : Nat) (exponent : Int)
  | infinite (negative : Bool)
  | notANumber
  deriving DecidableEq, Repr

namespace Binary64

def leastExponent : Int := -1074

def greatestExponent : Int := 971

/-- The quotient of two numbers, rounded to the nearest number; a half goes to
the even neighbour. -/
def roundedQuotient (numerator denominator : Nat) : Nat :=
  let quotient := numerator / denominator
  let twice := 2 * (numerator % denominator)
  if denominator < twice || (twice == denominator && quotient % 2 == 1) then
    quotient + 1
  else
    quotient

/-- The factor of a power that belongs to the numerator. -/
def upper (base : Nat) (exponent : Int) : Nat :=
  base.pow exponent.toNat

/-- The factor of a power that belongs to the denominator. -/
def lower (base : Nat) (exponent : Int) : Nat :=
  base.pow (-exponent).toNat

/-- The number nearest to a fraction. -/
def ofRatio (negative : Bool) (numerator denominator : Nat) : Binary64 :=
  if numerator = 0 then
    finite negative 0 leastExponent
  else
    let estimate : Int := (Nat.log2 numerator : Int) - Nat.log2 denominator - 52
    let scaled (exponent : Int) : Nat × Nat :=
      (numerator * lower 2 exponent, denominator * upper 2 exponent)
    let exponent :=
      if (scaled estimate).1 < Nat.pow 2 52 * (scaled estimate).2 then estimate - 1 else estimate
    let exponent := max exponent leastExponent
    let mantissa := roundedQuotient (scaled exponent).1 (scaled exponent).2
    let (mantissa, exponent) :=
      if mantissa = Nat.pow 2 53 then (Nat.pow 2 52, exponent + 1) else (mantissa, exponent)
    if greatestExponent < exponent then infinite negative else finite negative mantissa exponent

/-- The number nearest to `digits * 10 ^ exponent`.  Decimals far outside the
range are decided by their size alone. -/
def ofDecimal (negative : Bool) (digits : Nat) (exponent : Int) : Binary64 :=
  let size : Int := (Decimal.digits digits).length + exponent
  if digits = 0 || size < -330 then
    finite negative 0 leastExponent
  else if 310 < size then
    infinite negative
  else
    ofRatio negative (digits * upper 10 exponent) (lower 10 exponent)

/-- The magnitude of a finite number as a fraction. -/
def magnitude? : Binary64 → Option (Nat × Nat)
  | finite _ mantissa exponent => some (mantissa * upper 2 exponent, lower 2 exponent)
  | infinite _ | notANumber => none

/-- A product of magnitudes, rounded to the nearest number of the given sign. -/
def product (negative : Bool) (first second : Binary64) : Option Binary64 := do
  let (numerator, denominator) ← first.magnitude?
  let (otherNumerator, otherDenominator) ← second.magnitude?
  return ofRatio negative (numerator * otherNumerator) (denominator * otherDenominator)

/-- A quotient of magnitudes, rounded to the nearest number of the given sign. -/
def quotient (negative : Bool) (first second : Binary64) : Option Binary64 := do
  let (numerator, denominator) ← first.magnitude?
  let (otherNumerator, otherDenominator) ← second.magnitude?
  return ofRatio negative (numerator * otherDenominator) (denominator * otherNumerator)

def powerOfTen (exponent : Nat) : Binary64 :=
  ofDecimal false 1 exponent

/-- Exponent of the greatest power of ten that is a number. -/
def greatestPower : Nat := 308

/-- A whole number times or over a power of ten, where both of them and the
result are rounded to the nearest number.  A divisor beyond the greatest power
is split into two. -/
def scaled (negative : Bool) (digits : Nat) (exponent : Int) : Option Binary64 :=
  let whole := ofRatio negative digits 1
  if digits = 0 || exponent < -(2 * greatestPower) then
    some (ofRatio negative 0 1)
  else if greatestPower < exponent then
    none
  else if 0 ≤ exponent then
    product negative whole (powerOfTen exponent.toNat)
  else if -exponent ≤ greatestPower then
    quotient negative whole (powerOfTen (-exponent).toNat)
  else do
    let reduced ← quotient negative whole (powerOfTen greatestPower)
    quotient negative reduced (powerOfTen ((-exponent).toNat - greatestPower))

/-- Which of two neighbouring decimals stands for a number halfway between them. -/
inductive Halfway where
  /-- The one whose last digit is even. -/
  | even
  /-- The one of greater magnitude. -/
  | greater
  deriving DecidableEq, Repr

/-- Whether the lower of two neighbours stands for the number halfway. -/
def Halfway.takesLower (rule : Halfway) (lower : Nat) : Bool :=
  match rule with
  | even => lower % 2 == 0
  | greater => false

/-- A positive number as a fraction, in quarters of its last place: the number
itself and the two ends of the interval that rounds to it. -/
structure Neighbourhood where
  numerator : Nat
  lowEnd : Nat
  highEnd : Nat
  denominator : Nat
  /-- Whether the ends round to the number too. -/
  closed : Bool

/-- The neighbourhood of `mantissa * 2 ^ exponent`. -/
def neighbourhood (mantissa : Nat) (exponent : Int) : Neighbourhood :=
  let unit := upper 2 (exponent - 2)
  let isPower := mantissa = Nat.pow 2 52 && leastExponent < exponent
  { numerator := 4 * mantissa * unit
    lowEnd := (if isPower then 4 * mantissa - 1 else 4 * mantissa - 2) * unit
    highEnd := (4 * mantissa + 2) * unit
    denominator := lower 2 (exponent - 2)
    closed := mantissa % 2 == 0 }

namespace Neighbourhood

/-- Whether `digits * 10 ^ exponent` reads back as the number. -/
def contains (number : Neighbourhood) (digits : Nat) (exponent : Int) : Bool :=
  let decimal := digits * upper 10 exponent * number.denominator
  let low := number.lowEnd * lower 10 exponent
  let high := number.highEnd * lower 10 exponent
  if number.closed then low ≤ decimal && decimal ≤ high else low < decimal && decimal < high

/-- The decimal on a grid that is nearest to the number, of those that read
back as it. -/
def onGrid (number : Neighbourhood) (rule : Halfway) (exponent : Int) : Option Nat :=
  let scaledUp := number.numerator * lower 10 exponent
  let scale := number.denominator * upper 10 exponent
  let below := scaledUp / scale
  let remainder := scaledUp % scale
  let belowIsNearer :=
    2 * remainder < scale || (2 * remainder == scale && rule.takesLower below)
  match number.contains below exponent, number.contains (below + 1) exponent with
  | true, true => some (if belowIsNearer then below else below + 1)
  | true, false => some below
  | false, true => some (below + 1)
  | false, false => none

/-- How many digits the number has before the decimal point; not positive for
numbers below one. -/
def magnitude (number : Neighbourhood) : Int :=
  (Decimal.digits (number.numerator * Nat.pow 10 400 / number.denominator)).length - 400

/-- The first grid, from coarse to fine, on which a decimal reads back as the
number. -/
def shortestFrom (number : Neighbourhood) (rule : Halfway) : Nat → Int → Nat × Int
  | 0, exponent => (number.numerator / number.denominator, exponent)
  | attempts + 1, exponent =>
      match number.onGrid rule exponent with
      | some digits => (digits, exponent)
      | none => shortestFrom number rule attempts (exponent - 1)

end Neighbourhood

/-- The same decimal without trailing zeros among its digits. -/
def withoutTrailingZeros : Nat → Nat → Int → Nat × Int
  | 0, digits, exponent => (digits, exponent)
  | steps + 1, digits, exponent =>
      if digits % 10 = 0 then
        withoutTrailingZeros steps (digits / 10) (exponent + 1)
      else
        (digits, exponent)

/-- The shortest decimal `digits * 10 ^ exponent` that reads back as a positive
number. -/
def shortest (rule : Halfway) (mantissa : Nat) (exponent : Int) : Nat × Int :=
  let number := neighbourhood mantissa exponent
  let (digits, place) := number.shortestFrom rule 18 (number.magnitude - 1)
  withoutTrailingZeros 20 digits place

/-- How a format writes numbers with a fraction. -/
structure Style where
  /-- Numbers with more digits before the point are written with an exponent. -/
  mostWholeDigits : Option Int
  /-- Numbers with more zeros after the point are written with an exponent. -/
  mostLeadingZeros : Option Int
  halfway : Halfway
  notANumberText : List Char
  infiniteText : List Char

/-- Every digit is written out, however many there are, and a half goes up. -/
def Style.positional : Style :=
  ⟨none, none, .greater, ['N', 'a', 'N'], ['i', 'n', 'f']⟩

/-- Numbers that are very large or very small are written with an exponent, and
a half goes to the even digit. -/
def Style.scientific : Style :=
  ⟨some 16, some 4, .even, ['N', 'a', 'N'], ['i', 'n', 'f']⟩

/-- Whether a number with the given place of its point is written out. -/
def Style.writesOut (style : Style) (point : Int) : Bool :=
  style.mostWholeDigits.all (point ≤ ·) && style.mostLeadingZeros.all (-point ≤ ·)

/-- Digits with a point after the given number of them. -/
def pointed (digits : List Char) (point : Int) : List Char :=
  if point ≤ 0 then
    '0' :: '.' :: List.replicate (-point).toNat '0' ++ digits
  else if point < digits.length then
    digits.take point.toNat ++ '.' :: digits.drop point.toNat
  else
    digits ++ List.replicate (point.toNat - digits.length) '0' ++ ['.', '0']

def exponentText (exponent : Int) : List Char :=
  (if exponent < 0 then '-' else '+') :: Decimal.digits exponent.natAbs

/-- Digits with a point after the first of them and an exponent. -/
def withExponent (digits : List Char) (point : Int) : List Char :=
  let fraction := if digits.length ≤ 1 then [] else '.' :: digits.drop 1
  digits.take 1 ++ fraction ++ 'e' :: exponentText (point - 1)

/-- The text of a number without its sign. -/
def unsignedText (style : Style) (mantissa : Nat) (exponent : Int) : List Char :=
  if mantissa = 0 then
    ['0', '.', '0']
  else
    let (number, place) := shortest style.halfway mantissa exponent
    let digits := Decimal.digits number
    let point := digits.length + place
    if style.writesOut point then pointed digits point else withExponent digits point

/-- A minus sign in front of negative numbers. -/
def signed (negative : Bool) (magnitude : List Char) : List Char :=
  if negative then '-' :: magnitude else magnitude

def text (style : Style) : Binary64 → List Char
  | finite negative mantissa exponent =>
      signed negative (unsignedText style mantissa exponent)
  | infinite negative => signed negative style.infiniteText
  | notANumber => style.notANumberText

end Binary64

end BiometricSession
