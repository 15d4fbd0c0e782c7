/-!
# Numbers in text

Two directions.  A count is read from digits with an optional plus sign, below
a bound that depends on where it is read, and a refusal says why.  A
measurement, held as a binary fraction, is written with a fixed number of
places or with the fewest digits that identify it; both are decided on the
exact value.
-/

namespace FrameChat.Text.Decimal

/-- Why a text is no count below the bound. -/
inductive Refusal where
  | empty
  | invalidDigit
  | tooLarge
  | tooSmall
  deriving Repr, DecidableEq

/-- How a refusal is worded. -/
def Refusal.message : Refusal → String
  | .empty => "cannot parse integer from empty string"
  | .invalidDigit => "invalid digit found in string"
  | .tooLarge => "number too large to fit in target type"
  | .tooSmall => "number too small to fit in target type"

/-- The value of a digit in `base`, letters of either case standing for ten and more. -/
def digit? (base : Nat) (char : Char) : Option Nat :=
  let value :=
    if '0' ≤ char ∧ char ≤ '9' then char.toNat - '0'.toNat
    else if 'a' ≤ char ∧ char ≤ 'z' then char.toNat - 'a'.toNat + 10
    else if 'A' ≤ char ∧ char ≤ 'Z' then char.toNat - 'A'.toNat + 10
    else base
  if value < base then some value else none

/-- Continue reading digits after `read`; the first thing wrong is reported. -/
def readDigits (base bound : Nat) (read : Nat) : List Char → Except Refusal Nat
  | [] => .ok read
  | char :: rest =>
      match digit? base char with
      | none => .error .invalidDigit
      | some digit =>
          if read * base + digit < bound then readDigits base bound (read * base + digit) rest
          else .error .tooLarge

/-- Read a count below `bound`, written in `base` with an optional plus sign. -/
def readCount (base bound : Nat) (text : String) : Except Refusal Nat :=
  match text.toList with
  | [] => .error .empty
  | ['+'] => .error .invalidDigit
  | '+' :: digits => readDigits base bound 0 digits
  | digits => readDigits base bound 0 digits

/-- Read a decimal integer from `-bound` on, below `bound`. -/
def readInteger (bound : Nat) (text : String) : Except Refusal Int :=
  match text.toList with
  | '-' :: digits@(_ :: _) =>
      match readDigits 10 (bound + 1) 0 digits with
      | .ok magnitude => .ok (-magnitude)
      | .error .tooLarge => .error .tooSmall
      | .error refusal => .error refusal
  | _ => (readCount 10 bound text).map Int.ofNat

/-- What is read lies below the bound. -/
theorem readDigits_lt {base bound read : Nat} {chars : List Char} {value : Nat}
    (below : read < bound) (result : readDigits base bound read chars = .ok value) :
    value < bound := by
  induction chars generalizing read with
  | nil =>
      simp only [readDigits, Except.ok.injEq] at result
      omega
  | cons char rest ih =>
      simp only [readDigits] at result
      split at result
      · simp at result
      · split at result
        · exact ih (by assumption) result
        · simp at result

/--
A non-negative measurement as a fraction: `mantissa * 2 ^ exponent`, with the
sign and the non-finite values left aside.
-/
structure Dyadic where
  mantissa : Nat
  exponent : Int
  deriving Repr, DecidableEq

/-- The leading digit of a mantissa that is not cut short by the least exponent. -/
def Dyadic.leading : Nat := 1 <<< 52

/-- The magnitude of a finite measurement. -/
def Dyadic.ofFloat (value : Float) : Dyadic :=
  let bits := value.toBits.toNat
  let exponentBits : Nat := bits / leading % 2048
  let fraction : Nat := bits % leading
  if exponentBits = 0 then ⟨fraction, -1074⟩
  else ⟨leading + fraction, (exponentBits : Int) - 1075⟩

/-- Numerator and denominator of a measurement. -/
def Dyadic.ratio (value : Dyadic) : Nat × Nat :=
  if 0 ≤ value.exponent then (value.mantissa <<< value.exponent.toNat, 1)
  else (value.mantissa, 1 <<< (-value.exponent).toNat)

/-- The integer nearest to `numerator / denominator`; a tie goes to the even one. -/
def roundHalfEven (numerator denominator : Nat) : Nat :=
  let quotient := numerator / denominator
  let twice := 2 * (numerator % denominator)
  if twice < denominator then quotient
  else if denominator < twice then quotient + 1
  else if quotient % 2 = 0 then quotient
  else quotient + 1

/-- Write a number of units of `10 ^ -places` with a point before its last `places` digits. -/
def placed (number places : Nat) : String :=
  let whole := toString (number / Nat.pow 10 places)
  let fraction := toString (number % Nat.pow 10 places)
  whole ++ "." ++ String.ofList (List.replicate (places - fraction.length) '0') ++ fraction

/-- A finite non-negative measurement with `places` (at least one) decimal places. -/
def fixed (places : Nat) (value : Float) : String :=
  let (numerator, denominator) := (Dyadic.ofFloat value).ratio
  placed (roundHalfEven (numerator * Nat.pow 10 places) denominator) places

/--
Half the distance from a measurement to its two neighbours, below and above,
as multiples of a quarter of its last place.
-/
def Dyadic.halfGaps (value : Dyadic) : Nat × Nat :=
  if value.mantissa = leading ∧ -1074 < value.exponent then (1, 2) else (2, 2)

/--
The digits and the power of ten of the shortest decimal that reads back as the
measurement: grids of powers of ten are tried from coarse to fine, and on each
the two points next to the value.  Of two that fit the nearer is taken, and the
upper one if the value lies halfway.
-/
def shortestOn (value : Dyadic) : (fuel : Nat) → (power : Int) → Nat × Int
  | 0, power => (0, power)
  | fuel + 1, power =>
      let (low, high) := value.halfGaps
      -- everything is scaled by `scale`, so that quarters and powers of ten are whole
      let quarter : Nat := 1 <<< (value.exponent - 2 + 1076).toNat
      let unit : Nat := 1 <<< 1076
      let center := 4 * value.mantissa * quarter
      let lowest := center - low * quarter
      let highest := center + high * quarter
      let inclusive := value.mantissa % 2 = 0
      let (grid, scale) :=
        if 0 ≤ power then (unit * Nat.pow 10 power.toNat, 1) else (unit, Nat.pow 10 (-power).toNat)
      let below := center * scale / grid
      let fits (point : Nat) : Bool :=
        let place := point * grid
        if inclusive then lowest * scale ≤ place && place ≤ highest * scale
        else lowest * scale < place && place < highest * scale
      let downGap := center * scale - below * grid
      let upGap := (below + 1) * grid - center * scale
      match fits below && below ≠ 0, fits (below + 1) with
      | true, true => if downGap < upGap then (below, power) else (below + 1, power)
      | true, false => (below, power)
      | false, true => (below + 1, power)
      | false, false => shortestOn value fuel (power - 1)

/-- Write `digits * 10 ^ power` without an exponent. -/
def positional (digits : Nat) (power : Int) : String :=
  if 0 ≤ power then toString (digits * Nat.pow 10 power.toNat)
  else
    let places := (-power).toNat
    placed digits places

/-- A finite measurement with the fewest digits that identify it, without an exponent. -/
def shortest (value : Float) : String :=
  let negative := UInt64.size / 2 ≤ value.toBits.toNat
  let magnitude := Dyadic.ofFloat value
  let body :=
    if magnitude.mantissa = 0 then "0"
    else
      let (digits, power) := shortestOn magnitude 660 309
      positional digits power
  if negative then "-" ++ body else body

end FrameChat.Text.Decimal
