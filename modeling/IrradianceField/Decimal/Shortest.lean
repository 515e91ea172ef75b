import IrradianceField.Decimal.Binary

/-!
Shortest decimals: the fewest digits that read back as a given binary value and, of those, the
nearest to it.
-/

namespace IrradianceField.Decimal

structure Scaled where
  digits : Nat
  exponent : Nat
  deriving DecidableEq, Repr

/-- Whether the decimal `candidate * 10 ^ (grid - bias)` reads back as `v`. All sides are
multiplied by `2 ^ 151 * 10 ^ bias`, so that quarters of the gap between values are whole. -/
def readsBack (v : Finite) (grid candidate : Nat) : Bool :=
  let gap := twoTo v.exponent * tenTo bias
  let value := 4 * v.units * tenTo bias
  let lo := value - (if v.isLowest then gap else 2 * gap)
  let hi := value + 2 * gap
  let point := candidate * tenTo grid * twoTo 151
  if v.mantissa % 2 = 0 then lo ≤ point && point ≤ hi else lo < point && point < hi

/-- The point of a decimal grid that is nearest to `v` among its two neighbours that read back. -/
def nearestOnGrid? (v : Finite) (grid : Nat) : Option Nat :=
  let step := tenTo grid * twoTo 149
  let below := v.units * tenTo bias / step
  let rest := v.units * tenTo bias % step
  let (first, second) := if 2 * rest ≤ step then (below, below + 1) else (below + 1, below)
  if readsBack v grid first then some first
  else if readsBack v grid second then some second
  else none

/-- Tries grids from coarse to fine; nine digits always suffice. -/
def searchGrid (v : Finite) (top : Nat) : Nat → Scaled
  | 0 => ⟨v.units * tenTo bias / (tenTo (top - 9) * twoTo 149), top - 9⟩
  | n + 1 =>
    let grid := top - (8 - n)
    match nearestOnGrid? v grid with
    | some digits => ⟨digits, grid⟩
    | none => searchGrid v top n

/-- Drops the zeros at the end of a positive number of at most `n` digits. -/
def dropZeros : Nat → Scaled → Scaled
  | 0, s => s
  | n + 1, s =>
    if s.digits % 10 = 0 && s.digits ≠ 0 then dropZeros n ⟨s.digits / 10, s.exponent + 1⟩ else s

def shortest (v : Finite) : Scaled :=
  dropZeros 10 (searchGrid v (decimalExponent v.units) 9)

/-- How a number is spelled: how many digits the fraction has at least, and the decimal exponents
(plus `bias`) from which and up to which the notation is positional. -/
structure Style where
  fractionDigits : Nat
  positionalFrom : Nat
  positionalBelow : Nat
  deriving DecidableEq, Repr

/-- Numbers inside of messages never have an exponent nor a needless point. -/
def Style.plain : Style := ⟨0, 0, 2 * bias⟩

/-- Numbers spelled as literals always have a point or an exponent. -/
def Style.literal : Style := ⟨1, bias - 4, bias + 16⟩

def zeros (n : Nat) : String := String.ofList (List.replicate n '0')

def pointed (digits : String) (places : Nat) : String :=
  let padded := zeros (places + 1 - digits.length) ++ digits
  let whole := padded.length - places
  String.ofList (padded.toList.take whole) ++ "." ++ String.ofList (padded.toList.drop whole)

def renderPositional (style : Style) (s : Scaled) : String :=
  let digits := toString s.digits
  if s.exponent < bias then
    let places := bias - s.exponent
    pointed (digits ++ zeros (style.fractionDigits - places)) (max places style.fractionDigits)
  else
    let whole := digits ++ zeros (s.exponent - bias)
    if style.fractionDigits = 0 then whole else whole ++ "." ++ zeros style.fractionDigits

def renderExponential (s : Scaled) : String :=
  let digits := toString s.digits
  let mantissa := if digits.length = 1 then digits else pointed digits (digits.length - 1)
  mantissa ++ "e" ++ toString ((s.exponent + digits.length - 1 : Nat) - (bias : Int))

def renderFinite (style : Style) (v : Finite) : String :=
  if v.mantissa = 0 then renderPositional style ⟨0, bias⟩
  else
    let s := shortest v
    let leading := s.exponent + (toString s.digits).length - 1
    if style.positionalFrom ≤ leading && leading < style.positionalBelow then
      renderPositional style s
    else renderExponential s

def render (style : Style) (word : Nat) : String :=
  let sign := if isNegative word then "-" else ""
  match magnitude word with
  | .undefined => "NaN"
  | .infinite => sign ++ "inf"
  | .finite v => sign ++ renderFinite style v

end IrradianceField.Decimal
