import ContentFilter.Toml.Document
import ContentFilter.Toml.Token

namespace ContentFilter.Toml.Scalar

def digits? (isDigit : Char → Bool) (s : Text) : Option Text :=
  let groups := s.splitAll '_'
  if groups.all fun group => !group.isEmpty && group.all isDigit then some groups.flatten else none

def unsigned : Text → Bool × Text
  | '-' :: r => (true, r)
  | '+' :: r => (false, r)
  | s => (false, s)

def negate (negative : Bool) (n : Nat) : Int := if negative then -(n : Int) else n

def decimal? (s : Text) : Option Text :=
  (digits? isAsciiDigit s).filter fun digits => digits.length = 1 ∨ digits.head? ≠ some '0'

/-- The integers that a reader must be able to hold, whether it needs them or not. -/
def isHeld (n : Int) : Bool := -(Nat.pow 2 127) ≤ n && n < Nat.pow 2 128

def integer? (s : Text) : Option Int :=
  let inBase (base : Nat) (isDigit : Char → Bool) (s : Text) : Option Int :=
    (digits? isDigit s).map fun digits => (digits.toNatBase base : Int)
  let number : Option Int :=
    match s with
    | '0' :: 'x' :: r => inBase 16 isHexDigit r
    | '0' :: 'o' :: r => inBase 8 (fun c => '0' ≤ c && c ≤ '7') r
    | '0' :: 'b' :: r => inBase 2 (fun c => c == '0' || c == '1') r
    | _ =>
      let (negative, s) := unsigned s
      (decimal? s).map fun digits => negate negative (digits.toNatBase 10)
  number.filter isHeld

/-- The point from which numbers are rounded to infinity: half a unit in the last place above the
greatest finite number. -/
def infinityBound : Nat := Nat.pow 2 1024 - Nat.pow 2 970

/-- The number `digits` × 10 ^ `exponent` is not too large. A number whose order of magnitude alone
tells is not computed. -/
def isFinite (digits : Text) (exponent : Int) : Bool :=
  let significant := digits.dropWhile (· == '0')
  let magnitude := exponent + significant.length
  if significant.isEmpty || magnitude < 300 then true
  else if 400 < magnitude then false
  else if 0 ≤ exponent then Text.toNatBase 10 significant * Nat.pow 10 exponent.toNat < infinityBound
  else Text.toNatBase 10 significant < infinityBound * Nat.pow 10 (-exponent).toNat

def exponent? (s : Text) : Option Int :=
  let (negative, s) := unsigned s
  (digits? isAsciiDigit s).map fun digits => negate negative (digits.toNatBase 10)

def isDecimalFraction (s : Text) : Bool :=
  let (_, s) := unsigned s
  let (mantissa, exponent) := s.span fun c => c != 'e' && c != 'E'
  let exponentValue : Option Int :=
    match exponent with
    | [] => some 0
    | _ :: r => exponent? r
  match Text.splitOnce mantissa ['.'], exponentValue with
  | none, some e =>
    match decimal? mantissa with
    | some whole => !exponent.isEmpty && isFinite whole e
    | none => false
  | some (whole, fraction), some e =>
    match decimal? whole, digits? isAsciiDigit fraction with
    | some whole, some fraction => isFinite (whole ++ fraction) (e - fraction.length)
    | _, _ => false
  | _, none => false

def isFloat (s : Text) : Bool :=
  let (_, name) := unsigned s
  name == "inf".toList || name == "nan".toList || isDecimalFraction s

def value? (s : Text) : Option Value :=
  if s = "true".toList then some (.boolean true)
  else if s = "false".toList then some (.boolean false)
  else match integer? s with
    | some n => some (.integer n)
    | none =>
      if isFloat s then some (.float s)
      else if Moment.isMoment s then some (.moment s)
      else none

end ContentFilter.Toml.Scalar
