import FilePaths.Text.Basic

/-!
# What plain scalars stand for

A plain scalar is a text that may also be read as nothing at all, as a truth value or as a number.
Quotes are how a writer says that none of this is meant.
-/

namespace FilePaths
namespace Yaml
namespace Plain

/-- The text is one of the given words. -/
def isOneOf (words : List String) (text : Text) : Bool :=
  words.any fun word => word.toList == text

/-- The text stands for nothing. -/
def isNull (text : Text) : Bool :=
  isOneOf ["null", "Null", "NULL", "~"] text

/-- The text stands for a truth value. -/
def isTruth (text : Text) : Bool :=
  isOneOf ["true", "True", "TRUE", "false", "False", "FALSE"] text

/-- The text stood for a truth value in older versions of the format. -/
def wasTruth (text : Text) : Bool :=
  isOneOf
    ["y", "Y", "yes", "Yes", "YES", "n", "N", "no", "No", "NO", "on", "On", "ON", "off", "Off",
      "OFF"]
    text

/-- The text behind its sign, if it has one. -/
def dropSign : Text → Text
  | '+' :: text => text
  | '-' :: text => text
  | text => text

/-- The text consists of digits, behind a sign perhaps, and the first of several is a zero.  Such
a text looks like a number and is none. -/
def isZeroPadded (text : Text) : Bool :=
  match dropSign text with
  | '0' :: c :: rest => (c :: rest).all Char.isDigit
  | _ => false

/-- The number that a text without a sign stands for, if it is at most the given bound.  Other
bases than ten have a mark in front. -/
def natural? (bound : Nat) : Text → Option Nat
  | '0' :: 'x' :: digits => Text.number? 16 bound digits
  | '0' :: 'o' :: digits => Text.number? 8 bound digits
  | '0' :: 'b' :: digits => Text.number? 2 bound digits
  | text => if isZeroPadded text then none else Text.number? 10 bound text

/-- The number without a minus sign that a text stands for, if it is at most the given bound. -/
def unsigned? (bound : Nat) : Text → Option Nat
  | '+' :: text => natural? bound text
  | text => natural? bound text

/-- The text stands for a whole number of at most 128 bits. -/
def isWhole : Text → Bool
  | '-' :: text => (natural? (1 <<< 127) text).isSome
  | text => (unsigned? (1 <<< 128 - 1) text).isSome

/-- The least number that is too great to be rounded to a number of double precision. -/
def infinity : Nat :=
  1 <<< 1024 - 1 <<< 970

/-- A number with a decimal exponent can be rounded to one of double precision. -/
def isFinite (digits : Text) (exponent : Int) : Bool :=
  let significant := digits.dropWhile (· == '0')
  let magnitude : Int := significant.length + exponent
  if significant = [] ∨ magnitude < 309 then true
  else if 309 < magnitude then false
  else
    let value := (Text.numberFrom? 10 0 significant).getD 0
    if exponent < 0 then value < infinity * Nat.pow 10 exponent.natAbs
    else value * Nat.pow 10 exponent.natAbs < infinity

/-- The decimal exponent that a text behind a mantissa stands for; nothing stands for zero. -/
def exponent? : Text → Option Int
  | [] => some 0
  | mark :: text =>
      if mark == 'e' || mark == 'E' then
        let digits := dropSign text
        if digits = [] ∨ !digits.all Char.isDigit then none
        else
          let value : Int := (Text.numberFrom? 10 0 digits).getD 0
          some (if text.head? = some '-' then -value else value)
      else none

/-- The text without a sign stands for a decimal number in the range of double precision. -/
def isDecimal (text : Text) : Bool :=
  let whole := text.takeWhile Char.isDigit
  let rest := text.dropWhile Char.isDigit
  let afterPoint := if rest.head? = some '.' then rest.drop 1 else []
  let fraction := afterPoint.takeWhile Char.isDigit
  let tail :=
    if rest.head? = some '.' then afterPoint.dropWhile Char.isDigit else rest
  match exponent? tail with
  | none => false
  | some exponent =>
      !(whole ++ fraction).isEmpty && isFinite (whole ++ fraction) (exponent - fraction.length)

/-- The text stands for a number that need not be whole. -/
def isFraction (text : Text) : Bool :=
  isOneOf
    [".inf", ".Inf", ".INF", "+.inf", "+.Inf", "+.INF", "-.inf", "-.Inf", "-.INF", ".nan",
      ".NaN", ".NAN"]
    text ||
    isDecimal (dropSign text)

/-- The text stands for a number, or looks as if it did. -/
def isNumeric (text : Text) : Bool :=
  isWhole text || isFraction text || isZeroPadded text

/-- The text, written as a plain scalar, is likely to be read as something else than a text. -/
def isAmbiguous (text : Text) : Bool :=
  text.isEmpty || isNull text || isTruth text || wasTruth text || isNumeric text

end Plain
end Yaml
end FilePaths
