import Restock.Text.Character

/-!
Reading numbers from text.

`Numeral.read?` knows the plain form: a sign, digits with an optional point, an optional exponent,
or one of the words `inf`, `infinity` and `nan` in any case. Settings and parameters admit a little
more around it, each in its own way.
-/
namespace Restock

/-- A number as it is written. -/
inductive Numeral where
  | nan
  | infinite (negative : Bool)
  /-- The number `digits · 10 ^ exponent`, negated when `negative` holds. -/
  | decimal (negative : Bool) (digits : Nat) (exponent : Int)
deriving DecidableEq, Repr

namespace Numeral
open Text

/-- The number that a run of ASCII digits denotes. -/
def digitsValue (ds : List Char) : Nat :=
  ds.foldl (fun n c => 10 * n + (c.toNat - '0'.toNat)) 0

/-- Splits off a sign; true means minus. -/
def splitSign : List Char → Bool × List Char
  | '-' :: cs => (true, cs)
  | '+' :: cs => (false, cs)
  | cs => (false, cs)

/-- The exponent at the end of a numeral: nothing, or the letter, a sign and at least one digit. -/
def readExponent? : List Char → Option Int
  | [] => some 0
  | c :: cs =>
    let (negative, ds) := splitSign cs
    if (c == 'e' || c == 'E') && !ds.isEmpty && ds.all Char.isDigit then
      let n : Int := digitsValue ds
      some (if negative then -n else n)
    else none

/-- An unsigned decimal number with at least one digit before its exponent. -/
def readUnsigned? (negative : Bool) (cs : List Char) : Option Numeral :=
  let whole := cs.takeWhile Char.isDigit
  let rest := cs.dropWhile Char.isDigit
  let (fraction, tail) := match rest with
    | '.' :: after => (after.takeWhile Char.isDigit, after.dropWhile Char.isDigit)
    | _ => ([], rest)
  if whole.isEmpty && fraction.isEmpty then none
  else (readExponent? tail).map fun e =>
    .decimal negative (digitsValue (whole ++ fraction)) (e - fraction.length)

/-- Reads the plain form. -/
def read? (cs : List Char) : Option Numeral :=
  let (negative, body) := splitSign cs
  let word := String.ofList (body.map Char.toLower)
  if word = "inf" ∨ word = "infinity" then some (.infinite negative)
  else if word = "nan" then some .nan
  else readUnsigned? negative body

/-- Whether every underscore stands between two digits; `previous` tells whether a digit came
before. -/
def underscoresJoin (previous : Bool) : List Char → Bool
  | [] => true
  | '_' :: cs => previous && (match cs with | d :: _ => d.isDigit | [] => false)
      && underscoresJoin false cs
  | c :: cs => underscoresJoin c.isDigit cs

/-- A text without its underscores. -/
def dropUnderscores (cs : List Char) : List Char := cs.filter (· != '_')

/-- Reads the text of a setting: blanks around it are dropped, digits of every script count, and
single underscores may join digits. -/
def ofSetting? (s : String) : Option Numeral :=
  let cs := (trim s.toList).map toAsciiDigit
  if underscoresJoin false cs then read? (dropUnderscores cs) else none

/-- Whether a text holds underscores, none of them at an end or beside another. -/
def underscoresInside (cs : List Char) : Bool :=
  cs.contains '_' && cs.head? != some '_' && cs.getLast? != some '_'
    && !(cs.zip (cs.drop 1)).contains ('_', '_')

/-- Reads the text of a parameter: either blanks may stand around it, or single underscores anywhere
inside it. -/
def ofParameter? (s : String) : Option Numeral :=
  let cs := s.toList
  match read? (trim cs) with
  | some n => some n
  | none => if underscoresInside cs then read? (dropUnderscores cs) else none

/-- The most digits an integer may be written with. -/
def mostIntegerDigits : Nat := 4300

/-- Reads the integer of a setting, with the same liberties as `ofSetting?`. -/
def integerOfSetting? (s : String) : Option Int :=
  let (negative, cs) := splitSign ((trim s.toList).map toAsciiDigit)
  let ds := dropUnderscores cs
  if !ds.isEmpty && ds.all Char.isDigit && underscoresJoin false cs
      && ds.length ≤ mostIntegerDigits then
    let n : Int := digitsValue ds
    some (if negative then -n else n)
  else none

end Numeral
end Restock
