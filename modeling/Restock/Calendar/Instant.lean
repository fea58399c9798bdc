import Restock.Calendar.Civil
import Restock.Decimal.Shortest

/-!
Days and instants, and how they are written. An instant keeps the local day, the time of day and the
distance of its zone from universal time.
-/
namespace Restock

/-- A moment as a clock shows it. -/
structure Instant where
  day : Day
  hour : Nat
  minute : Nat
  second : Nat
  microsecond : Nat
  /-- Minutes ahead of universal time. -/
  offset : Int
deriving DecidableEq

/-- A day as `YYYY-MM-DD`. -/
def Day.text (d : Day) : String :=
  let c := d.civil
  Decimal.padded 4 c.year ++ "-" ++ Decimal.padded 2 c.month ++ "-" ++ Decimal.padded 2 c.day

/-- The distance of a zone as `±HH:MM`. -/
def offsetText (minutes : Int) : String :=
  let n := minutes.natAbs
  let sign := if minutes < 0 then "-" else "+"
  sign ++ Decimal.padded 2 (n / 60) ++ ":" ++ Decimal.padded 2 (n % 60)

/-- An instant as `YYYY-MM-DDTHH:MM:SS±HH:MM`, with six digits of the second when they are not
zero. -/
def Instant.text (t : Instant) : String :=
  t.day.text ++ "T" ++ Decimal.padded 2 t.hour ++ ":" ++ Decimal.padded 2 t.minute ++ ":"
    ++ Decimal.padded 2 t.second
    ++ (if t.microsecond = 0 then "" else "." ++ Decimal.padded 6 t.microsecond)
    ++ offsetText t.offset

/-- A natural number of a fixed count of ASCII digits, and what follows it. -/
def readDigits? (count : Nat) (cs : List Char) : Option (Nat × List Char) :=
  let ds := cs.take count
  if ds.length = count ∧ ds.all Char.isDigit then
    some (ds.foldl (fun n c => 10 * n + (c.toNat - '0'.toNat)) 0, cs.drop count)
  else none

/-- What follows a given character. -/
def readMark? (mark : Char) : List Char → Option (List Char)
  | c :: cs => if c = mark then some cs else none
  | [] => none

/-- Reads `YYYY-MM-DD` and returns what follows. -/
def Day.read? (cs : List Char) : Option (Day × List Char) := do
  let (y, cs) ← readDigits? 4 cs
  let (m, cs) ← readDigits? 2 (← readMark? '-' cs)
  let (d, cs) ← readDigits? 2 (← readMark? '-' cs)
  let day ← Day.ofCivil? ⟨y, m, d⟩
  some (day, cs)

/-- Reads the fraction of a second, in up to six digits. -/
def readFraction? : List Char → Option (Nat × List Char)
  | '.' :: cs =>
    let ds := (cs.take 6).takeWhile Char.isDigit
    if ds.isEmpty then none
    else (readDigits? ds.length cs).map fun (n, rest) => (n * tenTo (6 - ds.length), rest)
  | cs => some (0, cs)

/-- Reads the distance of a zone; nothing stands for universal time. -/
def readOffset? : List Char → Option Int
  | [] => some 0
  | c :: cs => do
    let (h, cs) ← readDigits? 2 cs
    let (m, cs) ← readDigits? 2 (← readMark? ':' cs)
    let minutes : Int := (60 * h + m : Nat)
    if cs.isEmpty ∧ h < 24 ∧ m < 60 then
      if c = '+' then some minutes else if c = '-' then some (-minutes) else none
    else none

def Instant.ofText? (s : String) : Option Instant := do
  let (day, cs) ← Day.read? s.toList
  let (h, cs) ← readDigits? 2 (← readMark? 'T' cs)
  let (m, cs) ← readDigits? 2 (← readMark? ':' cs)
  let (sec, cs) ← readDigits? 2 (← readMark? ':' cs)
  let (micro, cs) ← readFraction? cs
  let offset ← readOffset? cs
  if h < 24 ∧ m < 60 ∧ sec < 60 then some ⟨day, h, m, sec, micro, offset⟩ else none

/-- Reads a day, or the day of an instant. -/
def Day.ofText? (s : String) : Option Day :=
  match Day.read? s.toList with
  | some (day, []) => some day
  | _ => (Instant.ofText? s).map Instant.day

end Restock
