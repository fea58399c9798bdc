/-!
The standard normal density and its upper tail on floats. The tail goes through the error function,
by a rational approximation near zero and by two of its complement further out.
-/
namespace Restock.Normal

/-- A polynomial by its coefficients, the highest power first. -/
def polynomial (coefficients : List Float) (x : Float) : Float :=
  coefficients.foldl (fun acc c => acc * x + c) 0

/-- The error function between -1 and 1. -/
def erfNear (x : Float) : Float :=
  let z := x * x
  x * polynomial [9.60497373987051638749e0, 9.00260197203842689217e1, 2.23200534594684319226e3,
      7.00332514112805075473e3, 5.55923013010394962768e4] z
    / polynomial [1, 3.35617141647503099647e1, 5.21357949780152679795e2, 4.59432382970980127987e3,
      2.26290000613890934246e4, 4.92673942608635921086e4] z

/-- The exponent beyond which the exponential function is taken as zero. -/
def largestExponent : Float := 7.09782712893383996843e2

/-- The numerator of the complement between 1 and 8. -/
def midNumerator : List Float :=
  [2.46196981473530512524e-10, 5.64189564831068821977e-1, 7.46321056442269912687e0,
   4.86371970985681366614e1, 1.96520832956077098242e2, 5.26445194995477358631e2,
   9.34528527171957607540e2, 1.02755188689515710272e3, 5.57535335369399327526e2]

/-- The denominator of the complement between 1 and 8. -/
def midDenominator : List Float :=
  [1, 1.32281951154744992508e1, 8.67072140885989742329e1, 3.54937778887819891062e2,
   9.75708501743205489753e2, 1.82390916687909736289e3, 2.24633760818710981792e3,
   1.65666309194161350182e3, 5.57535340817727675546e2]

def farNumerator : List Float :=
  [5.64189583547755073984e-1, 1.27536670759978104416e0, 5.01905042251180477414e0,
   6.16021097993053585195e0, 7.40974269950448939160e0, 2.97886665372100240670e0]

def farDenominator : List Float :=
  [1, 2.26052863220117276590e0, 9.39603524938001434673e0, 1.20489539808096656605e1,
   1.70814450747565897222e1, 9.60896809063285878198e0, 3.36907645100081516050e0]

/-- The complement of the error function from 1 on. -/
def erfcFar (x : Float) : Float :=
  if x * x > largestExponent then 0
  else if x < 8 then
    Float.exp (-x * x) * polynomial midNumerator x / polynomial midDenominator x
  else Float.exp (-x * x) * polynomial farNumerator x / polynomial farDenominator x

/-- The probability of a value above `k`. -/
def tail (k : Float) : Float :=
  let x := k * 0.70710678118654752440
  let z := x.abs
  if z < 1 then 0.5 - 0.5 * erfNear x
  else if x > 0 then 0.5 * erfcFar z
  else if x < 0 then 1 - 0.5 * erfcFar z
  else x

def density (k : Float) : Float := Float.exp (-(k * k) / 2) / Float.sqrt 6.283185307179586

end Restock.Normal
