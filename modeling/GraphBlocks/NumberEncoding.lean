import GraphBlocks.JsonNumber

/-! The number branch of `canonical_json_unchecked` and the `Decimal` branch of
`_canonical_dumps`. -/
namespace GraphBlocks.NumberEncoding

open DigitStrings JsonNumber

def isDecimalMark (c:Char) : Bool := c == '.' || c == 'e' || c == 'E'

def isExponentMark (c:Char) : Bool := c == 'e' || c == 'E'

/-- `original.contains(['.', 'e', 'E'])`. -/
def hasDecimalMark (original:List Char) : Bool := original.any isDecimalMark

/-- `str::split_once`. -/
def splitOnce (p:Char→Bool) : List Char→Option (List Char×List Char)
 | []=>none
 | c::cs=>if p c then some ([],cs) else (splitOnce p cs).map (fun s=>(c::s.1,s.2))

/-- The digit at the current position counted from the end, zero past the front. -/
def digitAt (reversed:List Char) : ℕ := (reversed.head?.map digitValue).getD 0

def addLoop : ℕ→List Char→List Char→ℕ→List Char
 | 0, _, _, carry=>if 0<carry then [Nat.digitChar carry] else []
 | n+1, left, right, carry=>
  let sum:=digitAt left+digitAt right+carry
  Nat.digitChar (sum % 10)::addLoop n left.tail right.tail (sum/10)

def addMagnitudes (left right:List Char) : List Char :=
 (addLoop (max left.length right.length) left.reverse right.reverse 0).reverse

def subtractLoop : ℕ→List Char→List Char→ℤ→List Char
 | 0, _, _, _=>[]
 | n+1, larger, smaller, borrow=>
  let digit:=(digitAt larger:ℤ)-borrow
  let smallerDigit:=(digitAt smaller:ℤ)
  if digit<smallerDigit then
   Nat.digitChar (digit+10-smallerDigit).toNat :: subtractLoop n larger.tail smaller.tail 1
  else Nat.digitChar (digit-smallerDigit).toNat::subtractLoop n larger.tail smaller.tail 0

def dropLeadingZeros : List Char→List Char
 | []=>[]
 | [c]=>[c]
 | c::d::cs=>if c = '0' then dropLeadingZeros (d::cs) else c::d::cs

def subtractMagnitudes (larger smaller:List Char) : List Char :=
 dropLeadingZeros (subtractLoop larger.length larger.reverse smaller.reverse 0).reverse

/-- The lexicographic order of texts. -/
def textLe : List Char→List Char→Bool
 | [], _=>true
 | _::_, []=>false
 | c::a, d::b=>if c<d then true else if d<c then false else textLe a b

def exponentIsLarger (exponentMagnitude deltaMagnitude:List Char) : Bool :=
 deltaMagnitude.length<exponentMagnitude.length ||
  (exponentMagnitude.length==deltaMagnitude.length&&textLe deltaMagnitude exponentMagnitude)

/-- The sign and the digits of the exponent of the leading significant digit. -/
def resultExponent (exponentNegative:Bool) (exponentMagnitude:List Char)
  (deltaNegative:Bool) (deltaMagnitude:List Char) : Bool×List Char :=
 if exponentMagnitude=['0'] then (deltaNegative,deltaMagnitude)
 else if deltaMagnitude=['0'] then (exponentNegative,exponentMagnitude)
 else if exponentNegative=deltaNegative then
  (exponentNegative,addMagnitudes exponentMagnitude deltaMagnitude)
 else if exponentIsLarger exponentMagnitude deltaMagnitude then
  (exponentNegative,subtractMagnitudes exponentMagnitude deltaMagnitude)
 else (deltaNegative,subtractMagnitudes deltaMagnitude exponentMagnitude)

def i32Max : ℕ := 2147483647

/-- `parse::<i32>().ok()` on a string of digits. -/
def parseI32 (magnitude:List Char) : Option ℤ :=
 if value magnitude ≤ i32Max then some (value magnitude) else none

def fixedText (coefficient:List Char) (exponent:ℤ) : List Char :=
 let decimalPoint:=exponent+1
 if decimalPoint≤0 then ['0','.']++List.replicate (-decimalPoint).toNat '0' ++ coefficient
 else
  let decimalPoint:=decimalPoint.toNat
  if coefficient.length≤decimalPoint then
   coefficient++List.replicate (decimalPoint-coefficient.length) '0' ++ ['.','0']
  else coefficient.take decimalPoint++['.']++coefficient.drop decimalPoint

/-- `while result_magnitude.len() < 2 { result_magnitude.insert(0, '0') }`, also `rjust(2, "0")`. -/
def padTwo (magnitude:List Char) : List Char := List.replicate (2-magnitude.length) '0' ++ magnitude

def scientificText (coefficient:List Char) (sign:Char) (magnitude:List Char) : List Char :=
 coefficient.take 1++(if 1<coefficient.length then '.' :: coefficient.drop 1 else []) ++
  'e' :: sign::magnitude

def adjustedExponent (resultNegative:Bool) (resultMagnitude:List Char) : Option ℤ :=
 (parseI32 resultMagnitude).map
  (fun value=>if resultNegative∧value≠0 then -value else value)

def writeNumber (negative:Bool) (coefficient:List Char) (resultNegative:Bool)
  (resultMagnitude:List Char) : List Char :=
 (if negative then ['-'] else []) ++match (adjustedExponent resultNegative resultMagnitude).filter
   (fun exponent => -4≤exponent∧exponent<16) with
  | some exponent=>fixedText coefficient exponent
  | none=>
   let magnitude:=padTwo resultMagnitude
   scientificText coefficient
    (if resultNegative∧magnitude≠['0','0'] then '-' else '+') magnitude

/-- The digits of the exponent without its sign and its leading zeros. -/
def exponentMagnitude (exponentText:List Char) : List Char :=
 let trimmed:=trimStartZeros (exponentText.dropWhile (fun c=>c == '+' || c == '-'))
 if trimmed=[] then ['0'] else trimmed

/-- The number branch of `canonical_json_unchecked`. -/
def canonicalNumber (original:List Char) : List Char :=
 if !hasDecimalMark original then original
 else
  let negative:=original.head?=some '-'
  let unsigned:=if negative then original.tail else original
  let parts:=(splitOnce isExponentMark unsigned).getD (unsigned,['0'])
  let mantissa:=parts.1
  let exponentText:=parts.2
  let fractionalDigits:=((splitOnce (· == '.') mantissa).map (fun s=>s.2.length)).getD 0
  let digits:=mantissa.filter (· != '.')
  let significant:=trimStartZeros digits
  if significant=[] then (if negative then ['-','0','.','0'] else ['0','.','0'])
  else
   let exponentNegative:=exponentText.head?=some '-'
   let exponentDelta : ℤ:=(significant.length:ℤ)-fractionalDigits-1
   let result:=resultExponent exponentNegative (exponentMagnitude exponentText)
    (exponentDelta<0) (Nat.toDigits 10 exponentDelta.natAbs)
   writeNumber negative (trimEndZeros significant) result.1 result.2

structure DecimalTuple where
 sign:Bool
 digits:List ℕ
 exponent:ℤ

inductive PythonError where
 | invalidOperation
 | integerTooLong

/-- `MAX_PREC` of `decimal` on a 64-bit platform. -/
def maxPrec : ℕ := 999999999999999999

/-- `MAX_EMAX`. -/
def maxEmax : ℤ := 999999999999999999

/-- `MIN_ETINY`. -/
def minEtiny : ℤ := -1999999999999999997

/-- The sign, the digits and the exponent of a token. -/
def decimalTuple (t : NumberToken) : DecimalTuple where
 sign:=t.negative
 digits:=(Nat.toDigits 10 (value t.digits)).map digitValue
 exponent:=t.exponentValue-t.fractionDigits.length

/-- `Decimal(token)`: exact, or `InvalidOperation` where the number is out of the range of
the largest context. -/
def decimal (t : NumberToken) : Except PythonError DecimalTuple :=
 let number := decimalTuple t
 let adjusted := number.exponent + number.digits.length - 1
 if maxPrec < t.fractionDigits.length ∨ maxPrec < number.digits.length ∨ maxEmax < adjusted ∨
   number.exponent < minEtiny then .error .invalidOperation
 else .ok number

/-- The setting `sys.get_int_max_str_digits()`: zero switches the limit off. -/
structure DigitLimit where
 digits:ℕ
 ok:digits=0∨640≤digits

/-- `str` of a nonnegative integer, a `ValueError` past the digit limit. -/
def strInt (limit:DigitLimit) (n:ℕ) : Except PythonError (List Char) :=
 if limit.digits≠0∧limit.digits<(Nat.toDigits 10 n).length then .error .integerTooLong
 else .ok (Nat.toDigits 10 n)

/-- The `Decimal` branch of `_canonical_dumps`. -/
def canonicalDecimal (limit:DigitLimit) (number:DecimalTuple) : Except PythonError (List Char) :=
 let digits:=number.digits.flatMap (Nat.toDigits 10)
 let significant:=trimStartZeros digits
 if significant=[] then .ok (if number.sign then ['-','0','.','0'] else ['0','.','0'])
 else
  let exponent:=number.exponent+significant.length-1
  let coefficient:=trimEndZeros significant
  let sign:=if number.sign then ['-'] else []
  if -4≤exponent∧exponent<16 then
   let decimalPoint:=exponent+1
   if decimalPoint≤0 then
    .ok (sign++['0','.']++List.replicate (-decimalPoint).toNat '0' ++ coefficient)
   else if (coefficient.length:ℤ)≤decimalPoint then
    .ok (sign++coefficient ++
     List.replicate (decimalPoint-coefficient.length).toNat '0' ++ ['.','0'])
   else .ok (sign++coefficient.take decimalPoint.toNat++['.'] ++coefficient.drop decimalPoint.toNat)
  else do
   let exponentMagnitude:=padTwo (←strInt limit exponent.natAbs)
   let head:=sign++coefficient.take 1
   let fraction:=if 1<coefficient.length then '.' :: coefficient.drop 1 else []
   return head++fraction ++('e' :: (if exponent<0 then '-' else '+')::exponentMagnitude)

end GraphBlocks.NumberEncoding
