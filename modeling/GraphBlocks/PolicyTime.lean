import GraphBlocks.RustStd

/-! `parse_policy_datetime_millis` of the runtime core: an ASCII date and time with an optional
offset, in milliseconds from the Unix epoch. -/
namespace GraphBlocks.PolicyTime
open DigitStrings RustStd

def allDigits (cs:List Char) : Bool := !cs.isEmpty&&cs.all Char.isDigit

/-- `str::parse` to an unsigned integer: one leading plus sign is allowed. -/
def parseUnsigned : List Char→Option ℤ
 | '+' :: cs=>if allDigits cs then some (value cs) else none
 | cs=>if allDigits cs then some (value cs) else none

/-- `str::parse` to a signed integer. -/
def parseSigned : List Char→Option ℤ
 | '-' :: cs=>if allDigits cs then some (-(value cs:ℤ)) else none
 | cs=>parseUnsigned cs

/-- `&value[start..end]` of an ASCII text. -/
def slice (cs:List Char) (start stop:ℕ) : List Char := (cs.take stop).drop start

def isLeapYear (year:ℤ) : Bool := (year.tmod 4==0&&year.tmod 100 != 0)||year.tmod 400==0

def daysInMonth (year month:ℤ) : Option ℤ :=
 if month∈[1,3,5,7,8,10,12] then some 31
 else if month∈[4,6,9,11] then some 30
 else if month=2 then some (if isLeapYear year then 29 else 28)
 else none

def daysFromCivil (year month day:ℤ) : ℤ :=
 let year:=year-(if month≤2 then 1 else 0)
 let era:=(if 0≤year then year else year-399).tdiv 400
 let yoe:=year-era*400
 let doy:=(153*(month+if month > 2 then -3 else 9)+2).tdiv 5+day-1
 let doe:=yoe*365+yoe.tdiv 4-yoe.tdiv 100+doy
 era*146097+doe-719468

def parsePolicyDate (cs:List Char) : Option (ℤ×ℤ×ℤ) :=
 if cs.length≠10∨slice cs 4 5≠['-']∨slice cs 7 8≠['-'] then none
 else do
  let year ← parseSigned (slice cs 0 4)
  let month ← parseUnsigned (slice cs 5 7)
  let day ← parseUnsigned (slice cs 8 10)
  return (year,month,day)

def parseOffset (offset:List Char) : Option ℤ :=
 if offset.length≠6∨slice offset 3 4≠[':'] then none
 else do
  let hours ← parseSigned (slice offset 1 3)
  let minutes ← parseSigned (slice offset 4 6)
  if hours > 23∨minutes > 59 then none
  else
   let sign:=if offset.head?=some '+' then 1 else -1
   return sign*((hours*60+minutes)*60)

def isSign (c:Char) : Bool := c == '+' || c == '-'

def splitPolicyTimeOffset (cs:List Char) : Option (List Char×ℤ) :=
 if cs.getLast?=some 'Z' ∨ cs.getLast?=some 'z' then some (cs.dropLast,0)
 else if cs.any isSign then
  -- the last sign starts the offset
  let tail:=cs.reverse.takeWhile fun c => !isSign c
  let index:=cs.length-tail.length-1
  (parseOffset (cs.drop index)).map fun seconds=>(cs.take index,seconds)
 else some (cs,0)

def fractionMillis (fraction:List Char) : ℤ :=
 match fraction.take 3 with
 | [a,b,c]=>digitValue a*100+digitValue b*10+digitValue c
 | [a,b]=>digitValue a*100+digitValue b*10
 | [a]=>digitValue a*100
 | _=>0

def parsePolicyTime (cs:List Char) : Option (ℤ×ℤ×ℤ×ℤ) :=
 let base:=cs.takeWhile (· != '.')
 let fraction:=(cs.dropWhile (· != '.')).drop 1
 if base.length≠8∨slice base 2 3≠[':']∨slice base 5 6≠[':'] then none
 else if !fraction.all Char.isDigit then none
 else do
  let hour ← parseUnsigned (slice base 0 2)
  let minute ← parseUnsigned (slice base 3 5)
  let second ← parseUnsigned (slice base 6 8)
  return (hour,minute,second,fractionMillis fraction)

def isAscii (cs:List Char) : Bool := cs.all fun c=>c.toNat<128

def parsePolicyDatetimeMillis (value:String) : Option ℤ :=
 let cs:=trimChars value.toList
 if cs.isEmpty || !isAscii cs then none
 else if !cs.contains 'T' && !cs.contains 't' then none
 else do
  let mark:=if cs.contains 'T' then 'T' else 't'
  let (year,month,day) ← parsePolicyDate (cs.takeWhile (· != mark))
  let (time,offsetSeconds) ← splitPolicyTimeOffset ((cs.dropWhile (· != mark)).drop 1)
  let (hour,minute,second,millis) ← parsePolicyTime time
  if month=0∨month > 12∨day=0 then none
  else
   let last ← daysInMonth year month
   if day > last∨hour > 23∨minute > 59∨second > 59 then none
   else
    return (((daysFromCivil year month day*24+hour)*60+minute)*60+second-offsetSeconds)*1000+millis

example : parsePolicyDatetimeMillis "2026-03-01T00:00:00.25+01:00" = some 1772319600250 := by
 decide +kernel

end GraphBlocks.PolicyTime
