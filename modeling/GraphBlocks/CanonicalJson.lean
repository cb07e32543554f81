import GraphBlocks.JsonText
import GraphBlocks.NumberEncoding
import GraphBlocks.RustStd

/-! `validate_canonical_json`, `canonical_json` and `parse_canonical_json` of the schema crate. -/
namespace GraphBlocks.CanonicalJson

open Json DigitStrings NumberEncoding

def maxCanonicalJsonDepth : ℕ := 64

def maxCanonicalIntegerDigits : ℕ := 10000

inductive CanonicalJsonError where
 | nestingTooDeep (maxDepth:ℕ)
 | integerTooLarge (maxDigits:ℕ)
deriving DecidableEq

inductive PathSegment where
 | property (key:String)
 | index (i:ℕ)

abbrev Pending := Value×List PathSegment×ℕ

def pendingItems (path:List PathSegment) (depth:ℕ) : ℕ→List Value→List Pending
 | _, []=>[]
 | index, v::values=>(v,path++[.index index],depth+1)::pendingItems path depth (index+1) values

def pendingMembers (path:List PathSegment) (depth:ℕ) (values:Members) : List Pending :=
 values.map (fun e=>(e.2,path++[.property e.1],depth+1))

/-- What one value pushes, in the order of the pushes. -/
def pendingChildren (value:Value) (path:List PathSegment) (depth:ℕ) : List Pending :=
 match value with
 | .array values=>pendingItems path depth 0 values
 | .object values=>pendingMembers path depth (values.insertionSort (fun a b=>b.1≤a.1))
 | .null | .bool _ | .number _ | .string _=>[]

/-- The loop of `excessive_json_nesting_path`; the head of the list is the top of the stack. -/
def nestingLoop (maxDepth:ℕ) : ℕ→List Pending→Option (List PathSegment)
 | 0, _=>none
 | _+1, []=>none
 | fuel+1, (value,path,depth)::pending=>
  if maxDepth<depth then some path
  else nestingLoop maxDepth fuel ((pendingChildren value path depth).reverse++pending)

def excessiveJsonNestingPath (value:Value) (initialDepth maxDepth:ℕ) : Option (List PathSegment) :=
 nestingLoop maxDepth (weight value) [(value,[],initialDepth)]

def validateJsonDepthFrom (value:Value) (initialDepth:ℕ) : Except CanonicalJsonError Unit :=
 if (excessiveJsonNestingPath value initialDepth maxCanonicalJsonDepth).isSome then
  .error (.nestingTooDeep maxCanonicalJsonDepth)
 else .ok ()

def validateCanonicalJsonDepth (value:Value) : Except CanonicalJsonError Unit :=
 validateJsonDepthFrom value 0

/-- `token.strip_prefix('-').unwrap_or(token)`. -/
def unsignedToken (token:List Char) : List Char :=
 if token.head?=some '-' then token.tail else token

def integerTooLong (token:List Char) : Bool :=
 !hasDecimalMark token&&decide (maxCanonicalIntegerDigits<(unsignedToken token).length)

/-- The loop of `validate_canonical_json` over the number tokens. -/
def integerLoop : ℕ→List Value→Except CanonicalJsonError Unit
 | 0, _=>.ok ()
 | _+1, []=>.ok ()
 | fuel+1, value::pending=>
  match value with
  | .array values=>integerLoop fuel (values.reverse++pending)
  | .object values=>integerLoop fuel ((values.map Prod.snd).reverse++pending)
  | .number token=>
   if integerTooLong token then .error (.integerTooLarge maxCanonicalIntegerDigits)
   else integerLoop fuel pending
  | .null | .bool _ | .string _=>integerLoop fuel pending

def validateCanonicalJson (value:Value) : Except CanonicalJsonError Unit := do
 validateCanonicalJsonDepth value
 integerLoop (weight value) [value]

section
variable (d:StringDisplay)

def joinEntries : List (List Char)→List Char
 | []=>[]
 | [entry]=>entry
 | entry::next::entries=>entry ++ ',' :: joinEntries (next::entries)

mutual

def canonicalJsonUnchecked : Value→List Char
 | .null=>['n','u','l','l']
 | .bool b=>if b then ['t','r','u','e'] else ['f','a','l','s','e']
 | .number token=>canonicalNumber token
 | .string s=>d.display s
 | .array values => '[' :: (joinEntries (encodedItems values)++[']'])
 | .object values=>
  let entries:=(encodedMembers values).insertionSort (fun a b=>a.1≤b.1)
  '{' :: (joinEntries (entries.map (fun e=>d.display e.1 ++ ':' :: e.2))++['}'])

def encodedItems : List Value→List (List Char)
 | []=>[]
 | v::values=>canonicalJsonUnchecked v::encodedItems values

def encodedMembers : Members→List (String×List Char)
 | []=>[]
 | (k,v)::values=>(k,canonicalJsonUnchecked v)::encodedMembers values
end

def tryCanonicalJson (value:Value) : Except CanonicalJsonError (List Char) := do
 validateCanonicalJson value
 return canonicalJsonUnchecked d value

def canonicalJson (value:Value) : Except CanonicalJsonError (List Char) := tryCanonicalJson d value
end

inductive CanonicalJsonParseError where
 | invalidJson (message:String)
 | duplicateObjectKey (key:String)
 | canonicalJson (error:CanonicalJsonError)
deriving DecidableEq

/-- The rest of the text behind the closing quote. -/
def skipString : List Char→List Char
 | []=>[]
 | [_]=>[]
 | c::e::cs=>
  if c = '\\' then skipString cs
  else if c = '"' then e::cs
  else skipString (e::cs)

def beforeNumber (previous:Option Char) : Bool :=
 match previous with
 | none=>true
 | some c=>c == ' ' || c == '\t' || c == '\r' || c == '\n' || c == '[' || c == '{' || c == ',' ||
  c == ':'

/-- The first loop of `parse_canonical_json`: no integer token of the text is too long.
`fuel` bounds the number of rounds and `previous` is the character before the text. -/
def integersWithin : ℕ→Option Char→List Char→Bool
 | 0, _, _=>true
 | _+1, _, []=>true
 | fuel+1, previous, c::cs=>
  if c = '"' then integersWithin fuel (some '"') (skipString cs)
  else if !((c.isDigit||c == '-')&&beforeNumber previous) then integersWithin fuel (some c) cs
  else
   let unsigned:=if c = '-' then cs else c::cs
   let digits:=unsigned.takeWhile Char.isDigit
   let rest:=unsigned.dropWhile Char.isDigit
   if digits≠[]∧(rest.head?.any isDecimalMark)=false ∧
     maxCanonicalIntegerDigits<digits.length then false
   else integersWithin fuel (([c]++digits++rest.takeWhile isNumberChar).getLast?)
    (rest.dropWhile isNumberChar)

/-- How `serde_json` fails to read a text: its message, and the repeated key that
the duplicate detector has recorded by then. -/
structure ReadFailure where
 message:String
 duplicateKey:Option String

/-- `serde_json`'s reader: the document as written, with repeated members and verbatim
number tokens. It reads back every compact text within its nesting limit; objects with
its private number key, which it reads as numbers, are outside this law. -/
structure JsonReader (d:StringDisplay) where
 read:List Char→Except ReadFailure Value
 tokens:∀text v,read text=.ok v→AllNumbers IsNumberToken v
 complete:∀v,AllNumbers IsNumberToken v→height v≤ maxCanonicalJsonDepth → read (compact d v)=.ok v

mutual

/-- The key that `DuplicateKeyVisitor` meets twice first. -/
def duplicateKey : Value→Option String
 | .array items=>duplicateKeyItems items
 | .object members=>duplicateKeyMembers [] members
 | .null | .bool _ | .number _ | .string _=>none

def duplicateKeyItems : List Value→Option String
 | []=>none
 | v::items=>(duplicateKey v).or (duplicateKeyItems items)

def duplicateKeyMembers : List String→Members→Option String
 | _, []=>none
 | seen, (k,v)::members=>
  if k∈seen then some k else (duplicateKey v).or (duplicateKeyMembers (k::seen) members)
end

def i64Magnitude : ℕ := 2^63

/-- `parse::<i64>()` of a negative integer token and its print, if it is in range. -/
def signedInteger (digits:List Char) : List Char :=
 if value digits ≤ i64Magnitude then
  (if value digits=0 then ['0'] else '-' :: Nat.toDigits 10 (value digits))
 else '-' :: digits

/-- `parse::<u64>()` of an unsigned integer token and its print, if it is in range. -/
def unsignedInteger (digits:List Char) : List Char :=
 if value digits<RustStd.u64Limit then Nat.toDigits 10 (value digits) else digits

/-- The token that a `Number` keeps: integers in the range of `u64` or `i64` are
read and printed again, every other token is kept. -/
def serdeNumber (token:List Char) : List Char :=
 if hasDecimalMark token then token
 else if token.head?=some '-' then signedInteger token.tail
 else unsignedInteger token

/-- The `Value` that `serde_json` builds from a document without repeated keys. -/
def serdeValue (document:Value) : Value := rewriteNumbers serdeNumber id document

def parseCanonicalJson {d:StringDisplay} (reader:JsonReader d) (text:List Char) :
  Except CanonicalJsonParseError Value :=
 if integersWithin text.length none text=false then
  .error (.canonicalJson (.integerTooLarge maxCanonicalIntegerDigits))
 else
  match reader.read text with
  | .error failure=>
   .error (failure.duplicateKey.elim (.invalidJson failure.message) .duplicateObjectKey)
  | .ok document=>
   match duplicateKey document with
   | some key=>.error (.duplicateObjectKey key)
   | none=>
    match validateCanonicalJson (serdeValue document) with
    | .error error=>.error (.canonicalJson error)
    | .ok ()=>.ok (serdeValue document)

end GraphBlocks.CanonicalJson
