import GraphBlocks.CanonicalJson
import GraphBlocks.UsageAmounts

namespace GraphBlocks.StoredJson
open Std Json DigitStrings JsonNumber CanonicalJson OrderedMap Usage RustStd List Option
open Std.ExtTreeMap

abbrev StringMap (α:Type) := ExtTreeMap String α

/-- How a ledger reports what it cannot read. -/
structure StorageErrors (ε:Type) where
 json:String→ε
 malformed:String→ε
 member:(what key:String)→ε

/-- `Number::from` on an integer. -/
def intToken (n:ℤ) : List Char := (if n<0 then ['-'] else [])++Nat.toDigits 10 n.natAbs

def parseDigits (cs:List Char) : Option ℕ :=
 if cs≠[]∧cs.all Char.isDigit then some (value cs) else none

/-- `str::parse::<i64>`. -/
def parseI64 (token:List Char) : Option ℤ :=
 match token with
 | '-' :: cs=>(parseDigits cs).bind fun n=>checkedI64 (-n)
 | '+' :: cs=>(parseDigits cs).bind fun n=>checkedI64 n
 | cs=>(parseDigits cs).bind fun n=>checkedI64 n

/-- `str::parse::<u64>`. -/
def parseU64 (token:List Char) : Option ℕ :=
 match token with
 | '+' :: cs=>(parseDigits cs).filter (· < u64Limit)
 | cs=>(parseDigits cs).filter (· < u64Limit)

def asI64 : Value→Option ℤ
 | .number token=>parseI64 token
 | _=>none

def asU64 : Value→Option ℕ
 | .number token=>parseU64 token
 | _=>none

def asString : Value→Option String
 | .string s=>some s
 | _=>none

lemma parseDigits_toDigits(n:ℕ):parseDigits (Nat.toDigits 10 n)=some n:=by
 have hall:(Nat.toDigits 10 n).all Char.isDigit=true:=List.all_eq_true.mpr (isDigits_toDigits n)
 rw [parseDigits,if_pos ⟨(isNumeral_toDigits n).nonempty,hall⟩,value_toDigits]

lemma toDigits_head(n:ℕ):∃c cs,Nat.toDigits 10 n=c::cs∧c.isDigit=true:=by
 cases h:Nat.toDigits 10 n with
 | nil=>exact absurd h (isNumeral_toDigits n).nonempty
 | cons c cs=>exact ⟨c,cs,rfl,isDigits_toDigits n c (by rw [h];simp)⟩

lemma parseI64_intToken{n:ℤ}(hlow:i64Min≤n)(hhigh:n ≤ i64Max):parseI64 (intToken n)=some n:=by
 have hchecked:checkedI64 n=some n:=checkedI64_eq_some.mpr ⟨rfl,hlow,hhigh⟩
 unfold intToken
 by_cases hn:n<0
 · have habs : -(n.natAbs:ℤ)=n:=by omega
   simp only [hn,↓reduceIte,cons_append,nil_append,parseI64,parseDigits_toDigits,
    bind_some,habs,hchecked]
 · have habs:(n.natAbs:ℤ)=n:=by omega
   obtain ⟨c,cs,hd,hc⟩:=toDigits_head n.natAbs
   have hparse:=parseDigits_toDigits n.natAbs
   simp only [hn,↓reduceIte,nil_append]
   rw [hd] at hparse ⊢
   unfold parseI64
   split
   · next heq=>simp_all
   · next heq=>simp_all
   · rw [hparse,bind_some,habs,hchecked]

lemma parseU64_intToken{n:ℕ}(hn:n<u64Limit):parseU64 (intToken n)=some n:=by
 obtain ⟨c,cs,hd,hc⟩:=toDigits_head n
 have hparse:=parseDigits_toDigits n
 have hneg:¬(n:ℤ)<0:=by omega
 simp only [intToken,hneg,↓reduceIte,nil_append,Int.natAbs_natCast]
 rw [hd] at hparse ⊢
 unfold parseU64
 split
 · next heq=>simp_all
 · rw [hparse,filter_some,if_pos (by simpa using hn)]

lemma isNumberToken_intToken(n:ℤ):IsNumberToken (intToken n):=by
 refine ⟨⟨decide (n<0),Nat.toDigits 10 n.natAbs,isNumeral_toDigits _,none,none⟩,?_⟩
 simp [NumberToken.text,NumberToken.unsignedText,NumberToken.mantissaText,intToken]

section
variable {ε:Type} (errors:StorageErrors ε) {d:StringDisplay} (reader:JsonReader d)

def toText (d:StringDisplay) (v:Value) : String := String.ofList (compact d v)

def fromStr (text:String) : Except ε Value :=
 match reader.read text.toList with
 | .ok v=>.ok v
 | .error failure=>.error (errors.json failure.message)

/-- The documents that the ledgers write. -/
structure Writable (v:Value) : Prop where
 numbers:AllNumbers IsNumberToken v
 shallow:height v≤3

lemma fromStr_toText{v:Value}(h:Writable v):fromStr errors reader (toText d v)=.ok v:=by
 have hread:=reader.complete v h.numbers (h.shallow.trans (by decide))
 rw [fromStr,toText,String.toList_ofList,hread]
end

section
variable {ε α:Type} (errors:StorageErrors ε)

def readMembers (get:Value→Option α) (fail:String→ε) :
  List (String×Value)→StringMap α→Except ε (StringMap α)
 | [], result=>.ok result
 | (key,value)::members, result=>
  match get value with
  | none=>.error (fail key)
  | some a=>readMembers get fail members (result.insert key a)

variable {write:α→Value}

lemma readMembers_map{get:Value→Option α}{fail:String→ε}
  {l:List (String×α)}{result:StringMap α}(h:∀e∈l,get (write e.2)=some e.2):
  readMembers get fail (l.map fun e=>(e.1,write e.2)) result =
   .ok (l.foldl (fun m e=>m.insert e.1 e.2) result):=by
 induction l generalizing result with
 | nil=>rfl
 | cons e l ih=>
  rw [map_cons,readMembers,h e mem_cons_self]
  exact ih fun c hc=>h c (mem_cons_of_mem _ hc)

def objectMap (members:Members) : StringMap Value := ExtTreeMap.ofList members

def toObject (m:StringMap Value) : Value := .object m.toList

lemma objectMap_toList(m:StringMap Value):objectMap m.toList=m:=ofList_toList m

def mapFromValue (get:Value→Option α) (what:String) : Value→Except ε (StringMap α)
 | .object members=>readMembers get (errors.member what) (objectMap members).toList ∅
 | _=>.error (errors.malformed (what ++ " must be an object"))

def mapValue (write:α→Value) (m:StringMap α) : Value := toObject (m.map fun _=>write)

lemma mapFromValue_mapValue{get:Value→Option α}{what:String}
  {m:StringMap α}(h:∀e∈m.toList,get (write e.2)=some e.2):
  mapFromValue errors get what (mapValue write m)=.ok m:=by
 have hlist:(m.map fun _=>write).toList=m.toList.map fun e=>(e.1,write e.2):=ExtTreeMap.toList_map
 unfold mapValue toObject
 simp only [mapFromValue,objectMap_toList]
 rw [hlist,readMembers_map h,←ofList_eq_foldl,ofList_toList]

lemma toObject_writable{m:StringMap Value}{n:ℕ}
  (h:∀(k:String) v,m[k]?=some v→AllNumbers IsNumberToken v∧height v+1≤n):
  AllNumbers IsNumberToken (toObject m)∧height (toObject m)≤n:=by
 rw [toObject,AllNumbers,height,allNumbersMembers_iff,heightMembers_le_iff,←forall₂_and]
 rintro ⟨k,v⟩ he
 exact h k v (mem_toList_iff_getElem?_eq_some.mp he)

lemma mapValue_writable{m:StringMap α}(h:∀a,AllNumbers IsNumberToken (write a)∧height (write a)=0):
  AllNumbers IsNumberToken (mapValue write m)∧height (mapValue write m)≤1:=by
 apply toObject_writable
 intro k v hv
 rw [ExtTreeMap.getElem?_map] at hv
 obtain ⟨a,-,rfl⟩:=map_eq_some_iff.mp hv
 exact ⟨(h a).1,by rw [(h a).2]⟩

def stringMapValue (value:StringMap String) : Value := mapValue .string value

def stringMapFromValue (what:String) (value:Value) : Except ε (StringMap String) :=
 mapFromValue errors asString what value

lemma stringMapFromValue_stringMapValue(what:String)(m:StringMap String):
  stringMapFromValue errors what (stringMapValue m)=.ok m:=
 mapFromValue_mapValue errors fun _ _=>rfl

lemma stringMapValue_writable(m:StringMap String):
  AllNumbers IsNumberToken (stringMapValue m)∧height (stringMapValue m)≤1:=
 mapValue_writable fun _=>⟨trivial,rfl⟩
end

section
variable {ε:Type} (errors:StorageErrors ε) {d:StringDisplay} (reader:JsonReader d)
variable (subject:String)

def amountMembers (amount:UsageAmount) : StringMap Value :=
 ((((∅:StringMap Value).insert "kind" (.string amount.kind)).insert
  "amount" (.number (intToken amount.amount))).insert
  "unit" (.string amount.unit)).insert "dimensions" (stringMapValue amount.dimensions)

def amountValue (amount:UsageAmount) : Value := toObject (amountMembers amount)

def amountDimensions (value:Option Value) : Except ε (StringMap String) :=
 match value with
 | some value=>stringMapFromValue errors (subject ++ "string map") value
 | none=>.ok ∅

/-- `subject` is what the messages of the ledger begin with. -/
def amountFromValue : Value→Except ε UsageAmount
 | .object members=>
  match (objectMap members)["kind"]?.bind asString with
  | none=>.error (errors.malformed (subject ++ "usage amount kind must be a string"))
  | some kind=>
   match (objectMap members)["amount"]?.bind asI64 with
   | none=>.error (errors.malformed (subject ++ "usage amount must be an integer"))
   | some amount=>
    match (objectMap members)["unit"]?.bind asString with
    | none=>.error (errors.malformed (subject ++ "usage amount unit must be a string"))
    | some unit=>
     (amountDimensions errors subject (objectMap members)["dimensions"]?).map
      fun dimensions=>⟨kind,amount,unit,dimensions⟩
 | _=>.error (errors.malformed (subject ++ "usage amount must be an object"))

def amountsValue (amounts:List UsageAmount) : Value := .array (amounts.map amountValue)

def amountsFromValue : Value→Except ε (List UsageAmount)
 | .array values=>collect (amountFromValue errors subject) values
 | _=>.error (errors.malformed (subject ++ "usage amounts must be an array"))

/-- Amounts as the `i64` of the source. -/
def AmountsFit (amounts:List UsageAmount) : Prop :=
 ∀amount∈amounts,i64Min≤amount.amount∧amount.amount ≤ i64Max

lemma amountFromValue_amountValue{amount:UsageAmount}
  (h:i64Min≤amount.amount∧amount.amount ≤ i64Max):
  amountFromValue errors subject (amountValue amount)=.ok amount:=by
 have hdims:stringMapFromValue errors (subject++"string map")
   (stringMapValue amount.dimensions)=.ok amount.dimensions:=
  stringMapFromValue_stringMapValue errors _ _
 have hkind:(amountMembers amount)["kind"]?=some (.string amount.kind):=by
  simp only [amountMembers,lookup_insert]
  rfl
 have hamount:(amountMembers amount)["amount"]?=some (.number (intToken amount.amount)):=by
  simp only [amountMembers,lookup_insert]
  rfl
 have hunit:(amountMembers amount)["unit"]?=some (.string amount.unit):=by
  simp only [amountMembers,lookup_insert]
  rfl
 have hdimensions:(amountMembers amount)["dimensions"]?=some (stringMapValue amount.dimensions):=by
  simp only [amountMembers,lookup_insert]
  rfl
 unfold amountValue toObject
 simp only [amountFromValue,objectMap_toList,hkind,hamount,hunit,hdimensions,
  bind_some,asString,asI64,parseI64_intToken h.1 h.2,amountDimensions,hdims]
 rfl

lemma amountsFromValue_amountsValue{amounts:List UsageAmount}(h:AmountsFit amounts):
  amountsFromValue errors subject (amountsValue amounts)=.ok amounts:=by
 unfold amountsValue
 rw [amountsFromValue,collect_ok,forall₂_map_left_iff,forall₂_same]
 exact fun amount ha=>amountFromValue_amountValue errors subject (h amount ha)

lemma amountValue_writable(amount:UsageAmount):
  AllNumbers IsNumberToken (amountValue amount)∧height (amountValue amount)≤2:=by
 apply toObject_writable
 intro k v hv
 simp only [amountMembers,lookup_insert,ExtTreeMap.getElem?_empty] at hv
 have hdims:=stringMapValue_writable amount.dimensions
 split at hv
 · cases hv
   exact ⟨hdims.1,by omega⟩
 · split at hv
   · cases hv
     exact ⟨trivial,by simp [height]⟩
   · split at hv
     · cases hv
       exact ⟨isNumberToken_intToken _,by simp [height]⟩
     · split at hv
       · cases hv
         exact ⟨trivial,by simp [height]⟩
       · cases hv

lemma amountsValue_writable(amounts:List UsageAmount):Writable (amountsValue amounts):=by
 constructor
 · rw [amountsValue,AllNumbers,allNumbersItems_iff]
   intro v hv
   obtain ⟨amount,-,rfl⟩:=List.mem_map.mp hv
   exact (amountValue_writable amount).1
 · rw [amountsValue,height,heightItems_le_iff]
   intro v hv
   obtain ⟨amount,-,rfl⟩:=List.mem_map.mp hv
   have hle:=(amountValue_writable amount).2
   omega
end

end GraphBlocks.StoredJson
