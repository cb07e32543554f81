import GraphBlocks.CanonicalJsonRoundTrip
import GraphBlocks.CanonicalFields
import GraphBlocks.NumberGrammar

namespace GraphBlocks.Serde
open Std Json CanonicalJson OrderedMap StoredJson RustStd List Option Std.ExtTreeMap

/-- `Value::Object` is an ordered map: the last of equal keys wins. -/
def orderMembers (m:Members) : Members := (objectMap m).toList

/-- The `Value` that is built from a document. -/
def storedValue (document:Value) : Value := rewriteNumbers serdeNumber orderMembers document

lemma orderMembers_idempotent(m:Members):orderMembers (orderMembers m)=orderMembers m:=by
 unfold orderMembers
 rw [objectMap_toList]

lemma mem_of_lookup_foldl{key:String}{v:Value}{m:Members}{acc:StringMap Value}
  (h:(m.foldl (fun acc e=>acc.insert e.1 e.2) acc)[key]?=some v):(key,v)∈m∨acc[key]?=some v:=by
 induction m generalizing acc with
 | nil=>exact .inr h
 | cons e m ih=>
  rw [foldl_cons] at h
  rcases ih h with hm|hacc
  · exact .inl (mem_cons_of_mem _ hm)
  · rw [lookup_insert] at hacc
    split at hacc
    · next heq=>
      obtain rfl:=some.inj hacc
      exact .inl (heq▸mem_cons_self)
    · exact .inr hacc

lemma mem_orderMembers{m:Members}{e:String×Value}(h:e∈orderMembers m):e∈m:=by
 have hlookup:(objectMap m)[e.1]?=some e.2:=mem_toList_iff_getElem?_eq_some.mp h
 rw [objectMap,ofList_eq_foldl] at hlookup
 rcases mem_of_lookup_foldl hlookup with hm|hnone
 · exact hm
 · rw [ExtTreeMap.getElem?_empty] at hnone
   cases hnone

lemma allNumbers_storedValue{v:Value}(hv:AllNumbers IsNumberToken v):
  AllNumbers IsNumberToken (storedValue v):=by
 revert hv
 apply InductionCases.value
  (P:=fun v=>AllNumbers IsNumberToken v→AllNumbers IsNumberToken (storedValue v))
 constructor
 · exact fun _=>trivial
 · exact fun _ _=>trivial
 · exact fun token h=>(serdeNumber_kept h).1
 · exact fun _ _=>trivial
 · intro items ih h
   have hitems:=(allNumbersItems_iff _ items).mp h
   rw [storedValue,rewriteNumbers,rewriteItems_eq]
   apply (allNumbersItems_iff _ _).mpr
   simp only [List.forall_mem_map]
   exact fun w hw=>ih w hw (hitems w hw)
 · intro members ih h
   have hmembers:=(allNumbersMembers_iff _ members).mp h
   rw [storedValue,rewriteNumbers,rewriteMembers_eq]
   apply (allNumbersMembers_iff _ _).mpr
   intro e he
   obtain ⟨source,hsource,rfl⟩:=List.mem_map.mp (mem_orderMembers he)
   exact ih source hsource (hmembers source hsource)

lemma storedValue_idempotent{v:Value}(hv:AllNumbers IsNumberToken v):
  storedValue (storedValue v)=storedValue v:=by
 revert hv
 apply InductionCases.value
  (P:=fun v=>AllNumbers IsNumberToken v→storedValue (storedValue v)=storedValue v)
 constructor
 · exact fun _=>rfl
 · exact fun _ _=>rfl
 · exact fun token h=>congrArg Value.number (serdeNumber_kept h).2
 · exact fun _ _=>rfl
 · intro items ih h
   have hitems:=(allNumbersItems_iff _ items).mp h
   simp only [storedValue,rewriteNumbers,rewriteItems_eq,List.map_map]
   exact congrArg Value.array (map_congr_left fun w hw=>ih w hw (hitems w hw))
 · intro members ih h
   have hmembers:=(allNumbersMembers_iff _ members).mp h
   have hfixed:(orderMembers (members.map fun e=>(e.1,storedValue e.2))).map
      (fun e=>(e.1,storedValue e.2)) =
     orderMembers (members.map fun e=>(e.1,storedValue e.2)):=by
    refine (map_congr_left fun e he=>?_).trans (List.map_id _)
    obtain ⟨source,hsource,rfl⟩:=List.mem_map.mp (mem_orderMembers he)
    exact Prod.ext rfl (ih source hsource (hmembers source hsource))
   have hobject:storedValue (.object members) =
     .object (orderMembers (members.map fun e=>(e.1,storedValue e.2))):=by
    rw [storedValue,rewriteNumbers,rewriteMembers_eq]
    rfl
   rw [hobject]
   conv_lhs=>rw [storedValue,rewriteNumbers,rewriteMembers_eq]
   change Value.object (orderMembers ((orderMembers _).map fun e=>(e.1,storedValue e.2)))=_
   rw [hfixed,orderMembers_idempotent]

/-- `serde_json::Value`: a document that is read back as it is. -/
structure JsonValue where
 document:Value
 numbers:AllNumbers IsNumberToken document
 stored:storedValue document=document

@[ext] lemma JsonValue.ext{v w:JsonValue}(h:v.document=w.document):v=w:=by
 cases v
 cases w
 cases h
 rfl

def JsonValue.read (v:Value) : Option JsonValue :=
 if h : AllNumbers IsNumberToken v then
  some ⟨storedValue v,allNumbers_storedValue h,storedValue_idempotent h⟩
 else none

lemma JsonValue.read_document(v:JsonValue):JsonValue.read v.document=some v:=by
 rw [JsonValue.read,dif_pos v.numbers]
 exact congrArg some (JsonValue.ext v.stored)

section
variable {α β:Type}

/-- What a derived struct is read from: named values, from an object or from a sequence. -/
structure StructSource where
 members:Members
 positional:Bool

/-- `#[serde(deny_unknown_fields)]`; a sequence gives the fields in their order. -/
def structSource (names:List String) : Value→Option StructSource
 | .object members=>
  if (∀key∈keys members,key∈names)∧(keys members).Nodup then some ⟨members,false⟩
  else none
 | .array items=>if items.length≤names.length then some ⟨names.zip items,true⟩ else none
 | _=>none

def StructSource.required (source:StructSource) (name:String) (read:Value→Option α) : Option α :=
 (source.members.lookup name).bind read

def readOption (read:Value→Option α) : Value→Option (Option α)
 | .null=>some none
 | v=>(read v).map some

/-- A field of type `Option` may be missing from an object. -/
def StructSource.optional (source:StructSource) (name:String) (read:Value→Option α) :
  Option (Option α) :=
 match source.members.lookup name with
 | some v=>readOption read v
 | none=>if source.positional then none else some none

/-- `#[serde(default)]`. -/
def StructSource.defaulted (source:StructSource) (name:String) (read:Value→Option α)
  (default:α) : Option α :=
 match source.members.lookup name with
 | some v=>read v
 | none=>some default

def readVariant (variants:List (String×α)) : Value→Option α
 | .string name=>variants.lookup name
 | .object [(name,.null)]=>variants.lookup name
 | _=>none

def readItems (read:Value→Option α) : List Value→Option (List α)
 | []=>some []
 | v::items=>do
  let a ← read v
  let rest ← readItems read items
  return a::rest

def readList (read:Value→Option α) : Value→Option (List α)
 | .array items=>readItems read items
 | _=>none

def readEntries (read:Value→Option α) : Members→StringMap α→Option (StringMap α)
 | [], result=>some result
 | (key,v)::members, result=>do
  let a ← read v
  readEntries read members (result.insert key a)

def readMap (read:Value→Option α) : Value→Option (StringMap α)
 | .object members=>readEntries read members ∅
 | _=>none

/-- `serde_json::to_value` of a derived struct. -/
def structValue (fields:List (String×(α→Value))) (a:α) : Value :=
 .object (sortMembers (writeFields fields a))

variable {read:Value→Option α}

lemma readOption_orNull(write:α→Value)(h:∀a,read (write a)=some a)
  (hnull:∀a,write a ≠ .null)(a:Option α):readOption read (orNull write a)=some a:=by
 cases a with
 | none=>rfl
 | some a=>
  have hsome:readOption read (write a)=(read (write a)).map some:=by
   unfold readOption
   split
   · next heq=>exact absurd heq (hnull a)
   · rfl
  rw [orNull,hsome,h]
  rfl

variable {write:α→Value}

lemma readList_array(h:∀a,read (write a)=some a)(l:List α):
  readList read (.array (l.map write))=some l:=by
 change readItems read (l.map write)=some l
 induction l with
 | nil=>rfl
 | cons a l ih=>simp [readItems,h,ih]

lemma readEntries_map(h:∀a,read (write a)=some a) (l:List (String×α))(result:StringMap α):
  readEntries read (l.map fun e=>(e.1,write e.2)) result =
   some (l.foldl (fun m e=>m.insert e.1 e.2) result):=by
 induction l generalizing result with
 | nil=>rfl
 | cons e l ih=>simp [readEntries,h,ih]

lemma readMap_mapValue(h:∀a,read (write a)=some a)(m:StringMap α):
  readMap read (mapValue write m)=some m:=by
 have hlist:(m.map fun _=>write).toList=m.toList.map fun e=>(e.1,write e.2):=ExtTreeMap.toList_map
 unfold mapValue toObject
 rw [readMap,hlist,readEntries_map h,←ofList_eq_foldl,ofList_toList]

def written (members:Members) : StructSource := ⟨sortMembers members,false⟩

variable {members:Members} {name:String} {v:Value}

lemma structSource_written{names:List String}(hnames:∀key∈keys members,key∈names)
  (hkeys:(keys members).Nodup):
  structSource names (.object (sortMembers members))=some (written members):=by
 have hknown:∀key∈keys (sortMembers members),key∈names:=by
  intro key hkey
  exact hnames key (((sortMembers_perm members).map Prod.fst).mem_iff.mp hkey)
 rw [structSource,if_pos ⟨hknown,nodup_sortMembers hkeys⟩]
 rfl

variable {fields:List (String×(α→Value))}

lemma nodup_writeFields(hkeys:(fields.map Prod.fst).Nodup)(a:α):
  (keys (writeFields fields a)).Nodup:=by
 rwa [keys_writeFields]

lemma structSource_structValue(hkeys:(fields.map Prod.fst).Nodup)(a:α):
  structSource (fields.map Prod.fst) (structValue fields a) =
   some (written (writeFields fields a)):=by
 refine structSource_written ?_ (nodup_writeFields hkeys a)
 rw [keys_writeFields]
 exact fun _ h=>h

lemma structSource_unknown{names:List String}(key:String)(hkey:key∈keys members)
  (hunknown:key∉names):structSource names (.object (sortMembers members))=none:=by
 have hmem:key∈keys (sortMembers members):=
  ((sortMembers_perm members).map Prod.fst).mem_iff.mpr hkey
 exact if_neg fun h=>hunknown (h.1 key hmem)

lemma allNumbers_sortMembers{P:List Char→Prop}(h:AllNumbers P (.object members)):
  AllNumbers P (.object (sortMembers members)):=by
 rw [AllNumbers,allNumbersMembers_iff] at h ⊢
 exact fun e he=>h e ((mem_sortMembers members e).mp he)

lemma allNumbers_structValue{P:List Char→Prop}{a:α}
  (h:∀field∈fields,AllNumbers P (field.2 a)):AllNumbers P (structValue fields a):=
 allNumbers_sortMembers (allNumbers_writeFields h)

lemma height_sortMembers(members:Members):
  height (.object (sortMembers members))=height (.object members):=by
 apply eq_of_forall_ge_iff
 intro n
 rw [height,height,heightMembers_le_iff,heightMembers_le_iff]
 simp only [mem_sortMembers]

lemma allNumbers_mapDocuments(m:StringMap JsonValue):
  AllNumbers IsNumberToken (mapValue JsonValue.document m):=by
 rw [mapValue,toObject,AllNumbers,allNumbersMembers_iff]
 rintro ⟨k,v⟩ he
 have hlookup:=mem_toList_iff_getElem?_eq_some.mp he
 rw [ExtTreeMap.getElem?_map] at hlookup
 obtain ⟨a,-,rfl⟩:=map_eq_some_iff.mp hlookup
 exact a.numbers

variable {read:Value→Option β} {b:β}

lemma required_of{source:StructSource}(hfield:source.members.lookup name=some v)
  (hread:read v=some b):source.required name read=some b:=by
 rw [StructSource.required,hfield]
 exact hread

variable {default:β}

lemma defaulted_of{source:StructSource}(hfield:source.members.lookup name=some v)
  (hread:read v=some b):source.defaulted name read default=some b:=by
 rw [StructSource.defaulted,hfield]
 exact hread

lemma lookup_written(hkeys:(keys members).Nodup)(name:String):
  (written members).members.lookup name=members.lookup name:=
 lookup_sortMembers hkeys name

lemma required_written(hkeys:(keys members).Nodup)(hfield:members.lookup name=some v)
  (hread:read v=some b):(written members).required name read=some b:=
 required_of ((lookup_written hkeys name).trans hfield) hread

lemma optional_written{b:Option β}(hkeys:(keys members).Nodup)(hfield:members.lookup name=some v)
  (hread:readOption read v=some b):(written members).optional name read=some b:=by
 rw [StructSource.optional,lookup_written hkeys,hfield]
 exact hread

lemma defaulted_written(hkeys:(keys members).Nodup)(hfield:members.lookup name=some v)
  (hread:read v=some b):(written members).defaulted name read default=some b:=
 defaulted_of ((lookup_written hkeys name).trans hfield) hread

lemma defaulted_missing(hkeys:(keys members).Nodup)(hfield:members.lookup name=none):
  (written members).defaulted name read default=some default:=by
 rw [StructSource.defaulted,lookup_written hkeys,hfield]

lemma asString_string(text:String):asString (.string text)=some text:=rfl

lemma requiredText_written(hkeys:(keys members).Nodup)(name text:String)
  (hfield:members.lookup name=some (.string text)):
  (written members).required name asString=some text:=
 required_written hkeys hfield rfl

lemma readOption_optionalText(text:Option String):
  readOption asString (optionalText text)=some text:=
 readOption_orNull Value.string asString_string (fun _ h=>by cases h) text

lemma optionalText_written(hkeys:(keys members).Nodup)(name:String)(text:Option String)
  (hfield:members.lookup name=some (optionalText text)):
  (written members).optional name asString=some text:=
 optional_written hkeys hfield (readOption_optionalText text)
end

/-- `serde_json`: its reader, its private number key apart, and how it takes a number token
for an integer. -/
structure SerdeJson (d:StringDisplay) extends JsonReader d where
 integer:List Char→Option ℕ
 integer_intToken:∀n,n<u64Limit→integer (intToken n)=some n

section
variable {d:StringDisplay} (serde:SerdeJson d)

def readU64 : Value→Option UInt64
 | .number token=>(serde.integer token).bind fun n=>
   if n<u64Limit then some (UInt64.ofNat n) else none
 | _=>none

def u16Limit : ℕ := 2^16

def readU16 : Value→Option UInt16
 | .number token=>(serde.integer token).bind fun n=>
   if n<u16Limit then some (UInt16.ofNat n) else none
 | _=>none

def u64Value (n:UInt64) : Value := .number (intToken n.toNat)

def u16Value (n:UInt16) : Value := .number (intToken n.toNat)

lemma readU64_u64Value(n:UInt64):readU64 serde (u64Value n)=some n:=by
 have hlt:n.toNat<u64Limit:=n.toNat_lt
 have hinteger:serde.integer (intToken n.toNat)=some n.toNat:=serde.integer_intToken _ hlt
 unfold u64Value
 rw [readU64,hinteger,bind_some,if_pos hlt,UInt64.ofNat_toNat]

lemma readU16_u16Value(n:UInt16):readU16 serde (u16Value n)=some n:=by
 have hlt:n.toNat<u16Limit:=n.toNat_lt
 have hinteger:serde.integer (intToken n.toNat)=some n.toNat:=
  serde.integer_intToken _ (hlt.trans (by decide))
 unfold u16Value
 rw [readU16,hinteger,bind_some,if_pos hlt,UInt16.ofNat_toNat]
end

end GraphBlocks.Serde
