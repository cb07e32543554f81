import GraphBlocks.CanonicalJsonIdentity
import GraphBlocks.StoredJson

namespace GraphBlocks.CanonicalJson
open Std Json DigitStrings JsonNumber NumberEncoding OrderedMap StoredJson List Option

/-- What was written can be told from the normal form. -/
def Legible {α:Type} (write:α→Value) : Prop := Function.Injective fun a=>canonicalize (write a)

def orNull {α:Type} (write:α→Value) : Option α→Value
 | none=>.null
 | some a=>write a

def optionalText : Option String→Value := orNull .string

/-- The members of an object, each written from one record. -/
def writeFields {α:Type} (fields:List (String×(α→Value))) (a:α) : Members :=
 fields.map fun field=>(field.1,field.2 a)

section
variable {α β:Type} {fields:List (String×(α→Value))}

lemma Legible.comp{write:β→Value}{f:α→β}(h:Legible write)
  (hf:Function.Injective f):Legible fun a=>write (f a):=by
 intro a b hab
 exact hf (h hab)

lemma legible_string:Legible Value.string:=by
 intro s t h
 exact Value.string.inj h

lemma canonicalize_intToken(n:ℕ):canonicalize (.number (intToken n))=.number (intToken n):=by
 have htoken:(⟨false,Nat.toDigits 10 n,isNumeral_toDigits n,none,none⟩:NumberToken).text =
   intToken n:=by
  simp [NumberToken.text,NumberToken.unsignedText,NumberToken.mantissaText,intToken]
 rw [←htoken]
 exact congrArg Value.number (canonicalNumber_integer _ rfl)

lemma legible_number:Legible fun n : ℕ=>Value.number (intToken n):=by
 intro n m h
 simp only [canonicalize_intToken] at h
 have htoken (k:ℕ):intToken k=Nat.toDigits 10 k:=by
  have hpos:¬(k:ℤ)<0:=by omega
  rw [intToken,if_neg hpos,nil_append,Int.natAbs_natCast]
 have hdigits:=Value.number.inj h
 rw [htoken,htoken] at hdigits
 rw [←value_toDigits n,hdigits,value_toDigits]

variable {write:α→Value}

lemma legible_orNull(h:Legible write)(hnull:∀a,canonicalize (write a) ≠ .null):
  Legible (orNull write):=by
 intro a b hab
 cases a with
 | none=>
  cases b with
  | none=>rfl
  | some b=>exact absurd hab.symm (hnull b)
 | some a=>
  cases b with
  | none=>exact absurd hab (hnull a)
  | some b=>rw [h hab]

lemma legible_optionalText:Legible optionalText:=
 legible_orNull legible_string fun _ h=>by cases h

lemma legible_array(h:Legible write):Legible fun l : List α=>Value.array (l.map write):=by
 intro l m hlm
 simp only [canonicalize_array,List.map_map] at hlm
 exact map_injective_iff.mpr h (Value.array.inj hlm)

lemma lookup_normalForm{m:Members}(hm:(keys m).Nodup)(key:String):
  (sortMembers (canonicalizeMembers m)).lookup key=(m.lookup key).map canonicalize:=by
 rw [lookup_sortMembers (nodup_canonicalizeMembers hm),lookup_canonicalizeMembers]

lemma lookup_eq_of_canonicalize{a b:Members}(ha:(keys a).Nodup)(hb:(keys b).Nodup)
  (h:canonicalize (.object a)=canonicalize (.object b))(key:String):
  (a.lookup key).map canonicalize=(b.lookup key).map canonicalize:=by
 rw [canonicalize_object,canonicalize_object] at h
 rw [←lookup_normalForm ha,←lookup_normalForm hb,Value.object.inj h]

lemma keys_writeFields(fields:List (String×(α→Value)))(a:α):
  keys (writeFields fields a)=fields.map Prod.fst:=by
 simp [Json.keys,writeFields]

lemma lookup_writeFields(hkeys:(fields.map Prod.fst).Nodup){field:String×(α→Value)}
  (hfield:field∈fields)(a:α):(writeFields fields a).lookup field.1=some (field.2 a):=by
 have hnodup:(keys (writeFields fields a)).Nodup:=by rwa [keys_writeFields]
 exact (lookup_eq_some_iff_mem hnodup _ _).mpr (List.mem_map.mpr ⟨field,hfield,rfl⟩)

lemma canonicalize_writeFields(hkeys:(fields.map Prod.fst).Nodup){a b:α}
  (h:canonicalize (.object (writeFields fields a))=canonicalize (.object (writeFields fields b))):
  ∀field∈fields,canonicalize (field.2 a)=canonicalize (field.2 b):=by
 intro field hfield
 have hlookup:=lookup_eq_of_canonicalize (by rwa [keys_writeFields]) (by rwa [keys_writeFields])
  h field.1
 rw [lookup_writeFields hkeys hfield,lookup_writeFields hkeys hfield] at hlookup
 exact some.inj hlookup

lemma lookup_toList(m:StringMap α)(write:α→Value)(key:String):
  (m.map fun _=>write).toList.lookup key=(m[key]?).map write:=by
 have hkeys:(keys (m.map fun _=>write).toList).Nodup:=nodup_keys_toList _
 apply Option.ext
 intro v
 rw [lookup_eq_some_iff_mem hkeys,ExtTreeMap.mem_toList_iff_getElem?_eq_some,
  ExtTreeMap.getElem?_map]

lemma legible_map(h:Legible write):Legible (mapValue write):=by
 intro m n hmn
 have hlookup:=lookup_eq_of_canonicalize (nodup_keys_toList _) (nodup_keys_toList _) hmn
 apply ExtTreeMap.ext_getElem?
 intro key
 have hkey:=hlookup key
 rw [lookup_toList,lookup_toList,Option.map_map,Option.map_map] at hkey
 exact map_injective h hkey

lemma legible_stringMap:Legible stringMapValue:=legible_map legible_string
end

section
variable {α:Type} {P:List Char→Prop}

lemma allNumbers_orNull(write:α→Value)(h:∀a,AllNumbers P (write a))(a:Option α):
  AllNumbers P (orNull write a):=by
 cases a with
 | none=>trivial
 | some a=>exact h a

lemma allNumbers_optionalText(text:Option String):AllNumbers IsNumberToken (optionalText text):=
 allNumbers_orNull Value.string (fun _=>by trivial) text

lemma allNumbers_array(write:α→Value)(h:∀a,AllNumbers P (write a))(l:List α):
  AllNumbers P (.array (l.map write)):=by
 rw [AllNumbers,allNumbersItems_iff]
 intro v hv
 obtain ⟨a,-,rfl⟩:=List.mem_map.mp hv
 exact h a

lemma allNumbers_writeFields{a:α}(h:∀field∈fields,AllNumbers P (field.2 a)):
  AllNumbers P (.object (writeFields fields a)):=by
 rw [AllNumbers,allNumbersMembers_iff]
 intro e he
 obtain ⟨field,hfield,rfl⟩:=List.mem_map.mp he
 exact h field hfield

lemma allNumbers_stringMap(m:StringMap String):
  AllNumbers IsNumberToken (stringMapValue m):=(stringMapValue_writable m).1
end

section
variable {d:StringDisplay} {v w:Value}

lemma canonicalJson_text{text:List Char}(h:canonicalJson d v=.ok text):
  compact d (canonicalize v)=text:=by
 unfold canonicalJson tryCanonicalJson at h
 obtain ⟨u,-,h⟩:=RustStd.bind_ok.mp h
 rw [←canonicalJsonUnchecked_eq]
 exact Except.ok.inj h

lemma canonicalize_eq_of_text{text:List Char}(hnv:AllNumbers IsNumberToken v)
  (hnw:AllNumbers IsNumberToken w)(hv:canonicalJson d v=.ok text)
  (hw:canonicalJson d w=.ok text):canonicalize v=canonicalize w:=by
 have hcv:=allNumbers_canonicalize (fun _=>isNumberToken_canonicalNumber) hnv
 have hcw:=allNumbers_canonicalize (fun _=>isNumberToken_canonicalNumber) hnw
 exact compact_injective d hcv hcw ((canonicalJson_text hv).trans (canonicalJson_text hw).symm)
end

end GraphBlocks.CanonicalJson
