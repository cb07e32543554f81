import GraphBlocks.OrderedMap
import GraphBlocks.RustStd

/-! `UsageAmount` of the runtime core and the maps from amount keys to `i64` totals that the
budget and usage ledgers keep. -/
namespace GraphBlocks.Usage
open Std OrderedMap List Option Std.ExtTreeMap

structure AmountKey where
 kind:String
 unit:String
 dimensions:List (String×String)
deriving DecidableEq

def AmountKey.tuple (k:AmountKey) : String×String×List (String×String) :=
 (k.kind,k.unit,k.dimensions)

section

attribute [local instance] lexOrd

def AmountKey.cmp : AmountKey→AmountKey→Ordering := compareOn AmountKey.tuple

instance : TransCmp AmountKey.cmp := inferInstanceAs (TransCmp (compareOn AmountKey.tuple))

instance : LawfulEqCmp AmountKey.cmp where
 compare_self {a}:=(ReflOrd.compare_self:compare a.tuple a.tuple=.eq)
 eq_of_compare {a b} h:=by
  have ht : a.tuple=b.tuple:=LawfulEqOrd.eq_of_compare h
  cases a
  cases b
  simpa [AmountKey.tuple] using ht
end

structure UsageAmount where
 kind:String
 amount:ℤ
 unit:String
 dimensions:ExtTreeMap String String
deriving DecidableEq

abbrev AmountMap := ExtTreeMap AmountKey ℤ AmountKey.cmp

def amountKey (amount:UsageAmount) : AmountKey := ⟨amount.kind,amount.unit,amount.dimensions.toList⟩

/-- The amount of a key, `unwrap_or(0)`. -/
def amountAt (m:AmountMap) (key:AmountKey) : ℤ := m.getD key 0

def i64Min : ℤ := -9223372036854775808

def i64Max : ℤ := 9223372036854775807

def checkedI64 (n:ℤ) : Option ℤ := if i64Min≤n∧n ≤ i64Max then some n else none

def checkedAddI64 (a b:ℤ) : Option ℤ := checkedI64 (a+b)

def checkedSubI64 (a b:ℤ) : Option ℤ := checkedI64 (a-b)

section
variable {ε:Type} (overflow:AmountKey→ε)

/-- `for (key, amount) in .. { let current = m.entry(key).or_insert(0); *current = op(..)?; }`. -/
def accumulate (op:ℤ→ℤ→Option ℤ) : List (AmountKey×ℤ)→AmountMap→Except ε AmountMap
 | [], m=>.ok m
 | (key,amount)::rest, m=>
  match op (amountAt m key) amount with
  | none=>.error (overflow key)
  | some total=>accumulate op rest (m.insert key total)
end

def retainNonzero (m:AmountMap) : AmountMap := m.filter fun _ value=>value != 0

def keyedAmounts (amounts:List UsageAmount) : List (AmountKey×ℤ) :=
 amounts.map fun amount=>(amountKey amount,amount.amount)

def amountOfEntry (entry:AmountKey×ℤ) : UsageAmount where
 kind:=entry.1.kind
 amount:=entry.2
 unit:=entry.1.unit
 dimensions:=ExtTreeMap.ofList entry.1.dimensions

/-- The entries in key order, zeros left out. -/
def mapToAmounts (values:AmountMap) : List UsageAmount :=
 values.toList.filterMap fun entry=>if entry.2=0 then none else some (amountOfEntry entry)

def totalAt (entries:List (AmountKey×ℤ)) (key:AmountKey) : ℤ :=
 (entries.map fun e=>if e.1=key then e.2 else 0).sum

@[simp] lemma totalAt_nil(key:AmountKey):totalAt [] key=0:=rfl

lemma totalAt_cons(e:AmountKey×ℤ)(es:List (AmountKey×ℤ))(key:AmountKey):
  totalAt (e::es) key=(if e.1=key then e.2 else 0)+totalAt es key:=by
 simp [totalAt]

lemma totalAt_append(es fs:List (AmountKey×ℤ))(key:AmountKey):
  totalAt (es++fs) key=totalAt es key+totalAt fs key:=by
 simp [totalAt]

lemma totalAt_nonneg{es:List (AmountKey×ℤ)}(h:∀e∈es,0≤e.2)(key:AmountKey): 0≤totalAt es key:=by
 apply sum_nonneg
 intro x hx
 obtain ⟨e,he,rfl⟩:=List.mem_map.mp hx
 split
 · exact h e he
 · exact le_rfl

lemma totalAt_neg(es:List (AmountKey×ℤ))(key:AmountKey):
  totalAt (es.map fun e=>(e.1,-e.2)) key = -totalAt es key:=by
 induction es with
 | nil=>rfl
 | cons e es ih=>
  rw [map_cons,totalAt_cons,totalAt_cons,ih]
  split <;>omega

lemma totalAt_nonpos{es:List (AmountKey×ℤ)}(h:∀e∈es,e.2≤0)(key:AmountKey): totalAt es key≤0:=by
 have hneg:0≤totalAt (es.map fun e=>(e.1,-e.2)) key:=by
  apply totalAt_nonneg
  intro e he
  obtain ⟨f,hf,rfl⟩:=List.mem_map.mp he
  have:=h f hf
  simpa using this
 rw [totalAt_neg] at hneg
 omega

lemma amountAt_eq(m:AmountMap)(key:AmountKey):amountAt m key=m[key]?.getD 0:=
 getD_eq_getD_getElem?

lemma amountAt_insert(m:AmountMap)(k key:AmountKey)(n:ℤ):
  amountAt (m.insert k n) key=if k=key then n else amountAt m key:=
 getD_insert_eq m k key n 0

@[simp] lemma amountAt_empty(key:AmountKey):amountAt ∅ key=0:=by rw [amountAt,getD_empty]

lemma amountAt_retainNonzero(m:AmountMap)(key:AmountKey):
  amountAt (retainNonzero m) key=amountAt m key:=by
 rw [amountAt_eq,amountAt_eq,retainNonzero,ExtTreeMap.getElem?_filter']
 cases h:m[key]? with
 | none=>rfl
 | some n=>
  by_cases hn:n=0
  · simp [Option.filter,hn]
  · simp [Option.filter,hn]

lemma totalAt_toList(m:AmountMap)(key:AmountKey):totalAt m.toList key=amountAt m key:=by
 rw [amountAt_eq]
 change sumOf (fun k n=>if k=key then n else 0) m=_
 rw [sumOf_single,Option.map_id']

def amountOf (amounts:List UsageAmount) (key:AmountKey) : ℤ := totalAt (keyedAmounts amounts) key

def CanonicalKeys (m:AmountMap) : Prop :=
 ∀(key:AmountKey) n,m[key]?=some n →
  (ExtTreeMap.ofList key.dimensions:ExtTreeMap String String).toList=key.dimensions

variable {m:AmountMap}

lemma CanonicalKeys.keyedAmounts_mapToAmounts(h:CanonicalKeys m):
  keyedAmounts (mapToAmounts m)=m.toList.filter fun e=>e.2≠0:=by
 rw [keyedAmounts,mapToAmounts,map_filterMap,←filterMap_eq_filter]
 apply filterMap_congr
 rintro ⟨⟨kind,unit,dimensions⟩,n⟩ he
 have hcanonical:=h _ n (mem_toList_iff_getElem?_eq_some.mp he)
 by_cases hn:n=0
 · simp [hn,Option.guard]
 · simp only [hn,↓reduceIte,map_some,amountOfEntry,amountKey,hcanonical]
   simp [Option.guard,hn]

lemma totalAt_filter_nonzero(es:List (AmountKey×ℤ))(key:AmountKey):
  totalAt (es.filter fun e=>e.2≠0) key=totalAt es key:=by
 induction es with
 | nil=>rfl
 | cons e es ih=>
  rw [totalAt_cons,filter_cons]
  by_cases he:e.2=0
  · simp [he,←ih]
  · simp only [he,ne_eq,not_false_eq_true,decide_true,↓reduceIte,totalAt_cons]
    rw [←ih]

lemma CanonicalKeys.amountOf_mapToAmounts(h:CanonicalKeys m)
  (key:AmountKey):amountOf (mapToAmounts m) key=amountAt m key:=by
 rw [amountOf,h.keyedAmounts_mapToAmounts,totalAt_filter_nonzero,totalAt_toList]

lemma CanonicalKeys.nodup_keys(h:CanonicalKeys m):((mapToAmounts m).map amountKey).Nodup:=by
 have hkeys:(mapToAmounts m).map amountKey=(keyedAmounts (mapToAmounts m)).map Prod.fst:=by
  rw [keyedAmounts,List.map_map]
  rfl
 rw [hkeys,h.keyedAmounts_mapToAmounts]
 exact (nodup_keys_toList m).sublist (filter_sublist.map _)

lemma mapToAmounts_retainNonzero(m:AmountMap):mapToAmounts (retainNonzero m)=mapToAmounts m:=by
 rw [mapToAmounts,mapToAmounts,retainNonzero,ExtTreeMap.toList_filter,filterMap_filter]
 apply filterMap_congr
 rintro ⟨key,n⟩ -
 by_cases hn:n=0 <;>simp [hn]

lemma mapToAmounts_congr{m':AmountMap}(h:∀key,amountAt m key=amountAt m' key):
  mapToAmounts m=mapToAmounts m':=by
 rw [←mapToAmounts_retainNonzero m,←mapToAmounts_retainNonzero m']
 congr 1
 apply ExtTreeMap.ext_getElem?
 intro key
 have hkey:=h key
 rw [amountAt_eq,amountAt_eq] at hkey
 rw [retainNonzero,retainNonzero,ExtTreeMap.getElem?_filter',ExtTreeMap.getElem?_filter']
 cases hm:m[key]? with
 | none=>cases hm':m'[key]? <;>simp_all [Option.filter,eq_comm]
 | some n=>cases hm':m'[key]? <;>simp_all [Option.filter]

lemma mapToAmounts_nonzero{a:UsageAmount}(h:a∈mapToAmounts m):a.amount≠0:=by
 obtain ⟨e,-,he⟩:=List.mem_filterMap.mp h
 split at he
 · cases he
 · next hn=>
   cases he
   exact hn

section
variable {ε:Type} {overflow:AmountKey→ε} {es:List (AmountKey×ℤ)} {m m':AmountMap}

lemma checkedI64_eq_some{n k:ℤ}:checkedI64 n=some k↔k=n∧i64Min≤n∧n ≤ i64Max:=by
 unfold checkedI64
 split
 · next h=>simp [h,eq_comm]
 · next h=>simp [h]

variable {op:ℤ→ℤ→Option ℤ}

lemma accumulate_cons_ok{e:AmountKey×ℤ}:accumulate overflow op (e::es) m=.ok m' ↔
   ∃total,op (amountAt m e.1) e.2=some total ∧
    accumulate overflow op es (m.insert e.1 total)=.ok m':=by
 rw [accumulate]
 cases op (amountAt m e.1) e.2 <;>simp

lemma accumulate_sub(es:List (AmountKey×ℤ))(m:AmountMap):
  accumulate overflow checkedSubI64 es m =
   accumulate overflow checkedAddI64 (es.map fun e=>(e.1,-e.2)) m:=by
 induction es generalizing m with
 | nil=>rfl
 | cons e es ih=>simp only [accumulate,map_cons,checkedSubI64,checkedAddI64,Int.sub_eq_add_neg,ih]

lemma amountAt_accumulate(h:accumulate overflow checkedAddI64 es m=.ok m')
  (key:AmountKey):amountAt m' key=amountAt m key+totalAt es key:=by
 induction es generalizing m with
 | nil=>
  cases h
  simp
 | cons e es ih=>
  obtain ⟨total,ht,hrest⟩:=accumulate_cons_ok.mp h
  rw [ih hrest,amountAt_insert,totalAt_cons,(checkedI64_eq_some.mp ht).1]
  split <;>simp_all [add_assoc]

lemma lookup_accumulate(h:accumulate overflow op es m=.ok m'){key:AmountKey}{n:ℤ}
  (hn:m'[key]?=some n):m[key]?=some n ∨ ∃e∈es,e.1=key:=by
 induction es generalizing m with
 | nil=>
  cases h
  exact .inl hn
 | cons e es ih=>
  obtain ⟨total,-,hrest⟩:=accumulate_cons_ok.mp h
  rcases ih hrest with hm|⟨f,hf,hfk⟩
  · rw [lookup_insert] at hm
    split at hm
    · next he=>exact .inr ⟨e,mem_cons_self,he⟩
    · exact .inl hm
  · exact .inr ⟨f,mem_cons_of_mem _ hf,hfk⟩

lemma accumulate_canonical{amounts:List UsageAmount}
  (h:accumulate overflow op (keyedAmounts amounts) ∅=.ok m'):CanonicalKeys m':=by
 intro key n hn
 rcases lookup_accumulate h hn with hnone|⟨e,he,rfl⟩
 · rw [ExtTreeMap.getElem?_empty] at hnone
   cases hnone
 · obtain ⟨a,-,rfl⟩:=List.mem_map.mp he
   simp only [amountKey,ofList_toList]

lemma accumulate_range(h:accumulate overflow checkedAddI64 es m=.ok m')
  (hm:∀key,i64Min≤amountAt m key∧amountAt m key ≤ i64Max)(key:AmountKey):
  i64Min≤amountAt m' key∧amountAt m' key ≤ i64Max:=by
 induction es generalizing m with
 | nil=>
  cases h
  exact hm key
 | cons e es ih=>
  obtain ⟨total,ht,hrest⟩:=accumulate_cons_ok.mp h
  obtain ⟨rfl,hlow,hhigh⟩:=checkedI64_eq_some.mp ht
  apply ih hrest
  intro k
  rw [amountAt_insert]
  split
  · exact ⟨hlow,hhigh⟩
  · exact hm k

lemma accumulate_isOk(overflow:AmountKey→ε)(hsign:(∀e∈es,0≤e.2) ∨ ∀e∈es,e.2≤0)
  (hm:∀key,i64Min≤amountAt m key∧amountAt m key ≤ i64Max)
  (hend:∀e∈es,i64Min≤amountAt m e.1+totalAt es e.1∧amountAt m e.1+totalAt es e.1 ≤ i64Max):
  ∃m',accumulate overflow checkedAddI64 es m=.ok m':=by
 induction es generalizing m with
 | nil=>exact ⟨m,rfl⟩
 | cons e es ih=>
  have hrange:i64Min≤amountAt m e.1+e.2∧amountAt m e.1+e.2 ≤ i64Max:=by
   have htotal:=hend e mem_cons_self
   rw [totalAt_cons,if_pos rfl] at htotal
   have hm':=hm e.1
   rcases hsign with hs|hs
   · have he:=hs e mem_cons_self
     have hrest:=totalAt_nonneg (fun f hf=>hs f (mem_cons_of_mem _ hf)) e.1
     omega
   · have he:=hs e mem_cons_self
     have hrest:=totalAt_nonpos (fun f hf=>hs f (mem_cons_of_mem _ hf)) e.1
     omega
  have hstep:checkedAddI64 (amountAt m e.1) e.2=some (amountAt m e.1+e.2):=
   checkedI64_eq_some.mpr ⟨rfl,hrange⟩
  have hnext:∃m',accumulate overflow checkedAddI64 es
    (m.insert e.1 (amountAt m e.1+e.2))=.ok m':=by
   apply ih
   · rcases hsign with hs|hs
     · exact .inl fun f hf=>hs f (mem_cons_of_mem _ hf)
     · exact .inr fun f hf=>hs f (mem_cons_of_mem _ hf)
   · intro key
     rw [amountAt_insert]
     split
     · exact hrange
     · exact hm key
   · intro f hf
     have htotal:=hend f (mem_cons_of_mem _ hf)
     rw [totalAt_cons] at htotal
     rw [amountAt_insert]
     by_cases hef:e.1=f.1
     · rw [if_pos hef] at htotal ⊢
       rw [hef,add_assoc]
       exact htotal
     · rw [if_neg hef,zero_add] at htotal
       rw [if_neg hef]
       exact htotal
  obtain ⟨m',hm'⟩:=hnext
  exact ⟨m',accumulate_cons_ok.mpr ⟨_,hstep,hm'⟩⟩
end

end GraphBlocks.Usage
