import GraphBlocks.BudgetModel

/-! A balance holds positive `i64` amounts under keys a valid usage amount can have. -/
namespace GraphBlocks.Budget
open Std OrderedMap RustStd Usage List Option Std.ExtTreeMap

structure ValidKey (key:AmountKey) : Prop where
 kind:isBlank key.kind=false
 unit:isBlank key.unit=false
 dimensions:validateDimensions key.dimensions=.ok ()
 canonical:(ExtTreeMap.ofList key.dimensions:ExtTreeMap String String).toList=key.dimensions

def IsBalance (m:AmountMap) : Prop := ∀key n,m[key]?=some n→0<n∧n ≤ i64Max∧ValidKey key

lemma isBalance_empty:IsBalance ∅:=by
 intro key n h
 rw [ExtTreeMap.getElem?_empty] at h
 cases h

variable {key:AmountKey}

section
variable {m m':AmountMap}

lemma amountAt_of_lookup{n:ℤ}(h:m[key]?=some n):amountAt m key=n:=by
 rw [amountAt_eq,h]
 rfl

lemma IsBalance.range(h:IsBalance m)(key:AmountKey):0≤amountAt m key∧amountAt m key ≤ i64Max:=by
 rw [amountAt_eq]
 cases hk:m[key]? with
 | none=>exact ⟨le_rfl,by decide⟩
 | some n=>
  obtain ⟨hpos,hmax,-⟩:=h key n hk
  exact ⟨hpos.le,hmax⟩

lemma IsBalance.wide(h:IsBalance m)(key:AmountKey):
  i64Min≤amountAt m key∧amountAt m key ≤ i64Max:=by
 have hr:=h.range key
 unfold i64Min
 omega

lemma IsBalance.lookup(h:IsBalance m)(key:AmountKey):
  m[key]?=if amountAt m key=0 then none else some (amountAt m key):=by
 rw [amountAt_eq]
 cases hk:m[key]? with
 | none=>rfl
 | some n=>
  have hpos:=(h key n hk).1
  simp only [getD_some]
  rw [if_neg (by omega)]

lemma IsBalance.ext(h:IsBalance m)(h':IsBalance m')
  (heq:∀key,amountAt m key=amountAt m' key):m=m':=by
 apply ExtTreeMap.ext_getElem?
 intro key
 rw [h.lookup,h'.lookup,heq]

lemma isBalance_retainNonzero(h:∀key n,m[key]?=some n→0≤n∧n ≤ i64Max∧ValidKey key):
  IsBalance (retainNonzero m):=by
 intro key n hn
 rw [retainNonzero,ExtTreeMap.getElem?_filter',filter_eq_some_iff] at hn
 obtain ⟨hlow,hhigh,hkey⟩:=h key n hn.1
 have hne:n≠0:=by simpa using hn.2
 exact ⟨by omega,hhigh,hkey⟩
end

lemma validKey_amountKey{amount:UsageAmount}(hkind:isBlank amount.kind=false)
  (hunit:isBlank amount.unit=false)(hdims:validateDimensions amount.dimensions.toList=.ok ()):
  ValidKey (amountKey amount):=
 ⟨hkind,hunit,hdims,by rw [amountKey,ofList_toList]⟩

/-- What `validate_usage_amounts` accepts. -/
structure ValidAmounts (amounts:List UsageAmount) : Prop where
 nonneg:∀amount∈amounts,0≤amount.amount
 keys:∀amount∈amounts,ValidKey (amountKey amount)
 total:∀key,totalAt (keyedAmounts amounts) key ≤ i64Max

lemma validateLoop_ok_iff(amounts:List UsageAmount)(totals:AmountMap):
  validateLoop amounts totals=.ok ()↔(∀amount∈amounts,0≤amount.amount∧ValidKey (amountKey amount)) ∧
   ∃m,accumulate (fun _=>usageAmountOverflowError) checkedAddI64 (keyedAmounts amounts)
    totals=.ok m:=by
 induction amounts generalizing totals with
 | nil=>simp [validateLoop,keyedAmounts,accumulate]
 | cons amount rest ih=>
  rw [validateLoop]
  constructor
  · intro h
    split at h
    · cases h
    · next hneg=>
      split at h
      · cases h
      · next hkind=>
        split at h
        · cases h
        · next hunit=>
          split at h
          · cases h
          · next hdims=>
            split at h
            · cases h
            · next total htotal=>
              obtain ⟨hrest,m,hm⟩:=(ih _).mp h
              refine ⟨?_,m,accumulate_cons_ok.mpr ⟨total,htotal,hm⟩⟩
              intro a ha
              rcases mem_cons.mp ha with rfl|ha
              · exact ⟨by omega,validKey_amountKey (by simpa using hkind)
                 (by simpa using hunit) hdims⟩
              · exact hrest a ha
  · rintro ⟨hvalid,m,hm⟩
    obtain ⟨total,htotal,hrest⟩:=accumulate_cons_ok.mp hm
    obtain ⟨hnonneg,hkey⟩:=hvalid amount mem_cons_self
    have hkind:isBlank amount.kind=false:=hkey.kind
    have hunit:isBlank amount.unit=false:=hkey.unit
    have hdims:validateDimensions amount.dimensions.toList=.ok ():=hkey.dimensions
    rw [if_neg (by omega),hkind,hunit,hdims]
    simp only [Bool.false_eq_true,↓reduceIte]
    rw [show checkedAddI64 (amountAt totals (amountKey amount)) amount.amount=some total
     from htotal]
    exact (ih _).mpr ⟨fun a ha=>hvalid a (mem_cons_of_mem _ ha),m,hrest⟩

variable {amounts:List UsageAmount}

lemma keyedAmounts_nonneg(h:∀amount∈amounts,0≤amount.amount):∀e∈keyedAmounts amounts,0≤e.2:=by
 intro e he
 obtain ⟨a,ha,rfl⟩:=List.mem_map.mp he
 exact h a ha

lemma empty_range(key:AmountKey):
  i64Min≤amountAt ∅ key∧amountAt ∅ key ≤ i64Max:=isBalance_empty.wide key

lemma validateUsageAmounts_ok_iff(amounts:List UsageAmount):
  validateUsageAmounts amounts=.ok ()↔ValidAmounts amounts:=by
 rw [validateUsageAmounts,validateLoop_ok_iff]
 constructor
 · rintro ⟨hvalid,m,hm⟩
   refine ⟨fun a ha=>(hvalid a ha).1,fun a ha=>(hvalid a ha).2,fun key=>?_⟩
   have hrange:=(accumulate_range hm empty_range key).2
   rw [amountAt_accumulate hm] at hrange
   simpa using hrange
 · intro h
   refine ⟨fun a ha=>⟨h.nonneg a ha,h.keys a ha⟩,?_⟩
   apply accumulate_isOk _ (.inl (keyedAmounts_nonneg h.nonneg)) empty_range
   intro e _
   have hlow:=totalAt_nonneg (keyedAmounts_nonneg h.nonneg) e.1
   have hhigh:=h.total e.1
   rw [amountAt_empty]
   unfold i64Min
   omega

lemma amountsToMap_ok(h:ValidAmounts amounts):∃m,amountsToMap amounts=.ok m∧IsBalance m ∧
   ∀key,amountAt m key=totalAt (keyedAmounts amounts) key:=by
 have hv:=(validateUsageAmounts_ok_iff amounts).mpr h
 rw [validateUsageAmounts,validateLoop_ok_iff] at hv
 obtain ⟨-,m,hm⟩:=hv
 have hat:∀key,amountAt m key=totalAt (keyedAmounts amounts) key:=by
  intro key
  rw [amountAt_accumulate hm]
  simp
 refine ⟨retainNonzero m,by rw [amountsToMap,hm];rfl,?_,?_⟩
 · apply isBalance_retainNonzero
   intro key n hn
   have hnat:=amountAt_of_lookup hn
   rw [hat] at hnat
   refine ⟨hnat▸totalAt_nonneg (keyedAmounts_nonneg h.nonneg) key,hnat▸h.total key,?_⟩
   rcases lookup_accumulate hm hn with hnone|⟨e,he,rfl⟩
   · rw [ExtTreeMap.getElem?_empty] at hnone
     cases hnone
   · obtain ⟨a,ha,rfl⟩:=List.mem_map.mp he
     exact h.keys a ha
 · intro key
   rw [amountAt_retainNonzero,hat]

section
variable {m:AmountMap} (h:IsBalance m)
include h

lemma IsBalance.toList_nonneg:∀e∈m.toList,0≤e.2:=by
 intro e he
 exact (h e.1 e.2 (mem_toList_iff_getElem?_eq_some.mp he)).1.le

lemma IsBalance.mapToAmounts_eq:mapToAmounts m=m.toList.map amountOfEntry:=by
 rw [mapToAmounts,←List.filterMap_eq_map]
 apply filterMap_congr
 rintro ⟨key,n⟩ he
 have hpos:=(h key n (mem_toList_iff_getElem?_eq_some.mp he)).1
 rw [if_neg (by omega)]
 rfl

lemma IsBalance.canonicalKeys:CanonicalKeys m:=fun key n hn=>(h key n hn).2.2.canonical

lemma IsBalance.amountKey_entry{e:AmountKey×ℤ}(he:e∈m.toList):amountKey (amountOfEntry e)=e.1:=by
 obtain ⟨⟨kind,unit,dims⟩,n⟩:=e
 have hcanonical:=h.canonicalKeys _ n (mem_toList_iff_getElem?_eq_some.mp he)
 simp only [amountKey,amountOfEntry,hcanonical]

lemma IsBalance.keyedAmounts_eq:keyedAmounts (mapToAmounts m)=m.toList:=by
 rw [h.canonicalKeys.keyedAmounts_mapToAmounts,filter_eq_self]
 rintro ⟨key,n⟩ he
 have hpos:=(h key n (mem_toList_iff_getElem?_eq_some.mp he)).1
 simp only [ne_eq,decide_eq_true_eq]
 omega

lemma IsBalance.validAmounts:ValidAmounts (mapToAmounts m):=by
 refine ⟨?_,?_,?_⟩
 · intro a ha
   rw [h.mapToAmounts_eq] at ha
   obtain ⟨⟨key,n⟩,he,rfl⟩:=List.mem_map.mp ha
   exact (h key n (mem_toList_iff_getElem?_eq_some.mp he)).1.le
 · intro a ha
   rw [h.mapToAmounts_eq] at ha
   obtain ⟨⟨key,n⟩,he,rfl⟩:=List.mem_map.mp ha
   rw [h.amountKey_entry he]
   exact (h key n (mem_toList_iff_getElem?_eq_some.mp he)).2.2
 · intro key
   rw [h.keyedAmounts_eq,totalAt_toList]
   exact (h.range key).2

lemma amountsToMap_mapToAmounts:amountsToMap (mapToAmounts m)=.ok m:=by
 obtain ⟨m',hok,hbal,hat⟩:=amountsToMap_ok h.validAmounts
 have heq:m'=m:=by
  apply hbal.ext h
  intro key
  rw [hat,h.keyedAmounts_eq,totalAt_toList]
 rw [hok,heq]
end

section
variable {t a:AmountMap} (ht:IsBalance t) (ha:IsBalance a)
include ht ha

lemma validKey_of_accumulate{ε:Type}{overflow:AmountKey→ε}{op:ℤ→ℤ→Option ℤ}
  {es:List (AmountKey×ℤ)}{m:AmountMap}(hes:∀e∈es,∃f∈a.toList,f.1=e.1)
  (hm:accumulate overflow op es t=.ok m){n:ℤ}(hn:m[key]?=some n):ValidKey key:=by
 rcases lookup_accumulate hm hn with ht'|⟨e,he,rfl⟩
 · exact (ht key n ht').2.2
 · obtain ⟨f,hf,hfe⟩:=hes e he
   rw [←hfe]
   exact (ha f.1 f.2 (mem_toList_iff_getElem?_eq_some.mp hf)).2.2

lemma addAmounts_ok(hsum:∀key,amountAt t key+amountAt a key ≤ i64Max):
  ∃m,addAmounts t a=.ok m∧IsBalance m∧∀key,amountAt m key=amountAt t key+amountAt a key:=by
 obtain ⟨m,hm⟩:=accumulate_isOk (fun _=>usageAmountOverflowError)
  (.inl ha.toList_nonneg) ht.wide (fun e _=>by
   have:=ht.range e.1
   have:=ha.range e.1
   have:=hsum e.1
   rw [totalAt_toList]
   unfold i64Min
   omega)
 have hat:∀key,amountAt m key=amountAt t key+amountAt a key:=by
  intro key
  rw [amountAt_accumulate hm,totalAt_toList]
 refine ⟨retainNonzero m,by rw [addAmounts,hm];rfl,?_,?_⟩
 · apply isBalance_retainNonzero
   intro key n hn
   have hnat:=amountAt_of_lookup hn
   rw [hat] at hnat
   have h1:=ht.range key
   have h2:=ha.range key
   refine ⟨by omega,hnat▸hsum key,?_⟩
   exact validKey_of_accumulate ht ha (fun e he=>⟨e,he,rfl⟩) hm hn
 · intro key
   rw [amountAt_retainNonzero,hat]

lemma addAmounts_spec{m:AmountMap}(h:addAmounts t a=.ok m):
  IsBalance m∧∀key,amountAt m key=amountAt t key+amountAt a key:=by
 have hsum:∀key,amountAt t key+amountAt a key ≤ i64Max:=by
  intro key
  rw [addAmounts] at h
  cases hacc:accumulate (fun _=>usageAmountOverflowError) checkedAddI64 a.toList t with
  | error e=>
   rw [hacc] at h
   cases h
  | ok m'=>
   have hrange:=(accumulate_range hacc ht.wide key).2
   rwa [amountAt_accumulate hacc,totalAt_toList] at hrange
 obtain ⟨m',hok,hbal,hat⟩:=addAmounts_ok ht ha hsum
 rw [hok] at h
 cases h
 exact ⟨hbal,hat⟩

lemma subtractAmounts_ok(hle:∀key,amountAt a key≤amountAt t key):
  ∃m,subtractAmounts t a=.ok m∧IsBalance m∧∀key,amountAt m key=amountAt t key-amountAt a key:=by
 have hneg:∀e∈a.toList.map (fun e=>(e.1,-e.2)),e.2≤0:=by
  intro e he
  obtain ⟨f,hf,rfl⟩:=List.mem_map.mp he
  have:=ha.toList_nonneg f hf
  simpa using this
 obtain ⟨m,hm⟩:=accumulate_isOk (fun _=>usageAmountOverflowError)
  (.inr hneg) ht.wide (fun e _=>by
   have:=ht.range e.1
   have:=ha.range e.1
   have:=hle e.1
   rw [totalAt_neg,totalAt_toList]
   unfold i64Min
   omega)
 have hat:∀key,amountAt m key=amountAt t key-amountAt a key:=by
  intro key
  rw [amountAt_accumulate hm,totalAt_neg,totalAt_toList]
  omega
 refine ⟨retainNonzero m,by rw [subtractAmounts,accumulate_sub,hm];rfl,?_,?_⟩
 · apply isBalance_retainNonzero
   intro key n hn
   have hnat:=amountAt_of_lookup hn
   rw [hat] at hnat
   have h1:=ht.range key
   have h2:=ha.range key
   have h3:=hle key
   refine ⟨by omega,by omega,?_⟩
   refine validKey_of_accumulate ht ha (fun e he=>?_) hm hn
   obtain ⟨f,hf,rfl⟩:=List.mem_map.mp he
   exact ⟨f,hf,rfl⟩
 · intro key
   rw [amountAt_retainNonzero,hat]
end

lemma exceededKey_none_iff{requested limit:AmountMap}(hlimit:∀key,0≤amountAt limit key):
  exceededKey requested limit=none ↔ ∀key,amountAt requested key≤amountAt limit key:=by
 rw [exceededKey,map_eq_none_iff,List.find?_eq_none]
 constructor
 · intro h key
   rw [amountAt_eq requested]
   cases hk:requested[key]? with
   | none=>exact hlimit key
   | some n=>
    have hmem:=h (key,n) (mem_toList_iff_getElem?_eq_some.mpr hk)
    simpa using hmem
 · rintro h ⟨key,n⟩ he
   have hk:=amountAt_of_lookup (mem_toList_iff_getElem?_eq_some.mp he)
   have:=h key
   rw [hk] at this
   simpa using this

section
variable (other:AmountMap) (es:List (AmountKey×ℤ)) (m:AmountMap)

lemma lookup_excess{n:ℤ}(h:(es.foldl (excessStep other) m)[key]?=some n):
  m[key]?=some n∨(0<n∧∃total,(key,total)∈es∧n=total-amountAt other key):=by
 induction es generalizing m with
 | nil=>exact .inl h
 | cons e es ih=>
  rcases ih _ h with hm|⟨hpos,total,hmem,hn⟩
  · unfold excessStep at hm
    simp only at hm
    split at hm
    · next hextra=>
      rw [lookup_insert] at hm
      split at hm
      · next he=>
        subst he
        cases hm
        exact .inr ⟨hextra,e.2,mem_cons_self,rfl⟩
      · exact .inl hm
    · exact .inl hm
  · exact .inr ⟨hpos,total,mem_cons_of_mem _ hmem,hn⟩

lemma excess_kept
  (hn:(es.map Prod.fst).Nodup):(∀e∈es,e.1≠key)→(es.foldl (excessStep other) m)[key]?=m[key]?:=by
 induction es generalizing m with
 | nil=>intro _;rfl
 | cons e es ih=>
  intro hne
  rw [map_cons,nodup_cons] at hn
  rw [foldl_cons,ih _ hn.2 (fun f hf=>hne f (mem_cons_of_mem _ hf))]
  unfold excessStep
  simp only
  split
  · rw [lookup_insert_ne _ _ (hne e mem_cons_self)]
  · rfl

lemma excess_found
  (hn:(es.map Prod.fst).Nodup){total:ℤ}(hmem:(key,total)∈es)(hpos:0<total-amountAt other key):
  (es.foldl (excessStep other) m)[key]?=some (total-amountAt other key):=by
 induction es generalizing m with
 | nil=>simp at hmem
 | cons e es ih=>
  rw [map_cons,nodup_cons] at hn
  rcases mem_cons.mp hmem with rfl|hmem
  · rw [foldl_cons,excess_kept other es _ hn.2]
    · unfold excessStep
      simp only
      rw [if_pos hpos,lookup_insert_self]
    · intro f hf hfk
      exact hn.1 (List.mem_map.mpr ⟨f,hf,hfk⟩)
  · exact ih _ hn.2 hmem

end

lemma excessAmounts_spec{a b:AmountMap}(ha:IsBalance a)(hb:IsBalance b):
  IsBalance (excessAmounts a b) ∧
   ∀key,amountAt (excessAmounts a b) key=max 0 (amountAt a key-amountAt b key):=by
 refine ⟨?_,?_⟩
 · intro key n hn
   rcases lookup_excess b a.toList ∅ hn with hnone|⟨hpos,total,hmem,rfl⟩
   · rw [ExtTreeMap.getElem?_empty] at hnone
     cases hnone
   · obtain ⟨-,hmax,hkey⟩:=ha key total (mem_toList_iff_getElem?_eq_some.mp hmem)
     have:=hb.range key
     exact ⟨hpos,by omega,hkey⟩
 · intro key
   by_cases hpos:0<amountAt a key-amountAt b key
   · have hb':=hb.range key
     have hlookup:a[key]?=some (amountAt a key):=by rw [ha.lookup,if_neg (by omega)]
     have hfound:=excess_found b a.toList ∅ (nodup_keys_toList a)
      (mem_toList_iff_getElem?_eq_some.mpr hlookup) hpos
     rw [excessAmounts,amountAt_of_lookup hfound]
     omega
   · rw [amountAt_eq]
     cases hk:(excessAmounts a b)[key]? with
     | none=>
      simp only [getD_none]
      omega
     | some n=>
      rcases lookup_excess b a.toList ∅ hk with hnone|⟨hn,total,hmem,rfl⟩
      · rw [ExtTreeMap.getElem?_empty] at hnone
        cases hnone
      · rw [amountAt_of_lookup (mem_toList_iff_getElem?_eq_some.mp hmem)] at hpos
        omega

lemma available_le(allocated reserved committed:AmountMap)(key:AmountKey):
  amountAt (availableAmounts allocated reserved committed) key ≤
   max 0 (amountAt allocated key-amountAt reserved key-amountAt committed key) ∧
  0≤amountAt (availableAmounts allocated reserved committed) key:=by
 have hloop:∀(keys:List AmountKey) (m:AmountMap),(amountAt m key ≤
    max 0 (amountAt allocated key-amountAt reserved key-amountAt committed key) ∧
    0≤amountAt m key) →
   amountAt (keys.foldl (availableStep allocated reserved committed) m) key ≤
    max 0 (amountAt allocated key-amountAt reserved key-amountAt committed key) ∧
    0≤amountAt (keys.foldl (availableStep allocated reserved committed) m) key:=by
  intro keys
  induction keys with
  | nil=>intro m hm;exact hm
  | cons k keys ih=>
   intro m hm
   apply ih
   unfold availableStep
   simp only
   split
   · next hrem=>
     rw [amountAt_insert]
     split
     · next hk=>
       subst hk
       omega
     · exact hm
   · exact hm
 exact hloop _ ∅ (by simp)

end GraphBlocks.Budget
