import GraphBlocks.PythonLeaseSteps

/-! What `InMemoryLeasePool.__post_init__` establishes for the records it accepts: the units of
every resource fit its capacity, and the counters stand above the restored ids and tokens. -/
namespace GraphBlocks.PythonLeases
open PythonStd RustStd List Option

variable {α:Type}

def sumUnits (resource:Text) (items:List (Text×ActiveLease α)) : ℕ :=
 (((items.map Prod.snd).filter fun active=>active.resource==resource).map
  fun active=>active.units.1).sum

lemma usedUnits_eq(pool:InMemoryLeasePool α)(resource:Text):
  usedUnits pool resource=sumUnits resource pool.active.items:=rfl

lemma sumUnits_concat(resource:Text)(items:List (Text×ActiveLease α))(id:Text)
  (active:ActiveLease α):sumUnits resource (items++[(id,active)]) =
   sumUnits resource items+if active.resource=resource then active.units.1 else 0:=by
 simp only [sumUnits,map_append,filter_append,sum_append,map_cons,map_nil]
 by_cases h:active.resource=resource
 · simp [h]
 · have hne:(active.resource==resource)=false:=beq_false_of_ne h
   simp only [filter_cons,hne,if_neg h]
   rfl

structure Funded (pool:InMemoryLeasePool α) : Prop where
 known:∀id active,pool.active.get? id=some active →
  ∃capacity,pool.capacities.get? active.resource=some capacity
 within:∀resource capacity,pool.capacities.get? resource=some capacity →
  usedUnits pool resource≤capacity.1

lemma toList_leaseIdOf(n:ℕ):
  (leaseIdOf n).toList="lease-".toList++(zeroPadded 6 n).toList:=String.toList_append

lemma restoredSuffix_leaseIdOf(n:ℕ):restoredSuffix (leaseIdOf n)=some (zeroPadded 6 n).toList:=by
 have hdrop:(leaseIdOf n).toList.drop 6=(zeroPadded 6 n).toList:=by
  rw [toList_leaseIdOf]
  rfl
 have hstart : "lease-".toList.isPrefixOf (leaseIdOf n).toList=true:=by
  rw [toList_leaseIdOf, isPrefixOf_iff_prefix]
  exact prefix_append _ _
 have hdigits:(zeroPadded 6 n).toList.all Char.isDigit=true:=List.all_eq_true.mpr (zeroPadded_digits 6 n)
 have hne:(zeroPadded 6 n).toList.isEmpty=false:=by
  rw [isEmpty_eq_false_iff]
  intro h
  exact zeroPadded_ne_empty 6 n (String.toList_inj.mp (by simpa using h))
 simp only [restoredSuffix,hdrop,hstart,hdigits,hne,Bool.not_false,Bool.and_self,if_true]

lemma value_zeroPadded(width n:ℕ):DigitStrings.value (zeroPadded width n).toList=n:=by
 simp [DigitStrings.value,zeroPadded,Nat.ofDigitChars_append,Nat.ofDigitChars_replicate_zero]

lemma restoredId_leaseIdOf{n number:ℕ}(h:restoredId (leaseIdOf n)=.ok number):number=n:=by
 rw [restoredId,restoredSuffix_leaseIdOf] at h
 simp only [bind_ok] at h
 obtain ⟨_,_,_,_,h⟩:=h
 cases h
 exact value_zeroPadded 6 n

structure Tallied (capacities:Dict Text Count) (seen:List (Text×ActiveLease α))
  (restored:Restored) : Prop where
 ids:∀item∈seen,∀n,item.1=leaseIdText n→n≤restored.maxRestoredId
 bound:∀item∈seen,item.2.fencingToken.1≤restored.maxRestoredFencingToken
 units:∀resource,(restored.restoredUnits.get? resource).getD 0=sumUnits resource seen
 known:∀item∈seen,∃capacity,capacities.get? item.2.resource=some capacity
 within:∀resource capacity,capacities.get? resource=some capacity→sumUnits resource seen≤capacity.1
 tokens:∀token,token∈restored.restoredFencingTokens↔token∈seen.map fun item=>item.2.fencingToken
 distinct:(seen.map fun item=>item.2.fencingToken).Nodup

lemma tallied_nil(capacities:Dict Text Count):
  Tallied capacities ([]:List (Text×ActiveLease α)) ⟨0,0,Dict.empty,[]⟩:=by
 constructor <;>simp [sumUnits]

variable {capacities:Dict Text Count}

lemma Tallied.step{seen:List (Text×ActiveLease α)}{restored next:Restored}{id:Text}
  {active:ActiveLease α}(h:Tallied capacities seen restored)
  (hstep:restoreLease capacities restored id active=.ok next):
  Tallied capacities (seen++[(id,active)]) next:=by
 simp only [restoreLease] at hstep
 cases hcapacity:capacities.get? active.resource with
 | none=>
  rw [hcapacity] at hstep
  cases hstep
 | some capacity=>
  simp only [hcapacity,bind_ok,ensure_ok,decide_eq_true_eq] at hstep
  obtain ⟨_,hwithin,_,_,_,hunique,number,hnumber,hnext⟩:=hstep
  cases hnext
  rw [h.units] at hwithin
  constructor
  · intro item hitem n hn
    rcases mem_append.mp hitem with hitem|hitem
    · exact (h.ids item hitem n hn).trans (Nat.le_max_left _ _)
    · obtain rfl:=mem_singleton.mp hitem
      obtain rfl:id=leaseIdText n:=hn
      rw [restoredId_leaseIdOf hnumber]
      exact Nat.le_max_right _ _
  · intro item hitem
    rcases mem_append.mp hitem with hitem|hitem
    · exact (h.bound item hitem).trans (Nat.le_max_left _ _)
    · obtain rfl:=mem_singleton.mp hitem
      exact Nat.le_max_right _ _
  · intro resource
    rw [Dict.get?_set,sumUnits_concat]
    by_cases hresource:resource=active.resource
    · rw [if_pos hresource,if_pos hresource.symm,hresource,getD_some,h.units]
    · rw [if_neg hresource,if_neg (Ne.symm hresource),h.units,Nat.add_zero]
  · intro item hitem
    rcases mem_append.mp hitem with hitem|hitem
    · exact h.known item hitem
    · obtain rfl:=mem_singleton.mp hitem
      exact ⟨capacity,hcapacity⟩
  · intro resource limit hlimit
    rw [sumUnits_concat]
    by_cases hresource:active.resource=resource
    · rw [if_pos hresource]
      subst hresource
      rw [hcapacity] at hlimit
      cases hlimit
      exact hwithin
    · rw [if_neg hresource,Nat.add_zero]
      exact h.within resource limit hlimit
  · intro token
    rw [mem_cons,h.tokens,map_append,mem_append,map_singleton,mem_singleton,or_comm]
  · rw [map_append,nodup_append]
    refine ⟨h.distinct,nodup_singleton _,?_⟩
    intro token htoken other hother heq
    rw [map_singleton,mem_singleton] at hother
    subst hother
    subst heq
    rw [←h.tokens] at htoken
    simp [htoken] at hunique

lemma restoreLeases_tallied{seen items:List (Text×ActiveLease α)}{restored result:Restored}
  (h:Tallied capacities seen restored)(hok:restoreLeases capacities restored items=.ok result):
  Tallied capacities (seen++items) result:=by
 induction items generalizing seen restored with
 | nil=>
  cases hok
  rw [append_nil]
  exact h
 | cons item items ih=>
  simp only [restoreLeases,bind_ok] at hok
  obtain ⟨next,hnext,hok⟩:=hok
  have hrest:=ih (h.step hnext) hok
  rwa [append_assoc] at hrest

lemma copyCapacities_items{items:List (String×ℤ)}{result:Dict Text Count}
  (h:copyCapacities capacities items=.ok result):
  result.items.map (fun item=>(item.1.1,(item.2.1:ℤ))) =
   capacities.items.map (fun item=>(item.1.1,(item.2.1:ℤ)))++items:=by
 induction items generalizing capacities with
 | nil=>
  cases h
  rw [append_nil]
 | cons item items ih=>
  simp only [copyCapacities,bind_ok,ensure_ok,isNone_iff_eq_none] at h
  obtain ⟨resource,hresource,_,hfresh,capacity,hcapacity,h⟩:=h
  rw [ih h,Dict.items_set_fresh _ _ hfresh,map_append,append_assoc]
  simp only [map_cons,map_nil,cons_append,nil_append,
   nonEmptyString_ok hresource,positiveInteger_ok hcapacity]

lemma copyActive_items{items:List (String×ActiveLease α)}
  {active result:Dict Text (ActiveLease α)}(h:copyActive active items=.ok result):
  result.items.map (fun item=>(item.1.1,item.2)) =
   active.items.map (fun item=>(item.1.1,item.2))++items:=by
 induction items generalizing active with
 | nil=>
  cases h
  rw [append_nil]
 | cons item items ih=>
  simp only [copyActive,bind_ok,ensure_ok,isNone_iff_eq_none] at h
  obtain ⟨leaseId,hleaseId,_,hfresh,h⟩:=h
  rw [ih h,Dict.items_set_fresh _ _ hfresh,map_append,append_assoc]
  simp only [map_cons,map_nil,cons_append,nil_append,nonEmptyString_ok hleaseId]

lemma dict_ext{κ ν:Type}[DecidableEq κ]{d e:Dict κ ν}(h:d.items=e.items):d=e:=by
 cases d
 cases e
 cases h
 rfl

def activeIds (pool:InMemoryLeasePool α) : List Text := pool.active.items.map Prod.fst

def activeTokens (pool:InMemoryLeasePool α) : List ℕ :=
 pool.active.items.map fun item=>item.2.fencingToken.1

/-- What holds of a pool that the constructor returns. -/
structure Constructed (capacities:List (String×ℤ)) (active:List (String×ActiveLease α))
  (nextId nextFencingToken:ℤ) (authorityClock:Bool) (pool:InMemoryLeasePool α) : Prop where
 capacities:pool.capacities.items.map (fun item=>(item.1.1,(item.2.1:ℤ)))=capacities
 active:pool.active.items.map (fun item=>(item.1.1,item.2))=active
 nextId:nextId≤pool.nextId
 nextFencingToken:nextFencingToken≤pool.nextFencingToken
 authorityClock:pool.authorityClock=authorityClock
 funded:Funded pool
 ids:∀id∈activeIds pool,∀n,id=leaseIdText n→n<pool.nextId∨maxU64≤pool.nextId
 tokens:∀token∈activeTokens pool,token<pool.nextFencingToken∨maxU64≤pool.nextFencingToken
 distinct:(activeTokens pool).Nodup

lemma counter_above{restored given limit n:ℕ}(h:n≤restored):
  n< max given (min (restored+1) limit)∨limit≤ max given (min (restored+1) limit):=by
 omega

lemma new_constructed{capacities:List (String×ℤ)}{active:List (String×ActiveLease α)}
  {nextId nextFencingToken:ℤ}{authorityClock:Bool}{pool:InMemoryLeasePool α}
  (h:InMemoryLeasePool.new capacities active nextId nextFencingToken authorityClock=.ok pool):
  Constructed capacities active nextId nextFencingToken authorityClock pool:=by
 simp only [InMemoryLeasePool.new,bind_ok] at h
 obtain ⟨copied,hcapacities,leases,hactive,restored,hrestored,firstId,hfirstId,
  firstToken,hfirstToken,h⟩:=h
 cases h
 have htallied:=restoreLeases_tallied (tallied_nil copied) hrestored
 rw [nil_append] at htallied
 have hidBound:=positiveInteger_ok hfirstId
 have htokenBound:=positiveInteger_ok hfirstToken
 constructor
 · exact (copyCapacities_items hcapacities).trans (nil_append _)
 · exact (copyActive_items hactive).trans (nil_append _)
 · change nextId≤((max firstId.1 (min (restored.maxRestoredId+1) maxU64):ℕ):ℤ)
   omega
 · change nextFencingToken ≤
    ((max firstToken.1 (min (restored.maxRestoredFencingToken+1) maxU64):ℕ):ℤ)
   omega
 · rfl
 · refine ⟨?_,htallied.within⟩
   intro id lease hid
   exact htallied.known (id,lease) ((Dict.get?_eq_some_iff _ _ _).mp hid)
 · intro id hid n hn
   obtain ⟨item,hitem,rfl⟩:=List.mem_map.mp hid
   exact counter_above (htallied.ids item hitem n hn)
 · intro token htoken
   obtain ⟨item,hitem,rfl⟩:=List.mem_map.mp htoken
   exact counter_above (htallied.bound item hitem)
 · have hmap:=htallied.distinct.map Subtype.val_injective
   rw [List.map_map] at hmap
   exact hmap

/-- A pool rebuilt from its own fields keeps them; only the counters may have moved on. -/
structure Rebuilds (pool after:InMemoryLeasePool α) : Prop where
 capacities:after.capacities=pool.capacities
 active:after.active=pool.active
 nextId:pool.nextId≤after.nextId
 nextFencingToken:pool.nextFencingToken≤after.nextFencingToken

lemma reconstruct_cases(pool:InMemoryLeasePool α)(authorityClock:Bool):
  (∃e,reconstruct pool authorityClock=(.error e,pool))∨((reconstruct pool authorityClock).1=.ok () ∧
    (reconstruct pool authorityClock).2.authorityClock=authorityClock ∧
     Rebuilds pool (reconstruct pool authorityClock).2):=by
 rw [reconstruct]
 split
 · exact .inl ⟨_,rfl⟩
 · next after hnew=>
   have h:=new_constructed hnew
   refine .inr ⟨rfl,h.authorityClock,?_,?_,Int.ofNat_le.mp h.nextId,
    Int.ofNat_le.mp h.nextFencingToken⟩
   · apply dict_ext
     refine map_injective_iff.mpr ?_ h.capacities
     rintro ⟨resource,capacity⟩ ⟨resource',capacity'⟩ heq
     simp only [Prod.mk.injEq,Nat.cast_inj] at heq
     exact Prod.ext (Subtype.ext heq.1) (Subtype.ext heq.2)
   · apply dict_ext
     refine map_injective_iff.mpr ?_ h.active
     rintro ⟨id,active⟩ ⟨id',active'⟩ heq
     simp only [Prod.mk.injEq] at heq
     exact Prod.ext (Subtype.ext heq.1) heq.2

end GraphBlocks.PythonLeases
