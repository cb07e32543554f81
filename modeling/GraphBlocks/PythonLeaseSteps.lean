import GraphBlocks.PythonLeases

namespace GraphBlocks.PythonLeases
open PythonStd RustStd List Option

lemma nonEmptyString_val(fieldName:String)(value:Text):
  nonEmptyString fieldName value.1=.ok value:=by
 rw [nonEmptyString,dif_neg value.2.1,dif_pos value.2.2]

variable {fieldName:String}

lemma nonEmptyString_ok{value:String}{text:Text}
  (h:nonEmptyString fieldName value=.ok text):text.1=value:=by
 unfold nonEmptyString at h
 split_ifs at h
 cases h
 rfl

lemma positiveInteger_ok{value:ℤ}{count:Count}
  (h:positiveInteger fieldName value=.ok count):(count.1:ℤ)=value:=by
 unfold positiveInteger at h
 split_ifs at h with hpositive hmax
 cases h
 exact Int.toNat_of_nonneg (by omega)

variable {n:ℕ}

lemma positiveInteger_val(fieldName:String)(h:0<n∧n≤ maxU64):
  positiveInteger fieldName n=.ok ⟨n,h⟩:=by
 rw [positiveInteger,dif_neg (by omega),dif_neg (by omega)]
 rfl

lemma nonNegativeInteger_val(fieldName:String)(h:n≤ maxU64):
  nonNegativeInteger fieldName n=.ok ⟨n,h⟩:=by
 rw [nonNegativeInteger,if_neg (by omega),dif_neg (by omega)]
 rfl

lemma nonNegativeInteger_ok{value:ℤ}{token:Token}
  (h:nonNegativeInteger fieldName value=.ok token):(token.1:ℤ)=value:=by
 unfold nonNegativeInteger at h
 split_ifs at h with hnegative hmax
 cases h
 exact Int.toNat_of_nonneg (by omega)

lemma validateTime_val(fieldName:String)(time:Time):
  validateTime fieldName (.finite time.1)=.ok time:=by
 rw [validateTime,dif_pos time.2]

lemma validateOptionalTime_val(fieldName:String)(time:Option Time):
  validateOptionalTime fieldName (time.map fun time=>.finite time.1)=.ok time:=by
 cases time with
 | none=>rfl
 | some time=>
  rw [map_some,validateOptionalTime,validateTime_val]
  rfl

section
variable {α:Type}

lemma activeLease_new(resource owner:Text){units fencingToken:ℕ}(hunits:0<units∧units≤ maxU64)
  (htoken:fencingToken≤ maxU64)(attributes:α){acquiredAt:Time}{expiresAt:Option Time}
  (interval:∀expires,expiresAt=some expires→acquiredAt<expires):
  ActiveLease.new resource.1 owner.1 units fencingToken attributes (.finite acquiredAt.1)
    (expiresAt.map fun expires=>.finite expires.1) =
   .ok { resource,owner,units:=⟨units,hunits⟩,fencingToken:=⟨fencingToken,htoken⟩
         attributes,acquiredAt,expiresAt,interval }:=by
 simp only [ActiveLease.new,nonEmptyString_val,positiveInteger_val _ hunits,
  nonNegativeInteger_val _ htoken,validateTime_val,validateOptionalTime_val,ok_bind]
 rw [dif_pos interval]

lemma checkLease_ok(leaseId resource owner:Text){units fencingToken:ℕ}
  (hunits:0<units∧units≤ maxU64)(htoken:fencingToken≤ maxU64):
  checkLease leaseId.1 resource.1 owner.1 units fencingToken=.ok ():=by
 simp only [checkLease,nonEmptyString_val,positiveInteger_val _ hunits,
  nonNegativeInteger_val _ htoken,ok_bind]
 rfl

structure Drops (pool after:InMemoryLeasePool α) : Prop where
 capacities:after.capacities=pool.capacities
 nextId:after.nextId=pool.nextId
 nextFencingToken:after.nextFencingToken=pool.nextFencingToken
 authorityClock:after.authorityClock=pool.authorityClock
 items:after.active.items.Sublist pool.active.items

lemma Drops.refl(pool:InMemoryLeasePool α):Drops pool pool:=
 ⟨rfl,rfl,rfl,rfl,List.Sublist.refl _⟩

variable {pool:InMemoryLeasePool α} {after:InMemoryLeasePool α}

lemma Drops.get?(h:Drops pool after){id:Text}{active:ActiveLease α}
  (hid:after.active.get? id=some active):pool.active.get? id=some active:=by
 rw [Dict.get?_eq_some_iff] at hid ⊢
 exact h.items.subset hid

lemma Drops.usedUnits_le(h:Drops pool after)(resource:Text):
  usedUnits after resource≤usedUnits pool resource:=by
 have hsub:=(((h.items.map Prod.snd).filter fun active=>active.resource==resource).map
  fun active=>active.units.1)
 exact hsub.sum_le_sum fun _ _=>Nat.zero_le _

lemma drops_popAll(pool:InMemoryLeasePool α)(ids:List Text):
  Drops pool { pool with active:=pool.active.popAll ids }:=
 ⟨rfl,rfl,rfl,rfl,Dict.items_popAll_sublist _ _⟩

lemma drops_reap(pool:InMemoryLeasePool α)(now:ℚ):Drops pool (reap pool now):=
 drops_popAll pool _

lemma leaseIdText_injective:Function.Injective leaseIdText:=by
 intro m n h
 have htext:leaseIdOf m=leaseIdOf n:=congrArg Subtype.val h
 exact zeroPadded_injective 6 (append_left_injective "lease-" htext)

lemma freeNumber_spec(pool:InMemoryLeasePool α)(rounds number:ℕ)(passed:List ℕ)
  (hnodup:passed.Nodup)(hbelow:∀m∈passed,m<number)
  (htaken:∀m∈passed,(pool.active.get? (leaseIdText m)).isSome=true)
  (hlength:passed.length+rounds=pool.active.items.length):
  number≤freeNumber pool rounds number∧(freeNumber pool rounds number< maxU64 →
    pool.active.get? (leaseIdText (freeNumber pool rounds number))=none):=by
 induction rounds generalizing number passed with
 | zero=>
  refine ⟨Nat.le_refl _,?_⟩
  intro _
  rw [freeNumber,←not_isSome_iff_eq_none]
  intro hsome
  have hkeys:((number::passed).map leaseIdText) ⊆ pool.active.items.map Prod.fst:=by
   intro id hid
   obtain ⟨m,hm,rfl⟩:=List.mem_map.mp hid
   have htakenM:(pool.active.get? (leaseIdText m)).isSome=true:=by
    rcases mem_cons.mp hm with rfl|hm
    · exact hsome
    · exact htaken m hm
   obtain ⟨active,hactive⟩:=isSome_iff_exists.mp htakenM
   exact List.mem_map.mpr ⟨_,(Dict.get?_eq_some_iff _ _ _).mp hactive,rfl⟩
  have hfresh:number∉passed:=fun hmem=>absurd (hbelow number hmem) (Nat.lt_irrefl _)
  have hdistinct:=(nodup_cons.mpr ⟨hfresh,hnodup⟩).map leaseIdText_injective
  have hle:=(subperm_of_subset hdistinct hkeys).length_le
  rw [length_map,length_map,length_cons] at hle
  omega
 | succ rounds ih=>
  rw [freeNumber]
  split
  · next htake=>
    have hnext:=ih (number+1) (number::passed)
     (nodup_cons.mpr ⟨fun hmem=>absurd (hbelow number hmem) (Nat.lt_irrefl _),hnodup⟩)
     (by
      intro m hm
      rcases mem_cons.mp hm with rfl|hm
      · omega
      · have:=hbelow m hm
        omega)
     (by
      intro m hm
      rcases mem_cons.mp hm with rfl|hm
      · exact htake.2
      · exact htaken m hm)
     (by rw [length_cons];omega)
    exact ⟨by omega,hnext.2⟩
  · next hfree=>
    refine ⟨Nat.le_refl _,?_⟩
    intro hlt
    rw [←not_isSome_iff_eq_none]
    exact fun hsome=>hfree ⟨hlt,hsome⟩

lemma firstFreeNumber_spec(pool:InMemoryLeasePool α):pool.nextId≤firstFreeNumber pool ∧
   (firstFreeNumber pool< maxU64→pool.active.get? (leaseIdText (firstFreeNumber pool))=none):=
 freeNumber_spec pool _ _ [] nodup_nil (by simp) (by simp) (by simp)

lemma le_foldr_max{l:List ℕ}(h:n∈l):n≤l.foldr max 0:=by
 induction l with
 | nil=>cases h
 | cons m l ih=>
  rw [foldr_cons]
  rcases mem_cons.mp h with rfl|h
  · exact Nat.le_max_left _ _
  · exact (ih h).trans (Nat.le_max_right _ _)

lemma fencingCandidate_spec(pool:InMemoryLeasePool α):
  pool.nextFencingToken≤fencingCandidate pool∧∀id active,pool.active.get? id=some active →
    active.fencingToken.1<fencingCandidate pool:=by
 rw [fencingCandidate]
 split
 · next hempty=>
   refine ⟨Nat.le_refl _,?_⟩
   intro id active hid
   rw [Dict.get?_eq_some_iff,List.isEmpty_iff.mp hempty] at hid
   cases hid
 · refine ⟨Nat.le_max_left _ _,?_⟩
   intro id active hid
   have hmem:active.fencingToken.1 ∈ pool.active.values.map fun active=>active.fencingToken.1:=
    List.mem_map_of_mem ((Dict.mem_values_iff _ _).mpr ⟨id,hid⟩)
   have hle:active.fencingToken.1≤ maxActiveFencingToken pool:=le_foldr_max hmem
   have hmax:=Nat.le_max_right pool.nextFencingToken (maxActiveFencingToken pool+1)
   omega

structure FreshToken (pool after:InMemoryLeasePool α) (token:ℕ) : Prop where
 above:pool.nextFencingToken≤token
 unused:∀id active,pool.active.get? id=some active→active.fencingToken.1<token
 bound:token< maxU64
 counter:after.nextFencingToken=token+1

/-- What `acquire` does to the reaped pool. -/
structure Issues (pool after:InMemoryLeasePool α) (leaseId:Text) (token:ℕ) : Prop where
 fenced:FreshToken pool after token
 number:∃n,leaseId=leaseIdText n∧pool.nextId≤n∧n< maxU64∧after.nextId=n+1
 fresh:pool.active.get? leaseId=none
 entry:∃active capacity,after.active=pool.active.set leaseId active ∧
  active.fencingToken.1=token∧pool.capacities.get? active.resource=some capacity ∧
   usedUnits pool active.resource+active.units.1≤capacity.1
 capacities:after.capacities=pool.capacities
 authorityClock:after.authorityClock=pool.authorityClock

variable {request:AcquireRequest α}

lemma issueLease_issues(hcapacity:pool.capacities.get? request.resource=some request.capacity)
  (havailable:usedUnits pool request.resource+request.units≤request.capacity.1)
  (hnumber:firstFreeNumber pool< maxU64)(htoken:fencingCandidate pool< maxU64):
  ∃leaseId token,(issueLease pool request).1=.ok (leaseId,token) ∧
   Issues pool (issueLease pool request).2 leaseId token:=by
 have hunits:0<request.units∧request.units≤ maxU64:=by
  have hmax:=request.capacity.2.2
  exact ⟨request.positive,by omega⟩
 have hid:allocateLeaseId pool=(.ok (leaseIdText (firstFreeNumber pool)),
   { pool with nextId:=firstFreeNumber pool+1 }):=if_pos hnumber
 have hfence:allocateFencingToken { pool with nextId:=firstFreeNumber pool+1 } =
   (.ok (fencingCandidate pool),
    { pool with
      nextId:=firstFreeNumber pool+1,nextFencingToken:=fencingCandidate pool+1 }):=if_pos htoken
 have hnew:=activeLease_new request.resource request.owner hunits htoken.le
  request.attributes request.interval
 have hcheck:=checkLease_ok (leaseIdText (firstFreeNumber pool)) request.resource
  request.owner hunits htoken.le
 have hspec:=firstFreeNumber_spec pool
 have hcandidate:=fencingCandidate_spec pool
 refine ⟨leaseIdText (firstFreeNumber pool),fencingCandidate pool,?_,?_⟩
 · simp only [issueLease,hid,hfence,insertLease,hnew,hcheck]
   rfl
 · simp only [issueLease,hid,hfence,insertLease,hnew]
   exact {
    fenced:=⟨hcandidate.1,hcandidate.2,htoken,rfl⟩
    number:=⟨firstFreeNumber pool,rfl,hspec.1,hnumber,rfl⟩
    fresh:=hspec.2 hnumber
    entry:=⟨_,request.capacity,rfl,rfl,hcapacity,havailable⟩
    capacities:=rfl
    authorityClock:=rfl }

lemma grantLease_cases(pool:InMemoryLeasePool α)
  (hcapacity:pool.capacities.get? request.resource=some request.capacity):
  (∃e,grantLease pool request=(.error e,pool)) ∨
   ∃leaseId token,(grantLease pool request).1=.ok (leaseId,token) ∧
    Issues pool (grantLease pool request).2 leaseId token:=by
 simp only [grantLease]
 split
 · exact .inl ⟨_,rfl⟩
 · next havailable=>
   cases hcheck:checkCounters pool with
   | error e=>exact .inl ⟨e,rfl⟩
   | ok u=>
    simp only [checkCounters,bind_ok,ensure_ok,decide_eq_true_eq] at hcheck
    obtain ⟨_,hnumber,_,_,htoken⟩:=hcheck
    exact .inr (issueLease_issues hcapacity (by omega) hnumber htoken)

/-- What `renew` does to the reaped pool. -/
structure Renews (pool after:InMemoryLeasePool α) (leaseId:Text) (token:ℕ) : Prop where
 fenced:FreshToken pool after token
 entry:∃active renewed,pool.active.get? leaseId=some active ∧
  after.active=pool.active.set leaseId renewed∧renewed.fencingToken.1=token ∧
   renewed.resource=active.resource∧renewed.units=active.units ∧
    ∃old new,active.expiresAt=some old∧renewed.expiresAt=some new∧old<new
 nextId:after.nextId=pool.nextId
 capacities:after.capacities=pool.capacities
 authorityClock:after.authorityClock=pool.authorityClock

lemma activeLease_ok{leaseId:String}{id:Text}{active:ActiveLease α}
  (h:activeLease pool leaseId=.ok (id,active)):id.1=leaseId∧pool.active.get? id=some active:=by
 simp only [activeLease,bind_ok] at h
 obtain ⟨text,htext,h⟩:=h
 split at h
 · next found hfound=>
   cases h
   exact ⟨nonEmptyString_ok htext,hfound⟩
 · cases h

lemma extendLease_cases(pool:InMemoryLeasePool α)(request:RenewRequest):
  (∃e,extendLease pool request=(.error e,pool)) ∨ ∃leaseId token,leaseId.1=request.leaseId ∧
    (extendLease pool request).1=.ok token ∧
     Renews pool (extendLease pool request).2 leaseId token:=by
 rw [extendLease]
 cases hrenewable:renewable pool request with
 | error e=>exact .inl ⟨e,rfl⟩
 | ok found=>
  simp only [renewable,bind_ok,ensure_ok] at hrenewable
  obtain ⟨⟨leaseId,active⟩,hactive,_,_,_,_,_,hextends,h⟩:=hrenewable
  cases h
  obtain ⟨hid,hfound⟩:=activeLease_ok hactive
  obtain ⟨old,hold,hlater⟩:=(Option.any_eq_true _ _).mp hextends
  have hinterval:∀expires,some request.expiresAt=some expires→active.acquiredAt<expires:=by
   intro expires h
   cases h
   exact (active.interval old hold).trans (of_decide_eq_true hlater)
  simp only [replaceLease,allocateFencingToken]
  by_cases htoken:fencingCandidate pool< maxU64
  · have hnew:=activeLease_new active.resource active.owner active.units.2 htoken.le
     active.attributes hinterval
    simp only [map_some] at hnew
    simp only [if_pos htoken,hnew]
    have hcandidate:=fencingCandidate_spec pool
    refine .inr ⟨leaseId,fencingCandidate pool,hid,rfl,?_⟩
    exact {
     fenced:=⟨hcandidate.1,hcandidate.2,htoken,rfl⟩
     entry:=⟨active,_,hfound,rfl,rfl,rfl,rfl,old,request.expiresAt,hold,rfl,
      of_decide_eq_true hlater⟩
     nextId:=rfl
     capacities:=rfl
     authorityClock:=rfl }
  · simp only [if_neg htoken]
    exact .inl ⟨_,rfl⟩
end

end GraphBlocks.PythonLeases
