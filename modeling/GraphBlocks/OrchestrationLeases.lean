import GraphBlocks.MachineRuns
import GraphBlocks.PolicyTime
import Mathlib.Data.List.Sort
import Mathlib.Data.String.Basic

/-! `LeasePool` of the runtime core: a value that every call replaces. -/
namespace GraphBlocks.OrchestrationLeases
open MachineRuns PolicyTime RustStd List

inductive LeasePoolError where
 | capacity (fieldName:String) (value:ℕ)
 | invalidTimestamp (fieldName value:String)
 | invalidInterval (acquiredAt expiresAt:String)
 | exhausted (poolId:String) (requestedUnits availableUnits:ℕ)
 | resourceKindMismatch (expected actual:String)
 | leaseAlreadyExists (leaseId:String)
 | leaseNotFound (leaseId:String)
 | epochMismatch (leaseId:String) (expectedEpoch actualEpoch:ℕ)
 | arithmeticOverflow (fieldName:String)

structure LeaseRequest (M:Type) where
 requestId:String
 holder:String
 resourceKind:String
 units:ℕ
 metadata:M

structure LeaseGrant (M:Type) where
 leaseId:String
 requestId:String
 poolId:String
 holder:String
 resourceKind:String
 units:ℕ
 fencingEpoch:ℕ
 acquiredAt:String
 expiresAt:String
 metadata:M

structure LeasePool (M:Type) where
 poolId:String
 resourceKind:String
 capacityUnits:ℕ
 activeLeases:List (LeaseGrant M)
 nextFencingEpoch:ℕ
 policyRef:Option String
 metadata:M

variable {M:Type}

/-- The interval of a grant holds the instant. -/
def LeaseGrant.activeAt (lease:LeaseGrant M) (now:ℤ) : Bool :=
 match parsePolicyDatetimeMillis lease.acquiredAt, parsePolicyDatetimeMillis lease.expiresAt with
 | some acquiredAt, some expiresAt=>acquiredAt≤now&&now<expiresAt
 | _, _=>false

def LeaseGrant.isActiveAt (lease:LeaseGrant M) (now:String) : Bool :=
 match parsePolicyDatetimeMillis now with
 | some now=>lease.activeAt now
 | none=>false

def leaseOrder (a b:LeaseGrant M) : Prop :=
 a.expiresAt<b.expiresAt∨a.expiresAt=b.expiresAt∧a.leaseId≤b.leaseId

instance : DecidableRel (leaseOrder (M:=M)) := fun a b=>
 inferInstanceAs (Decidable (a.expiresAt<b.expiresAt∨a.expiresAt=b.expiresAt∧a.leaseId≤b.leaseId))

namespace LeasePool

variable (pool:LeasePool M)

/-- The loop of `normalized`: the units and the highest epoch of the leases. -/
def checkLeases (seen:List String) (usedUnits highestEpoch:ℕ) :
  List (LeaseGrant M)→Except LeasePoolError (ℕ×ℕ)
 | []=>.ok (usedUnits,highestEpoch)
 | lease::leases=>do
  ensure (lease.poolId=pool.poolId) (.resourceKindMismatch pool.poolId lease.poolId)
  ensure (lease.resourceKind=pool.resourceKind)
   (.resourceKindMismatch pool.resourceKind lease.resourceKind)
  ensure (lease.units≠0) (.capacity "units" lease.units)
  ensure (lease.leaseId∉seen) (.leaseAlreadyExists lease.leaseId)
  match checkedAdd usedUnits lease.units with
  | none=>.error (.arithmeticOverflow "used_units")
  | some total=>checkLeases (lease.leaseId::seen) total (max highestEpoch lease.fencingEpoch) leases

def normalized : Except LeasePoolError (LeasePool M) := do
 ensure (pool.capacityUnits≠0) (.capacity "capacity_units" pool.capacityUnits)
 let leases:=pool.activeLeases.insertionSort leaseOrder
 let (usedUnits,highestEpoch) ← pool.checkLeases [] 0 0 leases
 ensure (usedUnits≤pool.capacityUnits)
  (.exhausted pool.poolId usedUnits pool.capacityUnits)
 match checkedAdd highestEpoch 1 with
 | none=>.error (.arithmeticOverflow "next_fencing_epoch")
 | some nextAfterHighest=>
  .ok { pool with
   activeLeases:=leases,nextFencingEpoch:=max pool.nextFencingEpoch nextAfterHighest }

def usedUnits : ℕ :=
 pool.activeLeases.foldl (fun total lease=>min (total+lease.units) (u64Limit-1)) 0

def availableUnits : ℕ := pool.capacityUnits-pool.usedUnits

def reapExpired (now:String) : Except LeasePoolError (LeasePool M) :=
 { pool with activeLeases:=pool.activeLeases.filter fun lease=>lease.isActiveAt now }.normalized

/-- The end of `acquire`: the lease is granted from a pool that is reaped already. -/
def grantFrom (current:LeasePool M) (request:LeaseRequest M)
  (leaseId acquiredAt expiresAt:String) : Except LeasePoolError (LeasePool M×LeaseGrant M) := do
 ensure (!current.activeLeases.any fun lease=>lease.leaseId==leaseId)
  (.leaseAlreadyExists leaseId)
 ensure (request.units≤current.availableUnits)
  (.exhausted pool.poolId request.units current.availableUnits)
 match checkedAdd current.nextFencingEpoch 1 with
 | none=>.error (.arithmeticOverflow "next_fencing_epoch")
 | some nextFencingEpoch=>
  let lease : LeaseGrant M:=
   { leaseId:=leaseId,requestId:=request.requestId,poolId:=pool.poolId,
     holder:=request.holder,resourceKind:=request.resourceKind,units:=request.units,
     fencingEpoch:=current.nextFencingEpoch,acquiredAt:=acquiredAt,
     expiresAt:=expiresAt,metadata:=request.metadata }
  let next ← { current with
   nextFencingEpoch,activeLeases:=current.activeLeases++[lease] }.normalized
  return (next,lease)

def acquire (request:LeaseRequest M) (leaseId acquiredAt expiresAt:String) :
  Except LeasePoolError (LeasePool M×LeaseGrant M) := do
 ensure (request.units≠0) (.capacity "units" request.units)
 ensure (request.resourceKind=pool.resourceKind)
  (.resourceKindMismatch pool.resourceKind request.resourceKind)
 match parsePolicyDatetimeMillis acquiredAt with
 | none=>.error (.invalidTimestamp "acquired_at" acquiredAt)
 | some acquiredAtMillis=>
  match parsePolicyDatetimeMillis expiresAt with
  | none=>.error (.invalidTimestamp "expires_at" expiresAt)
  | some expiresAtMillis=>
   ensure (acquiredAtMillis<expiresAtMillis) (.invalidInterval acquiredAt expiresAt)
   let current ← pool.reapExpired acquiredAt
   pool.grantFrom current request leaseId acquiredAt expiresAt

def release (leaseId:String) (fencingEpoch:ℕ) : Except LeasePoolError (LeasePool M) :=
 match pool.activeLeases.find? fun lease=>lease.leaseId==leaseId with
 | none=>.error (.leaseNotFound leaseId)
 | some lease=>
  if lease.fencingEpoch≠fencingEpoch then
   .error (.epochMismatch leaseId lease.fencingEpoch fencingEpoch)
  else
   { pool with activeLeases:=pool.activeLeases.eraseP fun lease=>lease.leaseId==leaseId }.normalized

end LeasePool

inductive Call (M:Type) where
 | acquire (request:LeaseRequest M) (leaseId acquiredAt expiresAt:String)
 | release (leaseId:String) (fencingEpoch:ℕ)
 | reapExpired (now:String)

inductive Response (M:Type) where
 | granted (lease:LeaseGrant M)
 | released (leaseId:String) (fencingEpoch:ℕ)
 | reaped

def step (pool:LeasePool M) : Call M→Except LeasePoolError (Response M)×LeasePool M
 | .acquire request leaseId acquiredAt expiresAt=>
  match pool.acquire request leaseId acquiredAt expiresAt with
  | .ok (next,lease)=>(.ok (.granted lease),next)
  | .error error=>(.error error,pool)
 | .release leaseId fencingEpoch=>
  match pool.release leaseId fencingEpoch with
  | .ok next=>(.ok (.released leaseId fencingEpoch),next)
  | .error error=>(.error error,pool)
 | .reapExpired now=>
  match pool.reapExpired now with
  | .ok next=>(.ok .reaped,next)
  | .error error=>(.error error,pool)

abbrev PoolTransition (M:Type) :=
 Transition (LeasePool M) (Call M) (Except LeasePoolError (Response M))

def grantedLease (t:PoolTransition M) : Option (LeaseGrant M) :=
 match t.response with
 | .ok (.granted lease)=>some lease
 | _=>none

/-- The grants of a history, in the order in which they were issued. -/
def grants (past:List (PoolTransition M)) : List (LeaseGrant M) := past.filterMap grantedLease

/-- The time at which a call that succeeded looked at the leases. -/
def clockOf (t:PoolTransition M) : Option ℤ :=
 match t.call, t.response with
 | .acquire _ _ acquiredAt _, .ok _=>parsePolicyDatetimeMillis acquiredAt
 | .reapExpired now, .ok _=>parsePolicyDatetimeMillis now
 | _, _=>none

def clocks (past:List (PoolTransition M)) : List ℤ := past.filterMap clockOf

def outstandingAfter (outstanding:List (LeaseGrant M)) (t:PoolTransition M) : List (LeaseGrant M) :=
 match t.response with
 | .ok (.granted lease)=>outstanding++[lease]
 | .ok (.released leaseId fencingEpoch)=>
  outstanding.filter fun lease => !(lease.leaseId==leaseId&&lease.fencingEpoch==fencingEpoch)
 | _=>outstanding

def outstanding (past:List (PoolTransition M)) : List (LeaseGrant M) :=
 past.foldl outstandingAfter []

def unitsAt (leases:List (LeaseGrant M)) (now:ℤ) : ℕ :=
 ((leases.filter fun lease=>lease.activeAt now).map LeaseGrant.units).sum

def totalUnits (leases:List (LeaseGrant M)) : ℕ := (leases.map LeaseGrant.units).sum

variable {pool next:LeasePool M} {past:List (PoolTransition M)}

lemma checkLeases_ok{seen:List String}{used highest:ℕ}
  {leases:List (LeaseGrant M)}{result:ℕ×ℕ}(hused:used<u64Limit)
  (h:pool.checkLeases seen used highest leases=.ok result):
  result.1=used+totalUnits leases∧result.1<u64Limit∧highest≤result.2 ∧
   ∀lease∈leases,lease.fencingEpoch≤result.2:=by
 induction leases generalizing seen used highest with
 | nil=>
  cases h
  exact ⟨by simp [totalUnits],hused,le_rfl,by simp⟩
 | cons lease leases ih=>
  simp only [LeasePool.checkLeases,bind_ok] at h
  obtain ⟨_,-,_,-,_,-,_,-,h⟩:=h
  cases hadd:checkedAdd used lease.units with
  | none=>
   rw [hadd] at h
   cases h
  | some total=>
   rw [hadd] at h
   have htotal:=checkedAdd_eq_some hadd
   have hsmall:total<u64Limit:=by
    unfold checkedAdd at hadd
    split at hadd
    · next hlt=>
      cases hadd
      exact hlt
    · cases hadd
   obtain ⟨hsum,hlimit,hhighest,hepochs⟩:=ih hsmall h
   refine ⟨?_,hlimit,(le_max_left _ _).trans hhighest,?_⟩
   · simp only [totalUnits,map_cons,sum_cons] at hsum ⊢
     omega
   · intro other hother
     rcases mem_cons.mp hother with rfl|hother
     · exact (le_max_right _ _).trans hhighest
     · exact hepochs other hother

/-- What a pool that passed `normalized` has of the pool before. -/
structure Normalized (pool next:LeasePool M) : Prop where
 leases:next.activeLeases.Perm pool.activeLeases
 capacity:next.capacityUnits=pool.capacityUnits
 within:totalUnits next.activeLeases≤next.capacityUnits
 bounded:totalUnits next.activeLeases<u64Limit
 epoch:pool.nextFencingEpoch≤next.nextFencingEpoch
 epochs:∀lease∈next.activeLeases,lease.fencingEpoch<next.nextFencingEpoch

lemma normalized_ok(h:pool.normalized=.ok next):Normalized pool next:=by
 simp only [LeasePool.normalized,bind_ok] at h
 obtain ⟨_,-,⟨used,highest⟩,hcheck,_,hwithin,h⟩:=h
 have hperm:=perm_insertionSort leaseOrder pool.activeLeases
 obtain ⟨hsum,hlimit,-,hepochs⟩:=checkLeases_ok (by decide) hcheck
 have hcapacity:used≤pool.capacityUnits:=by simpa using ensure_ok.mp hwithin
 simp only [Nat.zero_add] at hsum
 subst hsum
 cases hadd:checkedAdd highest 1 with
 | none=>
  rw [hadd] at h
  cases h
 | some after=>
  rw [hadd] at h
  cases h
  have hafter:=checkedAdd_eq_some hadd
  refine ⟨hperm,rfl,hcapacity,hlimit,le_max_left _ _,?_⟩
  intro lease hlease
  have hlow:=hepochs lease hlease
  have hhigh:after≤ max pool.nextFencingEpoch after:=le_max_right _ _
  simp only at hlow ⊢
  omega

lemma usedUnits_eq(h:totalUnits pool.activeLeases<u64Limit):
  pool.usedUnits=totalUnits pool.activeLeases:=by
 have hfold:∀(leases:List (LeaseGrant M)) (start:ℕ),start+totalUnits leases<u64Limit →
   leases.foldl (fun total lease=>min (total+lease.units) (u64Limit-1)) start =
    start+totalUnits leases:=by
  intro leases
  induction leases with
  | nil=>
   intro start _
   simp [totalUnits]
  | cons lease leases ih=>
   intro start hstart
   simp only [totalUnits,map_cons,sum_cons] at hstart ih ⊢
   have hmin:min (start+lease.units) (u64Limit-1)=start+lease.units:=by omega
   rw [foldl_cons,hmin,ih _ (by omega)]
   omega
 have h:=hfold pool.activeLeases 0 (by omega)
 rwa [Nat.zero_add] at h

variable {lease:LeaseGrant M} {now:String}

lemma isActiveAt_iff:lease.isActiveAt now=true ↔
   ∃millis,parsePolicyDatetimeMillis now=some millis∧lease.activeAt millis=true:=by
 unfold LeaseGrant.isActiveAt
 cases parsePolicyDatetimeMillis now <;>simp

/-- What `reap_expired` leaves of a pool. -/
structure Reaped (pool next:LeasePool M) (now:String) : Prop where
 leases:∀lease,lease∈next.activeLeases↔lease∈pool.activeLeases∧lease.isActiveAt now=true
 capacity:next.capacityUnits=pool.capacityUnits
 within:totalUnits next.activeLeases≤next.capacityUnits
 bounded:totalUnits next.activeLeases<u64Limit
 epoch:pool.nextFencingEpoch≤next.nextFencingEpoch

lemma reapExpired_ok(h:pool.reapExpired now=.ok next):Reaped pool next now:=by
 have hn:=normalized_ok h
 refine ⟨?_,hn.capacity,hn.within,hn.bounded,hn.epoch⟩
 intro lease
 rw [hn.leases.mem_iff,mem_filter]

/-- What `acquire` grants. -/
structure Acquired (pool next:LeasePool M) (lease:LeaseGrant M) (acquiredAt:String) : Prop where
 reaped:∃current,Reaped pool current acquiredAt ∧
  totalUnits current.activeLeases+lease.units≤pool.capacityUnits ∧
  (∀other,other∈next.activeLeases↔other∈current.activeLeases∨other=lease)
 starts:∃start stop,parsePolicyDatetimeMillis acquiredAt=some start ∧
  parsePolicyDatetimeMillis lease.acquiredAt=some start ∧
  parsePolicyDatetimeMillis lease.expiresAt=some stop∧start<stop
 capacity:next.capacityUnits=pool.capacityUnits
 epoch:pool.nextFencingEpoch≤lease.fencingEpoch
 nextEpoch:lease.fencingEpoch<next.nextFencingEpoch

variable {leaseId:String}

lemma acquire_ok{request:LeaseRequest M}{acquiredAt expiresAt:String}
  (h:pool.acquire request leaseId acquiredAt expiresAt=.ok (next,lease)):
  Acquired pool next lease acquiredAt:=by
 simp only [LeasePool.acquire,bind_ok] at h
 obtain ⟨_,-,_,-,h⟩:=h
 cases hstart:parsePolicyDatetimeMillis acquiredAt with
 | none=>
  rw [hstart] at h
  cases h
 | some start=>
  cases hstop:parsePolicyDatetimeMillis expiresAt with
  | none=>
   rw [hstart,hstop] at h
   cases h
  | some stop=>
   rw [hstart,hstop] at h
   simp only [bind_ok] at h
   obtain ⟨_,hinterval,current,hreap,h⟩:=h
   have hr:=reapExpired_ok hreap
   simp only [LeasePool.grantFrom,bind_ok] at h
   obtain ⟨_,-,_,havailable,h⟩:=h
   have hroom:request.units≤current.availableUnits:=by simpa using ensure_ok.mp havailable
   cases hadd:checkedAdd current.nextFencingEpoch 1 with
   | none=>
    rw [hadd] at h
    cases h
   | some epoch=>
    rw [hadd] at h
    simp only [bind_ok] at h
    obtain ⟨next',hnext,h⟩:=h
    cases h
    have hn:=normalized_ok hnext
    have hepoch:=checkedAdd_eq_some hadd
    have hwithin:=hr.within
    rw [LeasePool.availableUnits,usedUnits_eq hr.bounded] at hroom
    refine ⟨⟨current,hr,?_,?_⟩,?_,?_,hr.epoch,?_⟩
    · show totalUnits current.activeLeases+request.units≤pool.capacityUnits
      rw [←hr.capacity]
      omega
    · intro other
      rw [hn.leases.mem_iff,mem_append,mem_singleton]
    · exact ⟨start,stop,hstart,hstart,hstop,by simpa using ensure_ok.mp hinterval⟩
    · exact hn.capacity.trans hr.capacity
    · have hgrown:=hn.epoch
      show current.nextFencingEpoch<next.nextFencingEpoch
      simp only at hgrown
      omega

/-- What `release` removes. -/
structure Released (pool next:LeasePool M) (leaseId:String) (fencingEpoch:ℕ) : Prop where
 lease:∃lease,lease.leaseId=leaseId∧lease.fencingEpoch=fencingEpoch ∧
  pool.activeLeases.Perm (lease::next.activeLeases)
 capacity:next.capacityUnits=pool.capacityUnits
 epoch:pool.nextFencingEpoch≤next.nextFencingEpoch

lemma release_ok{fencingEpoch:ℕ}
  (h:pool.release leaseId fencingEpoch=.ok next):Released pool next leaseId fencingEpoch:=by
 unfold LeasePool.release at h
 cases hfind:pool.activeLeases.find? fun lease=>lease.leaseId==leaseId with
 | none=>
  rw [hfind] at h
  cases h
 | some lease=>
  rw [hfind] at h
  simp only at h
  split at h
  · cases h
  · next hepoch=>
    have hn:=normalized_ok h
    have hid:lease.leaseId=leaseId:=by simpa using List.find?_some hfind
    refine ⟨⟨lease,hid,by simpa using hepoch,?_⟩,hn.capacity,hn.epoch⟩
    have herase:pool.activeLeases.Perm
      (lease::pool.activeLeases.eraseP fun lease=>lease.leaseId==leaseId):=by
     obtain ⟨hp,before,after,hsplit,hbefore⟩:=List.find?_eq_some_iff_append.mp hfind
     rw [hsplit,eraseP_append_right _ (by simpa using hbefore),
      eraseP_cons_of_pos (p:=fun other:LeaseGrant M=>other.leaseId==leaseId) hp]
     exact perm_middle
    exact herase.trans (hn.leases.symm.cons lease)

section
variable (past:List (PoolTransition M)) (t:PoolTransition M)

lemma grants_concat:
  grants (past++[t])=grants past++(grantedLease t).toList:=filterMap_concat _ _ _

lemma clocks_concat:
  clocks (past++[t])=clocks past++(clockOf t).toList:=filterMap_concat _ _ _

lemma outstanding_concat:outstanding (past++[t])=outstandingAfter (outstanding past) t:=by
 simp [outstanding]

end

lemma step_cases(pool:LeasePool M)(call:Call M):
  (∃request leaseId acquiredAt expiresAt lease,call=.acquire request leaseId acquiredAt expiresAt ∧
   (step pool call).1=.ok (.granted lease) ∧
   Acquired pool (step pool call).2 lease acquiredAt) ∨
  (∃leaseId fencingEpoch,call=.release leaseId fencingEpoch ∧
   (step pool call).1=.ok (.released leaseId fencingEpoch) ∧
   Released pool (step pool call).2 leaseId fencingEpoch) ∨
  (∃now,call=.reapExpired now∧(step pool call).1=.ok .reaped∧Reaped pool (step pool call).2 now) ∨
  (∃error,(step pool call).1=.error error∧(step pool call).2=pool):=by
 cases call with
 | acquire request leaseId acquiredAt expiresAt=>
  cases h:pool.acquire request leaseId acquiredAt expiresAt with
  | error error=>exact .inr (.inr (.inr ⟨error,by simp [step,h],by simp [step,h]⟩))
  | ok result=>
   obtain ⟨next,lease⟩:=result
   refine .inl ⟨request,leaseId,acquiredAt,expiresAt,lease,rfl,by simp [step,h],?_⟩
   simpa [step,h] using acquire_ok h
 | release leaseId fencingEpoch=>
  cases h:pool.release leaseId fencingEpoch with
  | error error=>exact .inr (.inr (.inr ⟨error,by simp [step,h],by simp [step,h]⟩))
  | ok next=>
   refine .inr (.inl ⟨leaseId,fencingEpoch,rfl,by simp [step,h],?_⟩)
   simpa [step,h] using release_ok h
 | reapExpired now=>
  cases h:pool.reapExpired now with
  | error error=>exact .inr (.inr (.inr ⟨error,by simp [step,h],by simp [step,h]⟩))
  | ok next=>
   refine .inr (.inr (.inl ⟨now,rfl,by simp [step,h],?_⟩))
   simpa [step,h] using reapExpired_ok h

structure Fenced (past:List (PoolTransition M)) (pool:LeasePool M) : Prop where
 increasing:(grants past).Pairwise fun a b=>a.fencingEpoch<b.fencingEpoch
 below:∀lease∈grants past,lease.fencingEpoch<pool.nextFencingEpoch
 issued:(outstanding past).Sublist (grants past)

/-- A transition that grants nothing. -/
lemma Fenced.quiet{t:PoolTransition M}(h:Fenced past pool)(hnone:grantedLease t=none)
  (hepoch:pool.nextFencingEpoch≤next.nextFencingEpoch)
  (hout:(outstanding (past++[t])).Sublist (outstanding past)):Fenced (past++[t]) next:=by
 have hgrants:grants (past++[t])=grants past:=by
  rw [grants_concat,hnone,Option.toList_none,append_nil]
 refine ⟨hgrants▸h.increasing,?_,hgrants▸hout.trans h.issued⟩
 rw [hgrants]
 exact fun lease hlease=>(h.below lease hlease).trans_le hepoch

lemma fenced_step(call:Call M)
  (h:Fenced past pool):Fenced (past++[takeStep step pool call]) (step pool call).2:=by
 rcases step_cases pool call with ⟨_,_,_,_,lease,-,hresponse,ha⟩|⟨_,_,-,hresponse,hr⟩ |
   ⟨_,-,hresponse,hr⟩ | ⟨_,hresponse,hpool⟩
 · have hgrants:grants (past++[takeStep step pool call])=grants past++[lease]:=by
    rw [grants_concat]
    simp [grantedLease,takeStep,hresponse]
   have hout:outstanding (past++[takeStep step pool call])=outstanding past++[lease]:=by
    rw [outstanding_concat]
    simp [outstandingAfter,takeStep,hresponse]
   refine ⟨?_,?_,?_⟩
   · rw [hgrants,pairwise_append]
     refine ⟨h.increasing,pairwise_singleton _ _,?_⟩
     intro a ha' b hb
     rw [mem_singleton] at hb
     rw [hb]
     exact (h.below a ha').trans_le ha.epoch
   · rw [hgrants]
     intro other hother
     rcases mem_append.mp hother with hother|hother
     · exact (h.below other hother).trans_le (ha.epoch.trans ha.nextEpoch.le)
     · rw [mem_singleton.mp hother]
       exact ha.nextEpoch
   · rw [hgrants,hout]
     exact h.issued.append (List.Sublist.refl _)
 · apply h.quiet (by simp [grantedLease,takeStep,hresponse]) hr.epoch
   rw [outstanding_concat]
   simp only [outstandingAfter,takeStep,hresponse]
   exact filter_sublist
 · apply h.quiet (by simp [grantedLease,takeStep,hresponse]) hr.epoch
   rw [outstanding_concat]
   simp [outstandingAfter,takeStep,hresponse]
 · apply h.quiet (by simp [grantedLease,takeStep,hresponse]) (by rw [hpool])
   rw [outstanding_concat]
   simp [outstandingAfter,takeStep,hresponse]

lemma fenced_history(pool:LeasePool M)(calls:List (Call M)):
  Fenced (history step pool calls) (execute step pool calls):=by
 apply history_invariant step (P:=Fenced)
 · exact ⟨List.Pairwise.nil,by simp [grants],List.Sublist.refl _⟩
 · exact fun past s call h=>fenced_step call h

lemma Fenced.nodup(h:Fenced past pool):(outstanding past).Nodup:=by
 have hpairwise:=h.increasing.sublist h.issued
 apply hpairwise.imp
 intro a b hlt heq
 rw [heq] at hlt
 exact lt_irrefl _ hlt

/-- The leases that hold at the latest clock are all in the pool, and their units fit. -/
structure Fits (capacity:ℕ) (past:List (PoolTransition M)) (pool:LeasePool M) : Prop where
 size:pool.capacityUnits=capacity
 kept:∀now,(∀c∈clocks past,c≤now) → ∀lease∈outstanding past,∀later,now≤later →
  lease.activeAt later=true→lease∈pool.activeLeases∧lease.activeAt now=true
 within:∀now,unitsAt (outstanding past) now≤capacity

lemma unitsAt_le_totalUnits{leases held:List (LeaseGrant M)}{now:ℤ}(hnodup:leases.Nodup)
  (h:∀lease∈leases,lease.activeAt now=true→lease∈held):unitsAt leases now≤totalUnits held:=by
 have hsub:(leases.filter fun lease=>lease.activeAt now).Subperm held:=by
  apply subperm_of_subset (hnodup.filter _)
  intro lease hlease
  rw [mem_filter] at hlease
  exact h lease hlease.1 hlease.2
 obtain ⟨leases',hperm,hsublist⟩:=hsub
 calc unitsAt leases now=(leases'.map LeaseGrant.units).sum:=
   (hperm.map LeaseGrant.units).sum_eq.symm
  _≤totalUnits held:=(hsublist.map LeaseGrant.units).sum_le_sum (by simp)

lemma activeAt_iff{start stop:ℤ}(hstart:parsePolicyDatetimeMillis lease.acquiredAt=some start)
  (hstop:parsePolicyDatetimeMillis lease.expiresAt=some stop)(now:ℤ):
  lease.activeAt now=true↔start≤now∧now<stop:=by
 simp [LeaseGrant.activeAt,hstart,hstop]

lemma unitsAt_concat(leases:List (LeaseGrant M))(lease:LeaseGrant M)(now:ℤ):
  unitsAt (leases++[lease]) now =
   unitsAt leases now+if lease.activeAt now then lease.units else 0:=by
 unfold unitsAt
 rw [filter_append,map_append,sum_append]
 by_cases h:lease.activeAt now=true <;>simp [h]

lemma unitsAt_sublist{a b:List (LeaseGrant M)}(h:a.Sublist b)(now:ℤ):unitsAt a now≤unitsAt b now:=
 ((h.filter _).map LeaseGrant.units).sum_le_sum (by simp)

section
variable {capacity:ℕ} {past:List (PoolTransition M)} {pool next:LeasePool M} {millis:ℤ}

lemma Fits.survives(h:Fits capacity past pool)(hr:Reaped pool next now)
  (hnow:parsePolicyDatetimeMillis now=some millis)(hclock:∀c∈clocks past,c≤ millis)
  (hlease:lease∈outstanding past){later:ℤ}(hlater:millis≤later)
  (hactive:lease.activeAt later=true):lease∈next.activeLeases:=by
 obtain ⟨hheld,hnowActive⟩:=h.kept millis hclock lease hlease later hlater hactive
 exact (hr.leases lease).mpr ⟨hheld,isActiveAt_iff.mpr ⟨millis,hnow,hnowActive⟩⟩

variable {t:PoolTransition M}

lemma fits_acquire(h:Fits capacity past pool)(hfenced:Fenced past pool){acquiredAt:String}
  (ha:Acquired pool next lease acquiredAt)(hresponse:t.response=.ok (.granted lease))
  (hclockOf:clockOf t=some millis)(hnow:parsePolicyDatetimeMillis acquiredAt=some millis)
  (hclock:∀c∈clocks past,c≤ millis):Fits capacity (past++[t]) next:=by
 obtain ⟨current,hr,hroom,hmem⟩:=ha.reaped
 obtain ⟨start,stop,hacquired,hstart,hstop,hlt⟩:=ha.starts
 have hstarts:start=millis:=Option.some.inj (hacquired.symm.trans hnow)
 subst hstarts
 have hout:outstanding (past++[t])=outstanding past++[lease]:=by
  rw [outstanding_concat,outstandingAfter,hresponse]
 have hclocks:clocks (past++[t])=clocks past++[start]:=by
  rw [clocks_concat,hclockOf]
  rfl
 refine ⟨ha.capacity.trans h.size,?_,?_⟩
 · intro now hbefore other hother later hlater hactive
   rw [hclocks] at hbefore
   have hold:∀c∈clocks past,c≤now:=fun c hc=>hbefore c (mem_append_left _ hc)
   have hstartNow:start≤now:=hbefore start (by simp)
   rw [hout] at hother
   rcases mem_append.mp hother with hother|hother
   · refine ⟨(hmem other).mpr (.inl ?_),(h.kept now hold other hother later hlater hactive).2⟩
     exact h.survives hr hnow hclock hother (hstartNow.trans hlater) hactive
   · rw [mem_singleton] at hother
     subst hother
     refine ⟨(hmem _).mpr (.inr rfl),?_⟩
     rw [activeAt_iff hstart hstop] at hactive ⊢
     omega
 · intro now
   rw [hout,unitsAt_concat]
   by_cases hactive:lease.activeAt now=true
   · have hstarted:=((activeAt_iff hstart hstop now).mp hactive).1
     have hholds:∀other∈outstanding past,other.activeAt now=true→ other∈current.activeLeases:=
      fun other hother hactive=>h.survives hr hnow hclock hother hstarted hactive
     have hle:=unitsAt_le_totalUnits hfenced.nodup hholds
     have hsize:=h.size
     rw [if_pos hactive]
     omega
   · rw [if_neg hactive]
     exact h.within now

lemma fits_reap(h:Fits capacity past pool)(hr:Reaped pool next now)
  (hresponse:t.response=.ok .reaped)(hclockOf:clockOf t=some millis)
  (hnow:parsePolicyDatetimeMillis now=some millis)(hclock:∀c∈clocks past,c≤ millis):
  Fits capacity (past++[t]) next:=by
 have hout:outstanding (past++[t])=outstanding past:=by
  rw [outstanding_concat,outstandingAfter,hresponse]
 have hclocks:clocks (past++[t])=clocks past++[millis]:=by
  rw [clocks_concat,hclockOf]
  rfl
 refine ⟨hr.capacity.trans h.size,?_,?_⟩
 · intro instant hbefore lease hlease later hlater hactive
   rw [hclocks] at hbefore
   rw [hout] at hlease
   have hold:∀c∈clocks past,c ≤ instant:=fun c hc=>hbefore c (mem_append_left _ hc)
   have hafter:millis ≤ instant:=hbefore millis (by simp)
   exact ⟨h.survives hr hnow hclock hlease (hafter.trans hlater) hactive,
    (h.kept instant hold lease hlease later hlater hactive).2⟩
 · rw [hout]
   exact h.within

lemma fits_release(h:Fits capacity past pool){fencingEpoch:ℕ}
  (hr:Released pool next leaseId fencingEpoch)
  (hresponse:t.response=.ok (.released leaseId fencingEpoch))(hclockOf:clockOf t=none):
  Fits capacity (past++[t]) next:=by
 have hout:outstanding (past++[t])=(outstanding past).filter fun lease=>
   !(lease.leaseId==leaseId&&lease.fencingEpoch==fencingEpoch):=by
  rw [outstanding_concat,outstandingAfter,hresponse]
 have hclocks:clocks (past++[t])=clocks past:=by
  rw [clocks_concat,hclockOf]
  exact append_nil _
 obtain ⟨removed,hid,hepoch,hperm⟩:=hr.lease
 refine ⟨hr.capacity.trans h.size,?_,?_⟩
 · intro now hbefore lease hlease later hlater hactive
   rw [hclocks] at hbefore
   rw [hout,mem_filter] at hlease
   obtain ⟨hheld,hnow⟩:=h.kept now hbefore lease hlease.1 later hlater hactive
   refine ⟨?_,hnow⟩
   rcases mem_cons.mp (hperm.mem_iff.mp hheld) with heq|hmem
   · -- the lease that left the pool is no longer outstanding
     have hgone:=hlease.2
     rw [heq,hid,hepoch] at hgone
     simp at hgone
   · exact hmem
 · intro now
   rw [hout]
   exact (unitsAt_sublist filter_sublist now).trans (h.within now)

/-- A call keeps the capacity when its time is not before the times of the calls before it. -/
lemma fits_step(call:Call M)(h:Fits capacity past pool)(hfenced:Fenced past pool)
  (hvalid:∀now,call=.reapExpired now→(parsePolicyDatetimeMillis now).isSome)
  (hclock:∀millis,clockOf (takeStep step pool call)=some millis→∀c∈clocks past,c≤ millis):
  Fits capacity (past++[takeStep step pool call]) (step pool call).2:=by
 rcases step_cases pool call with ⟨request,leaseId,acquiredAt,expiresAt,lease,rfl,hresponse,ha⟩ |
   ⟨leaseId,fencingEpoch,rfl,hresponse,hr⟩ | ⟨now,rfl,hresponse,hr⟩ |
   ⟨error,hresponse,hpool⟩
 · obtain ⟨start,-,hstart,-⟩:=ha.starts
   have hclockOf:clockOf (takeStep step pool
     (.acquire request leaseId acquiredAt expiresAt))=some start:=by
    simp only [clockOf,takeStep,hresponse,hstart]
   exact fits_acquire h hfenced ha hresponse hclockOf hstart (hclock start hclockOf)
 · have hclockOf:clockOf (takeStep step pool (.release leaseId fencingEpoch))=none:=rfl
   exact fits_release h hr hresponse hclockOf
 · obtain ⟨millis,hnow⟩:=Option.isSome_iff_exists.mp (hvalid now rfl)
   have hclockOf:clockOf (takeStep step pool (.reapExpired now))=some millis:=by
    simp only [clockOf,takeStep,hresponse,hnow]
   exact fits_reap h hr hresponse hclockOf hnow (hclock millis hclockOf)
 · have hclockOf:clockOf (takeStep step pool call)=none:=by
    cases call <;>simp only [clockOf,takeStep,hresponse]
   have hclocks:clocks (past++[takeStep step pool call])=clocks past:=by
    rw [clocks_concat,hclockOf]
    exact append_nil _
   have hout:outstanding (past++[takeStep step pool call])=outstanding past:=by
    rw [outstanding_concat]
    simp only [outstandingAfter,takeStep,hresponse]
   rw [hpool]
   exact ⟨h.size,by rw [hclocks,hout];exact h.kept,by rw [hout];exact h.within⟩
end

/-- The timestamps at which expired leases are reaped can be read. -/
def ValidTimes (calls:List (Call M)) : Prop :=
 ∀now,Call.reapExpired now∈calls→(parsePolicyDatetimeMillis now).isSome

lemma fits_history(pool:LeasePool M)(calls:List (Call M))(hvalid:ValidTimes calls)
  (hclock:(clocks (history step pool calls)).Pairwise (· ≤ ·)):
  Fits pool.capacityUnits (history step pool calls) (execute step pool calls):=by
 induction calls using List.reverseRecOn with
 | nil=>exact ⟨rfl,by simp [history,outstanding],by simp [history,outstanding,unitsAt]⟩
 | append_singleton calls call ih=>
  rw [history_concat,clocks_concat,pairwise_append] at hclock
  obtain ⟨hbefore,-,hlast⟩:=hclock
  rw [history_concat,execute_concat]
  apply fits_step call (ih _ hbefore) (fenced_history pool calls)
  · rintro now rfl
    exact hvalid now (by simp)
  · intro millis hmillis c hc
    exact hlast c hc millis (by simp [hmillis])
  · exact fun now hnow=>hvalid now (mem_append_left _ hnow)

/-- The epochs of successive grants increase and a release removes a lease with its own epoch;
and as long as the times of the calls that look at the leases do not go backwards, the grants
that hold at any one instant fit into the capacity. -/
theorem leases_fenced_and_within_capacity (pool : LeasePool M) (calls : List (Call M)) :
  ((grants (history step pool calls)).Pairwise fun a b=>a.fencingEpoch<b.fencingEpoch) ∧
  (∀leaseId fencingEpoch next,(execute step pool calls).release leaseId fencingEpoch=.ok next →
   ∃lease,lease.leaseId=leaseId∧lease.fencingEpoch=fencingEpoch ∧
    (execute step pool calls).activeLeases.Perm (lease::next.activeLeases)) ∧
  (ValidTimes calls→(clocks (history step pool calls)).Pairwise (· ≤ ·) →
   ∀now,unitsAt (outstanding (history step pool calls)) now≤pool.capacityUnits) := by
 refine ⟨(fenced_history pool calls).increasing,?_,?_⟩
 · intro leaseId fencingEpoch next hrelease
   exact (release_ok hrelease).lease
 · intro hvalid hclock
   exact (fits_history pool calls hvalid hclock).within

section

def seatPool : LeasePool Unit := ⟨"seats","seat",1,[],1,none,()⟩

def seatRequest : LeaseRequest Unit := ⟨"request","worker","seat",1,()⟩

def firstHour : Call Unit :=
 .acquire seatRequest "first" "2026-06-26T00:00:00Z" "2026-06-26T01:00:00Z"

/-- One worker reaps when its clock shows the next hour, another acquires in the hour before. -/
def disagreeingCalls : List (Call Unit) :=
 [firstHour,.reapExpired "2026-06-26T02:00:00Z",
  .acquire seatRequest "second" "2026-06-26T00:30:00Z" "2026-06-26T01:00:00Z"]

def agreeingCalls : List (Call Unit) :=
 [firstHour,.reapExpired "2026-06-26T02:00:00Z",
  .acquire seatRequest "second" "2026-06-26T02:00:00Z" "2026-06-26T03:00:00Z"]

theorem agreeing_workers_fit :
  unitsAt (outstanding (history step seatPool agreeingCalls)) 1782441000000≤1 :=
 (leases_fenced_and_within_capacity seatPool agreeingCalls).2.2
  (by intro now hnow;simp [agreeingCalls,firstHour] at hnow;subst hnow;decide +kernel)
  (by decide +kernel) 1782441000000

/-- Workers whose clocks disagree hold one seat twice. -/
theorem disagreeing_workers_oversubscribe :
  ¬ ∀(pool:LeasePool Unit) (calls:List (Call Unit)),ValidTimes calls →
   ∀now,unitsAt (outstanding (history step pool calls)) now≤pool.capacityUnits := by
 intro h
 have hvalid:ValidTimes disagreeingCalls:=by
  intro now hnow
  simp [disagreeingCalls,firstHour] at hnow
  subst hnow
  decide +kernel
 have hunits:unitsAt (outstanding (history step seatPool disagreeingCalls)) 1782434700000=2:=by
  decide +kernel
 have hbound:=h seatPool disagreeingCalls hvalid 1782434700000
 rw [hunits] at hbound
 exact absurd hbound (by decide)
end

end GraphBlocks.OrchestrationLeases
