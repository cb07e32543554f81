import GraphBlocks.LeasePoolModel

namespace GraphBlocks.LeasePool
open FiniteMap RustStd List

variable {A:Type}

/-- Accounting of the pool: what the counters say about the leases and the handles. -/
structure Accounts (s:Inner A) : Prop where
 used_eq:s.usedUnits=sumValues ActiveLease.units s.active
 used_le:s.usedUnits≤ s.capacityUnits
 number_lt:∀id lease,s.active.lookup id=some lease → ∃n<s.nextLeaseNumber,id=leaseIdOf s.id n
 token_lt:∀id lease,s.active.lookup id=some lease→lease.fencingToken<s.nextFencingToken

structure Invariant (p:Pool A) : Prop where
 accounts:Accounts p.inner
 handle_number:∀id flag,p.handles.lookup id=some flag →
  ∃n<p.inner.nextLeaseNumber,id=leaseIdOf p.inner.id n
 handle_live:∀id lease,p.inner.active.lookup id=some lease→p.handles.lookup id=some false

lemma freshPool_invariant(id:String)(capacityUnits:ℕ):
  Invariant (freshPool id capacityUnits:Pool A):=by
 refine ⟨⟨rfl,Nat.zero_le _,?_,?_⟩,?_,?_⟩
 all_goals simp [freshPool]

lemma leaseIdOf_injective(poolId:String):Function.Injective (leaseIdOf poolId):=by
 intro m n h
 exact toString_nat_injective (append_left_injective "-" (append_left_injective poolId h))

/-- The pool after `lease` is taken out of the table. -/
def withoutLease (s:Inner A) (leaseId:String) (lease:ActiveLease A) : Inner A :=
 { s with active:=s.active.erase leaseId,usedUnits:=s.usedUnits-lease.units }

variable {s:Inner A} {id:String} {lease:ActiveLease A}

lemma withoutLease_accounts(h:Accounts s)(hid:s.active.lookup id=some lease):
  Accounts (withoutLease s id lease):=by
 have hsum:=sumValues_erase ActiveLease.units s.active id lease hid
 have hused:=h.used_eq
 refine ⟨?_,?_,?_,?_⟩
 · change s.usedUnits-lease.units=sumValues ActiveLease.units (s.active.erase id)
   omega
 · exact (Nat.sub_le _ _).trans h.used_le
 · intro j l hl
   simp only [withoutLease,lookup_erase_eq] at hl
   split at hl
   · cases hl
   · exact h.number_lt j l hl
 · intro j l hl
   simp only [withoutLease,lookup_erase_eq] at hl
   split at hl
   · cases hl
   · exact h.token_lt j l hl

/-- `s'` is `s` without the leases whose id is in `gone`. -/
structure Removed (gone:String→Prop) (s s':Inner A) : Prop where
 id_eq:s'.id=s.id
 capacity_eq:s'.capacityUnits=s.capacityUnits
 number_eq:s'.nextLeaseNumber=s.nextLeaseNumber
 token_eq:s'.nextFencingToken=s.nextFencingToken
 lookup_iff:∀id lease,s'.active.lookup id=some lease↔s.active.lookup id=some lease∧¬gone id

lemma reapStep_spec(n:ℕ)(s:Inner A)(id:String)(h:Accounts s):
  Accounts (reapStep (n,s) id).2∧Removed (fun j=>j=id) s (reapStep (n,s) id).2:=by
 unfold reapStep removeLease
 cases hid:s.active.lookup id with
 | none=>
  refine ⟨h,rfl,rfl,rfl,rfl,?_⟩
  intro j lease
  refine ⟨fun hj=>⟨hj,?_⟩,fun hj=>hj.1⟩
  rintro rfl
  rw [hid] at hj
  cases hj
 | some lease=>
  refine ⟨withoutLease_accounts h hid,rfl,rfl,rfl,rfl,?_⟩
  intro j l
  simp only [lookup_erase_eq]
  by_cases hj:j=id <;>simp [hj]

lemma reapFold_spec(ids:List String)(n:ℕ)(s:Inner A)(h:Accounts s):
  Accounts (ids.foldl reapStep (n,s)).2∧Removed (fun j=>j∈ids) s (ids.foldl reapStep (n,s)).2:=by
 induction ids generalizing n s with
 | nil=>exact ⟨h,rfl,rfl,rfl,rfl,by simp⟩
 | cons id ids ih=>
  obtain ⟨h1,r1⟩:=reapStep_spec n s id h
  obtain ⟨h2,r2⟩:=ih (reapStep (n,s) id).1 (reapStep (n,s) id).2 h1
  refine ⟨h2,r2.id_eq.trans r1.id_eq,r2.capacity_eq.trans r1.capacity_eq,
   r2.number_eq.trans r1.number_eq,r2.token_eq.trans r1.token_eq,?_⟩
  intro j lease
  rw [foldl_cons]
  refine (r2.lookup_iff j lease).trans ?_
  rw [r1.lookup_iff,mem_cons]
  tauto

/-- The pool at a time: nothing but the leases that have expired by then is gone. -/
structure ReapedAt (now:SystemTime) (s s':Inner A) : Prop where
 id_eq:s'.id=s.id
 capacity_eq:s'.capacityUnits=s.capacityUnits
 number_eq:s'.nextLeaseNumber=s.nextLeaseNumber
 token_eq:s'.nextFencingToken=s.nextFencingToken
 lookup_iff:∀id lease,s'.active.lookup id=some lease ↔
  s.active.lookup id=some lease∧expiredAt now lease=false

lemma reapExpiredLocked_spec(h:Accounts s)(now:SystemTime):
  Accounts (reapExpiredLocked s now).2∧ReapedAt now s (reapExpiredLocked s now).2:=by
 obtain ⟨h1,r1⟩:=reapFold_spec (keysWhere (expiredAt now) s.active) 0 s h
 refine ⟨h1,r1.id_eq,r1.capacity_eq,r1.number_eq,r1.token_eq,?_⟩
 intro id lease
 refine (r1.lookup_iff id lease).trans ?_
 constructor
 · rintro ⟨hl,hn⟩
   refine ⟨hl,?_⟩
   by_contra hexp
   exact hn ((mem_keysWhere_iff _ _ id).mpr ⟨lease,hl,by simpa using hexp⟩)
 · rintro ⟨hl,hexp⟩
   refine ⟨hl,?_⟩
   intro hmem
   obtain ⟨l,hl',hp⟩:=(mem_keysWhere_iff _ _ id).mp hmem
   rw [hl] at hl'
   cases hl'
   rw [hexp] at hp
   cases hp

def reapAt (p:Pool A) (now:SystemTime) : Pool A :=
 { p with inner:=(reapExpiredLocked p.inner now).2 }

variable {p:Pool A}

lemma reapAt_invariant(h:Invariant p)(now:SystemTime):Invariant (reapAt p now):=by
 obtain ⟨hacc,hre⟩:=reapExpiredLocked_spec h.accounts now
 refine ⟨hacc,?_,?_⟩
 · intro id flag hf
   simp only [reapAt,hre.number_eq,hre.id_eq]
   exact h.handle_number id flag hf
 · intro id lease hl
   exact h.handle_live id lease ((hre.lookup_iff id lease).mp hl).1

def leaseOf (s:Inner A) (request:LeaseRequest A) (acquiredAt:SystemTime) : ActiveLease A where
 owner:=request.owner
 units:=request.units
 attributes:=request.attributeSelector
 fencingToken:=s.nextFencingToken
 acquiredAt
 expiresAt:=request.expiresAt

def acquired (p:Pool A) (request:LeaseRequest A) (acquiredAt:SystemTime) : Pool A where
 inner:={ p.inner with
  nextLeaseNumber:=p.inner.nextLeaseNumber+1
  nextFencingToken:=p.inner.nextFencingToken+1
  usedUnits:=p.inner.usedUnits+request.units
  active:=p.inner.active.insert (leaseIdOf p.inner.id p.inner.nextLeaseNumber)
   (leaseOf p.inner request acquiredAt) }
 handles:=p.handles.insert (leaseIdOf p.inner.id p.inner.nextLeaseNumber) false

def renewedLease (s:Inner A) (lease:ActiveLease A) (expiresAt:SystemTime) : ActiveLease A :=
 { lease with fencingToken:=s.nextFencingToken,expiresAt:=some expiresAt }

def renewed (p:Pool A) (leaseId:String) (lease:ActiveLease A) (expiresAt:SystemTime) : Pool A :=
 { p with
   inner:={ p.inner with
    nextFencingToken:=p.inner.nextFencingToken+1
    active:=p.inner.active.insert leaseId (renewedLease p.inner lease expiresAt) } }

lemma next_not_number{n:ℕ}(hn:n<s.nextLeaseNumber)(he:id=leaseIdOf s.id n):
  id≠leaseIdOf s.id s.nextLeaseNumber:=by
 intro h
 have:=leaseIdOf_injective s.id (he.symm.trans h)
 omega

lemma handle_next_none(h:Invariant p):
  p.handles.lookup (leaseIdOf p.inner.id p.inner.nextLeaseNumber)=none:=by
 cases hl:p.handles.lookup (leaseIdOf p.inner.id p.inner.nextLeaseNumber) with
 | none=>rfl
 | some flag=>
  obtain ⟨n,hn,he⟩:=h.handle_number _ flag hl
  exact absurd rfl (next_not_number hn he)

lemma acquired_invariant(h:Invariant p){request:LeaseRequest A}(now:SystemTime)
  (room:request.units≤availableUnits p.inner):Invariant (acquired p request now):=by
 have hfresh:p.inner.active.lookup (leaseIdOf p.inner.id p.inner.nextLeaseNumber)=none:=by
  cases hl:p.inner.active.lookup (leaseIdOf p.inner.id p.inner.nextLeaseNumber) with
  | none=>rfl
  | some lease=>
   have:=handle_next_none h
   rw [h.handle_live _ lease hl] at this
   cases this
 have hsum:=sumValues_insert_fresh ActiveLease.units p.inner.active _
  (leaseOf p.inner request now) hfresh
 have hused:=h.accounts.used_eq
 have hle:=h.accounts.used_le
 refine ⟨⟨?_,?_,?_,?_⟩,?_,?_⟩
 · have hunits:(leaseOf p.inner request now).units=request.units:=rfl
   simp only [acquired]
   omega
 · simp only [acquired,availableUnits] at room ⊢
   omega
 · intro id lease hl
   simp only [acquired,lookup_insert_eq] at hl
   split at hl
   · next hj=>exact ⟨p.inner.nextLeaseNumber,Nat.lt_succ_self _,hj⟩
   · obtain ⟨n,hn,he⟩:=h.accounts.number_lt id lease hl
     exact ⟨n,Nat.lt_succ_of_lt hn,he⟩
 · intro id lease hl
   simp only [acquired,lookup_insert_eq] at hl
   split at hl
   · cases hl
     exact Nat.lt_succ_self _
   · exact Nat.lt_succ_of_lt (h.accounts.token_lt id lease hl)
 · intro id flag hf
   simp only [acquired,lookup_insert_eq] at hf
   split at hf
   · next hj=>exact ⟨p.inner.nextLeaseNumber,Nat.lt_succ_self _,hj⟩
   · obtain ⟨n,hn,he⟩:=h.handle_number id flag hf
     exact ⟨n,Nat.lt_succ_of_lt hn,he⟩
 · intro id lease hl
   simp only [acquired,lookup_insert_eq] at hl ⊢
   split at hl
   · next hj=>simp [hj]
   · next hj=>
     simp only [hj,↓reduceIte]
     exact h.handle_live id lease hl

lemma renewed_invariant(h:Invariant p)(hid:p.inner.active.lookup id=some lease)
  (expiresAt:SystemTime):Invariant (renewed p id lease expiresAt):=by
 have hsum:=sumValues_insert_bound ActiveLease.units p.inner.active id lease
  (renewedLease p.inner lease expiresAt) hid
 have hunits:(renewedLease p.inner lease expiresAt).units=lease.units:=rfl
 have hused:=h.accounts.used_eq
 refine ⟨⟨?_,h.accounts.used_le,?_,?_⟩,h.handle_number,?_⟩
 · simp only [renewed]
   omega
 · intro j l hl
   simp only [renewed,lookup_insert_eq] at hl
   split at hl
   · next hj=>exact hj▸h.accounts.number_lt id lease hid
   · exact h.accounts.number_lt j l hl
 · intro j l hl
   simp only [renewed,lookup_insert_eq] at hl
   split at hl
   · cases hl
     exact Nat.lt_succ_self _
   · exact Nat.lt_succ_of_lt (h.accounts.token_lt j l hl)
 · intro j l hl
   simp only [renewed,lookup_insert_eq] at hl
   split at hl
   · next hj=>exact hj▸h.handle_live id lease hid
   · exact h.handle_live j l hl

def releasedPool (p:Pool A) (leaseId:String) (lease:ActiveLease A) : Pool A where
 inner:=withoutLease p.inner leaseId lease
 handles:=p.handles.insert leaseId true

lemma releasedPool_invariant(h:Invariant p)(hid:p.inner.active.lookup id=some lease):
  Invariant (releasedPool p id lease):=by
 refine ⟨withoutLease_accounts h.accounts hid,?_,?_⟩
 · intro j flag hf
   simp only [releasedPool,lookup_insert_eq] at hf
   split at hf
   · next hj=>exact hj▸h.handle_number id false (h.handle_live id lease hid)
   · exact h.handle_number j flag hf
 · intro j l hl
   simp only [releasedPool,withoutLease,lookup_erase_eq] at hl
   split at hl
   · cases hl
   · next hj=>
     simp only [releasedPool,lookup_insert_eq,hj,↓reduceIte]
     exact h.handle_live j l hl

lemma flagged_invariant(h:Invariant p)(hh:p.handles.lookup id=some false)
  (hid:p.inner.active.lookup id=none):Invariant { p with handles:=p.handles.insert id true }:=by
 refine ⟨h.accounts,?_,?_⟩
 · intro j flag hf
   simp only [lookup_insert_eq] at hf
   split at hf
   · next hj=>exact hj▸h.handle_number id false hh
   · exact h.handle_number j flag hf
 · intro j l hl
   rw [lookup_insert_eq]
   split
   · next hj=>
     subst hj
     rw [hid] at hl
     cases hl
   · exact h.handle_live j l hl

end GraphBlocks.LeasePool
