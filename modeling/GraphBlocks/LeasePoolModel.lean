import GraphBlocks.FiniteMap
import GraphBlocks.MachineRuns
import GraphBlocks.RustStd

/-! `LeasePool` of the flow crate and the `ResourceLease` handles it gives out. -/
namespace GraphBlocks.LeasePool
open FiniteMap RustStd

inductive IdentityField where
 | id | owner

inductive LeaseError where
 | invalidCapacity
 | invalidUnits
 | invalidExpiration
 | invalidIdentity (field:IdentityField)
 | identifierOverflow
 | capacityExhausted (poolId:String) (requestedUnits availableUnits:ℕ)
 | unknownLease (poolId leaseId:String)
 | staleFencingToken (poolId leaseId:String)
 | notYetActive (poolId leaseId:String) (acquiredAt attemptedAt:SystemTime)

structure LeaseRequest (A:Type) where
 owner:String
 units:ℕ
 attributeSelector:A
 expiresAt:Option SystemTime

structure ActiveLease (A:Type) where
 owner:String
 units:ℕ
 attributes:A
 fencingToken:ℕ
 acquiredAt:SystemTime
 expiresAt:Option SystemTime

structure Inner (A:Type) where
 id:String
 capacityUnits:ℕ
 usedUnits:ℕ
 nextLeaseNumber:ℕ
 nextFencingToken:ℕ
 active:FMap String (ActiveLease A)

/-- The pool and the `released` flags of the handles given out, by lease id. -/
structure Pool (A:Type) where
 inner:Inner A
 handles:FMap String Bool

variable {A:Type}

def validateIdentity (field:IdentityField) (value:String) : Except LeaseError Unit :=
 if isBlank value||value != trim value then .error (.invalidIdentity field) else .ok ()

def freshPool (id:String) (capacityUnits:ℕ) : Pool A := ⟨⟨id,capacityUnits,0,1,1,∅⟩,∅⟩

def new (id:String) (capacityUnits:ℕ) : Except LeaseError (Pool A) :=
 if capacityUnits=0 then .error .invalidCapacity
 else match validateIdentity .id id with
  | .error e=>.error e
  | .ok ()=>.ok (freshPool id capacityUnits)

def availableUnits (s:Inner A) : ℕ := s.capacityUnits-s.usedUnits

def expiredAt (now:SystemTime) (lease:ActiveLease A) : Bool :=
 match lease.expiresAt with
 | some expiresAt=>decide (expiresAt≤now)
 | none=>false

/-- `if let Some(active) = inner.active.remove(..)`, shared by reaping and by `release`. -/
def removeLease (s:Inner A) (leaseId:String) : Option (ActiveLease A)×Inner A :=
 match s.active.lookup leaseId with
 | some lease=>
  (some lease,{ s with active:=s.active.erase leaseId,usedUnits:=s.usedUnits-lease.units })
 | none=>(none,s)

def reapStep (acc:ℕ×Inner A) (leaseId:String) : ℕ×Inner A :=
 match removeLease acc.2 leaseId with
 | (some _,s)=>(acc.1+1,s)
 | (none,s)=>(acc.1,s)

def reapExpiredLocked (s:Inner A) (now:SystemTime) : ℕ×Inner A :=
 (keysWhere (expiredAt now) s.active).foldl reapStep (0,s)

/-- `format!("{}-{}", inner.id, inner.next_lease_number)`. -/
def leaseIdOf (poolId:String) (number:ℕ) : String := poolId++("-" ++ toString number)

/-- The lock-protected part of `try_acquire_at`, after reaping. -/
def acquireLocked (s:Inner A) (request:LeaseRequest A) (acquiredAt:SystemTime) :
  Except LeaseError String×Inner A :=
 if request.units > availableUnits s then
  (.error (.capacityExhausted s.id request.units (availableUnits s)),s)
 else match checkedSucc s.nextLeaseNumber with
  | none=>(.error .identifierOverflow,s)
  | some nextLeaseNumber=>
   match checkedSucc s.nextFencingToken with
   | none=>(.error .identifierOverflow,s)
   | some nextFencingToken=>
    match checkedAdd s.usedUnits request.units with
    | none=>(.error .identifierOverflow,s)
    | some usedUnits=>
     let leaseId:=leaseIdOf s.id s.nextLeaseNumber
     (.ok leaseId,{ s with
      nextLeaseNumber
      nextFencingToken
      usedUnits
      active:=s.active.insert leaseId
       { owner:=request.owner,units:=request.units,attributes:=request.attributeSelector
         fencingToken:=s.nextFencingToken,acquiredAt,expiresAt:=request.expiresAt } })

/-- The handle that `try_acquire_at` returns is not released. -/
def tryAcquireAt (p:Pool A) (request:LeaseRequest A) (acquiredAt:SystemTime) :
  Except LeaseError String×Pool A :=
 if request.units=0 then (.error .invalidUnits,p)
 else match validateIdentity .owner request.owner with
  | .error e=>(.error e,p)
  | .ok ()=>
   if request.expiresAt.any (fun expiresAt=>expiresAt≤acquiredAt) then (.error .invalidExpiration,p)
   else match acquireLocked (reapExpiredLocked p.inner acquiredAt).2 request acquiredAt with
    | (.error e,inner)=>(.error e,{ p with inner })
    | (.ok leaseId,inner)=>(.ok leaseId,{ inner,handles:=p.handles.insert leaseId false })

/-- The lock-protected part of `renew_at`, after reaping. -/
def renewLocked (s:Inner A) (leaseId:String) (fencingToken:ℕ)
  (expiresAt renewedAt:SystemTime) : Except LeaseError ℕ×Inner A :=
 match s.active.lookup leaseId with
 | none=>(.error (.unknownLease s.id leaseId),s)
 | some lease=>
  if renewedAt<lease.acquiredAt then
   (.error (.notYetActive s.id leaseId lease.acquiredAt renewedAt),s)
  else if lease.fencingToken≠fencingToken then (.error (.staleFencingToken s.id leaseId),s)
  else match lease.expiresAt with
   | none=>(.error .invalidExpiration,s)
   | some currentExpiration=>
    if expiresAt≤currentExpiration then (.error .invalidExpiration,s)
    else match checkedSucc s.nextFencingToken with
     | none=>(.error .identifierOverflow,s)
     | some nextFencingToken=>
      (.ok s.nextFencingToken,{ s with
       nextFencingToken
       active:=s.active.insert leaseId
        { lease with fencingToken:=s.nextFencingToken,expiresAt:=some expiresAt } })

def renewAt (p:Pool A) (leaseId:String) (fencingToken:ℕ)
  (expiresAt renewedAt:SystemTime) : Except LeaseError ℕ×Pool A :=
 if expiresAt≤renewedAt then (.error .invalidExpiration,p)
 else
  let (r,inner):=renewLocked (reapExpiredLocked p.inner renewedAt).2 leaseId fencingToken
   expiresAt renewedAt
  (r,{ p with inner })

def validateLocked (s:Inner A) (leaseId:String) (fencingToken:ℕ)
  (validatedAt:SystemTime) : Except LeaseError Unit :=
 match s.active.lookup leaseId with
 | none=>.error (.unknownLease s.id leaseId)
 | some lease=>
  if validatedAt<lease.acquiredAt then
   .error (.notYetActive s.id leaseId lease.acquiredAt validatedAt)
  else if lease.fencingToken≠fencingToken then .error (.staleFencingToken s.id leaseId)
  else .ok ()

def validateFencingTokenAt (p:Pool A) (leaseId:String) (fencingToken:ℕ)
  (validatedAt:SystemTime) : Except LeaseError Unit×Pool A :=
 let inner:=(reapExpiredLocked p.inner validatedAt).2
 (validateLocked inner leaseId fencingToken validatedAt,{ p with inner })

def reapExpired (p:Pool A) (now:SystemTime) : ℕ×Pool A :=
 let (reaped,inner):=reapExpiredLocked p.inner now
 (reaped,{ p with inner })

/-- `ResourceLease::release`, also run when the handle is dropped; without a handle nothing happens. -/
def release (p:Pool A) (leaseId:String) : Bool×Pool A :=
 match p.handles.lookup leaseId with
 | none=>(false,p)
 | some true=>(false,p)
 | some false=>
  let flagged:={ p with handles:=p.handles.insert leaseId true }
  match removeLease p.inner leaseId with
  | (some _,inner)=>(true,{ flagged with inner })
  | (none,_)=>(false,flagged)

/-- `ResourceLease::fencing_token`, which is zero once the lease is gone. -/
def fencingToken (p:Pool A) (leaseId:String) : ℕ :=
 match p.inner.active.lookup leaseId with
 | some lease=>lease.fencingToken
 | none=>0

inductive Call (A:Type) where
 | tryAcquireAt (request:LeaseRequest A) (acquiredAt:SystemTime)
 | renewAt (leaseId:String) (fencingToken:ℕ) (expiresAt renewedAt:SystemTime)
 | validateFencingTokenAt (leaseId:String) (fencingToken:ℕ) (validatedAt:SystemTime)
 | reapExpired (now:SystemTime)
 | release (leaseId:String)

inductive Response where
 | lease (r:Except LeaseError String)
 | token (r:Except LeaseError ℕ)
 | valid (r:Except LeaseError Unit)
 | reaped (n:ℕ)
 | released (done:Bool)

def step (p:Pool A) : Call A→Response×Pool A
 | .tryAcquireAt request acquiredAt=>(tryAcquireAt p request acquiredAt).map .lease id
 | .renewAt leaseId fencingToken expiresAt renewedAt=>
  (renewAt p leaseId fencingToken expiresAt renewedAt).map .token id
 | .validateFencingTokenAt leaseId fencingToken validatedAt=>
  (validateFencingTokenAt p leaseId fencingToken validatedAt).map .valid id
 | .reapExpired now=>(reapExpired p now).map .reaped id
 | .release leaseId=>(release p leaseId).map .released id

/-- The time at which a call reaps; a release reaps nothing. -/
def Call.time : Call A→Option SystemTime
 | .tryAcquireAt _ acquiredAt=>some acquiredAt
 | .renewAt _ _ _ renewedAt=>some renewedAt
 | .validateFencingTokenAt _ _ validatedAt=>some validatedAt
 | .reapExpired now=>some now
 | .release _=>none

def Response.isError : Response→Bool
 | .lease (.error _) | .token (.error _) | .valid (.error _)=>true
 | _=>false

end GraphBlocks.LeasePool
