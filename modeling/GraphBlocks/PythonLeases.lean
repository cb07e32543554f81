import GraphBlocks.MachineRuns
import GraphBlocks.PythonStd
import Mathlib.Data.Rat.Defs

/-! `InMemoryLeasePool` of `graphblocks/leases.py`. -/
namespace GraphBlocks.PythonLeases
open PythonStd RustStd List

def maxU64 : ℕ := 2^64-1

/-- The errors of `AuthorityWallClock.now_milliseconds`. -/
inductive ClockError where
 | value | skew

/-- The lease errors. A message with a `repr` in it is kept as its values. -/
inductive LeaseError where
 | leaseUnavailable (text:String)
 | unknownLease (text:String)
 | staleFencingToken (text:String)
 | invalidLeaseRequest (text:String)
 | unknownRestoredResource (leaseId resource:String)
 | restoredCapacityExceeded (resource:String)
 | intConversion
 | clock (error:ClockError)

/-- `int | float`. -/
inductive Number where
 | finite (value:ℚ)
 | nonFinite

/-- A string that `_validate_non_empty_string` accepts. -/
abbrev Text := { value:String // strip value ≠ "" ∧ value=strip value }

/-- An integer that `_validate_positive_integer` accepts. -/
abbrev Count := { n:ℕ // 0<n∧n≤ maxU64 }

/-- An integer that `_validate_non_negative_integer` accepts. -/
abbrev Token := { n:ℕ // n≤ maxU64 }

/-- A number that `_validate_time` accepts. -/
abbrev Time := { value:ℚ // 0≤value }

/-- `_validate_non_empty_string`. A Lean string has Unicode scalar values only. -/
def nonEmptyString (fieldName value:String) : Except LeaseError Text :=
 if hempty : strip value = "" then
  .error (.invalidLeaseRequest s!"lease {fieldName} must be a non-empty string")
 else if hstripped : value=strip value then .ok ⟨value,hempty,hstripped⟩
 else .error (.invalidLeaseRequest s!"lease {fieldName} must not contain surrounding whitespace")

/-- `_validate_positive_integer`. -/
def positiveInteger (fieldName:String) (value:ℤ) : Except LeaseError Count :=
 if hpositive : value≤0 then
  .error (.invalidLeaseRequest s!"lease {fieldName} must be a positive integer")
 else if hmax : maxU64<value then
  .error (.invalidLeaseRequest s!"lease {fieldName} must be at most {maxU64}")
 else .ok ⟨value.toNat,by omega,by omega⟩

/-- `_validate_non_negative_integer`. -/
def nonNegativeInteger (fieldName:String) (value:ℤ) : Except LeaseError Token :=
 if value<0 then .error (.invalidLeaseRequest s!"lease {fieldName} must be a non-negative integer")
 else if hmax : maxU64<value then
  .error (.invalidLeaseRequest s!"lease {fieldName} must be at most {maxU64}")
 else .ok ⟨value.toNat,by omega⟩

def validateTime (fieldName:String) : Number→Except LeaseError Time
 | .nonFinite=>.error (.invalidLeaseRequest s!"lease {fieldName} must be finite")
 | .finite value=>
  if hnonneg : 0≤value then .ok ⟨value,hnonneg⟩
  else .error (.invalidLeaseRequest s!"lease {fieldName} must be non-negative")

def validateOptionalTime (fieldName:String) : Option Number→Except LeaseError (Option Time)
 | none=>.ok none
 | some value=>(validateTime fieldName value).map some

structure ActiveLease (α:Type) where
 resource:Text
 owner:Text
 units:Count
 fencingToken:Token
 attributes:α
 acquiredAt:Time
 expiresAt:Option Time
 interval:∀expires,expiresAt=some expires→acquiredAt<expires

variable {α:Type}

/-- `ActiveLease.__post_init__`. -/
def ActiveLease.new (resource owner:String) (units fencingToken:ℤ) (attributes:α)
  (acquiredAt:Number) (expiresAt:Option Number) : Except LeaseError (ActiveLease α) := do
 let resource ← nonEmptyString "resource name" resource
 let owner ← nonEmptyString "owner" owner
 let units ← positiveInteger "units" units
 let fencingToken ← nonNegativeInteger "fencing_token" fencingToken
 let acquiredAt ← validateTime "acquired_at" acquiredAt
 let expiresAt ← validateOptionalTime "expires_at" expiresAt
 if interval : ∀expires,expiresAt=some expires→acquiredAt<expires then
  .ok { resource,owner,units,fencingToken,attributes,acquiredAt,expiresAt,interval }
 else .error (.invalidLeaseRequest "lease expires_at must be after acquisition")

def ActiveLease.expired (active:ActiveLease α) (now:ℚ) : Bool :=
 active.expiresAt.any fun expires=>expires.1≤now

structure InMemoryLeasePool (α:Type) where
 capacities:Dict Text Count
 active:Dict Text (ActiveLease α)
 nextId:ℕ
 nextFencingToken:ℕ
 authorityClock:Bool

def leaseIdOf (number:ℕ) : String := "lease-" ++ zeroPadded 6 number

lemma zeroPadded_digits(width number:ℕ):∀c∈(zeroPadded width number).toList,c.isDigit=true:=by
 intro c hc
 rw [zeroPadded,String.toList_ofList,mem_append] at hc
 rcases hc with hc|hc
 · rw [eq_of_mem_replicate hc]
   rfl
 · exact DigitStrings.isDigits_toDigits number c hc

lemma zeroPadded_ne_empty(width number:ℕ):zeroPadded width number≠"":=by
 intro h
 have hlist:=congrArg String.toList h
 simp [zeroPadded,Nat.toDigits_ne_nil] at hlist

lemma text_leaseIdOf(number:ℕ):
  strip (leaseIdOf number)≠""∧leaseIdOf number=strip (leaseIdOf number):=by
 have hstrip:strip (leaseIdOf number)=leaseIdOf number:=by
  apply strip_append (by decide) (by decide) (zeroPadded_ne_empty 6 number)
  intro c hc
  exact isSpace_of_isDigit (zeroPadded_digits 6 number c (mem_of_getLast? hc))
 refine ⟨?_,hstrip.symm⟩
 rw [hstrip]
 intro h
 have hlist:=congrArg String.toList h
 simp [leaseIdOf] at hlist

def leaseIdText (number:ℕ) : Text := ⟨leaseIdOf number,text_leaseIdOf number⟩

/-- The decimal digits after `lease-`, if the id has that form. -/
def restoredSuffix (leaseId:String) : Option (List Char) :=
 let suffix:=leaseId.toList.drop 6
 if "lease-".toList.isPrefixOf leaseId.toList && !suffix.isEmpty&&suffix.all Char.isDigit then
  some suffix
 else none

/-- The most digits that `int` reads. -/
def maxStrDigits : ℕ := 4300

/-- The number of a restored id; an id of another form counts as `0`. -/
def restoredId (leaseId:String) : Except LeaseError ℕ :=
 match restoredSuffix leaseId with
 | none=>.ok 0
 | some suffix=>do
  ensure (suffix.length≤ maxStrDigits) .intConversion
  ensure (DigitStrings.value suffix≤ maxU64) (.invalidLeaseRequest
   "active lease numeric identifiers must fit an unsigned 64-bit integer")
  return DigitStrings.value suffix

def copyCapacities (capacities:Dict Text Count) :
  List (String×ℤ)→Except LeaseError (Dict Text Count)
 | []=>.ok capacities
 | (resource,capacity)::items=>do
  let resource ← nonEmptyString "resource name" resource
  ensure (capacities.get? resource).isNone
   (.invalidLeaseRequest "lease capacity resource names must be unique")
  let capacity ← positiveInteger s!"capacity for {resource.1}" capacity
  copyCapacities (capacities.set resource capacity) items

def copyActive (active:Dict Text (ActiveLease α)) :
  List (String×ActiveLease α)→Except LeaseError (Dict Text (ActiveLease α))
 | []=>.ok active
 | (leaseId,lease)::items=>do
  let leaseId ← nonEmptyString "lease_id" leaseId
  ensure (active.get? leaseId).isNone
   (.invalidLeaseRequest "lease active record identifiers must be unique")
  copyActive (active.set leaseId lease) items

/-- The variables of the last loop of `__post_init__`. -/
structure Restored where
 maxRestoredId:ℕ
 maxRestoredFencingToken:ℕ
 restoredUnits:Dict Text ℕ
 restoredFencingTokens:List Token

/-- The body of the last loop of `__post_init__`. -/
def restoreLease (capacities:Dict Text Count) (restored:Restored) (leaseId:Text)
  (active:ActiveLease α) : Except LeaseError Restored :=
 let units:=(restored.restoredUnits.get? active.resource).getD 0+active.units.1
 match capacities.get? active.resource with
 | none=>.error (.unknownRestoredResource leaseId.1 active.resource.1)
 | some capacity=>do
  ensure (units≤capacity.1) (.restoredCapacityExceeded active.resource.1)
  ensure (active.fencingToken.1 != 0)
   (.invalidLeaseRequest "active lease fencing tokens must be positive integers")
  ensure (!restored.restoredFencingTokens.contains active.fencingToken)
   (.invalidLeaseRequest "active lease fencing tokens must be unique")
  let number ← restoredId leaseId.1
  return {
   maxRestoredId:=max restored.maxRestoredId number
   maxRestoredFencingToken:=max restored.maxRestoredFencingToken active.fencingToken.1
   restoredUnits:=restored.restoredUnits.set active.resource units
   restoredFencingTokens:=active.fencingToken::restored.restoredFencingTokens }

def restoreLeases (capacities:Dict Text Count) (restored:Restored) :
  List (Text×ActiveLease α)→Except LeaseError Restored
 | []=>.ok restored
 | (leaseId,active)::items=>do
  let restored ← restoreLease capacities restored leaseId active
  restoreLeases capacities restored items

def InMemoryLeasePool.new (capacities:List (String×ℤ)) (active:List (String×ActiveLease α))
  (nextId nextFencingToken:ℤ) (authorityClock:Bool) : Except LeaseError (InMemoryLeasePool α) := do
 let capacities ← copyCapacities Dict.empty capacities
 let active ← copyActive Dict.empty active
 let restored ← restoreLeases capacities ⟨0,0,Dict.empty,[]⟩ active.items
 let nextId ← positiveInteger "next_id" nextId
 let nextFencingToken ← positiveInteger "next_fencing_token" nextFencingToken
 return {
  capacities,active
  nextId:=max nextId.1 (min (restored.maxRestoredId+1) maxU64)
  nextFencingToken:=max nextFencingToken.1 (min (restored.maxRestoredFencingToken+1) maxU64)
  authorityClock }

section
variable (pool:InMemoryLeasePool α) (reading:Except ClockError ℕ)

def expiredIds (now:ℚ) : List Text :=
 (pool.active.items.filter fun item=>item.2.expired now).map Prod.fst

/-- The body of `reap_expired`, at a time that has been resolved. -/
def reap (now:ℚ) : InMemoryLeasePool α :=
 { pool with active:=pool.active.popAll (expiredIds pool now) }

def usedUnits (resource:Text) : ℕ :=
 ((pool.active.values.filter fun active=>active.resource==resource).map
  fun active=>active.units.1).sum

def capacityOf (resource:String) : Except LeaseError (Text×Count) := do
 let resource ← nonEmptyString "resource name" resource
 match pool.capacities.get? resource with
 | some capacity=>return (resource,capacity)
 | none=>throw (.leaseUnavailable s!"unknown lease resource {resource.1}")

def resolveAuthorityTime (fieldName:String) : Option Number→Except LeaseError Time
 | some value=>validateTime fieldName value
 | none=>
  if !pool.authorityClock then .ok ⟨0,le_refl 0⟩
  else do
   let milliseconds ← reading.mapError .clock
   validateTime fieldName (.finite milliseconds)

def activeLease (leaseId:String) : Except LeaseError (Text×ActiveLease α) := do
 let leaseId ← nonEmptyString "lease_id" leaseId
 match pool.active.get? leaseId with
 | some active=>return (leaseId,active)
 | none=>throw (.unknownLease s!"unknown lease {leaseId.1}")

def reapExpired (now:Option Number) : Except LeaseError ℕ×InMemoryLeasePool α :=
 match resolveAuthorityTime pool reading "now" now with
 | .error e=>(.error e,pool)
 | .ok now=>(.ok (expiredIds pool now.1).length,reap pool now.1)

def available (resource:String) (now:Option Number) : Except LeaseError ℤ×InMemoryLeasePool α :=
 match capacityOf pool resource with
 | .error e=>(.error e,pool)
 | .ok (resource,capacity)=>
  if now.isSome||pool.authorityClock then
   match reapExpired pool reading now with
   | (.error e,pool)=>(.error e,pool)
   | (.ok _,pool)=>(.ok (capacity.1-usedUnits pool resource),pool)
  else (.ok (capacity.1-usedUnits pool resource),pool)

/-- The first number from `number` on whose id is free, or `_MAX_U64`. The loop that looks for it
passes at most one number for each active lease. -/
def freeNumber : (rounds:ℕ)→(number:ℕ)→ℕ
 | 0, number=>number
 | rounds+1, number=>
  if number< maxU64∧(pool.active.get? (leaseIdText number)).isSome then freeNumber rounds (number+1)
  else number

def firstFreeNumber : ℕ := freeNumber pool pool.active.items.length pool.nextId

/-- The greatest fencing token of the active leases, or `0`. -/
def maxActiveFencingToken : ℕ :=
 (pool.active.values.map fun active=>active.fencingToken.1).foldr max 0

def fencingCandidate : ℕ :=
 if pool.active.items.isEmpty then pool.nextFencingToken
 else max pool.nextFencingToken (maxActiveFencingToken pool+1)

/-- The checks of `acquire` that the counters are not exhausted. -/
def checkCounters : Except LeaseError Unit := do
 ensure (firstFreeNumber pool< maxU64)
  (.invalidLeaseRequest "lease identifier counter is exhausted")
 ensure (pool.active.items.isEmpty||maxActiveFencingToken pool< maxU64)
  (.invalidLeaseRequest "lease fencing token counter is exhausted")
 ensure (fencingCandidate pool< maxU64)
  (.invalidLeaseRequest "lease fencing token counter is exhausted")

def allocateLeaseId : Except LeaseError Text×InMemoryLeasePool α :=
 if firstFreeNumber pool< maxU64 then
  (.ok (leaseIdText (firstFreeNumber pool)),{ pool with nextId:=firstFreeNumber pool+1 })
 else (.error (.invalidLeaseRequest "lease identifier counter is exhausted"),pool)

def allocateFencingToken : Except LeaseError ℕ×InMemoryLeasePool α :=
 if fencingCandidate pool< maxU64 then
  (.ok (fencingCandidate pool),{ pool with nextFencingToken:=fencingCandidate pool+1 })
 else (.error (.invalidLeaseRequest "lease fencing token counter is exhausted"),pool)

/-- The arguments of `acquire`, checked. -/
structure AcquireRequest (α:Type) where
 resource:Text
 capacity:Count
 owner:Text
 units:ℕ
 attributes:α
 acquiredAt:Time
 expiresAt:Option Time
 positive:0<units
 interval:∀expires,expiresAt=some expires→acquiredAt<expires

/-- The part of `acquire` before it reaps. `attributes` is what freezing them gives. -/
def acquireRequest (resource owner:String) (units:ℤ) (attributes:Except LeaseError α)
  (expiresAt acquiredAt:Option Number) : Except LeaseError (AcquireRequest α) := do
 let (resource,capacity) ← capacityOf pool resource
 let owner ← nonEmptyString "owner" owner
 if positive : 0<units.toNat then
  let acquiredAt ← resolveAuthorityTime pool reading "acquired_at" acquiredAt
  let expiresAt ← validateOptionalTime "expires_at" expiresAt
  if interval : ∀expires,expiresAt=some expires→acquiredAt<expires then
   let attributes ← attributes
   return {
    resource,capacity,owner
    units:=units.toNat
    attributes,acquiredAt,expiresAt,positive,interval }
  else throw (.invalidLeaseRequest "lease expires_at must be after acquisition")
 else throw (.invalidLeaseRequest "lease units must be a positive integer")

/-- `Lease.__post_init__`. -/
def checkLease (leaseId resource owner:String) (units fencingToken:ℤ) : Except LeaseError Unit := do
 let _ ← nonEmptyString "lease_id" leaseId
 let _ ← nonEmptyString "resource name" resource
 let _ ← nonEmptyString "owner" owner
 let _ ← positiveInteger "units" units
 let _ ← nonNegativeInteger "fencing_token" fencingToken

/-- The id and the token of a lease that `acquire` returns. -/
abbrev Issued := Text×ℕ

def insertLease (request:AcquireRequest α) (leaseId:Text) (fencingToken:ℕ) :
  Except LeaseError Issued×InMemoryLeasePool α :=
 match ActiveLease.new request.resource.1 request.owner.1 request.units fencingToken
   request.attributes (.finite request.acquiredAt.1)
   (request.expiresAt.map fun expires=>.finite expires.1) with
 | .error e=>(.error e,pool)
 | .ok active=>
  ((checkLease leaseId.1 request.resource.1 request.owner.1 request.units fencingToken).map
    fun _=>(leaseId,fencingToken),
   { pool with active:=pool.active.set leaseId active })

/-- The part of `acquire` that allocates. -/
def issueLease (request:AcquireRequest α) : Except LeaseError Issued×InMemoryLeasePool α :=
 match allocateLeaseId pool with
 | (.error e,pool)=>(.error e,pool)
 | (.ok leaseId,pool)=>
  match allocateFencingToken pool with
  | (.error e,pool)=>(.error e,pool)
  | (.ok fencingToken,pool)=>insertLease pool request leaseId fencingToken

/-- The part of `acquire` after it has reaped. -/
def grantLease (request:AcquireRequest α) : Except LeaseError Issued×InMemoryLeasePool α :=
 let available : ℤ:=request.capacity.1-usedUnits pool request.resource
 if available<request.units then
  (.error (.leaseUnavailable (s!"no lease available for {request.resource.1}: " ++
   s!"requested {request.units}, available {available}")),pool)
 else match checkCounters pool with
  | .error e=>(.error e,pool)
  | .ok ()=>issueLease pool request

def acquire (resource owner:String) (units:ℤ) (attributes:Except LeaseError α)
  (expiresAt acquiredAt:Option Number) : Except LeaseError Issued×InMemoryLeasePool α :=
 match acquireRequest pool reading resource owner units attributes expiresAt acquiredAt with
 | .error e=>(.error e,pool)
 | .ok request=>grantLease (reap pool request.acquiredAt.1) request

/-- The arguments of `renew`, checked. -/
structure RenewRequest where
 leaseId:String
 fencingToken:Token
 expiresAt:Time
 renewedAt:Time

def renewRequest (leaseId:String) (fencingToken:ℤ) (expiresAt:Number)
  (renewedAt:Option Number) : Except LeaseError RenewRequest := do
 let renewedAt ← resolveAuthorityTime pool reading "renewed_at" renewedAt
 let expiresAt ← validateTime "expires_at" expiresAt
 let fencingToken ← nonNegativeInteger "fencing_token" fencingToken
 ensure (renewedAt<expiresAt)
  (.invalidLeaseRequest "lease expires_at must be after renewal")
 return { leaseId,fencingToken,expiresAt,renewedAt }

/-- The checks of `renew` against the lease. -/
def renewable (request:RenewRequest) : Except LeaseError (Text×ActiveLease α) := do
 let (leaseId,active) ← activeLease pool request.leaseId
 ensure (active.acquiredAt≤request.renewedAt)
  (.invalidLeaseRequest "lease renewed_at must not precede acquisition")
 ensure (active.fencingToken==request.fencingToken)
  (.staleFencingToken s!"lease {request.leaseId} fencing token is stale")
 ensure (active.expiresAt.any (· < request.expiresAt))
  (.invalidLeaseRequest "lease renewal must extend the current expiration")
 return (leaseId,active)

/-- The part of `renew` that replaces the record of the lease. -/
def replaceLease (leaseId:Text) (active:ActiveLease α) (expiresAt:Time) :
  Except LeaseError ℕ×InMemoryLeasePool α :=
 match allocateFencingToken pool with
 | (.error e,pool)=>(.error e,pool)
 | (.ok renewedToken,pool)=>
  match ActiveLease.new active.resource.1 active.owner.1 active.units.1 renewedToken
    active.attributes (.finite active.acquiredAt.1) (some (.finite expiresAt.1)) with
  | .error e=>(.error e,pool)
  | .ok renewed=>(.ok renewedToken,{ pool with active:=pool.active.set leaseId renewed })

/-- The part of `renew` after it has reaped. -/
def extendLease (request:RenewRequest) : Except LeaseError ℕ×InMemoryLeasePool α :=
 match renewable pool request with
 | .error e=>(.error e,pool)
 | .ok (leaseId,active)=>replaceLease pool leaseId active request.expiresAt

def renew (leaseId:String) (fencingToken:ℤ) (expiresAt:Number)
  (renewedAt:Option Number) : Except LeaseError ℕ×InMemoryLeasePool α :=
 match renewRequest pool reading leaseId fencingToken expiresAt renewedAt with
 | .error e=>(.error e,pool)
 | .ok request=>extendLease (reap pool request.renewedAt.1) request

def validateFencingToken (leaseId:String) (fencingToken:ℤ) : Except LeaseError Unit := do
 let _ ← nonEmptyString "lease_id" leaseId
 let fencingToken ← nonNegativeInteger "fencing_token" fencingToken
 let (_,active) ← activeLease pool leaseId
 ensure (active.fencingToken==fencingToken)
  (.staleFencingToken s!"lease {leaseId} fencing token is stale")

def checkRelease (leaseId:String) (active:ActiveLease α) : Option ℤ→Except LeaseError Unit
 | none=>.error (.invalidLeaseRequest "lease fencing_token is required to release an active lease")
 | some fencingToken=>do
  let fencingToken ← nonNegativeInteger "fencing_token" fencingToken
  ensure (active.fencingToken==fencingToken)
   (.staleFencingToken s!"lease {leaseId} fencing token is stale")

def release (leaseId:String) (fencingToken:Option ℤ) : Except LeaseError Bool×InMemoryLeasePool α :=
 match nonEmptyString "lease_id" leaseId with
 | .error e=>(.error e,pool)
 | .ok leaseId=>
  match pool.active.get? leaseId with
  | none=>(.ok false,pool)
  | some active=>
   match checkRelease leaseId.1 active fencingToken with
   | .error e=>(.error e,pool)
   | .ok ()=>(.ok true,{ pool with active:=pool.active.pop leaseId })

def ownedIds (owner:Text) : List Text :=
 (pool.active.items.filter fun item=>item.2.owner==owner).map Prod.fst

def releaseAll (owner:String) : Except LeaseError Unit×InMemoryLeasePool α :=
 match nonEmptyString "owner" owner with
 | .error e=>(.error e,pool)
 | .ok owner=>(.ok (),{ pool with active:=pool.active.popAll (ownedIds pool owner) })

def reconstruct (authorityClock:Bool) : Except LeaseError Unit×InMemoryLeasePool α :=
 match InMemoryLeasePool.new (pool.capacities.items.map fun item=>(item.1.1,(item.2.1:ℤ)))
   (pool.active.items.map fun item=>(item.1.1,item.2)) pool.nextId pool.nextFencingToken
   authorityClock with
 | .error e=>(.error e,pool)
 | .ok pool=>(.ok (),pool)
end

inductive PoolCall (α:Type) where
 | acquire (resource owner:String) (units:ℤ) (attributes:Except LeaseError α)
   (expiresAt acquiredAt:Option Number)
 | renew (leaseId:String) (fencingToken:ℤ) (expiresAt:Number) (renewedAt:Option Number)
 | validateFencingToken (leaseId:String) (fencingToken:ℤ)
 | reapExpired (now:Option Number)
 | available (resource:String) (now:Option Number)
 | release (leaseId:String) (fencingToken:Option ℤ)
 | releaseAll (owner:String)
 | reconstruct (authorityClock:Bool)

/-- A call and what the authority clock would read while it runs. -/
structure PoolInput (α:Type) where
 call:PoolCall α
 reading:Except ClockError ℕ

inductive PoolAnswer where
 | issued (lease:Issued)
 | renewed (fencingToken:ℕ)
 | reaped (count:ℕ)
 | units (available:ℤ)
 | released (removed:Bool)
 | done

def answer {β:Type} (wrap:β→PoolAnswer) (out:Except LeaseError β×InMemoryLeasePool α) :
  Except LeaseError PoolAnswer×InMemoryLeasePool α :=
 (out.1.map wrap,out.2)

def poolStep (pool:InMemoryLeasePool α) (input:PoolInput α) :
  Except LeaseError PoolAnswer×InMemoryLeasePool α :=
 match input.call with
 | .acquire resource owner units attributes expiresAt acquiredAt=>
  answer .issued
   (acquire pool input.reading resource owner units attributes expiresAt acquiredAt)
 | .renew leaseId fencingToken expiresAt renewedAt=>
  answer .renewed (renew pool input.reading leaseId fencingToken expiresAt renewedAt)
 | .validateFencingToken leaseId fencingToken=>
  answer (fun _=>.done) (validateFencingToken pool leaseId fencingToken,pool)
 | .reapExpired now=>answer .reaped (reapExpired pool input.reading now)
 | .available resource now=>answer .units (available pool input.reading resource now)
 | .release leaseId fencingToken=>answer .released (release pool leaseId fencingToken)
 | .releaseAll owner=>answer (fun _=>.done) (releaseAll pool owner)
 | .reconstruct authorityClock=>answer (fun _=>.done) (reconstruct pool authorityClock)

end GraphBlocks.PythonLeases
