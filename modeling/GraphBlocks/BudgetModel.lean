import GraphBlocks.MachineRuns
import GraphBlocks.PolicyTime
import GraphBlocks.UsageAmounts

/-! `InMemoryBudgetLedger` of the runtime core. A call returns its result and the ledger it leaves
behind, also when it fails: Rust's `?` keeps the updates made before it. -/
namespace GraphBlocks.Budget
open Std RustStd Usage PolicyTime

abbrev StringMap (α:Type) := ExtTreeMap String α

inductive BudgetStatus where
 | active | exhausted | paused | closed
deriving DecidableEq

inductive ReservationPurpose where
 | providerCall | task | trial | tool | finalization | cleanup
deriving DecidableEq

inductive CompletionReservePurpose where
 | finalization | checkpoint | cleanup | compensation

def CompletionReservePurpose.reservationPurpose : CompletionReservePurpose→ReservationPurpose
 | .finalization=>.finalization
 | .checkpoint=>.finalization
 | .cleanup=>.cleanup
 | .compensation=>.cleanup

inductive ReservationStatus where
 | reserved | committed | released | expired
deriving DecidableEq

inductive CompletionReserveStatus where
 | available | spent | released | expired
deriving DecidableEq

/-- What a `BudgetError::Storage` message reports. -/
inductive StorageFailure where
 | missing (budgetId component:String)
 | counterExhausted (counter:String)
 | counterRange (counter:String)
 | missingAccount (relation budgetId:String)
 | exceedsIntegerRange (label:String)
 | negative (label:String)
 | unknownText (label text:String)
 | malformed (message:String)
 | json (message:String)

inductive BudgetError where
 | budgetNotFound (budgetId:String)
 | budgetConflict (budgetId:String)
 | reservationNotFound (reservationId:String)
 | reservationConflict (reservationId:String)
 | permitNotFound (permitId:String)
 | permitConflict (permitId:String)
 | permitScope (permitId reservationId:String)
 | permitFencing (permitId budgetId:String) (requiredToken:ℕ) (actualToken:Option ℕ)
 | permitExpired (permitId expiresAt now:String)
 | completionReserveNotFound (reserveId:String)
 | completionReserveConflict (reserveId:String)
 | completionReserveUnauthorized (reserveId spender:String)
 | completionReserveState (reserveId:String) (status:CompletionReserveStatus)
 | reservationState (reservationId:String) (status:ReservationStatus)
 | budgetExceeded (budgetId kind unit:String)
 | invalidPermit (message:String)
 | invalidCompletionReserve (message:String)
 | invalidUsageAmount (message:String)
 | storage (failure:StorageFailure)

structure BudgetAccount where
 budgetId:String
 scope:String
 allocated:List UsageAmount
 parentBudgetId:Option String
 status:BudgetStatus
 policyRef:String
 revision:ℕ
deriving DecidableEq

structure BudgetReservation where
 reservationId:String
 budgetId:String
 owner:String
 amounts:List UsageAmount
 purpose:ReservationPurpose
 expiresAt:String
 fencingToken:ℕ
 status:ReservationStatus
deriving DecidableEq

structure BudgetBalance where
 budgetId:String
 allocated:List UsageAmount
 reserved:List UsageAmount
 committed:List UsageAmount
 available:List UsageAmount
 overdraft:List UsageAmount
 revision:ℕ

structure BudgetSettlement where
 reservationId:String
 budgetId:String
 committed:List UsageAmount
 released:List UsageAmount
 overdraft:List UsageAmount
 status:ReservationStatus
 revision:ℕ

structure BudgetPermit where
 permitId:String
 reservationRefs:List String
 owner:String
 atomicUnit:String
 admissionEpoch:ℕ
 authorizedAmounts:List UsageAmount
 continuationProfile:String
 policySnapshotDigest:String
 expiresAt:String
 lowWatermark:List UsageAmount
 fencingTokens:StringMap ℕ
deriving DecidableEq

def BudgetPermit.isActiveAt (permit:BudgetPermit) (now:String) : Bool :=
 match parsePolicyDatetimeMillis permit.expiresAt, parsePolicyDatetimeMillis now with
 | some expiresAt, some now=>decide (expiresAt > now)
 | _, _=>false

structure CompletionReserve where
 reserveId:String
 budgetId:String
 purpose:CompletionReservePurpose
 amounts:List UsageAmount
 spendableBy:ExtTreeSet String
 expiresAt:Option String
 status:CompletionReserveStatus
 reservationId:Option String
 fencingToken:ℕ

structure InMemoryBudgetLedger where
 accounts:StringMap BudgetAccount
 allocated:StringMap AmountMap
 reserved:StringMap AmountMap
 committed:StringMap AmountMap
 overdraft:StringMap AmountMap
 reservations:StringMap BudgetReservation
 reservationHolds:StringMap (List String)
 permits:StringMap BudgetPermit
 permitSpent:StringMap AmountMap
 completionReserves:StringMap CompletionReserve
 completionReserveHolds:StringMap (List String)
 reservationCounter:ℕ
 fencingCounter:ℕ

def InMemoryBudgetLedger.new : InMemoryBudgetLedger := ⟨∅,∅,∅,∅,∅,∅,∅,∅,∅,∅,∅,0,0⟩

abbrev Outcome (α:Type) := Except BudgetError α×InMemoryBudgetLedger

def budgetStateError (budgetId component:String) : BudgetError :=
 .storage (.missing budgetId component)

def budgetCounterError (counter:String) : BudgetError := .storage (.counterExhausted counter)

def usageAmountOverflowError : BudgetError :=
 .invalidUsageAmount "budget usage amount total exceeds the signed 64-bit range"

def validateDimensions : List (String×String)→Except BudgetError Unit
 | []=>.ok ()
 | (key,value)::rest=>
  if isBlank key then
   .error (.invalidUsageAmount "budget usage amount dimension keys must not be empty")
  else if isBlank value then
   .error (.invalidUsageAmount "budget usage amount dimension values must not be empty")
  else validateDimensions rest

/-- The loop of `validate_usage_amounts` with its running totals. -/
def validateLoop : List UsageAmount→AmountMap→Except BudgetError Unit
 | [], _=>.ok ()
 | amount::rest, totals=>
  if amount.amount<0 then .error (.invalidUsageAmount "budget usage amount must be non-negative")
  else if isBlank amount.kind then
   .error (.invalidUsageAmount "budget usage amount kind must not be empty")
  else if isBlank amount.unit then
   .error (.invalidUsageAmount "budget usage amount unit must not be empty")
  else match validateDimensions amount.dimensions.toList with
   | .error e=>.error e
   | .ok ()=>
    match checkedAddI64 (amountAt totals (amountKey amount)) amount.amount with
    | none=>.error usageAmountOverflowError
    | some total=>validateLoop rest (totals.insert (amountKey amount) total)

def validateUsageAmounts (amounts:List UsageAmount) : Except BudgetError Unit :=
 validateLoop amounts ∅

def amountsToMap (amounts:List UsageAmount) : Except BudgetError AmountMap :=
 (accumulate (fun _=>usageAmountOverflowError) checkedAddI64 (keyedAmounts amounts) ∅).map
  retainNonzero

def addAmounts (target amounts:AmountMap) : Except BudgetError AmountMap :=
 (accumulate (fun _=>usageAmountOverflowError) checkedAddI64 amounts.toList target).map
  retainNonzero

def subtractAmounts (target amounts:AmountMap) : Except BudgetError AmountMap :=
 (accumulate (fun _=>usageAmountOverflowError) checkedSubI64 amounts.toList target).map
  retainNonzero

def exceededKey (requested limit:AmountMap) : Option AmountKey :=
 (requested.toList.find? fun e=>decide (e.2 > amountAt limit e.1)).map Prod.fst

def excessStep (other:AmountMap) (m:AmountMap) (e:AmountKey×ℤ) : AmountMap :=
 let extra:=e.2-amountAt other e.1
 if extra > 0 then m.insert e.1 extra else m

def excessAmounts (amounts other:AmountMap) : AmountMap := amounts.toList.foldl (excessStep other) ∅

def availableStep (allocated reserved committed:AmountMap) (m:AmountMap) (key:AmountKey) :
  AmountMap :=
 let remaining:=amountAt allocated key-amountAt reserved key-amountAt committed key
 if 0<remaining∧remaining ≤ i64Max then m.insert key remaining else m

def availableAmounts (allocated reserved committed:AmountMap) : AmountMap :=
 (allocated.keys++reserved.keys++committed.keys).foldl
  (availableStep allocated reserved committed) ∅

/-- The loop of `budget_chain`; `chain` is also the set of ids seen. -/
def chainLoop (accounts:StringMap BudgetAccount) :
  ℕ→List String→String→Except BudgetError (List String)
 | 0, _, id=>.error (.budgetConflict id)
 | fuel+1, chain, id=>
  if id∈chain then .error (.budgetConflict id)
  else match accounts[id]? with
   | none=>.error (.budgetNotFound id)
   | some account=>
    match account.parentBudgetId with
    | none=>.ok (chain++[id])
    | some parent=>chainLoop accounts fuel (chain++[id]) parent

/-- A chain has no account twice, so one round more than there are accounts suffices. -/
def budgetChain (accounts:StringMap BudgetAccount) (budgetId:String) :
  Except BudgetError (List String) :=
 chainLoop accounts (accounts.size+1) [] budgetId

def balanceMap (balances:StringMap AmountMap) (budgetId component:String) :
  Except BudgetError AmountMap :=
 match balances[budgetId]? with
 | some balance=>.ok balance
 | none=>.error (budgetStateError budgetId component)

variable (s:InMemoryBudgetLedger)

def availableMap (budgetId:String) : Except BudgetError AmountMap :=
 match s.allocated[budgetId]? with
 | none=>.error (.budgetNotFound budgetId)
 | some allocated=>do
  let reserved ← balanceMap s.reserved budgetId "reserved balance"
  let committed ← balanceMap s.committed budgetId "committed balance"
  return availableAmounts allocated reserved committed

/-- The check of one request against every account of a chain. -/
def ensureAvailable (requested:AmountMap) : List String→Except BudgetError Unit
 | []=>.ok ()
 | id::ids=>
  match availableMap s id with
  | .error e=>.error e
  | .ok available=>
   match exceededKey requested available with
   | some key=>.error (.budgetExceeded id key.kind key.unit)
   | none=>ensureAvailable requested ids

/-- `reservation_holds.get(..).unwrap_or_else(|| vec![reservation.budget_id])`. -/
def heldBudgetIds (reservationId:String) (reservation:BudgetReservation) : List String :=
 s.reservationHolds[reservationId]?.getD [reservation.budgetId]

def heldByReserve (reserveId:String) (reserve:CompletionReserve) : List String :=
 s.completionReserveHolds[reserveId]?.getD [reserve.budgetId]

def bumpRevision (budgetId:String) : Outcome Unit :=
 match s.accounts[budgetId]? with
 | none=>(.error (budgetStateError budgetId "account"),s)
 | some account=>
  match checkedSucc account.revision with
  | none=>(.error (budgetStateError budgetId "revision counter"),s)
  | some revision=>
   (.ok (),{ s with accounts:=s.accounts.insert budgetId { account with revision } })

/-- `for held in .. { update(self.reserved[held])?; self.bump_revision(held)?; }`. -/
def updateReserved (update:AmountMap→Except BudgetError AmountMap) :
  List String→InMemoryBudgetLedger→Outcome Unit
 | [], s=>(.ok (),s)
 | id::ids, s=>
  match balanceMap s.reserved id "reserved balance" with
  | .error e=>(.error e,s)
  | .ok balance=>
   match update balance with
   | .error e=>(.error e,s)
   | .ok balance=>
    match bumpRevision { s with reserved:=s.reserved.insert id balance } id with
    | (.error e,s)=>(.error e,s)
    | (.ok (),s)=>updateReserved update ids s

structure UpdatedBalance where
 budgetId:String
 reserved:AmountMap
 committed:AmountMap
 overdraft:AmountMap

def updatedBalance (reserved actual overdraft:AmountMap) (id:String) :
  Except BudgetError UpdatedBalance := do
 let reservedBalance ← balanceMap s.reserved id "reserved balance"
 let committedBalance ← balanceMap s.committed id "committed balance"
 let overdraftBalance ← balanceMap s.overdraft id "overdraft balance"
 let reservedBalance ← subtractAmounts reservedBalance reserved
 let committedBalance ← addAmounts committedBalance actual
 let overdraftBalance ← addAmounts overdraftBalance overdraft
 return ⟨id,reservedBalance,committedBalance,overdraftBalance⟩

def updatedBalances (reserved actual overdraft:AmountMap) :
  List String→Except BudgetError (List UpdatedBalance)
 | []=>.ok []
 | id::ids=>do
  let balance ← updatedBalance s reserved actual overdraft id
  let balances ← updatedBalances reserved actual overdraft ids
  return balance::balances

def writeBalances : List UpdatedBalance→InMemoryBudgetLedger→Outcome Unit
 | [], s=>(.ok (),s)
 | balance::balances, s=>
  let s:={ s with
   reserved:=s.reserved.insert balance.budgetId balance.reserved
   committed:=s.committed.insert balance.budgetId balance.committed
   overdraft:=s.overdraft.insert balance.budgetId balance.overdraft }
  match bumpRevision s balance.budgetId with
  | (.error e,s)=>(.error e,s)
  | (.ok (),s)=>writeBalances balances s

def allocate (budgetId scope:String) (amounts:List UsageAmount) (policyRef:String)
  (parentBudgetId:Option String) : Outcome BudgetAccount :=
 if s.accounts.contains budgetId then (.error (.budgetConflict budgetId),s)
 else match parentBudgetId.filter fun parent => !s.accounts.contains parent with
  | some parent=>(.error (.budgetNotFound parent),s)
  | none=>
   match validateUsageAmounts amounts with
   | .error e=>(.error e,s)
   | .ok ()=>
    match amountsToMap amounts with
    | .error e=>(.error e,s)
    | .ok allocated=>
     let account:=
      { budgetId,scope,allocated:=mapToAmounts allocated,parentBudgetId,
        status:=.active,policyRef,revision:=1 }
     (.ok account,{ s with
      accounts:=s.accounts.insert budgetId account,allocated:=s.allocated.insert budgetId allocated
      reserved:=s.reserved.insert budgetId ∅,committed:=s.committed.insert budgetId ∅
      overdraft:=s.overdraft.insert budgetId ∅ })

structure HoldPlan where
 requested:AmountMap
 heldBudgetIds:List String

/-- The checks of `reserve` before its counters move. -/
def reserveChecks (budgetId:String) (amounts:List UsageAmount) : Except BudgetError HoldPlan := do
 ensure (s.accounts.contains budgetId) (.budgetNotFound budgetId)
 validateUsageAmounts amounts
 let requested ← amountsToMap amounts
 let heldBudgetIds ← budgetChain s.accounts budgetId
 ensureAvailable s requested heldBudgetIds
 return ⟨requested,heldBudgetIds⟩

/-- `format!("reservation-{:06}", self.reservation_counter)`. -/
def reservationIdOf (counter:ℕ) : String := "reservation-" ++ zeroPadded 6 counter

structure ReservationRequest where
 budgetId:String
 owner:String
 amounts:List UsageAmount
 purpose:ReservationPurpose
 expiresAt:String
 reservationId:Option String

def reserve (request:ReservationRequest) : Outcome BudgetReservation :=
 match reserveChecks s request.budgetId request.amounts with
 | .error e=>(.error e,s)
 | .ok plan=>
  match checkedSucc s.reservationCounter with
  | none=>(.error (budgetCounterError "reservation_counter"),s)
  | some reservationCounter=>
   match checkedSucc s.fencingCounter with
   | none=>(.error (budgetCounterError "fencing_counter"),s)
   | some fencingCounter=>
    let s:={ s with reservationCounter,fencingCounter }
    let reservationId:=request.reservationId.getD (reservationIdOf s.reservationCounter)
    if s.reservations.contains reservationId then (.error (.reservationConflict reservationId),s)
    else match updateReserved (addAmounts · plan.requested) plan.heldBudgetIds s with
     | (.error e,s)=>(.error e,s)
     | (.ok (),s)=>
      let reservation:=
       { reservationId,budgetId:=request.budgetId,owner:=request.owner,
         amounts:=mapToAmounts plan.requested,purpose:=request.purpose,
         expiresAt:=request.expiresAt,fencingToken:=s.fencingCounter,
         status:=.reserved }
      (.ok reservation,{ s with
       reservations:=s.reservations.insert reservationId reservation
       reservationHolds:=s.reservationHolds.insert reservationId plan.heldBudgetIds })

def reservedReservation (reservationId:String) : Except BudgetError BudgetReservation :=
 match s.reservations[reservationId]? with
 | none=>.error (.reservationNotFound reservationId)
 | some reservation=>
  if reservation.status ≠ .reserved then .error (.reservationState reservationId reservation.status)
  else .ok reservation

structure CommitPlan where
 reservation:BudgetReservation
 reserved:AmountMap
 actual:AmountMap
 overdraft:AmountMap
 balances:List UpdatedBalance

def validateLimit (maxOverdraft:Option (List UsageAmount)) : Except BudgetError Unit :=
 match maxOverdraft with
 | none=>.ok ()
 | some maxOverdraft=>validateUsageAmounts maxOverdraft

def checkLimit (budgetId:String) (overdraft:AmountMap)
  (maxOverdraft:Option (List UsageAmount)) : Except BudgetError Unit :=
 match maxOverdraft with
 | none=>.ok ()
 | some maxOverdraft=>do
  let limit ← amountsToMap maxOverdraft
  match exceededKey overdraft limit with
  | some key=>.error (.budgetExceeded budgetId key.kind key.unit)
  | none=>.ok ()

/-- The part of `commit_inner` before the ledger is written. -/
def commitChecks (reservationId:String) (actualAmounts:List UsageAmount)
  (maxOverdraft:Option (List UsageAmount)) : Except BudgetError CommitPlan := do
 let reservation ← reservedReservation s reservationId
 validateUsageAmounts actualAmounts
 validateLimit maxOverdraft
 let reserved ← amountsToMap reservation.amounts
 let actual ← amountsToMap actualAmounts
 let overdraft:=excessAmounts actual reserved
 checkLimit reservation.budgetId overdraft maxOverdraft
 let balances ← updatedBalances s reserved actual overdraft
  (heldBudgetIds s reservationId reservation)
 return ⟨reservation,reserved,actual,overdraft,balances⟩

def settle (reservationId:String) (reservation:BudgetReservation)
  (committed released overdraft:List UsageAmount) (status:ReservationStatus) :
  Outcome BudgetSettlement :=
 let s:={ s with reservations:=s.reservations.insert reservationId { reservation with status } }
 match s.accounts[reservation.budgetId]? with
 | none=>(.error (budgetStateError reservation.budgetId "account"),s)
 | some account=>
  (.ok { reservationId,budgetId:=reservation.budgetId,committed,released,overdraft,
         status,revision:=account.revision },s)

def commitInner (reservationId:String) (actualAmounts:List UsageAmount)
  (maxOverdraft:Option (List UsageAmount)) : Outcome BudgetSettlement :=
 match commitChecks s reservationId actualAmounts maxOverdraft with
 | .error e=>(.error e,s)
 | .ok plan=>
  match writeBalances plan.balances s with
  | (.error e,s)=>(.error e,s)
  | (.ok (),s)=>
   settle s reservationId plan.reservation (mapToAmounts plan.actual)
    (mapToAmounts (excessAmounts plan.reserved plan.actual)) (mapToAmounts plan.overdraft)
    .committed

def commit (reservationId:String) (actualAmounts:List UsageAmount) : Outcome BudgetSettlement :=
 commitInner s reservationId actualAmounts none

def commitWithOverdraftLimit (reservationId:String)
  (actualAmounts maxOverdraft:List UsageAmount) : Outcome BudgetSettlement :=
 commitInner s reservationId actualAmounts (some maxOverdraft)

def ensureBalances : List String→Except BudgetError Unit
 | []=>.ok ()
 | id::ids=>
  match balanceMap s.reserved id "reserved balance" with
  | .error e=>.error e
  | .ok _=>ensureBalances ids

structure ReleasePlan where
 reservation:BudgetReservation
 reserved:AmountMap
 heldBudgetIds:List String

def releaseChecks (reservationId:String) : Except BudgetError ReleasePlan := do
 let reservation ← reservedReservation s reservationId
 let reserved ← amountsToMap reservation.amounts
 let heldBudgetIds:=heldBudgetIds s reservationId reservation
 ensureBalances s heldBudgetIds
 return ⟨reservation,reserved,heldBudgetIds⟩

/-- The common body of `release` and `expire`. -/
def releaseAs (status:ReservationStatus) (reservationId:String) : Outcome BudgetSettlement :=
 match releaseChecks s reservationId with
 | .error e=>(.error e,s)
 | .ok plan=>
  match updateReserved (subtractAmounts · plan.reserved) plan.heldBudgetIds s with
  | (.error e,s)=>(.error e,s)
  | (.ok (),s)=>settle s reservationId plan.reservation [] (mapToAmounts plan.reserved) [] status

def release (reservationId:String) : Outcome BudgetSettlement := releaseAs s .released reservationId

def expire (reservationId:String) : Outcome BudgetSettlement := releaseAs s .expired reservationId

def validatePermitRefs : List String→List String→Except BudgetError Unit
 | [], _=>.ok ()
 | id::ids, seen=>
  if isBlank id then
   .error (.invalidPermit "budget permit reservation_refs must not contain empty ids")
  else if id∈seen then
   .error (.invalidPermit "budget permit reservation_refs must not contain duplicates")
  else validatePermitRefs ids (id::seen)

def validatePermitReservationRefs (reservationIds:List String) : Except BudgetError Unit :=
 if reservationIds.isEmpty then
  .error (.invalidPermit "budget permit reservation_refs must not be empty")
 else validatePermitRefs reservationIds []

def raiseToken (token:ℕ) (tokens:StringMap ℕ) (budgetId:String) : StringMap ℕ :=
 if token > tokens.getD budgetId 0 then tokens.insert budgetId token else tokens

/-- The loop of `issue_permit` over its reservations. -/
def authorizeLoop : List String→AmountMap→StringMap ℕ→Except BudgetError (AmountMap×StringMap ℕ)
 | [], authorized, tokens=>.ok (authorized,tokens)
 | id::ids, authorized, tokens=>do
  let reservation ← reservedReservation s id
  let amounts ← amountsToMap reservation.amounts
  let authorized ← addAmounts authorized amounts
  authorizeLoop ids authorized
   ((heldBudgetIds s id reservation).foldl (raiseToken reservation.fencingToken) tokens)

structure PermitRequest where
 permitId:String
 reservationIds:List String
 owner:String
 atomicUnit:String
 admissionEpoch:ℕ
 continuationProfile:String
 policySnapshotDigest:String
 expiresAt:String
 lowWatermark:List UsageAmount

def permitChecks (request:PermitRequest) : Except BudgetError (AmountMap×StringMap ℕ) := do
 validatePermitReservationRefs request.reservationIds
 validateUsageAmounts request.lowWatermark
 ensure (!s.permits.contains request.permitId) (.permitConflict request.permitId)
 authorizeLoop s request.reservationIds ∅ ∅

def permitOf (request:PermitRequest) (authorized:AmountMap) (fencingTokens:StringMap ℕ) :
  BudgetPermit where
 permitId:=request.permitId
 reservationRefs:=request.reservationIds
 owner:=request.owner
 atomicUnit:=request.atomicUnit
 admissionEpoch:=request.admissionEpoch
 authorizedAmounts:=mapToAmounts authorized
 continuationProfile:=request.continuationProfile
 policySnapshotDigest:=request.policySnapshotDigest
 expiresAt:=request.expiresAt
 lowWatermark:=request.lowWatermark
 fencingTokens

def issuePermit (request:PermitRequest) : Outcome BudgetPermit :=
 match permitChecks s request with
 | .error e=>(.error e,s)
 | .ok (authorized,fencingTokens)=>
  let permit:=permitOf request authorized fencingTokens
  (.ok permit,{ s with
   permits:=s.permits.insert request.permitId permit
   permitSpent:=s.permitSpent.insert request.permitId ∅ })

/-- The first held budget whose token in the permit does not cover the reservation's. -/
def uncoveredBudget (tokens:StringMap ℕ) (required:ℕ) (held:List String) : Option String :=
 held.find? fun id=>match tokens[id]? with
  | none=>true
  | some token=>decide (token<required)

def permitCovers (permit:BudgetPermit) (permitId reservationId:String)
  (reservation:BudgetReservation) (held:List String) : Except BudgetError BudgetReservation :=
 if reservationId∉permit.reservationRefs then .error (.permitScope permitId reservationId)
 else match uncoveredBudget permit.fencingTokens reservation.fencingToken held with
  | some budgetId=>.error (.permitFencing permitId budgetId reservation.fencingToken
    permit.fencingTokens[budgetId]?)
  | none=>.ok reservation

def validatePermitForReservation (permitId reservationId:String) :
  Except BudgetError BudgetReservation :=
 match s.permits[permitId]? with
 | none=>.error (.permitNotFound permitId)
 | some permit=>
  match s.reservations[reservationId]? with
  | none=>.error (.reservationNotFound reservationId)
  | some reservation=>
   permitCovers permit permitId reservationId reservation
    (heldBudgetIds s reservationId reservation)

def ensurePermitNotExpired (permitId now:String) : Except BudgetError Unit :=
 match s.permits[permitId]? with
 | none=>.error (.permitNotFound permitId)
 | some permit=>
  if permit.isActiveAt now then .ok ()
  else .error (.permitExpired permitId permit.expiresAt now)

def unauthorizedKey (authorized spent requested:AmountMap) : Option AmountKey :=
 (requested.toList.find? fun e=>
  match checkedAddI64 (amountAt spent e.1) e.2 with
  | none=>true
  | some total=>decide (total > amountAt authorized e.1)).map Prod.fst

def ensurePermitAllowsAdditional (permitId:String) (requested:AmountMap)
  (budgetId:String) : Except BudgetError Unit :=
 match s.permits[permitId]? with
 | none=>.error (.permitNotFound permitId)
 | some permit=>do
  let authorized ← amountsToMap permit.authorizedAmounts
  match unauthorizedKey authorized (s.permitSpent[permitId]?.getD ∅) requested with
  | some key=>.error (.budgetExceeded budgetId key.kind key.unit)
  | none=>.ok ()

def checkNow (permitId:String) (now:Option String) : Except BudgetError Unit :=
 match now with
 | none=>.ok ()
 | some now=>ensurePermitNotExpired s permitId now

def permitCommitChecks (permitId reservationId:String) (actualAmounts:List UsageAmount)
  (now:Option String) : Except BudgetError AmountMap := do
 checkNow s permitId now
 let reservation ← validatePermitForReservation s permitId reservationId
 validateUsageAmounts actualAmounts
 let actual ← amountsToMap actualAmounts
 ensurePermitAllowsAdditional s permitId actual reservation.budgetId
 return actual

def commitWithPermitInner (permitId reservationId:String) (actualAmounts:List UsageAmount)
  (now:Option String) : Outcome BudgetSettlement :=
 match permitCommitChecks s permitId reservationId actualAmounts now with
 | .error e=>(.error e,s)
 | .ok actual=>
  match commit s reservationId actualAmounts with
  | (.error e,s)=>(.error e,s)
  | (.ok settlement,s)=>
   let spent:=s.permitSpent[permitId]?.getD ∅
   match addAmounts spent actual with
   | .error e=>(.error e,{ s with permitSpent:=s.permitSpent.insert permitId spent })
   | .ok spent=>(.ok settlement,{ s with permitSpent:=s.permitSpent.insert permitId spent })

def releaseWithPermitInner (permitId reservationId:String) (now:Option String) :
  Outcome BudgetSettlement :=
 match checkNow s permitId now with
 | .error e=>(.error e,s)
 | .ok ()=>
  match validatePermitForReservation s permitId reservationId with
  | .error e=>(.error e,s)
  | .ok _=>release s reservationId

def validateCompletionReserveSpenders (spendableBy:ExtTreeSet String) : Except BudgetError Unit :=
 if spendableBy.isEmpty then
  .error (.invalidCompletionReserve "completion reserve spendable_by must not be empty")
 else if spendableBy.toList.any isBlank then
  .error (.invalidCompletionReserve
   "completion reserve spendable_by must not contain empty ids")
 else .ok ()

structure ReserveRequest where
 reserveId:String
 budgetId:String
 purpose:CompletionReservePurpose
 amounts:List UsageAmount
 spendableBy:List String
 expiresAt:Option String

def completionReserveChecks (request:ReserveRequest) : Except BudgetError HoldPlan := do
 ensure (!s.completionReserves.contains request.reserveId)
  (.completionReserveConflict request.reserveId)
 ensure (s.accounts.contains request.budgetId) (.budgetNotFound request.budgetId)
 validateUsageAmounts request.amounts
 let requested ← amountsToMap request.amounts
 validateCompletionReserveSpenders (ExtTreeSet.ofList request.spendableBy)
 let heldBudgetIds ← budgetChain s.accounts request.budgetId
 ensureAvailable s requested heldBudgetIds
 return ⟨requested,heldBudgetIds⟩

def createCompletionReserve (request:ReserveRequest) : Outcome CompletionReserve :=
 match completionReserveChecks s request with
 | .error e=>(.error e,s)
 | .ok plan=>
  match checkedSucc s.fencingCounter with
  | none=>(.error (budgetCounterError "fencing_counter"),s)
  | some fencingCounter=>
   match updateReserved (addAmounts · plan.requested) plan.heldBudgetIds
     { s with fencingCounter } with
   | (.error e,s)=>(.error e,s)
   | (.ok (),s)=>
    let reserve:=
     { reserveId:=request.reserveId,budgetId:=request.budgetId,
       purpose:=request.purpose,amounts:=mapToAmounts plan.requested,
       spendableBy:=ExtTreeSet.ofList request.spendableBy,expiresAt:=request.expiresAt,
       status:=.available,reservationId:=none,fencingToken:=s.fencingCounter }
    (.ok reserve,{ s with
     completionReserves:=s.completionReserves.insert request.reserveId reserve
     completionReserveHolds:=s.completionReserveHolds.insert request.reserveId plan.heldBudgetIds })

def availableReserve (reserveId:String) : Except BudgetError CompletionReserve :=
 match s.completionReserves[reserveId]? with
 | none=>.error (.completionReserveNotFound reserveId)
 | some reserve=>
  if reserve.status ≠ .available then .error (.completionReserveState reserveId reserve.status)
  else .ok reserve

def spendChecks (reserveId spender:String) : Except BudgetError CompletionReserve := do
 let reserve ← availableReserve s reserveId
 ensure (reserve.spendableBy.contains spender) (.completionReserveUnauthorized reserveId spender)
 return reserve

def spendCompletionReserve (reserveId spender expiresAt:String) : Outcome BudgetReservation :=
 match spendChecks s reserveId spender with
 | .error e=>(.error e,s)
 | .ok reserve=>
  match checkedSucc s.reservationCounter with
  | none=>(.error (budgetCounterError "reservation_counter"),s)
  | some reservationCounter=>
   let s:={ s with reservationCounter }
   let reservationId:=reservationIdOf s.reservationCounter
   if s.reservations.contains reservationId then (.error (.reservationConflict reservationId),s)
   else
    let reservation:=
     { reservationId,budgetId:=reserve.budgetId,owner:=spender,
       amounts:=reserve.amounts,purpose:=reserve.purpose.reservationPurpose,expiresAt,
       fencingToken:=reserve.fencingToken,status:=.reserved }
    (.ok reservation,{ s with
     reservations:=s.reservations.insert reservationId reservation
     reservationHolds:=s.reservationHolds.insert reservationId
      (heldByReserve s reserveId reserve)
     completionReserves:=s.completionReserves.insert reserveId
      { reserve with status:=.spent,reservationId:=some reservationId } })

structure SettleReservePlan where
 reserve:CompletionReserve
 reserved:AmountMap
 heldBudgetIds:List String

def settleReserveChecks (reserveId:String) : Except BudgetError SettleReservePlan := do
 let reserve ← availableReserve s reserveId
 let reserved ← amountsToMap reserve.amounts
 let heldBudgetIds:=heldByReserve s reserveId reserve
 ensureBalances s heldBudgetIds
 return ⟨reserve,reserved,heldBudgetIds⟩

def settleCompletionReserve (reserveId:String) (status:CompletionReserveStatus) :
  Outcome CompletionReserve :=
 match settleReserveChecks s reserveId with
 | .error e=>(.error e,s)
 | .ok plan=>
  match updateReserved (subtractAmounts · plan.reserved) plan.heldBudgetIds s with
  | (.error e,s)=>(.error e,s)
  | (.ok (),s)=>
   let updated:={ plan.reserve with status }
   (.ok updated,{ s with completionReserves:=s.completionReserves.insert reserveId updated })

def balance (budgetId:String) : Except BudgetError BudgetBalance :=
 match s.accounts[budgetId]? with
 | none=>.error (.budgetNotFound budgetId)
 | some account=>do
  let allocated ← balanceMap s.allocated budgetId "allocated balance"
  let reserved ← balanceMap s.reserved budgetId "reserved balance"
  let committed ← balanceMap s.committed budgetId "committed balance"
  let overdraft ← balanceMap s.overdraft budgetId "overdraft balance"
  let available ← availableMap s budgetId
  return { budgetId,allocated:=mapToAmounts allocated,reserved:=mapToAmounts reserved,
           committed:=mapToAmounts committed,available:=mapToAmounts available,
           overdraft:=mapToAmounts overdraft,revision:=account.revision }

def completionReserve (reserveId:String) : Except BudgetError CompletionReserve :=
 match s.completionReserves[reserveId]? with
 | some reserve=>.ok reserve
 | none=>.error (.completionReserveNotFound reserveId)

inductive Call where
 | allocate (budgetId scope:String) (amounts:List UsageAmount) (policyRef:String)
   (parentBudgetId:Option String)
 | reserve (request:ReservationRequest)
 | commit (reservationId:String) (actualAmounts:List UsageAmount)
 | commitWithOverdraftLimit (reservationId:String)
   (actualAmounts maxOverdraft:List UsageAmount)
 | release (reservationId:String)
 | expire (reservationId:String)
 | issuePermit (request:PermitRequest)
 | commitWithPermit (permitId reservationId:String) (actualAmounts:List UsageAmount)
 | commitWithPermitAt (permitId reservationId:String) (actualAmounts:List UsageAmount)
   (now:String)
 | releaseWithPermit (permitId reservationId:String)
 | releaseWithPermitAt (permitId reservationId now:String)
 | createCompletionReserve (request:ReserveRequest)
 | spendCompletionReserve (reserveId spender expiresAt:String)
 | releaseCompletionReserve (reserveId:String)
 | expireCompletionReserve (reserveId:String)
 | balance (budgetId:String)
 | completionReserve (reserveId:String)

inductive Response where
 | account (account:BudgetAccount)
 | reservation (reservation:BudgetReservation)
 | settlement (settlement:BudgetSettlement)
 | permit (permit:BudgetPermit)
 | reserve (reserve:CompletionReserve)
 | balance (balance:BudgetBalance)

def Outcome.as {α:Type} (wrap:α→Response) (o:Outcome α) : Outcome Response := (o.1.map wrap,o.2)

def step : Call→Outcome Response
 | .allocate budgetId scope amounts policyRef parentBudgetId=>
  (allocate s budgetId scope amounts policyRef parentBudgetId).as .account
 | .reserve request=>(reserve s request).as .reservation
 | .commit reservationId actualAmounts=>(commit s reservationId actualAmounts).as .settlement
 | .commitWithOverdraftLimit reservationId actualAmounts maxOverdraft=>
  (commitWithOverdraftLimit s reservationId actualAmounts maxOverdraft).as .settlement
 | .release reservationId=>(release s reservationId).as .settlement
 | .expire reservationId=>(expire s reservationId).as .settlement
 | .issuePermit request=>(issuePermit s request).as .permit
 | .commitWithPermit permitId reservationId actualAmounts=>
  (commitWithPermitInner s permitId reservationId actualAmounts none).as .settlement
 | .commitWithPermitAt permitId reservationId actualAmounts now=>
  (commitWithPermitInner s permitId reservationId actualAmounts (some now)).as .settlement
 | .releaseWithPermit permitId reservationId=>
  (releaseWithPermitInner s permitId reservationId none).as .settlement
 | .releaseWithPermitAt permitId reservationId now=>
  (releaseWithPermitInner s permitId reservationId (some now)).as .settlement
 | .createCompletionReserve request=>(createCompletionReserve s request).as .reserve
 | .spendCompletionReserve reserveId spender expiresAt=>
  (spendCompletionReserve s reserveId spender expiresAt).as .reservation
 | .releaseCompletionReserve reserveId=>(settleCompletionReserve s reserveId .released).as .reserve
 | .expireCompletionReserve reserveId=>(settleCompletionReserve s reserveId .expired).as .reserve
 | .balance budgetId=>((balance s budgetId).map .balance,s)
 | .completionReserve reserveId=>((completionReserve s reserveId).map .reserve,s)

end GraphBlocks.Budget
