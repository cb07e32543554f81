import GraphBlocks.CanonicalJson
import GraphBlocks.OrderedMap
import GraphBlocks.ToolTerminals

/-! `CheckpointBarrier` and `InMemoryCheckpointStore` of the durable runtime. -/
namespace GraphBlocks.Recovery
open Std Json RustStd
open ToolTerminals (invalidIdentity)

/-- A `serde_json::Value`, whose numbers are JSON number tokens. -/
abbrev JsonDocument := { v:Value // AllNumbers IsNumberToken v }

structure SchemaRef where
 schemaId:String
 schemaVersion:ℕ

structure SourceCursor where
 stream:String
 partitionIndex:ℕ
 offset:ℕ

structure CheckpointBarrier where
 checkpointId:String
 runId:String
 releaseId:String
 deploymentRevisionId:String
 planHash:String
 checkpointSchema:SchemaRef
 stateRevision:ℕ
 completedNodes:List String
 pendingNodes:List String
 sourceCursors:ExtTreeMap String SourceCursor
 operatorState:ExtTreeMap String JsonDocument
 sinkCommitMetadata:ExtTreeMap String JsonDocument
 schemaVersions:ExtTreeMap String ℕ
 createdAtUnixMs:ℕ

inductive CheckpointBarrierError where
 | missingCheckpointId
 | missingRunId
 | missingReleaseId
 | missingDeploymentRevisionId
 | missingPlanHash
 | invalidCheckpointSchema
 | missingSchemaVersions
 | invalidCompletedNodes
 | invalidPendingNodes
 | overlappingNodeStates
 | invalidSourceCursors
 | invalidOperatorState
 | invalidSinkCommitMetadata
 | invalidSchemaVersions
deriving DecidableEq

def maxCheckpointJsonDepth : ℕ := 64

def maxCheckpointJsonNodes : ℕ := 100000

def children : Value→List Value
 | .array items=>items
 | .object members=>members.map Prod.snd
 | _=>[]

/-- The loop of `invalid_checkpoint_json`: `budget` nodes may still be visited, the top of the
stack is the head of the list. -/
def exceedsBudget : (budget:ℕ)→List (Value×ℕ)→Bool
 | _, []=>false
 | 0, _::_=>true
 | budget+1, (current,depth)::stack=>
  if depth > maxCheckpointJsonDepth then true
  else exceedsBudget budget
   (((children current).map fun item=>(item,depth+1)).reverse++stack)

def invalidCheckpointJson (value:Value) : Bool := exceedsBudget maxCheckpointJsonNodes [(value,0)]

def invalidSourceCursor (cursor:SourceCursor) : Bool := invalidIdentity cursor.stream

/-- The loop over `completed_nodes`; `seen` is the set of the nodes before. -/
def validateCompletedNodes (seen:List String) : List String →
  Except CheckpointBarrierError (List String)
 | []=>.ok seen
 | nodeId::nodes=>
  if invalidIdentity nodeId||seen.contains nodeId then .error .invalidCompletedNodes
  else validateCompletedNodes (nodeId::seen) nodes

def validatePendingNodes (completedNodes seen:List String) : List String →
  Except CheckpointBarrierError Unit
 | []=>.ok ()
 | nodeId::nodes=>
  if invalidIdentity nodeId||seen.contains nodeId then .error .invalidPendingNodes
  else if completedNodes.contains nodeId then .error .overlappingNodeStates
  else validatePendingNodes completedNodes (nodeId::seen) nodes

def CheckpointBarrier.validate (self:CheckpointBarrier) : Except CheckpointBarrierError Unit := do
 ensure (!invalidIdentity self.checkpointId) .missingCheckpointId
 ensure (!invalidIdentity self.runId) .missingRunId
 ensure (!invalidIdentity self.releaseId) .missingReleaseId
 ensure (!invalidIdentity self.deploymentRevisionId) .missingDeploymentRevisionId
 ensure (!invalidIdentity self.planHash) .missingPlanHash
 ensure (!(invalidIdentity self.checkpointSchema.schemaId
  || self.checkpointSchema.schemaVersion==0)) .invalidCheckpointSchema
 ensure (!self.schemaVersions.isEmpty) .missingSchemaVersions
 let completedNodes ← validateCompletedNodes [] self.completedNodes
 validatePendingNodes completedNodes [] self.pendingNodes
 ensure (!self.sourceCursors.toList.any fun (sourceId,cursor)=>
  invalidIdentity sourceId||invalidSourceCursor cursor) .invalidSourceCursors
 ensure (!self.operatorState.toList.any fun (key,value)=>
  invalidIdentity key||invalidCheckpointJson value.1) .invalidOperatorState
 ensure (!self.sinkCommitMetadata.toList.any fun (key,value)=>
  invalidIdentity key||invalidCheckpointJson value.1) .invalidSinkCommitMetadata
 ensure (!self.schemaVersions.toList.any fun (key,version)=>
  invalidIdentity key||version==0) .invalidSchemaVersions

structure CheckpointRecoveryClaim where
 runId:String
 checkpointId:String
 workerId:String
 leaseId:String
 fencingEpoch:ℕ
 claimedAtUnixMs:ℕ
 expiresAtUnixMs:ℕ

def CheckpointRecoveryClaim.isActiveAt (self:CheckpointRecoveryClaim) (nowUnixMs:ℕ) : Bool :=
 self.claimedAtUnixMs≤nowUnixMs&&nowUnixMs<self.expiresAtUnixMs

structure CheckpointRecoveryClaimIdentity where
 checkpointId:String
 workerId:String
 leaseId:String
 fencingEpoch:ℕ

def CheckpointRecoveryClaimIdentity.fromClaim (claim:CheckpointRecoveryClaim) :
  CheckpointRecoveryClaimIdentity :=
 ⟨claim.checkpointId,claim.workerId,claim.leaseId,claim.fencingEpoch⟩

structure CheckpointRecovery where
 checkpoint:CheckpointBarrier
 claim:CheckpointRecoveryClaim

/-- The failures behind `CheckpointStoreError::Storage`. -/
inductive StorageFailure where
 | json (message:String)
 | outOfRange (field:String)
 | negative (field:String)
 | uniqueConstraint (table column:String)
 | invalidClaimField (field:String)
 | zeroFencingEpoch
 | expiryNotAfterClaim
 | payloadMismatch (field:String)
 | epochNotAfterActive (nextFencingEpoch activeFencingEpoch:ℕ) (runId:String)

inductive CheckpointStoreError where
 | invalidBarrier (error:CheckpointBarrierError)
 | staleStateRevision (runId:String) (current attempted:ℕ)
 | compatibleCheckpointNotFound (runId releaseId deploymentRevisionId planHash:String)
 | invalidRecoveryClaim (field:String)
 | fencingEpochOverflow (runId:String)
 | activeRecoveryClaim (runId workerId leaseId:String) (expiresAtUnixMs:ℕ)
 | recoveryClaimNotFound (runId:String)
 | recoveryClaimMismatch (runId:String) (expected actual:CheckpointRecoveryClaimIdentity)
 | recoveryClaimExpired (runId leaseId:String) (expiresAtUnixMs nowUnixMs:ℕ)
 | recoveryClaimNotYetActive (runId leaseId:String) (claimedAtUnixMs nowUnixMs:ℕ)
 | storage (failure:StorageFailure)

/-- The run, release, deployment revision and plan that a worker recovers. -/
structure Target where
 runId:String
 releaseId:String
 deploymentRevisionId:String
 planHash:String

def compatible (target:Target) (checkpoint:CheckpointBarrier) : Bool :=
 checkpoint.releaseId==target.releaseId
  && checkpoint.deploymentRevisionId==target.deploymentRevisionId
  && checkpoint.planHash==target.planHash

def notFound (target:Target) : CheckpointStoreError :=
 .compatibleCheckpointNotFound target.runId target.releaseId target.deploymentRevisionId
  target.planHash

/-- The arguments of `claim_latest_compatible` beside its target. -/
structure ClaimRequest where
 workerId:String
 leaseId:String
 nowUnixMs:ℕ
 expiresAtUnixMs:ℕ

structure InMemoryCheckpointStore where
 checkpointsByRun:ExtTreeMap String (List CheckpointBarrier)
 activeClaimsByRun:ExtTreeMap String CheckpointRecoveryClaim
 nextFencingEpochByRun:ExtTreeMap String ℕ

def InMemoryCheckpointStore.new : InMemoryCheckpointStore := ⟨∅,∅,∅⟩

variable (s:InMemoryCheckpointStore)

def keepGreatest {α:Type} (key:α→ℕ) (best:Option α) (a:α) : Option α :=
 match best with
 | none=>some a
 | some b=>if key b≤key a then some a else some b

/-- `iter().max_by_key(..)`: the last of the greatest elements. -/
def maxByKey {α:Type} (key:α→ℕ) (l:List α) : Option α := l.foldl (keepGreatest key) none

/-- The barriers of a run, in the order in which they were put. -/
def checkpoints (runId:String) : List CheckpointBarrier := s.checkpointsByRun.getD runId []

def put (barrier:CheckpointBarrier) : Except CheckpointStoreError Unit×InMemoryCheckpointStore :=
 match barrier.validate with
 | .error e=>(.error (.invalidBarrier e),s)
 | .ok ()=>
  let stored:=checkpoints s barrier.runId
  -- `entry(..).or_default()` leaves an empty list behind when the barrier is refused
  let entered:={ s with checkpointsByRun:=s.checkpointsByRun.insert barrier.runId stored }
  match (stored.map CheckpointBarrier.stateRevision).max?.filter (barrier.stateRevision ≤ ·) with
  | some current=>(.error (.staleStateRevision barrier.runId current barrier.stateRevision),entered)
  | none=>
   (.ok (),{ s with checkpointsByRun:=s.checkpointsByRun.insert barrier.runId (stored++[barrier]) })

def latestCompatible (target:Target) : Option CheckpointBarrier :=
 maxByKey CheckpointBarrier.stateRevision
  ((checkpoints s target.runId).filter (compatible target))

/-- The argument checks of `claim_latest_compatible`. -/
def validateClaimRequest (request:ClaimRequest) : Except CheckpointStoreError Unit := do
 ensure (!invalidIdentity request.workerId) (.invalidRecoveryClaim "worker_id")
 ensure (!invalidIdentity request.leaseId) (.invalidRecoveryClaim "lease_id")
 ensure (request.nowUnixMs<request.expiresAtUnixMs) (.invalidRecoveryClaim "expires_at_unix_ms")

def advanceFencingEpoch (current maximum:ℕ) (runId:String) : Except CheckpointStoreError ℕ :=
 if current=0 then .error (.invalidRecoveryClaim "fencing_epoch")
 else match (checkedSucc current).filter (· ≤ maximum) with
  | some next=>.ok next
  | none=>.error (.fencingEpochOverflow runId)

def activeError (runId:String) (active:CheckpointRecoveryClaim) : CheckpointStoreError :=
 .activeRecoveryClaim runId active.workerId active.leaseId active.expiresAtUnixMs

def claimOf (target:Target) (request:ClaimRequest) (checkpoint:CheckpointBarrier)
  (fencingEpoch:ℕ) : CheckpointRecoveryClaim where
 runId:=target.runId
 checkpointId:=checkpoint.checkpointId
 workerId:=request.workerId
 leaseId:=request.leaseId
 fencingEpoch
 claimedAtUnixMs:=request.nowUnixMs
 expiresAtUnixMs:=request.expiresAtUnixMs

/-- The part of `claim_latest_compatible` after the check for an active claim. -/
def grantClaim (target:Target) (request:ClaimRequest) (checkpoint:CheckpointBarrier) :
  Except CheckpointStoreError CheckpointRecovery×InMemoryCheckpointStore :=
 let fencingEpoch:=s.nextFencingEpochByRun.getD target.runId 1
 let entered:={ s with
  nextFencingEpochByRun:=s.nextFencingEpochByRun.insert target.runId fencingEpoch }
 match advanceFencingEpoch fencingEpoch (u64Limit-1) target.runId with
 | .error e=>(.error e,entered)
 | .ok followingFencingEpoch=>
  let claim:=claimOf target request checkpoint fencingEpoch
  (.ok ⟨checkpoint,claim⟩,{ s with
   nextFencingEpochByRun:=s.nextFencingEpochByRun.insert target.runId followingFencingEpoch
   activeClaimsByRun:=s.activeClaimsByRun.insert target.runId claim })

def claimLatestCompatible (target:Target) (request:ClaimRequest) :
  Except CheckpointStoreError CheckpointRecovery×InMemoryCheckpointStore :=
 match validateClaimRequest request with
 | .error e=>(.error e,s)
 | .ok ()=>
  match latestCompatible s target with
  | none=>(.error (notFound target),s)
  | some checkpoint=>
   match s.activeClaimsByRun[target.runId]? with
   | some active=>
    if request.nowUnixMs<active.expiresAtUnixMs then (.error (activeError target.runId active),s)
    else grantClaim s target request checkpoint
   | none=>grantClaim s target request checkpoint

/-- The checks that completing and renewing a claim share. -/
def checkHeld (active claim:CheckpointRecoveryClaim) (nowUnixMs:ℕ) :
  Except CheckpointStoreError Unit := do
 ensure (!(active.checkpointId != claim.checkpointId||active.workerId != claim.workerId
  || active.leaseId != claim.leaseId||active.fencingEpoch != claim.fencingEpoch))
  (.recoveryClaimMismatch claim.runId (.fromClaim claim) (.fromClaim active))
 ensure (active.claimedAtUnixMs≤nowUnixMs)
  (.recoveryClaimNotYetActive claim.runId claim.leaseId active.claimedAtUnixMs nowUnixMs)
 ensure (active.isActiveAt nowUnixMs)
  (.recoveryClaimExpired claim.runId claim.leaseId active.expiresAtUnixMs nowUnixMs)

def completeClaim (claim:CheckpointRecoveryClaim) (nowUnixMs:ℕ) :
  Except CheckpointStoreError Unit×InMemoryCheckpointStore :=
 match s.activeClaimsByRun[claim.runId]? with
 | none=>(.error (.recoveryClaimNotFound claim.runId),s)
 | some active=>
  match checkHeld active claim nowUnixMs with
  | .error e=>(.error e,s)
  | .ok ()=>(.ok (),{ s with activeClaimsByRun:=s.activeClaimsByRun.erase claim.runId })

def checkRenewal (active claim:CheckpointRecoveryClaim) (nowUnixMs expiresAtUnixMs:ℕ) :
  Except CheckpointStoreError Unit := do
 checkHeld active claim nowUnixMs
 ensure (active.expiresAtUnixMs<expiresAtUnixMs) (.invalidRecoveryClaim "expires_at_unix_ms")

def renewClaim (claim:CheckpointRecoveryClaim) (nowUnixMs expiresAtUnixMs:ℕ) :
  Except CheckpointStoreError CheckpointRecoveryClaim×InMemoryCheckpointStore :=
 if expiresAtUnixMs≤nowUnixMs then (.error (.invalidRecoveryClaim "expires_at_unix_ms"),s)
 else match s.activeClaimsByRun[claim.runId]? with
  | none=>(.error (.recoveryClaimNotFound claim.runId),s)
  | some active=>
   match checkRenewal active claim nowUnixMs expiresAtUnixMs with
   | .error e=>(.error e,s)
   | .ok ()=>
    let renewed:={ active with expiresAtUnixMs }
    (.ok renewed,{ s with activeClaimsByRun:=s.activeClaimsByRun.insert claim.runId renewed })

inductive Call where
 | put (barrier:CheckpointBarrier)
 | latestCompatible (target:Target)
 | claimLatestCompatible (target:Target) (request:ClaimRequest)
 | completeClaim (claim:CheckpointRecoveryClaim) (nowUnixMs:ℕ)
 | renewClaim (claim:CheckpointRecoveryClaim) (nowUnixMs expiresAtUnixMs:ℕ)

inductive Answer where
 | stored
 | latest (checkpoint:Option CheckpointBarrier)
 | recovery (recovery:CheckpointRecovery)
 | completed
 | renewed (claim:CheckpointRecoveryClaim)

abbrev Response := Except CheckpointStoreError Answer

def step : Call→Response×InMemoryCheckpointStore
 | .put barrier=>((put s barrier).1.map fun _=>.stored,(put s barrier).2)
 | .latestCompatible target=>(.ok (.latest (latestCompatible s target)),s)
 | .claimLatestCompatible target request=>
  ((claimLatestCompatible s target request).1.map .recovery,
   (claimLatestCompatible s target request).2)
 | .completeClaim claim nowUnixMs=>
  ((completeClaim s claim nowUnixMs).1.map fun _=>.completed,(completeClaim s claim nowUnixMs).2)
 | .renewClaim claim nowUnixMs expiresAtUnixMs=>
  ((renewClaim s claim nowUnixMs expiresAtUnixMs).1.map .renewed,
   (renewClaim s claim nowUnixMs expiresAtUnixMs).2)

end GraphBlocks.Recovery
