import GraphBlocks.RecoveryFencing
import GraphBlocks.SqlTables
import GraphBlocks.UsageAmounts

/-! `SqliteCheckpointStore`: three tables, with the barriers as JSON texts. -/
namespace GraphBlocks.Recovery
open RustStd Sql
open ToolTerminals (invalidIdentity)
open Usage (i64Max)

/-- `serde_json` on barriers, which they are assumed to survive. -/
structure BarrierSerde where
 toString:CheckpointBarrier→Except String String
 fromStr:String→Except String CheckpointBarrier
 survives:∀barrier,∃text,toString barrier=.ok text∧fromStr text=.ok barrier

structure BarrierRow where
 checkpointId:String
 runId:String
 releaseId:String
 deploymentRevisionId:String
 planHash:String
 stateRevision:ℤ
 barrierJson:String

structure ClaimRow where
 runId:String
 checkpointId:String
 workerId:String
 leaseId:String
 fencingEpoch:ℤ
 claimedAtUnixMs:ℤ
 expiresAtUnixMs:ℤ

structure EpochRow where
 runId:String
 nextFencingEpoch:ℤ

structure SqliteCheckpointStore where
 checkpointBarriers:List BarrierRow
 checkpointRecoveryClaims:List ClaimRow
 checkpointRecoveryEpochs:List EpochRow

def SqliteCheckpointStore.new : SqliteCheckpointStore := ⟨[],[],[]⟩

def sqliteU64ToI64 (value:ℕ) (field:String) : Except CheckpointStoreError ℤ :=
 if (value:ℤ) ≤ i64Max then .ok value else .error (.storage (.outOfRange field))

def sqliteI64ToU64 (value:ℤ) (field:String) : Except CheckpointStoreError ℕ :=
 if 0≤value then .ok value.toNat else .error (.storage (.negative field))

def decodeStoredCheckpointRecoveryClaim (row:ClaimRow) (runId:String) :
  Except CheckpointStoreError CheckpointRecoveryClaim := do
 let fencingEpoch ← sqliteI64ToU64 row.fencingEpoch "fencing_epoch"
 let claimedAtUnixMs ← sqliteI64ToU64 row.claimedAtUnixMs "claimed_at_unix_ms"
 let expiresAtUnixMs ← sqliteI64ToU64 row.expiresAtUnixMs "expires_at_unix_ms"
 ensure (!invalidIdentity runId) (.storage (.invalidClaimField "run_id"))
 ensure (!invalidIdentity row.checkpointId) (.storage (.invalidClaimField "checkpoint_id"))
 ensure (!invalidIdentity row.workerId) (.storage (.invalidClaimField "worker_id"))
 ensure (!invalidIdentity row.leaseId) (.storage (.invalidClaimField "lease_id"))
 ensure (fencingEpoch != 0) (.storage .zeroFencingEpoch)
 ensure (claimedAtUnixMs<expiresAtUnixMs) (.storage .expiryNotAfterClaim)
 return ⟨runId,row.checkpointId,row.workerId,row.leaseId,fencingEpoch,claimedAtUnixMs,
  expiresAtUnixMs⟩

section
variable (serde:BarrierSerde) (db:SqliteCheckpointStore)

def decodeStoredCheckpointBarrier (raw expectedCheckpointId:String) (target:Target)
  (expectedStateRevision:ℕ) : Except CheckpointStoreError CheckpointBarrier := do
 let barrier ← (serde.fromStr raw).mapError fun message=>.storage (.json message)
 barrier.validate.mapError .invalidBarrier
 ensure (barrier.checkpointId==expectedCheckpointId)
  (.storage (.payloadMismatch "checkpoint_id"))
 ensure (barrier.runId==target.runId) (.storage (.payloadMismatch "run_id"))
 ensure (barrier.releaseId==target.releaseId) (.storage (.payloadMismatch "release_id"))
 ensure (barrier.deploymentRevisionId==target.deploymentRevisionId)
  (.storage (.payloadMismatch "deployment_revision_id"))
 ensure (barrier.planHash==target.planHash) (.storage (.payloadMismatch "plan_hash"))
 ensure (barrier.stateRevision==expectedStateRevision)
  (.storage (.payloadMismatch "state_revision"))
 return barrier

def rowsOf (runId:String) : List BarrierRow :=
 db.checkpointBarriers.filter fun row=>row.runId==runId

def compatibleRow (target:Target) (row:BarrierRow) : Bool :=
 row.releaseId==target.releaseId&&row.deploymentRevisionId==target.deploymentRevisionId
  && row.planHash==target.planHash

/-- `WHERE run_id = ? AND .. ORDER BY state_revision DESC LIMIT 1`. -/
def selectLatest (target:Target) : Option BarrierRow :=
 (orderBy (fun row => -row.stateRevision)
  ((rowsOf db target.runId).filter (compatibleRow target))).head?

def sqliteLatestCompatible (target:Target) :
  Except CheckpointStoreError (Option CheckpointBarrier) :=
 match selectLatest db target with
 | none=>.ok none
 | some row=>do
  let stateRevision ← sqliteI64ToU64 row.stateRevision "state_revision"
  let barrier ← decodeStoredCheckpointBarrier serde row.barrierJson row.checkpointId target
   stateRevision
  return some barrier

def sqliteActive (runId:String) : Except CheckpointStoreError (Option CheckpointRecoveryClaim) :=
 match selectKey ClaimRow.runId db.checkpointRecoveryClaims runId with
 | none=>.ok none
 | some row=>(decodeStoredCheckpointRecoveryClaim row runId).map some

def sqliteNextEpoch (runId:String) : Except CheckpointStoreError ℕ :=
 match selectKey EpochRow.runId db.checkpointRecoveryEpochs runId with
 | none=>.ok 1
 | some row=>sqliteI64ToU64 row.nextFencingEpoch "next_fencing_epoch"

/-- `SELECT MAX(state_revision) .. WHERE run_id = ?`. -/
def currentRevision (runId:String) : Except CheckpointStoreError (Option ℕ) :=
 match maxOf BarrierRow.stateRevision (rowsOf db runId) with
 | none=>.ok none
 | some value=>(sqliteI64ToU64 value "state_revision").map some

/-- The `INSERT` under `checkpoint_id TEXT PRIMARY KEY`. -/
def insertBarrier (row:BarrierRow) : Except CheckpointStoreError SqliteCheckpointStore := do
 ensure (!db.checkpointBarriers.any fun r=>r.checkpointId==row.checkpointId)
  (.storage (.uniqueConstraint "checkpoint_barriers" "checkpoint_id"))
 return { db with checkpointBarriers:=db.checkpointBarriers++[row] }

def sqlitePut (barrier:CheckpointBarrier) : Except CheckpointStoreError SqliteCheckpointStore := do
 barrier.validate.mapError .invalidBarrier
 let current ← currentRevision db barrier.runId
 ensure (!current.any (barrier.stateRevision ≤ ·))
  (.staleStateRevision barrier.runId (current.getD 0) barrier.stateRevision)
 let barrierJson ← (serde.toString barrier).mapError fun message=>.storage (.json message)
 let stateRevision ← sqliteU64ToI64 barrier.stateRevision "state_revision"
 insertBarrier db ⟨barrier.checkpointId,barrier.runId,barrier.releaseId,
  barrier.deploymentRevisionId,barrier.planHash,stateRevision,barrierJson⟩

def insertClaim (claim:CheckpointRecoveryClaim) (followingFencingEpoch:ℕ) :
  Except CheckpointStoreError SqliteCheckpointStore := do
 let fencingEpoch ← sqliteU64ToI64 claim.fencingEpoch "fencing_epoch"
 let claimedAtUnixMs ← sqliteU64ToI64 claim.claimedAtUnixMs "claimed_at_unix_ms"
 let expiresAtUnixMs ← sqliteU64ToI64 claim.expiresAtUnixMs "expires_at_unix_ms"
 let nextFencingEpoch ← sqliteU64ToI64 followingFencingEpoch "next_fencing_epoch"
 return { db with
  checkpointRecoveryClaims:=upsert ClaimRow.runId
   ⟨claim.runId,claim.checkpointId,claim.workerId,claim.leaseId,fencingEpoch,
    claimedAtUnixMs,expiresAtUnixMs⟩ db.checkpointRecoveryClaims
  checkpointRecoveryEpochs:=upsert EpochRow.runId ⟨claim.runId,nextFencingEpoch⟩
   db.checkpointRecoveryEpochs }

def sqliteClaimLatestCompatible (target:Target) (request:ClaimRequest) :
  Except CheckpointStoreError (CheckpointRecovery×SqliteCheckpointStore) := do
 validateClaimRequest request
 let latest ← sqliteLatestCompatible serde db target
 match latest with
 | none=>.error (notFound target)
 | some checkpoint=>do
  let active ← sqliteActive db target.runId
  match active.filter (request.nowUnixMs < ·.expiresAtUnixMs) with
  | some live=>.error (activeError target.runId live)
  | none=>do
   let nextFencingEpoch ← sqliteNextEpoch db target.runId
   ensure (!active.any (nextFencingEpoch ≤ ·.fencingEpoch))
    (.storage (.epochNotAfterActive nextFencingEpoch
     ((active.map CheckpointRecoveryClaim.fencingEpoch).getD 0) target.runId))
   let followingFencingEpoch ← advanceFencingEpoch nextFencingEpoch i64Max.toNat target.runId
   let claim:=claimOf target request checkpoint nextFencingEpoch
   let granted ← insertClaim db claim followingFencingEpoch
   return (⟨checkpoint,claim⟩,granted)

def sqliteCompleteClaim (claim:CheckpointRecoveryClaim) (nowUnixMs:ℕ) :
  Except CheckpointStoreError SqliteCheckpointStore := do
 match ← sqliteActive db claim.runId with
 | none=>.error (.recoveryClaimNotFound claim.runId)
 | some active=>do
  checkHeld active claim nowUnixMs
  return { db with checkpointRecoveryClaims:=
   db.checkpointRecoveryClaims.filter fun row=>row.runId != claim.runId }

def sqliteRenewClaim (claim:CheckpointRecoveryClaim) (nowUnixMs expiresAtUnixMs:ℕ) :
  Except CheckpointStoreError (CheckpointRecoveryClaim×SqliteCheckpointStore) := do
 ensure (nowUnixMs<expiresAtUnixMs) (.invalidRecoveryClaim "expires_at_unix_ms")
 match ← sqliteActive db claim.runId with
 | none=>.error (.recoveryClaimNotFound claim.runId)
 | some active=>do
  checkRenewal active claim nowUnixMs expiresAtUnixMs
  let renewed:={ active with expiresAtUnixMs }
  let expiry ← sqliteU64ToI64 renewed.expiresAtUnixMs "expires_at_unix_ms"
  return (renewed,{ db with
   checkpointRecoveryClaims:=(updateWhere (fun row=>row.runId==renewed.runId)
    (fun row=>{ row with expiresAtUnixMs:=expiry }) db.checkpointRecoveryClaims).1 })

/-- A transaction that fails is rolled back. -/
def transact {α:Type} (answer:α→Answer)
  (out:Except CheckpointStoreError (α×SqliteCheckpointStore)) :
  Response×SqliteCheckpointStore :=
 match out with
 | .error e=>(.error e,db)
 | .ok (a,next)=>(.ok (answer a),next)

def sqliteStep : Call→Response×SqliteCheckpointStore
 | .put barrier=>transact db (fun _=>.stored) ((sqlitePut serde db barrier).map ((),·))
 | .latestCompatible target=>((sqliteLatestCompatible serde db target).map .latest,db)
 | .claimLatestCompatible target request=>
  transact db .recovery (sqliteClaimLatestCompatible serde db target request)
 | .completeClaim claim nowUnixMs=>
  transact db (fun _=>.completed) ((sqliteCompleteClaim db claim nowUnixMs).map ((),·))
 | .renewClaim claim nowUnixMs expiresAtUnixMs=>
  transact db .renewed (sqliteRenewClaim db claim nowUnixMs expiresAtUnixMs)
end

end GraphBlocks.Recovery
