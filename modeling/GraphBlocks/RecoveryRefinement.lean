import GraphBlocks.RecoverySqlite

namespace GraphBlocks.Recovery
open RustStd Sql List Option
open ToolTerminals (invalidIdentity)
open Usage (i64Max)

section
variable (serde:BarrierSerde)

/-- The text that `serde_json::to_string` writes for a barrier. -/
def textOf (barrier:CheckpointBarrier) : String := (serde.toString barrier).toOption.getD ""

lemma toString_eq(barrier:CheckpointBarrier):serde.toString barrier=.ok (textOf serde barrier):=by
 obtain ⟨text,hwrite,-⟩:=serde.survives barrier
 simp [textOf,hwrite,Except.toOption]

lemma fromStr_textOf(barrier:CheckpointBarrier):
  serde.fromStr (textOf serde barrier)=.ok barrier:=by
 obtain ⟨text,hwrite,hread⟩:=serde.survives barrier
 rw [toString_eq] at hwrite
 rw [Except.ok.inj hwrite,hread]

def barrierRow (barrier:CheckpointBarrier) : BarrierRow :=
 ⟨barrier.checkpointId,barrier.runId,barrier.releaseId,barrier.deploymentRevisionId,
  barrier.planHash,barrier.stateRevision,textOf serde barrier⟩

def claimRow (claim:CheckpointRecoveryClaim) : ClaimRow :=
 ⟨claim.runId,claim.checkpointId,claim.workerId,claim.leaseId,claim.fencingEpoch,
  claim.claimedAtUnixMs,claim.expiresAtUnixMs⟩

/-- A claim that the SQLite store reads back. -/
structure ReadableClaim (claim:CheckpointRecoveryClaim) : Prop where
 runId:invalidIdentity claim.runId=false
 checkpointId:invalidIdentity claim.checkpointId=false
 workerId:invalidIdentity claim.workerId=false
 leaseId:invalidIdentity claim.leaseId=false
 fencingEpoch:claim.fencingEpoch≠0
 expires:claim.claimedAtUnixMs<claim.expiresAtUnixMs

/-- The tables hold the state of the in-memory store. -/
structure Mirrors (s:InMemoryCheckpointStore) (db:SqliteCheckpointStore) : Prop where
 barriers:∀runId,rowsOf db runId=(checkpoints s runId).map (barrierRow serde)
 claims:∀runId,selectKey ClaimRow.runId db.checkpointRecoveryClaims runId =
  (active s runId).map claimRow
 epochs:∀runId,sqliteNextEpoch db runId=.ok (nextEpoch s runId)
 valid:∀runId,∀barrier∈checkpoints s runId,barrier.validate=.ok ()
 ofRun:∀runId,∀barrier∈checkpoints s runId,barrier.runId=runId
 increasing:∀runId,(checkpoints s runId).Pairwise (fun a b=>a.stateRevision<b.stateRevision)
 readable:∀runId claim,active s runId=some claim→ReadableClaim claim
 claimOfRun:∀runId claim,active s runId=some claim→claim.runId=runId
 below:∀runId claim,active s runId=some claim→claim.fencingEpoch<nextEpoch s runId
 positive:∀runId,nextEpoch s runId≠0
 bounded:∀runId,(nextEpoch s runId:ℤ) ≤ i64Max

lemma sqliteI64ToU64_natCast(n:ℕ)(field:String):sqliteI64ToU64 n field=.ok n:=by
 simp [sqliteI64ToU64]

lemma sqliteU64ToI64_of_le{n:ℕ}(h:(n:ℤ) ≤ i64Max)(field:String):sqliteU64ToI64 n field=.ok n:=by
 rw [sqliteU64ToI64,if_pos h]

variable {claim:CheckpointRecoveryClaim}

lemma decode_claimRow(h:ReadableClaim claim):
  decodeStoredCheckpointRecoveryClaim (claimRow claim) claim.runId=.ok claim:=by
 simp [decodeStoredCheckpointRecoveryClaim,claimRow,sqliteI64ToU64_natCast,h.runId,
  h.checkpointId,h.workerId,h.leaseId,h.fencingEpoch,h.expires,ensure,ok_bind]

variable {serde} {s:InMemoryCheckpointStore} {db:SqliteCheckpointStore}

lemma Mirrors.sqliteActive_eq(h:Mirrors serde s db)(runId:String):
  sqliteActive db runId=.ok (active s runId):=by
 rw [sqliteActive,h.claims]
 cases hactive:active s runId with
 | none=>rfl
 | some claim=>
  have hdecode:=decode_claimRow (h.readable runId claim hactive)
  rw [h.claimOfRun runId claim hactive] at hdecode
  simp only [map_some,hdecode]
  rfl

lemma max?_cast(l:List ℕ):(l.map (Nat.cast:ℕ→ℤ)).max?=l.max?.map (Nat.cast:ℕ→ℤ):=by
 cases hmax:l.max? with
 | none=>
  rw [List.max?_eq_none_iff] at hmax
  simp [hmax]
 | some m=>
  obtain ⟨hmem,hbound⟩:=List.max?_eq_some_iff.mp hmax
  rw [map_some,List.max?_eq_some_iff]
  refine ⟨List.mem_map_of_mem hmem,?_⟩
  intro k hk
  obtain ⟨n,hn,rfl⟩:=List.mem_map.mp hk
  exact_mod_cast hbound n hn

lemma Mirrors.currentRevision_eq(h:Mirrors serde s db)(runId:String):currentRevision db runId =
   .ok ((checkpoints s runId).map CheckpointBarrier.stateRevision).max?:=by
 have hmax:maxOf BarrierRow.stateRevision (rowsOf db runId) =
   ((checkpoints s runId).map CheckpointBarrier.stateRevision).max?.map
    (Nat.cast:ℕ→ℤ):=by
  rw [h.barriers,maxOf,←max?_cast,List.map_map,List.map_map]
  rfl
 rw [currentRevision,hmax]
 cases ((checkpoints s runId).map CheckpointBarrier.stateRevision).max? with
 | none=>rfl
 | some current=>
  simp only [map_some,sqliteI64ToU64_natCast]
  rfl

variable {l:List CheckpointBarrier}

lemma eq_of_increasing(h:l.Pairwise (fun a b=>a.stateRevision<b.stateRevision))
  {a b:CheckpointBarrier}(ha:a∈l)(hb:b∈l)(heq:a.stateRevision=b.stateRevision):a=b:=by
 induction h with
 | nil=>cases ha
 | cons hlt _ ih=>
  rcases mem_cons.mp ha with rfl|hatail
  · rcases mem_cons.mp hb with rfl|hbtail
    · rfl
    · have hbelow:=hlt b hbtail
      omega
  · rcases mem_cons.mp hb with rfl|hbtail
    · have hbelow:=hlt a hatail
      omega
    · exact ih hatail hbtail

lemma maxByKey_eq_none{α:Type}{key:α→ℕ}{l:List α}(h:maxByKey key l=none):l=[]:=by
 cases l with
 | nil=>rfl
 | cons a l=>
  obtain ⟨b,-,hfold,-⟩:=foldl_keepGreatest key l a
  rw [maxByKey,foldl_cons,keepGreatest,hfold] at h
  cases h

lemma head_orderBy(h:l.Pairwise (fun a b=>a.stateRevision<b.stateRevision)):
  (orderBy (fun row => -row.stateRevision) (l.map (barrierRow serde))).head? =
   (maxByKey CheckpointBarrier.stateRevision l).map (barrierRow serde):=by
 cases hbest:maxByKey CheckpointBarrier.stateRevision l with
 | none=>
  rw [maxByKey_eq_none hbest]
  rfl
 | some best=>
  obtain ⟨hmem,hgreatest⟩:=maxByKey_eq_some hbest
  have hperm:=perm_insertionSort
   (fun a b:BarrierRow => -a.stateRevision ≤ -b.stateRevision) (l.map (barrierRow serde))
  have hsorted:=pairwise_insertionSort
   (fun a b:BarrierRow => -a.stateRevision ≤ -b.stateRevision) (l.map (barrierRow serde))
  unfold orderBy
  cases hrows:(l.map (barrierRow serde)).insertionSort
    (fun a b:BarrierRow => -a.stateRevision ≤ -b.stateRevision) with
  | nil=>
   rw [hrows] at hperm
   have hnone:=hperm.symm.eq_nil
   rw [map_eq_nil_iff] at hnone
   rw [hnone] at hmem
   cases hmem
  | cons first rest=>
   rw [hrows] at hperm hsorted
   have hfirst:first∈l.map (barrierRow serde):=hperm.mem_iff.mp mem_cons_self
   obtain ⟨b,hb,rfl⟩:=List.mem_map.mp hfirst
   have hle:best.stateRevision≤b.stateRevision:=by
    have hbestRow:=hperm.mem_iff.mpr (List.mem_map_of_mem hmem)
    rcases mem_cons.mp hbestRow with heq|hin
    · have hrev:=congrArg BarrierRow.stateRevision heq
      simp only [barrierRow] at hrev
      omega
    · have hrev:=(pairwise_cons.mp hsorted).1 _ hin
      simp only [barrierRow] at hrev
      omega
   have hsame:b=best:=eq_of_increasing h hb hmem (Nat.le_antisymm (hgreatest b hb) hle)
   rw [hsame]
   rfl

lemma Mirrors.selectLatest_eq(h:Mirrors serde s db)(target:Target):
  selectLatest db target=(latestCompatible s target).map (barrierRow serde):=by
 have hrows:(rowsOf db target.runId).filter (compatibleRow target) =
   ((checkpoints s target.runId).filter (compatible target)).map (barrierRow serde):=by
  rw [h.barriers,List.filter_map]
  rfl
 rw [selectLatest,hrows,head_orderBy ((h.increasing target.runId).filter _)]
 rfl

variable {barrier:CheckpointBarrier} {target:Target}

lemma decode_barrierRow(serde:BarrierSerde)(hvalid:barrier.validate=.ok ())
  (hrun:barrier.runId=target.runId)(hcompatible:compatible target barrier=true):
  decodeStoredCheckpointBarrier serde (textOf serde barrier) barrier.checkpointId target
   barrier.stateRevision=.ok barrier:=by
 simp only [compatible,Bool.and_eq_true,beq_iff_eq] at hcompatible
 obtain ⟨⟨hrelease,hdeployment⟩,hplan⟩:=hcompatible
 simp [decodeStoredCheckpointBarrier,fromStr_textOf,hvalid,hrun,hrelease,hdeployment,hplan,
  Except.mapError,ensure,ok_bind]

lemma Mirrors.latest_eq(h:Mirrors serde s db)(target:Target):
  sqliteLatestCompatible serde db target=.ok (latestCompatible s target):=by
 rw [sqliteLatestCompatible,h.selectLatest_eq]
 cases hlatest:latestCompatible s target with
 | none=>rfl
 | some barrier=>
  obtain ⟨hmem,-⟩:=maxByKey_eq_some hlatest
  obtain ⟨hmem,hcompatible⟩:=mem_filter.mp hmem
  have hdecode:=decode_barrierRow serde (h.valid _ barrier hmem)
   (h.ofRun _ barrier hmem) hcompatible
  simp only [map_some,barrierRow,sqliteI64ToU64_natCast,ok_bind,hdecode]
  rfl

def Reused (s:InMemoryCheckpointStore) (checkpointId:String) : Prop :=
 ∃runId,∃stored∈checkpoints s runId,stored.checkpointId=checkpointId

variable {row:BarrierRow}

lemma Mirrors.mem_barriers(h:Mirrors serde s db):row∈db.checkpointBarriers ↔
   ∃runId,∃stored∈checkpoints s runId,barrierRow serde stored=row:=by
 have hrow:row∈db.checkpointBarriers↔row∈rowsOf db row.runId:=by simp [rowsOf]
 constructor
 · intro hmem
   rw [hrow,h.barriers] at hmem
   exact ⟨row.runId,List.mem_map.mp hmem⟩
 · rintro ⟨runId,stored,hstored,rfl⟩
   have hmem:barrierRow serde stored∈rowsOf db runId:=by
    rw [h.barriers]
    exact List.mem_map_of_mem hstored
   exact (mem_filter.mp hmem).1

lemma Mirrors.reused_iff(h:Mirrors serde s db)(checkpointId:String):
  (db.checkpointBarriers.any fun r=>r.checkpointId==checkpointId)=true↔Reused s checkpointId:=by
 simp only [List.any_eq_true,beq_iff_eq,h.mem_barriers]
 constructor
 · rintro ⟨row,⟨runId,stored,hstored,rfl⟩,hid⟩
   exact ⟨runId,stored,hstored,hid⟩
 · rintro ⟨runId,stored,hstored,hid⟩
   exact ⟨_,⟨runId,stored,hstored,rfl⟩,hid⟩

lemma sqlitePut_invalid{e:CheckpointBarrierError}(hvalid:barrier.validate=.error e):
  sqlitePut serde db barrier=.error (.invalidBarrier e):=by
 simp only [sqlitePut,hvalid]
 rfl

lemma Mirrors.sqlitePut_stale(h:Mirrors serde s db)(hvalid:barrier.validate=.ok ()){current:ℕ}
  (hcurrent:((checkpoints s barrier.runId).map CheckpointBarrier.stateRevision).max?.filter
   (barrier.stateRevision ≤ ·)=some current):
  sqlitePut serde db barrier =
   .error (.staleStateRevision barrier.runId current barrier.stateRevision):=by
 rw [filter_eq_some_iff] at hcurrent
 obtain ⟨hmax,hstale⟩:=hcurrent
 simp only [sqlitePut,hvalid,h.currentRevision_eq,hmax,Except.mapError,ok_bind,
  any_some,hstale,getD_some,ensure,Bool.not_true,Bool.false_eq_true,if_false]
 rfl

lemma Mirrors.sqlitePut_newer(h:Mirrors serde s db)(hvalid:barrier.validate=.ok ())
  (hfits:(barrier.stateRevision:ℤ) ≤ i64Max)
  (hcurrent:((checkpoints s barrier.runId).map CheckpointBarrier.stateRevision).max?.filter
   (barrier.stateRevision ≤ ·)=none):
  sqlitePut serde db barrier=insertBarrier db (barrierRow serde barrier):=by
 have hany:((checkpoints s barrier.runId).map CheckpointBarrier.stateRevision).max?.any
   (barrier.stateRevision ≤ ·)=false:=by
  rw [any_eq_false_iff_get]
  intro hsome
  rw [filter_eq_none_iff] at hcurrent
  simpa using hcurrent _ (some_get hsome).symm
 simp only [sqlitePut,hvalid,h.currentRevision_eq,Except.mapError,ok_bind,hany,ensure,
  Bool.not_false,if_true,toString_eq,sqliteU64ToI64_of_le hfits]
 rfl

lemma insertBarrier_fresh
  (hfresh:¬(db.checkpointBarriers.any fun r=>r.checkpointId==row.checkpointId)=true):
  insertBarrier db row=.ok { db with checkpointBarriers:=db.checkpointBarriers++[row] }:=by
 simp only [insertBarrier,hfresh,ensure,Bool.not_false,if_true,ok_bind]
 rfl

lemma insertBarrier_reused
  (hused:(db.checkpointBarriers.any fun r=>r.checkpointId==row.checkpointId)=true):
  insertBarrier db row =
   .error (.storage (.uniqueConstraint "checkpoint_barriers" "checkpoint_id")):=by
 simp only [insertBarrier,hused,ensure,Bool.not_true,Bool.false_eq_true,if_false]
 rfl

lemma Mirrors.store (h:Mirrors serde s db) (hstorable:Storable s barrier) :
  Mirrors serde (storing s barrier) { db with
   checkpointBarriers:=db.checkpointBarriers++[barrierRow serde barrier] } where
 barriers runId:=by
  rw [checkpoints_storing,rowsOf,filter_append]
  change rowsOf db runId++_=_
  by_cases hrun:barrier.runId=runId
  · rw [if_pos hrun,map_append,h.barriers]
    simp [barrierRow,hrun]
  · rw [if_neg hrun,h.barriers]
    simp [barrierRow,hrun]
 claims:=h.claims
 epochs:=h.epochs
 valid runId stored hstored:=by
  rw [checkpoints_storing] at hstored
  split at hstored
  · rcases mem_append.mp hstored with hstored|hstored
    · exact h.valid runId stored hstored
    · rw [mem_singleton.mp hstored]
      exact hstorable.valid
  · exact h.valid runId stored hstored
 ofRun runId stored hstored:=by
  rw [checkpoints_storing] at hstored
  split at hstored
  · next hrun=>
    rcases mem_append.mp hstored with hstored|hstored
    · exact h.ofRun runId stored hstored
    · rw [mem_singleton.mp hstored,hrun]
  · exact h.ofRun runId stored hstored
 increasing runId:=by
  rw [checkpoints_storing]
  split
  · next hrun=>
    rw [pairwise_append]
    refine ⟨h.increasing runId,pairwise_singleton _ _,?_⟩
    intro a ha b hb
    rw [mem_singleton.mp hb]
    exact hstorable.newer a (hrun▸ha)
  · exact h.increasing runId
 readable:=h.readable
 claimOfRun:=h.claimOfRun
 below:=h.below
 positive:=h.positive
 bounded:=h.bounded

lemma Mirrors.alike (h:Mirrors serde s db) {s':InMemoryCheckpointStore}
  (halike:Alike s s') : Mirrors serde s' db where
 barriers runId:=by rw [halike.checkpoints,h.barriers]
 claims runId:=by rw [halike.active,h.claims]
 epochs runId:=by rw [halike.nextEpoch,h.epochs]
 valid runId:=by
  rw [halike.checkpoints]
  exact h.valid runId
 ofRun runId:=by
  rw [halike.checkpoints]
  exact h.ofRun runId
 increasing runId:=by
  rw [halike.checkpoints]
  exact h.increasing runId
 readable runId:=by
  rw [halike.active]
  exact h.readable runId
 claimOfRun runId:=by
  rw [halike.active]
  exact h.claimOfRun runId
 below runId:=by
  rw [halike.active,halike.nextEpoch]
  exact h.below runId
 positive runId:=by
  rw [halike.nextEpoch]
  exact h.positive runId
 bounded runId:=by
  rw [halike.nextEpoch]
  exact h.bounded runId

lemma Mirrors.grant (h:Mirrors serde s db)
  (hreadable:ReadableClaim claim) (hbounded:(claim.fencingEpoch:ℤ)+1 ≤ i64Max)
  {claims:List ClaimRow} {epochs:List EpochRow}
  (hclaims:claims=upsert ClaimRow.runId (claimRow claim) db.checkpointRecoveryClaims)
  (hepochs:epochs=upsert EpochRow.runId ⟨claim.runId,claim.fencingEpoch+1⟩
   db.checkpointRecoveryEpochs) :
  Mirrors serde (granting s claim) { db with
   checkpointRecoveryClaims:=claims,checkpointRecoveryEpochs:=epochs } where
 barriers:=h.barriers
 claims runId:=by
  rw [hclaims,selectKey_upsert,active_granting,h.claims]
  change (if claim.runId=runId then _ else _)=_
  split <;>rfl
 epochs runId:=by
  have hstored:=h.epochs runId
  rw [sqliteNextEpoch] at hstored ⊢
  simp only [hepochs,selectKey_upsert,nextEpoch_granting]
  by_cases hrun:claim.runId=runId
  · rw [if_pos hrun,if_pos hrun]
    exact sqliteI64ToU64_natCast (claim.fencingEpoch+1) _
  · rw [if_neg hrun,if_neg hrun]
    exact hstored
 valid:=h.valid
 ofRun:=h.ofRun
 increasing:=h.increasing
 readable runId held:=by
  rw [active_granting]
  split
  · rintro ⟨⟩
    exact hreadable
  · exact h.readable runId held
 claimOfRun runId held:=by
  rw [active_granting]
  split
  · next hrun=>
    rintro ⟨⟩
    exact hrun
  · exact h.claimOfRun runId held
 below runId held:=by
  rw [active_granting,nextEpoch_granting]
  split
  · rintro ⟨⟩
    omega
  · exact h.below runId held
 positive runId:=by
  rw [nextEpoch_granting]
  split
  · omega
  · exact h.positive runId
 bounded runId:=by
  rw [nextEpoch_granting]
  split
  · exact_mod_cast hbounded
  · exact h.bounded runId

lemma selectKey_filter_ne(rows:List ClaimRow)(deleted runId:String):
  selectKey ClaimRow.runId (rows.filter fun row=>row.runId != deleted) runId =
   if deleted=runId then none else selectKey ClaimRow.runId rows runId:=by
 unfold selectKey
 rw [List.find?_filter]
 split
 · next hrun=>
   rw [List.find?_eq_none]
   intro row _
   simp [hrun]
 · next hrun=>
   congr 1
   funext row
   by_cases hrow:row.runId=runId
   · simp [hrow,Ne.symm hrun]
   · simp [hrow]

lemma Mirrors.complete (h:Mirrors serde s db) (deleted:String) :
  Mirrors serde (releasing s deleted) { db with
   checkpointRecoveryClaims :=
    db.checkpointRecoveryClaims.filter fun row=>row.runId != deleted } where
 barriers:=h.barriers
 claims runId:=by
  rw [selectKey_filter_ne,active_releasing,h.claims]
  split <;>rfl
 epochs:=h.epochs
 valid:=h.valid
 ofRun:=h.ofRun
 increasing:=h.increasing
 readable runId held:=by
  rw [active_releasing]
  split
  · rintro ⟨⟩
  · exact h.readable runId held
 claimOfRun runId held:=by
  rw [active_releasing]
  split
  · rintro ⟨⟩
  · exact h.claimOfRun runId held
 below runId held:=by
  rw [active_releasing]
  split
  · rintro ⟨⟩
  · exact h.below runId held
 positive:=h.positive
 bounded:=h.bounded

lemma Mirrors.renew (h:Mirrors serde s db) {held:CheckpointRecoveryClaim} {runId:String}
  (hactive:active s runId=some held) {expiresAtUnixMs:ℕ}
  (hlater:held.expiresAtUnixMs<expiresAtUnixMs) :
  Mirrors serde (holding s runId { held with expiresAtUnixMs }) { db with
   checkpointRecoveryClaims:=(updateWhere (fun row=>row.runId==held.runId)
    (fun row=>{ row with expiresAtUnixMs:=expiresAtUnixMs })
    db.checkpointRecoveryClaims).1 } where
 barriers:=h.barriers
 claims other:=by
  have hof:=h.claimOfRun runId held hactive
  rw [updateWhere,selectKey_map (fun row=>by split <;>rfl),active_holding,h.claims]
  by_cases hrun:runId=other
  · subst hrun
    rw [if_pos rfl,hactive]
    simp [claimRow]
  · rw [if_neg hrun]
    cases hother:active s other with
    | none=>rfl
    | some claim=>
     have hne:claim.runId≠held.runId:=by
      rw [h.claimOfRun other claim hother,hof]
      exact fun heq=>hrun heq.symm
     simp [claimRow,hne]
 epochs:=h.epochs
 valid:=h.valid
 ofRun:=h.ofRun
 increasing:=h.increasing
 readable other claim:=by
  rw [active_holding]
  split
  · rintro ⟨⟩
    have hreadable:=h.readable runId held hactive
    have hexpires:=hreadable.expires
    exact { hreadable with expires:=by simp only;omega }
  · exact h.readable other claim
 claimOfRun other claim:=by
  rw [active_holding]
  split
  · next hrun=>
    rintro ⟨⟩
    rw [←hrun]
    exact h.claimOfRun runId held hactive
  · exact h.claimOfRun other claim
 below other claim:=by
  rw [active_holding]
  split
  · next hrun=>
    rintro ⟨⟩
    rw [←hrun]
    exact h.below runId held hactive
  · exact h.below other claim
 positive:=h.positive
 bounded:=h.bounded

/-- The integers that SQLite stores fit its columns. -/
def Call.Fits : Call→Prop
 | .put barrier=>(barrier.stateRevision:ℤ) ≤ i64Max
 | .claimLatestCompatible _ request=>
  (request.nowUnixMs:ℤ) ≤ i64Max∧(request.expiresAtUnixMs:ℤ) ≤ i64Max
 | .renewClaim _ _ expiresAtUnixMs=>(expiresAtUnixMs:ℤ) ≤ i64Max
 | _=>True

def Reuses (s:InMemoryCheckpointStore) : Call→Prop
 | .put barrier=>Storable s barrier∧Reused s barrier.checkpointId
 | _=>False

def EpochBelow (response:Response) : Prop :=
 ∀recovery,response=.ok (.recovery recovery)→(recovery.claim.fencingEpoch:ℤ) < i64Max

/-- The same answer on both sides, and the rows hold the state again. -/
def Agrees (serde:BarrierSerde) (s:InMemoryCheckpointStore) (db:SqliteCheckpointStore)
  (call:Call) : Prop :=
 (sqliteStep serde db call).1=(step s call).1 ∧
  Mirrors serde (step s call).2 (sqliteStep serde db call).2

lemma Mirrors.agrees_error(h:Mirrors serde s db){call:Call}{e:CheckpointStoreError}
  (hmem:(step s call).1=.error e)(hsql:sqliteStep serde db call=(.error e,db)):
  Agrees serde s db call:=by
 unfold Agrees
 rw [hsql]
 exact ⟨hmem.symm,h.alike (alike_of_error hmem)⟩

lemma put_agrees(h:Mirrors serde s db)(hfits:(barrier.stateRevision:ℤ) ≤ i64Max)
  (hnew:¬Reuses s (.put barrier)):Agrees serde s db (.put barrier):=by
 cases hvalid:barrier.validate with
 | error e=>
  apply h.agrees_error (e:=.invalidBarrier e)
  · simp only [step,put,hvalid]
    rfl
  · simp only [sqliteStep,sqlitePut_invalid hvalid]
    rfl
 | ok u=>
  cases hcurrent:((checkpoints s barrier.runId).map CheckpointBarrier.stateRevision).max?.filter
    (barrier.stateRevision ≤ ·) with
  | some current=>
   apply h.agrees_error (e:=.staleStateRevision barrier.runId current barrier.stateRevision)
   · simp only [step,put,hvalid,hcurrent]
     rfl
   · simp only [sqliteStep,h.sqlitePut_stale hvalid hcurrent]
     rfl
  | none=>
   have hstorable:=storable_of hvalid hcurrent
   have hfresh:¬(db.checkpointBarriers.any fun r=>
     r.checkpointId==(barrierRow serde barrier).checkpointId)=true:=by
    rw [h.reused_iff]
    exact fun hused=>hnew ⟨hstorable,hused⟩
   have hsql:sqliteStep serde db (.put barrier)=(.ok .stored,{ db with
     checkpointBarriers:=db.checkpointBarriers++[barrierRow serde barrier] }):=by
    simp only [sqliteStep,h.sqlitePut_newer hvalid hfits hcurrent,insertBarrier_fresh hfresh]
    rfl
   unfold Agrees
   rw [hsql,step_put hstorable]
   exact ⟨rfl,h.store hstorable⟩

lemma validate_identities(h:barrier.validate=.ok ()):
  invalidIdentity barrier.checkpointId=false∧invalidIdentity barrier.runId=false:=by
 simp only [CheckpointBarrier.validate,bind_ok,ensure_ok] at h
 obtain ⟨-,hcheckpoint,-,hrun,-⟩:=h
 exact ⟨by simpa using hcheckpoint,by simpa using hrun⟩

variable {request:ClaimRequest}

lemma validateClaimRequest_ok(h:validateClaimRequest request=.ok ()):
  invalidIdentity request.workerId=false∧invalidIdentity request.leaseId=false ∧
   request.nowUnixMs<request.expiresAtUnixMs:=by
 simp only [validateClaimRequest,bind_ok,ensure_ok] at h
 obtain ⟨-,hworker,-,hlease,hexpires⟩:=h
 exact ⟨by simpa using hworker,by simpa using hlease,by simpa using hexpires⟩

lemma insertClaim_eq(db:SqliteCheckpointStore)(claim:CheckpointRecoveryClaim){following:ℕ}
  (hepoch:(claim.fencingEpoch:ℤ) ≤ i64Max)(hclaimed:(claim.claimedAtUnixMs:ℤ) ≤ i64Max)
  (hexpires:(claim.expiresAtUnixMs:ℤ) ≤ i64Max)(hfollowing:(following:ℤ) ≤ i64Max):
  insertClaim db claim following=.ok { db with
   checkpointRecoveryClaims:=upsert ClaimRow.runId (claimRow claim) db.checkpointRecoveryClaims
   checkpointRecoveryEpochs:=upsert EpochRow.runId ⟨claim.runId,following⟩
    db.checkpointRecoveryEpochs }:=by
 simp only [insertClaim,sqliteU64ToI64_of_le hepoch,sqliteU64ToI64_of_le hclaimed,
  sqliteU64ToI64_of_le hexpires,sqliteU64ToI64_of_le hfollowing,ok_bind]
 rfl

section
variable (h:Mirrors serde s db)
include h

lemma grant_agrees{checkpoint:CheckpointBarrier}
  (hfits:(Call.claimLatestCompatible target request).Fits)
  (hvalid:validateClaimRequest request=.ok ())
  (hlatest:latestCompatible s target=some checkpoint)
  (hlapsed:(active s target.runId).filter (request.nowUnixMs < ·.expiresAtUnixMs)=none)
  (hgrant:(step s (.claimLatestCompatible target request)) =
   ((grantClaim s target request checkpoint).1.map .recovery,
    (grantClaim s target request checkpoint).2))
  (hepoch:EpochBelow (step s (.claimLatestCompatible target request)).1):
  Agrees serde s db (.claimLatestCompatible target request):=by
 have hpositive:=h.positive target.runId
 have hbounded:=h.bounded target.runId
 have hmem:step s (.claimLatestCompatible target request) =
   (.ok (.recovery ⟨checkpoint,claimOf target request checkpoint (nextEpoch s target.runId)⟩),
    granting s (claimOf target request checkpoint (nextEpoch s target.runId))):=by
  have hadvance:advanceFencingEpoch (s.nextFencingEpochByRun.getD target.runId 1)
    (u64Limit-1) target.runId=.ok (nextEpoch s target.runId+1):=by
   rw [advanceFencingEpoch_ok]
   refine ⟨hpositive,rfl,?_,?_⟩ <;>
    simp only [nextEpoch,i64Max,u64Limit] at hbounded ⊢ <;>omega
  rw [hgrant]
  simp only [grantClaim,hadvance]
  rfl
 have hbelow:=hepoch _ (congrArg Prod.fst hmem)
 simp only [claimOf] at hbelow
 obtain ⟨hstoredMem,-⟩:=maxByKey_eq_some hlatest
 have hcheckpoint:=(mem_filter.mp hstoredMem).1
 obtain ⟨hid,hrun⟩:=validate_identities (h.valid _ checkpoint hcheckpoint)
 rw [h.ofRun _ checkpoint hcheckpoint] at hrun
 obtain ⟨hworker,hlease,hexpires⟩:=validateClaimRequest_ok hvalid
 have hreadable:ReadableClaim
   (claimOf target request checkpoint (nextEpoch s target.runId)):=
  ⟨hrun,hid,hworker,hlease,hpositive,hexpires⟩
 have hadvance:advanceFencingEpoch (nextEpoch s target.runId) i64Max.toNat target.runId =
   .ok (nextEpoch s target.runId+1):=by
  rw [advanceFencingEpoch_ok]
  refine ⟨hpositive,rfl,?_,?_⟩ <;>simp only [i64Max,u64Limit] at hbelow ⊢ <;>omega
 have hrewound:(active s target.runId).any
   (nextEpoch s target.runId ≤ ·.fencingEpoch)=false:=by
  cases hactive:active s target.runId with
  | none=>rfl
  | some claim=>
   have hlt:=h.below target.runId claim hactive
   simpa using hlt
 have hfollowing:((nextEpoch s target.runId+1:ℕ):ℤ) ≤ i64Max:=by
  push_cast
  omega
 have hinsert:=insertClaim_eq db
  (claimOf target request checkpoint (nextEpoch s target.runId)) hbounded hfits.1 hfits.2
  hfollowing
 have hsql:sqliteClaimLatestCompatible serde db target request=.ok
   (⟨checkpoint,claimOf target request checkpoint (nextEpoch s target.runId)⟩,{ db with
    checkpointRecoveryClaims:=upsert ClaimRow.runId
     (claimRow (claimOf target request checkpoint (nextEpoch s target.runId)))
     db.checkpointRecoveryClaims
    checkpointRecoveryEpochs:=upsert EpochRow.runId
     ⟨target.runId,(nextEpoch s target.runId+1:ℕ)⟩ db.checkpointRecoveryEpochs }):=by
  simp only [sqliteClaimLatestCompatible,hvalid,h.latest_eq,hlatest,h.sqliteActive_eq,
   hlapsed,h.epochs,hrewound,hadvance,hinsert,ensure,Bool.not_false,if_true,ok_bind]
  rfl
 unfold Agrees
 rw [hmem]
 simp only [sqliteStep,hsql,transact]
 refine ⟨trivial,h.grant hreadable ?_ rfl ?_⟩
 · exact hbelow
 · simp [claimOf]

lemma claim_agrees(hfits:(Call.claimLatestCompatible target request).Fits)
  (hepoch:EpochBelow (step s (.claimLatestCompatible target request)).1):
  Agrees serde s db (.claimLatestCompatible target request):=by
 cases hvalid:validateClaimRequest request with
 | error e=>
  apply h.agrees_error (e:=e)
  · simp only [step,claimLatestCompatible,hvalid]
    rfl
  · simp only [sqliteStep,sqliteClaimLatestCompatible,hvalid]
    rfl
 | ok u=>
  cases hlatest:latestCompatible s target with
  | none=>
   apply h.agrees_error (e:=notFound target)
   · simp only [step,claimLatestCompatible,hvalid,hlatest]
     rfl
   · simp only [sqliteStep,sqliteClaimLatestCompatible,hvalid,h.latest_eq,hlatest,ok_bind]
     rfl
  | some checkpoint=>
   cases hactive:active s target.runId with
   | none=>
    refine grant_agrees h hfits hvalid hlatest (by rw [hactive];rfl) ?_ hepoch
    rw [active] at hactive
    simp only [step,claimLatestCompatible,hvalid,hlatest,hactive]
   | some held=>
    have hstored:s.activeClaimsByRun[target.runId]?=some held:=hactive
    by_cases hlive:request.nowUnixMs<held.expiresAtUnixMs
    · apply h.agrees_error (e:=activeError target.runId held)
      · simp only [step,claimLatestCompatible,hvalid,hlatest,hstored,hlive,if_true]
        rfl
      · have hfilter:(active s target.runId).filter
          (request.nowUnixMs < ·.expiresAtUnixMs)=some held:=by
         rw [hactive,filter_some,if_pos (by simpa using hlive)]
        simp only [sqliteStep,sqliteClaimLatestCompatible,hvalid,h.latest_eq,hlatest,
         h.sqliteActive_eq,hfilter,ok_bind]
        rfl
    · refine grant_agrees h hfits hvalid hlatest ?_ ?_ hepoch
      · rw [hactive,filter_some,if_neg (by simpa using hlive)]
      · simp only [step,claimLatestCompatible,hvalid,hlatest,hstored,hlive,if_false]

lemma complete_agrees(claim:CheckpointRecoveryClaim)(nowUnixMs:ℕ):
  Agrees serde s db (.completeClaim claim nowUnixMs):=by
 cases hactive:active s claim.runId with
 | none=>
  have hstored:s.activeClaimsByRun[claim.runId]?=none:=hactive
  apply h.agrees_error (e:=.recoveryClaimNotFound claim.runId)
  · simp only [step,completeClaim,hstored]
    rfl
  · simp only [sqliteStep,sqliteCompleteClaim,h.sqliteActive_eq,hactive,ok_bind]
    rfl
 | some held=>
  have hstored:s.activeClaimsByRun[claim.runId]?=some held:=hactive
  cases hcheck:checkHeld held claim nowUnixMs with
  | error e=>
   apply h.agrees_error (e:=e)
   · simp only [step,completeClaim,hstored,hcheck]
     rfl
   · simp only [sqliteStep,sqliteCompleteClaim,h.sqliteActive_eq,hactive,hcheck,ok_bind]
     rfl
  | ok u=>
   have hmem:step s (.completeClaim claim nowUnixMs)=(.ok .completed,releasing s claim.runId):=by
    simp only [step,completeClaim,hstored,hcheck]
    rfl
   unfold Agrees
   rw [hmem]
   simp only [sqliteStep,sqliteCompleteClaim,h.sqliteActive_eq,hactive,hcheck,ok_bind]
   exact ⟨rfl,h.complete claim.runId⟩

lemma renew_agrees(claim:CheckpointRecoveryClaim)
  {nowUnixMs expiresAtUnixMs:ℕ}(hfits:(expiresAtUnixMs:ℤ) ≤ i64Max):
  Agrees serde s db (.renewClaim claim nowUnixMs expiresAtUnixMs):=by
 by_cases hlate:nowUnixMs<expiresAtUnixMs
 · have hpast:¬expiresAtUnixMs≤nowUnixMs:=Nat.not_le.mpr hlate
   cases hactive:active s claim.runId with
   | none=>
    have hstored:s.activeClaimsByRun[claim.runId]?=none:=hactive
    apply h.agrees_error (e:=.recoveryClaimNotFound claim.runId)
    · simp only [step,renewClaim,hpast,if_false,hstored]
      rfl
    · simp only [sqliteStep,sqliteRenewClaim,hlate,ensure,decide_true,if_true,
       h.sqliteActive_eq,hactive,ok_bind]
      rfl
   | some held=>
    have hstored:s.activeClaimsByRun[claim.runId]?=some held:=hactive
    cases hcheck:checkRenewal held claim nowUnixMs expiresAtUnixMs with
    | error e=>
     apply h.agrees_error (e:=e)
     · simp only [step,renewClaim,hpast,if_false,hstored,hcheck]
       rfl
     · simp only [sqliteStep,sqliteRenewClaim,hlate,ensure,decide_true,if_true,
        h.sqliteActive_eq,hactive,hcheck,ok_bind]
       rfl
    | ok u=>
     obtain ⟨-,hlater⟩:=checkRenewal_ok.mp hcheck
     have hmem:step s (.renewClaim claim nowUnixMs expiresAtUnixMs) =
       (.ok (.renewed { held with expiresAtUnixMs }),
        holding s claim.runId { held with expiresAtUnixMs }):=by
      simp only [step,renewClaim,hpast,if_false,hstored,hcheck]
      rfl
     unfold Agrees
     rw [hmem]
     simp only [sqliteStep,sqliteRenewClaim,hlate,ensure,decide_true,if_true,
      h.sqliteActive_eq,hactive,hcheck,sqliteU64ToI64_of_le hfits,ok_bind]
     exact ⟨rfl,h.renew hactive hlater⟩
 · apply h.agrees_error (e:=.invalidRecoveryClaim "expires_at_unix_ms")
   · simp only [step,renewClaim,Nat.not_lt.mp hlate,if_true]
     rfl
   · simp only [sqliteStep,sqliteRenewClaim,hlate,ensure,decide_false,Bool.false_eq_true,if_false]
     rfl

lemma step_agrees{call:Call}(hfits:call.Fits)
  (hepoch:EpochBelow (step s call).1)(hnew:¬Reuses s call):Agrees serde s db call:=by
 cases call with
 | put barrier=>exact put_agrees h hfits hnew
 | latestCompatible target=>
  refine ⟨?_,h⟩
  simp only [sqliteStep,step,h.latest_eq]
  rfl
 | claimLatestCompatible target request=>exact claim_agrees h hfits hepoch
 | completeClaim claim nowUnixMs=>exact complete_agrees h claim nowUnixMs
 | renewClaim claim nowUnixMs expiresAtUnixMs=>exact renew_agrees h claim hfits

end
end

end GraphBlocks.Recovery
