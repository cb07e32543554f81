import GraphBlocks.RunStoreRefinement
import GraphBlocks.SerdeInstance

namespace GraphBlocks.RunStore
open Json OrderedMap RustStd CanonicalJson Sql MachineRuns List Option Std.ExtTreeMap

variable {d:StringDisplay} (reader:JsonReader d)

/-- Every stored integer is in the range of `i64` and every stored JSON value survives storage. -/
structure Persistable (s:InMemoryRunStore) : Prop where
 runs:∀(k:String) record,s.runs[k]?=some record→RecordFits reader record
 leases:∀(k:String) lease,s.ownershipLeases[k]?=some lease→LeaseFits lease

/-- The tables hold the records and the leases of the in-memory store. -/
structure Mirrors (d:StringDisplay) (s:InMemoryRunStore) (db:SqliteRunStore) : Prop where
 kept:Kept s
 runs:Tabulates RunRow.runId (rowOf d) db.runs s.runs
 leases:Tabulates LeaseRow.runId leaseRowOf db.runOwnershipLeases s.ownershipLeases
 next:nextOf RunRow.sequence db.runs=s.nextSequence

lemma mirrors_new : Mirrors d InMemoryRunStore.new SqliteRunStore.openInMemory where
 kept:=kept_new
 runs:=tabulates_empty
 leases:=tabulates_empty
 next:=rfl

variable {runId:String}

section
variable {s:InMemoryRunStore} {db:SqliteRunStore} (h:Mirrors d s db)
variable (hfits:Persistable reader s)
include h hfits

lemma getRun_mirrors(runId:String):db.getRun reader runId=s.getRun runId:=by
 unfold SqliteRunStore.getRun InMemoryRunStore.getRun
 rw [h.runs.select]
 cases hstored:s.runs[runId]? with
 | none=>rfl
 | some record=>
  exact recordFromStorage_rowOf reader (hfits.runs runId record hstored)
   (h.kept.tools runId record hstored)

omit hfits in
lemma runExists_mirrors(runId:String):db.runExists runId=s.runs.contains runId:=by
 unfold SqliteRunStore.runExists
 rw [h.runs.select,isSome_map,contains_eq_isSome_getElem?]

abbrev ExactOwner (s:InMemoryRunStore) (runId:String) : Prop :=
 ∀lease,s.ownershipLeases[runId]?=some lease→trim lease.owner=lease.owner

omit hfits in
lemma loadLease_mirrors(hexact:ExactOwner s runId):
  db.sqliteLoadRunOwnershipLease runId=.ok s.ownershipLeases[runId]?:=by
 unfold SqliteRunStore.sqliteLoadRunOwnershipLease
 rw [h.leases.select]
 cases hstored:s.ownershipLeases[runId]? with
 | none=>rfl
 | some lease=>
  obtain ⟨record,hrecord⟩:=h.kept.known runId lease hstored
  have hread:=leaseFromStorage_leaseRowOf (h.kept.ids runId record hrecord).2
   (h.kept.leases runId lease hstored) (hexact lease hstored)
  simp only [map_some,hread]
  rfl

omit hfits in
lemma loadLease_padded{lease:RunOwnershipLease}
  (hstored:s.ownershipLeases[runId]?=some lease)(hpadded:trim lease.owner≠lease.owner):
  db.sqliteLoadRunOwnershipLease runId=.error (.storage (.notExactString "owner")):=by
 unfold SqliteRunStore.sqliteLoadRunOwnershipLease
 rw [h.leases.select,hstored]
 obtain ⟨record,hrecord⟩:=h.kept.known runId lease hstored
 have hread:=leaseFromStorage_padded (h.kept.ids runId record hrecord).2
  (h.kept.leases runId lease hstored) hpadded
 simp only [map_some,hread]
 rfl
end

section
variable {s:InMemoryRunStore} {db:SqliteRunStore} {runId:String} {current updated:RunRecord}

lemma updateRuns_mirrors(h:Mirrors d s db)(hstored:s.runs[runId]?=some current)
  (hrewrites:Rewrites current updated){condition:RunRow→Bool}{set:RunRow→RunRow}
  (hset:∀row,(set row).runId=row.runId∧(set row).sequence=row.sequence)
  (honly:∀row,condition row=true→ row.runId=runId)
  (hmatch:condition (rowOf d current)=true)(hrow:set (rowOf d current)=rowOf d updated):
  ∃db',db.updateRuns updated condition set=.ok (updated,db') ∧
   Mirrors d { s with runs:=s.runs.insert runId updated } db':=by
 obtain ⟨hcount,htable⟩:=h.runs.updateWhere hstored (fun row=>(hset row).1) honly hmatch hrow
 refine ⟨{ db with runs:=(updateWhere condition set db.runs).1 },?_,?_⟩
 · unfold SqliteRunStore.updateRuns
   simp [hcount,SqliteRunStore.requireSingleRunUpdate,ensure,ok_bind]
 · refine ⟨h.kept.rewrite hstored hrewrites,htable,h.leases,?_⟩
   refine Eq.trans (nextOf_map fun row=>?_) h.next
   split
   · exact (hset row).2
   · rfl

lemma writeStatus_mirrors(h:Mirrors d s db){status:RunStatus}
  (hstored:s.runs[runId]?=some current)(hupdate:recordWithStatus current status=.ok updated):
  ∃db',db.writeStatus current updated=.ok (updated,db') ∧
   Mirrors d { s with runs:=s.runs.insert runId updated } db':=by
 have hrewrites:=recordWithStatus_rewrites hupdate
 have hid:=(h.kept.ids runId current hstored).1
 apply updateRuns_mirrors h hstored hrewrites
 · intro row
   exact ⟨rfl,rfl⟩
 · intro row hrow
   simp only [Bool.and_eq_true,beq_iff_eq] at hrow
   rw [hrow.1,hrewrites.runId,hid]
 · simp [rowOf,hrewrites.runId]
 · unfold recordWithStatus at hupdate
   split at hupdate
   · cases hupdate
   · cases hupdate
     rfl

lemma writeTools_mirrors(h:Mirrors d s db){tools:List ModelVisibleToolRef}
  (hstored:s.runs[runId]?=some current)
  (hupdate:recordWithModelVisibleTools current tools=.ok updated):
  ∃db',db.writeTools d current updated=.ok (updated,db') ∧
   Mirrors d { s with runs:=s.runs.insert runId updated } db':=by
 have hrewrites:=recordWithModelVisibleTools_rewrites hupdate
 have hid:=(h.kept.ids runId current hstored).1
 apply updateRuns_mirrors h hstored hrewrites
 · intro row
   exact ⟨rfl,rfl⟩
 · intro row hrow
   simp only [Bool.and_eq_true,beq_iff_eq] at hrow
   rw [hrow.1,hrewrites.runId,hid]
 · simp [rowOf,hrewrites.runId]
 · unfold recordWithModelVisibleTools at hupdate
   split at hupdate
   · cases hupdate
   · cases hupdate
     rfl

lemma recordWithStatePatch_ok{patch:StatePatch}(h:recordWithStatePatch current patch=.ok updated):
  ∃next,updated =
   { current with state:=next,stateRevision:=current.stateRevision+1 }:=by
 unfold recordWithStatePatch at h
 obtain ⟨_,-,h⟩:=bind_ok.mp h
 obtain ⟨_,-,h⟩:=bind_ok.mp h
 obtain ⟨next,-,h⟩:=bind_ok.mp h
 cases h
 exact ⟨next,rfl⟩

lemma writeState_mirrors(h:Mirrors d s db){patch:StatePatch}
  (hstored:s.runs[runId]?=some current)(hupdate:recordWithStatePatch current patch=.ok updated)
  (hrange:(updated.stateRevision:ℤ)≤Usage.i64Max):
  ∃db',db.writeState d current updated=.ok (updated,db') ∧
   Mirrors d { s with runs:=s.runs.insert runId updated } db':=by
 have hrewrites:=recordWithStatePatch_rewrites hupdate
 have hid:=(h.kept.ids runId current hstored).1
 obtain ⟨next,hupdated⟩:=recordWithStatePatch_ok hupdate
 have hsucc:updated.stateRevision=current.stateRevision+1:=by rw [hupdated]
 have hcurrent:(current.stateRevision:ℤ)≤Usage.i64Max:=by omega
 unfold SqliteRunStore.writeState
 simp only [sqliteU64ToI64_ok hrange,sqliteU64ToI64_ok hcurrent,ok_bind]
 apply updateRuns_mirrors h hstored hrewrites
 · intro row
   exact ⟨rfl,rfl⟩
 · intro row hrow
   simp only [Bool.and_eq_true,beq_iff_eq] at hrow
   rw [hrow.1.1,hrewrites.runId,hid]
 · simp [rowOf,hrewrites.runId]
 · rw [hupdated]
   rfl

lemma upsertLease_mirrors(h:Mirrors d s db){lease:RunOwnershipLease}
  (hknown:∃record,s.runs[runId]?=some record)(hlease:WellFormedLease runId lease)
  (hfits:LeaseFits lease):
  ∃db',db.sqliteUpsertRunOwnershipLease lease=.ok db' ∧
   Mirrors d { s with ownershipLeases:=s.ownershipLeases.insert runId lease } db':=by
 refine ⟨⟨db.runs,upsert LeaseRow.runId (leaseRowOf lease) db.runOwnershipLeases⟩,?_,?_⟩
 · unfold SqliteRunStore.sqliteUpsertRunOwnershipLease
   simp only [sqliteU64ToI64_ok hfits.fencingEpoch,sqliteU64ToI64_ok hfits.acquiredAt,
    sqliteU64ToI64_ok hfits.expiresAt,ok_bind]
   rfl
 · exact ⟨h.kept.setLease hknown hlease,h.runs,h.leases.upsert hlease.run,h.next⟩
end

section
variable {s:InMemoryRunStore} {db:SqliteRunStore} {taken:String→Bool} {rounds sequence found next:ℕ}

lemma candidateSequence_of_generated
  (h:InMemoryRunStore.generatedRunId taken rounds sequence=.ok (found,next)):
  SqliteRunStore.candidateSequence taken rounds sequence=.ok found∧next=found+1∧sequence≤found:=by
 induction rounds generalizing sequence with
 | zero=>cases h
 | succ rounds ih=>
  unfold InMemoryRunStore.generatedRunId at h
  split at h
  · cases h
  · next following hnext=>
    obtain rfl:=checkedSucc_eq_some hnext
    unfold SqliteRunStore.candidateSequence
    split at h
    · next htaken=>
      obtain ⟨hfound,hfollowing,hle⟩:=ih h
      rw [if_pos htaken]
      exact ⟨hfound,hfollowing,by omega⟩
    · next hfree=>
      cases h
      rw [if_neg hfree]
      exact ⟨rfl,rfl,le_rfl⟩

lemma candidateSequence_le
  (h:SqliteRunStore.candidateSequence taken rounds sequence=.ok found):sequence≤found:=by
 induction rounds generalizing sequence with
 | zero=>cases h
 | succ rounds ih=>
  unfold SqliteRunStore.candidateSequence at h
  split at h
  · have hle:=ih h
    omega
  · cases h
    exact le_rfl

/-- Where the in-memory store runs out of sequences, the other loop stops past the last `i64`. -/
lemma candidateSequence_of_exhausted{e:RunStoreError}
  (h:InMemoryRunStore.generatedRunId taken rounds sequence=.error e)
  (hfound:SqliteRunStore.candidateSequence taken rounds sequence=.ok found):
  Usage.i64Max<found:=by
 have hrange:Usage.i64Max+1<(u64Limit:ℤ):=by decide
 induction rounds generalizing sequence with
 | zero=>cases hfound
 | succ rounds ih=>
  have hle:=candidateSequence_le hfound
  unfold InMemoryRunStore.generatedRunId at h
  unfold SqliteRunStore.candidateSequence at hfound
  split at h
  · next hnext=>
    have hlast:u64Limit≤ sequence+1:=by
     unfold checkedSucc at hnext
     split at hnext
     · cases hnext
     · omega
    omega
  · next following hnext=>
    obtain rfl:=checkedSucc_eq_some hnext
    split at h
    · next htaken=>
      rw [if_pos htaken] at hfound
      exact ih h hfound
    · cases h

lemma nextRunSequence_mirrors(h:Mirrors d s db)
  (hrange:(s.nextSequence:ℤ)≤Usage.i64Max):db.nextRunSequence=.ok s.nextSequence:=by
 unfold SqliteRunStore.nextRunSequence
 rw [h.next,if_pos hrange]
 exact sqliteI64ToU64_natCast _ _

lemma nextRunSequence_overflow(h:Mirrors d s db)(hrange:¬(s.nextSequence:ℤ)≤Usage.i64Max):
  db.nextRunSequence=.error (.storage .notAnInteger):=by
 unfold SqliteRunStore.nextRunSequence
 rw [h.next,if_neg hrange]

variable {runId:String}

/-- The in-memory store finds the identity of a new run: so does the other store. -/
lemma runIdentity_mirrors(h:Mirrors d s db){requested:Option String}
  (hidentity:s.runIdentity requested=.ok (runId,sequence,next)):
  db.runIdentity s.nextSequence requested=.ok (runId,sequence)∧next=sequence+1 ∧
   s.nextSequence≤ sequence:=by
 have hexists:db.runExists=s.runs.contains:=funext (runExists_mirrors h)
 cases requested with
 | some requested=>
  unfold InMemoryRunStore.runIdentity at hidentity
  obtain ⟨_,hnonempty,hidentity⟩:=bind_ok.mp hidentity
  obtain ⟨_,hfresh,hidentity⟩:=bind_ok.mp hidentity
  split at hidentity
  · cases hidentity
  · next following hnext=>
    cases hidentity
    refine ⟨?_,checkedSucc_eq_some hnext,le_rfl⟩
    simp only [SqliteRunStore.runIdentity,hexists,hnonempty,hfresh,ok_bind]
 | none=>
  unfold InMemoryRunStore.runIdentity at hidentity
  obtain ⟨⟨found,following⟩,hfound,hidentity⟩:=bind_ok.mp hidentity
  cases hidentity
  obtain ⟨hcandidate,hnext,hle⟩:=candidateSequence_of_generated hfound
  refine ⟨?_,hnext,hle⟩
  simp only [SqliteRunStore.runIdentity,hexists,hcandidate,ok_bind]

lemma runIdentity_fails(h:Mirrors d s db){requested:Option String}{e:RunStoreError}
  (hidentity:s.runIdentity requested=.error e)(hrange:(s.nextSequence:ℤ)≤Usage.i64Max)
  (hfound:db.runIdentity s.nextSequence requested=.ok (runId,sequence)):
  Usage.i64Max<sequence:=by
 have hexists:db.runExists=s.runs.contains:=funext (runExists_mirrors h)
 cases requested with
 | some requested=>
  unfold SqliteRunStore.runIdentity at hfound
  obtain ⟨_,hnonempty,hfound⟩:=bind_ok.mp hfound
  obtain ⟨_,hfresh,hfound⟩:=bind_ok.mp hfound
  rw [hexists] at hfresh
  have hroom:Usage.i64Max+1<(u64Limit:ℤ):=by decide
  have hnext:checkedSucc s.nextSequence=some (s.nextSequence+1):=by
   unfold checkedSucc
   rw [if_pos (by omega)]
  simp only [InMemoryRunStore.runIdentity,hnonempty,hfresh,hnext,ok_bind] at hidentity
  cases hidentity
 | none=>
  unfold SqliteRunStore.runIdentity at hfound
  obtain ⟨found,hcandidate,hfound⟩:=bind_ok.mp hfound
  cases hfound
  rw [hexists] at hcandidate
  cases hgenerated:InMemoryRunStore.generatedRunId s.runs.contains
    (u64Limit-s.nextSequence) s.nextSequence with
  | error e'=>exact candidateSequence_of_exhausted hgenerated hcandidate
  | ok p=>
   simp only [InMemoryRunStore.runIdentity,hgenerated,ok_bind] at hidentity
   cases hidentity

lemma insertRun_mirrors(h:Mirrors d s db)(record:RunRecord)(hfresh:s.runs[runId]?=none)
  (hid:record.runId=runId)(hrunId:IsRunId runId)
  (hsorted:sortedModelVisibleTools record.modelVisibleTools=record.modelVisibleTools)
  (hsequence:s.nextSequence≤record.sequence)(hnext:next=record.sequence+1):
  ∃db',db.insertRun (rowOf d record)=.ok db' ∧
   Mirrors d { s with runs:=s.runs.insert runId record,nextSequence:=next } db':=by
 have hrows:∀row∈db.runs,row.runId≠runId:=by
  apply selectKey_eq_none.mp
  rw [h.runs.select,hfresh]
  rfl
 have hclash:(db.runs.any fun r=>r.sequence==(rowOf d record).sequence ||
   r.runId==(rowOf d record).runId)=false:=by
  rw [List.any_eq_false]
  intro row hrow
  have hlt:row.sequence<nextOf RunRow.sequence db.runs:=lt_nextOf hrow
  have hne:row.sequence≠record.sequence:=by
   rw [h.next] at hlt
   omega
  have hother:row.runId≠record.runId:=hid▸hrows row hrow
  simp [rowOf,hne,hother]
 refine ⟨⟨db.runs++[rowOf d record],db.runOwnershipLeases⟩,?_,?_⟩
 · unfold SqliteRunStore.insertRun
   rw [hclash]
   rfl
 · refine ⟨h.kept.setRun hid hrunId hsorted,h.runs.insert_fresh hid hfresh,h.leases,?_⟩
   have hlast:nextOf RunRow.sequence db.runs≤(rowOf d record).sequence:=by
    change nextOf RunRow.sequence db.runs≤(record.sequence:ℤ)
    rw [h.next]
    exact_mod_cast hsequence
   rw [nextOf_concat hlast,hnext]
   simp [rowOf]
end

/-- The same success with mirrored stores after it, or two failures. -/
def Agrees {α:Type} (d:StringDisplay) (a:Except RunStoreError (α×InMemoryRunStore))
  (b:Except RunStoreError (α×SqliteRunStore)) : Prop :=
 (∃x s db,a=.ok (x,s)∧b=.ok (x,db)∧Mirrors d s db) ∨ ∃e e',a=.error e∧b=.error e'

section
variable {s:InMemoryRunStore} {db:SqliteRunStore} (h:Mirrors d s db)
variable (hfits:Persistable reader s)

omit reader in
lemma agrees_error{α:Type}(e e':RunStoreError):Agrees (α:=α) d (.error e) (.error e'):=
 .inr ⟨e,e',rfl,rfl⟩

omit reader in
lemma Agrees.answer{α:Type}{a:Except RunStoreError (α×InMemoryRunStore)}
  {b:Except RunStoreError (α×SqliteRunStore)}(hab:Agrees d a b)(f:α→Response):
  Agrees d (answer f a) (answer f b):=by
 obtain ⟨x,t,u,rfl,rfl,hmirrors⟩|⟨e,e',rfl,rfl⟩:=hab
 · exact .inl ⟨f x,t,u,rfl,rfl,hmirrors⟩
 · exact agrees_error e e'

include h

lemma create_agrees(request:RunRequest)
  (hafter:∀x t,s.createRunWithOptionalRunIdInvocationProvenanceAndMode request=.ok (x,t) →
   Persistable reader t):
  Agrees d (s.createRunWithOptionalRunIdInvocationProvenanceAndMode request)
   (db.createRunWithOptionalRunIdInvocationProvenanceAndMode d request):=by
 unfold InMemoryRunStore.createRunWithOptionalRunIdInvocationProvenanceAndMode at hafter ⊢
 unfold SqliteRunStore.createRunWithOptionalRunIdInvocationProvenanceAndMode
 cases hidentity:s.runIdentity request.requestedRunId with
 | error e=>
  rw [error_bind]
  by_cases hrange:(s.nextSequence:ℤ)≤Usage.i64Max
  · rw [nextRunSequence_mirrors h hrange,ok_bind]
    cases hfound:db.runIdentity s.nextSequence request.requestedRunId with
    | error e'=>exact agrees_error e e'
    | ok p=>
     have hlarge:=runIdentity_fails h hidentity hrange hfound
     have hparams:SqliteRunStore.runParams d (request.record p.1 p.2) =
       .error (.storage (.exceedsIntegerRange "run sequence")):=by
      unfold SqliteRunStore.runParams sqliteU64ToI64
      rw [if_neg (by exact Int.not_le.mpr hlarge),error_bind]
     rw [ok_bind]
     simp only [hparams,error_bind]
     exact agrees_error _ _
  · rw [nextRunSequence_overflow h hrange,error_bind]
    exact agrees_error _ _
 | ok p=>
  obtain ⟨runId,sequence,next⟩:=p
  rw [hidentity] at hafter
  simp only [ok_bind] at hafter ⊢
  obtain ⟨hfresh,hrunId⟩:=runIdentity_ok hidentity
  obtain ⟨hfound,hnext,hle⟩:=runIdentity_mirrors h hidentity
  have hrecord:=(hafter _ _ rfl).runs runId (request.record runId sequence)
   (lookup_insert_self _ _ _)
  have hsequence:(sequence:ℤ)≤Usage.i64Max:=hrecord.sequence
  have hrange:(s.nextSequence:ℤ)≤Usage.i64Max:=by omega
  obtain ⟨db',hinsert,hmirrors⟩:=insertRun_mirrors h (request.record runId sequence)
   hfresh rfl hrunId (sortedModelVisibleTools_idem _) hle hnext
  rw [nextRunSequence_mirrors h hrange]
  simp only [ok_bind,hfound,runParams_ok hrecord.sequence hrecord.stateRevision,hinsert]
  exact .inl ⟨_,_,db',rfl,rfl,hmirrors⟩

section
variable (hfits:Persistable reader s)
include hfits

lemma update_agrees{update:RunRecord→Except RunStoreError RunRecord}
  {write:RunRecord→RunRecord→Except RunStoreError (RunRecord×SqliteRunStore)}
  (hwrite:∀current updated,s.runs[runId]?=some current→update current=.ok updated →
   ∃db',write current updated=.ok (updated,db') ∧
    Mirrors d { s with runs:=s.runs.insert runId updated } db'):
  Agrees d (s.updateRun runId update) (do
   let current ← db.getRun reader runId
   let updated ← update current
   write current updated):=by
 unfold InMemoryRunStore.updateRun
 rw [getRun_mirrors reader h hfits]
 cases hcurrent:s.getRun runId with
 | error e=>exact agrees_error e e
 | ok current=>
  simp only [ok_bind]
  cases hupdate:update current with
  | error e=>exact agrees_error e e
  | ok updated=>
   obtain ⟨db',hwritten,hmirrors⟩:=hwrite current updated (getRun_ok.mp hcurrent) hupdate
   simp only [ok_bind,hwritten]
   exact .inl ⟨updated,_,db',rfl,rfl,hmirrors⟩

lemma setStatus_agrees(runId:String)(status:RunStatus):
  Agrees d (s.setStatus runId status) (db.setStatus reader runId status):=
 update_agrees reader h hfits fun _ _ hstored hupdate=>writeStatus_mirrors h hstored hupdate

lemma recordModelVisibleTools_agrees(runId:String)(tools:List ModelVisibleToolRef):
  Agrees d (s.recordModelVisibleTools runId tools)
   (db.recordModelVisibleTools reader runId tools):=
 update_agrees reader h hfits fun _ _ hstored hupdate=>writeTools_mirrors h hstored hupdate

lemma patchState_agrees(runId:String)(patch:StatePatch)
  (hafter:∀x t,s.patchState runId patch=.ok (x,t)→Persistable reader t):
  Agrees d (s.patchState runId patch) (db.patchState reader runId patch):=by
 apply update_agrees reader h hfits
 intro current updated hstored hupdate
 have hpatched:s.patchState runId patch =
   .ok (updated,{ s with runs:=s.runs.insert runId updated }):=by
  unfold InMemoryRunStore.patchState InMemoryRunStore.updateRun
  simp only [getRun_ok.mpr hstored,ok_bind,hupdate]
 have hrecord:=(hafter _ _ hpatched).runs runId updated (lookup_insert_self _ _ _)
 exact writeState_mirrors h hstored hupdate hrecord.stateRevision

lemma callback_agrees(action:CallbackDeliveryRunAction):
  Agrees d (s.applyCallbackDeliveryRunAction action)
   (db.applyCallbackDeliveryRunAction reader action):=by
 unfold InMemoryRunStore.applyCallbackDeliveryRunAction
  SqliteRunStore.applyCallbackDeliveryRunAction
 cases callbackDeliveryRunActionParts action with
 | error e=>exact agrees_error e e
 | ok parts=>
  obtain ⟨runId,status,waitReason,subscriptionId,reason⟩:=parts
  simp only [ok_bind]
  obtain ⟨run,t,u,hs,hdb,hmirrors⟩|⟨e,e',hs,hdb⟩:=setStatus_agrees reader h hfits runId status
  · rw [hs,hdb]
    exact .inl ⟨_,t,u,rfl,rfl,hmirrors⟩
  · rw [hs,hdb]
    exact agrees_error e e'

end

omit reader in
lemma currentLease_agrees(proof:LeaseProof)(hexact:ExactOwner s runId):
  (∃lease,s.ownershipLeases[runId]?=some lease∧s.currentLease runId proof=.ok lease ∧
   db.currentLease runId proof=.ok lease) ∨
  ∃e e',s.currentLease runId proof=.error e∧db.currentLease runId proof=.error e':=by
 unfold InMemoryRunStore.currentLease SqliteRunStore.currentLease
 rw [loadLease_mirrors h hexact,ok_bind]
 cases hstored:s.ownershipLeases[runId]? with
 | none=>
  right
  cases s.getRun runId with
  | error e=>exact ⟨e,_,rfl,rfl⟩
  | ok record=>exact ⟨_,_,rfl,rfl⟩
 | some lease=>
  obtain ⟨record,hrecord⟩:=h.kept.known runId lease hstored
  left
  refine ⟨lease,rfl,?_,rfl⟩
  rw [getRun_ok.mpr hrecord,ok_bind]

omit reader in
lemma leased_agrees(proof:LeaseProof)(hexact:ExactOwner s runId)
  {a:Except RunStoreError (RunRecord×InMemoryRunStore)}
  {b:Except RunStoreError (RunRecord×SqliteRunStore)}
  (hab:s.validateOwnershipLease runId proof=.ok ()→Agrees d a b):
  Agrees d (do s.validateOwnershipLease runId proof;a) (do
   let currentLease ← db.currentLease runId proof
   validateRunOwnershipLease runId proof currentLease
   b):=by
 unfold InMemoryRunStore.validateOwnershipLease at hab ⊢
 obtain ⟨lease,-,hs,hdb⟩|⟨e,e',hs,hdb⟩:=currentLease_agrees h proof hexact
 · simp only [hs,hdb,ok_bind] at hab ⊢
   cases hvalid:validateRunOwnershipLease runId proof lease with
   | error e=>exact agrees_error e e
   | ok u=>exact hab hvalid
 · rw [hs,hdb]
   exact agrees_error e e'

lemma acquire_agrees(hfits:Persistable reader s)(runId owner:String)(acquiredAt expiresAt:ℕ)
  (hexact:ExactOwner s runId)
  (hafter:∀x t,s.acquireOwnershipLease runId owner acquiredAt expiresAt=.ok (x,t) →
   Persistable reader t):
  Agrees d (s.acquireOwnershipLease runId owner acquiredAt expiresAt)
   (db.acquireOwnershipLease reader runId owner acquiredAt expiresAt):=by
 unfold InMemoryRunStore.acquireOwnershipLease at hafter ⊢
 unfold SqliteRunStore.acquireOwnershipLease
 rw [getRun_mirrors reader h hfits,loadLease_mirrors h hexact]
 cases hrecord:s.getRun runId with
 | error e=>exact agrees_error e e
 | ok record=>
  rw [hrecord] at hafter
  simp only [ok_bind] at hafter ⊢
  cases hlease:acquireRunOwnershipLease runId owner acquiredAt expiresAt
    s.ownershipLeases[runId]? with
  | error e=>exact agrees_error e e
  | ok lease=>
   rw [hlease] at hafter
   simp only [ok_bind] at hafter ⊢
   have hleaseFits:=(hafter _ _ rfl).leases runId lease (lookup_insert_self _ _ _)
   obtain ⟨db',hupsert,hmirrors⟩:=upsertLease_mirrors h ⟨record,getRun_ok.mp hrecord⟩
    (acquired_wellFormed hlease) hleaseFits
   rw [hupsert]
   exact .inl ⟨lease,_,db',rfl,rfl,hmirrors⟩

lemma renew_agrees(hfits:Persistable reader s)(runId:String)(proof:LeaseProof)(expiresAt:ℕ)
  (hexact:ExactOwner s runId)
  (hafter:∀x t,s.renewOwnershipLease runId proof expiresAt=.ok (x,t)→Persistable reader t):
  Agrees d (s.renewOwnershipLease runId proof expiresAt)
   (db.renewOwnershipLease reader runId proof expiresAt):=by
 unfold InMemoryRunStore.renewOwnershipLease at hafter ⊢
 unfold SqliteRunStore.renewOwnershipLease
 rw [getRun_mirrors reader h hfits]
 obtain ⟨current,hstored,hs,hdb⟩|⟨e,e',hs,hdb⟩:=currentLease_agrees h proof hexact
 · obtain ⟨record,hrecord⟩:=h.kept.known runId current hstored
   rw [hs] at hafter
   simp only [hs,hdb,getRun_ok.mpr hrecord,ok_bind] at hafter ⊢
   cases hrenewed:renewRunOwnershipLease runId proof expiresAt current with
   | error e=>exact agrees_error e e
   | ok renewed=>
    rw [hrenewed] at hafter
    simp only [ok_bind] at hafter ⊢
    have hleaseFits:=(hafter _ _ rfl).leases runId renewed (lookup_insert_self _ _ _)
    obtain ⟨-,hlater,rfl⟩:=renewRunOwnershipLease_ok hrenewed
    obtain ⟨db',hupsert,hmirrors⟩:=upsertLease_mirrors h ⟨record,hrecord⟩
     ((h.kept.leases runId current hstored).renew hlater) hleaseFits
    rw [hupsert]
    exact .inl ⟨_,_,db',rfl,rfl,hmirrors⟩
 · rw [hs,hdb]
   cases s.getRun runId with
   | error e''=>exact agrees_error e e''
   | ok record=>exact agrees_error e e'

lemma validate_agrees(hfits:Persistable reader s)(runId:String)(proof:LeaseProof)
  (hexact:ExactOwner s runId):
  (s.validateOwnershipLease runId proof=.ok () ∧
   db.validateOwnershipLease reader runId proof=.ok ()) ∨
  ∃e e',s.validateOwnershipLease runId proof=.error e ∧
   db.validateOwnershipLease reader runId proof=.error e':=by
 unfold InMemoryRunStore.validateOwnershipLease SqliteRunStore.validateOwnershipLease
 rw [getRun_mirrors reader h hfits]
 obtain ⟨current,hstored,hs,hdb⟩|⟨e,e',hs,hdb⟩:=currentLease_agrees h proof hexact
 · obtain ⟨record,hrecord⟩:=h.kept.known runId current hstored
   simp only [hs,hdb,getRun_ok.mpr hrecord,ok_bind]
   cases validateRunOwnershipLease runId proof current with
   | error e=>exact .inr ⟨e,e,rfl,rfl⟩
   | ok u=>exact .inl ⟨rfl,rfl⟩
 · rw [hs,hdb]
   right
   cases s.getRun runId with
   | error e''=>exact ⟨e,e'',rfl,rfl⟩
   | ok record=>exact ⟨e,e',rfl,rfl⟩
end

def Call.leaseRun : Call→Option String
 | .setStatusWithOwnershipLease runId _ _=>some runId
 | .patchStateWithOwnershipLease runId _ _=>some runId
 | .acquireOwnershipLease runId _ _ _=>some runId
 | .renewOwnershipLease runId _ _=>some runId
 | .validateOwnershipLease runId _=>some runId
 | _=>none

/-- The lease that the call reads, if there is one, was granted to an owner without blanks around
its name. -/
def ReadsExactOwner (s:InMemoryRunStore) (call:Call) : Prop :=
 ∀runId lease,call.leaseRun=some runId→s.ownershipLeases[runId]?=some lease →
  trim lease.owner=lease.owner

section
variable {s:InMemoryRunStore} {db:SqliteRunStore}

lemma perform_agrees(h:Mirrors d s db)(hfits:Persistable reader s){call:Call}
  (hexact:ReadsExactOwner s call)(hafter:∀x t,s.perform call=.ok (x,t)→Persistable reader t):
  Agrees d (s.perform call) (SqliteRunStore.perform reader db call):=by
 cases call with
 | createRun request=>
  apply (create_agrees reader h request ?_).answer
  intro x t hx
  exact hafter (.record x) t (answer_ok.mpr ⟨x,hx,rfl⟩)
 | getRun runId=>
  simp only [InMemoryRunStore.perform,SqliteRunStore.perform,getRun_mirrors reader h hfits]
  cases s.getRun runId with
  | error e=>exact agrees_error e e
  | ok record=>exact .inl ⟨_,s,db,rfl,rfl,h⟩
 | setStatus runId status=>exact (setStatus_agrees reader h hfits runId status).answer _
 | applyCallbackDeliveryRunAction action=>exact (callback_agrees reader h hfits action).answer _
 | setStatusWithOwnershipLease runId status proof=>
  apply (leased_agrees h proof (fun lease=>hexact runId lease rfl) ?_).answer
  intro _
  exact setStatus_agrees reader h hfits runId status
 | recordModelVisibleTools runId tools=>
  exact (recordModelVisibleTools_agrees reader h hfits runId tools).answer _
 | patchState runId patch=>
  apply (patchState_agrees reader h hfits runId patch ?_).answer
  intro x t hx
  exact hafter (.record x) t (answer_ok.mpr ⟨x,hx,rfl⟩)
 | patchStateWithOwnershipLease runId patch proof=>
  apply (leased_agrees h proof (fun lease=>hexact runId lease rfl) ?_).answer
  intro hvalid
  apply patchState_agrees reader h hfits runId patch
  intro x t hx
  refine hafter (.record x) t (answer_ok.mpr ⟨x,?_,rfl⟩)
  unfold InMemoryRunStore.patchStateWithOwnershipLease
  rw [hvalid,ok_bind,hx]
 | acquireOwnershipLease runId owner acquiredAt expiresAt=>
  apply (acquire_agrees reader h hfits runId owner acquiredAt expiresAt
   (fun lease=>hexact runId lease rfl) ?_).answer
  intro x t hx
  exact hafter (.lease x) t (answer_ok.mpr ⟨x,hx,rfl⟩)
 | renewOwnershipLease runId proof expiresAt=>
  apply (renew_agrees reader h hfits runId proof expiresAt
   (fun lease=>hexact runId lease rfl) ?_).answer
  intro x t hx
  exact hafter (.lease x) t (answer_ok.mpr ⟨x,hx,rfl⟩)
 | validateOwnershipLease runId proof=>
  simp only [InMemoryRunStore.perform,SqliteRunStore.perform]
  obtain ⟨hs,hdb⟩|⟨e,e',hs,hdb⟩:=
   validate_agrees reader h hfits runId proof (fun lease=>hexact runId lease rfl)
  · rw [hs,hdb]
    exact .inl ⟨_,s,db,rfl,rfl,h⟩
  · rw [hs,hdb]
    exact agrees_error e e'

/-- One call on both stores: the same success or two failures, and the tables follow the maps. -/
lemma step_mirrors(h:Mirrors d s db)(hfits:Persistable reader s){call:Call}
  (hexact:ReadsExactOwner s call)(hafter:Persistable reader (s.step call).2):
  (SqliteRunStore.step reader db call).1.toOption=(s.step call).1.toOption ∧
   Mirrors d (s.step call).2 (SqliteRunStore.step reader db call).2:=by
 unfold InMemoryRunStore.step SqliteRunStore.step at *
 have hagrees:=perform_agrees reader h hfits hexact (fun x t hx=>by rw [hx] at hafter;exact hafter)
 obtain ⟨x,t,u,hs,hdb,hmirrors⟩|⟨e,e',hs,hdb⟩:=hagrees
 · rw [hs,hdb]
   exact ⟨rfl,hmirrors⟩
 · rw [hs,hdb]
   exact ⟨rfl,h⟩
end

/-- The responses of a run, a failed call being `none`. -/
def responses {σ:Type} (past:List (Transition σ Call (Except RunStoreError Response))) :
  List (Option Response) :=
 past.map fun t=>t.response.toOption

lemma run_mirrors(calls:List Call)(hfits:∀before after,calls=before++after →
   Persistable reader (execute InMemoryRunStore.step .new before))
  (hexact:∀before call after,calls=before++call::after →
   ReadsExactOwner (execute InMemoryRunStore.step .new before) call):
  responses (history (SqliteRunStore.step reader) .openInMemory calls) =
   responses (history InMemoryRunStore.step .new calls) ∧
  Mirrors d (execute InMemoryRunStore.step .new calls)
   (execute (SqliteRunStore.step reader) .openInMemory calls):=by
 induction calls using List.reverseRecOn with
 | nil=>exact ⟨rfl,mirrors_new⟩
 | append_singleton calls call ih=>
  obtain ⟨hresponses,hmirrors⟩:=ih
   (fun before after heq=>hfits before (after++[call]) (by rw [heq,append_assoc]))
   (fun before c after heq=>hexact before c (after++[call]) (by simp [heq]))
  have hlast:=hfits (calls++[call]) [] (by simp)
  rw [execute_concat] at hlast
  obtain ⟨hanswer,hnext⟩:=step_mirrors reader hmirrors (hfits calls [call] rfl)
   (hexact calls call [] rfl) hlast
  unfold responses at hresponses ⊢
  rw [history_concat,history_concat,map_append,map_append,hresponses,execute_concat,execute_concat]
  exact ⟨congrArg (fun answer=>_++[answer]) hanswer,hnext⟩

/-- Stores whose records and leases hold only small numbers and empty objects. -/
def SmallEntries (s:InMemoryRunStore) : Prop :=
 (∀e∈s.runs.toList,e.2.sequence≤9∧e.2.stateRevision≤9∧e.2.modelVisibleTools=[] ∧
  e.2.inputs=.object []∧e.2.state=.object []) ∧
 ∀e∈s.ownershipLeases.toList,e.2.fencingEpoch≤9∧e.2.acquiredAtUnixMs≤9∧e.2.expiresAtUnixMs≤9

instance (s:InMemoryRunStore) : Decidable (SmallEntries s) := inferInstanceAs (Decidable (_ ∧ _))

lemma SmallEntries.persistable{s:InMemoryRunStore}(h:SmallEntries s):Persistable reader s:=by
 have hsmall:(9:ℤ)≤Usage.i64Max:=by decide
 have hempty:Survives reader (.object []):=by
  apply parseStorageJson_writable
  exact ⟨trivial,by simp [height,heightMembers]⟩
 constructor
 · intro k record hk
   obtain ⟨hsequence,hrevision,htools,hinputs,hstate⟩:=
    h.1 (k,record) (mem_toList_iff_getElem?_eq_some.mpr hk)
   simp only at hsequence hrevision htools hinputs hstate
   refine ⟨by omega,by omega,?_,by rw [hinputs];exact hempty,by rw [hstate];exact hempty⟩
   rw [htools]
   intro tool htool
   cases htool
 · intro k lease hk
   obtain ⟨hepoch,hacquired,hexpires⟩:=h.2 (k,lease) (mem_toList_iff_getElem?_eq_some.mpr hk)
   simp only at hepoch hacquired hexpires
   exact ⟨by omega,by omega,by omega⟩

lemma readsExactOwner_of_entries{s:InMemoryRunStore}
  (h:∀e∈s.ownershipLeases.toList,trim e.2.owner=e.2.owner)(call:Call):
  ReadsExactOwner s call:=by
 intro runId lease _ hstored
 exact h (runId,lease) (mem_toList_iff_getElem?_eq_some.mpr hstored)

def ownedCalls (owner:String) : List Call :=
 [.createRun (createRun "sha256:graph" (.object [])),.acquireOwnershipLease "run-000001" owner 0 9,
  .setStatusWithOwnershipLease "run-000001" .running ⟨owner,"run-000001:1",1,5⟩]

lemma forall_prefixes{σ:Type}{step:σ→Call→Except RunStoreError Response×σ}{start:σ}{P:σ→Prop}
  {calls before after:List Call}(h:∀n≤calls.length,P (execute step start (calls.take n)))
  (heq:calls=before++after):P (execute step start before):=by
 have hle:before.length≤calls.length:=by
  rw [heq,length_append]
  omega
 have htake:calls.take before.length=before:=by rw [heq,take_left]
 rw [←htake]
 exact h before.length hle

lemma ownedCalls_small(owner:String)(h:owner="worker" ∨ owner=" worker "):
  ∀n≤(ownedCalls owner).length,
   SmallEntries (execute InMemoryRunStore.step .new ((ownedCalls owner).take n)):=by
 intro n hn
 change n≤3 at hn
 rcases h with rfl|rfl <;>interval_cases n <;>decide +kernel

/-- Both stores answer every call alike while no call reads a lease with a padded owner. -/
theorem run_stores_agree (calls : List Call) (hfits : ∀before after,calls=before++after →
   Persistable reader (execute InMemoryRunStore.step .new before))
  (hexact : ∀before call after,calls=before++call::after →
   ReadsExactOwner (execute InMemoryRunStore.step .new before) call) :
  responses (history (SqliteRunStore.step reader) .openInMemory calls) =
   responses (history InMemoryRunStore.step .new calls) :=
 (run_mirrors reader calls hfits hexact).1

/-- A run leased to an owner without blanks is answered alike. -/
theorem worker_run_agrees :
  responses (history (SqliteRunStore.step (compactReader serdeDisplay)) .openInMemory
   (ownedCalls "worker")) =
  responses (history InMemoryRunStore.step .new (ownedCalls "worker")) := by
 apply run_stores_agree
 · intro before after heq
   exact (forall_prefixes (ownedCalls_small "worker" (.inl rfl)) heq).persistable _
 · intro before call after heq
   have hexact:∀n≤(ownedCalls "worker").length,∀e∈(execute InMemoryRunStore.step .new
     ((ownedCalls "worker").take n)).ownershipLeases.toList,trim e.2.owner=e.2.owner:=by
    intro n hn
    change n≤3 at hn
    interval_cases n <;>decide +kernel
   exact readsExactOwner_of_entries (forall_prefixes
    (P:=fun s:InMemoryRunStore=>∀e∈s.ownershipLeases.toList,trim e.2.owner=e.2.owner) hexact heq) call

def grantedCalls : List Call := (ownedCalls " worker ").take 2

def paddedWrite : Call :=
 .setStatusWithOwnershipLease "run-000001" .running ⟨" worker ","run-000001:1",1,5⟩

lemma grantedCalls_write:grantedCalls++[paddedWrite]=ownedCalls " worker ":=rfl

lemma grantedCalls_exact(before:List Call)(call:Call)(after:List Call)
  (heq:grantedCalls=before++call::after):
  ReadsExactOwner (execute InMemoryRunStore.step .new before) call:=by
 apply readsExactOwner_of_entries
 rcases before with _|⟨first,_|⟨second,rest⟩⟩
 · decide +kernel
 · cases heq
   decide +kernel
 · have hlen:=congrArg List.length heq
   simp [grantedCalls,ownedCalls] at hlen

/-- The lease is granted on both stores, and only the in-memory store then accepts it. -/
theorem padded_owner_disagrees : (∀before after,ownedCalls " worker " = before++after →
   Persistable (compactReader serdeDisplay) (execute InMemoryRunStore.step .new before)) ∧
  responses (history (SqliteRunStore.step (compactReader serdeDisplay)) .openInMemory
   (ownedCalls " worker ")) ≠
  responses (history InMemoryRunStore.step .new (ownedCalls " worker ")) := by
 have hfits:∀before after,ownedCalls " worker " = before++after →
   Persistable (compactReader serdeDisplay) (execute InMemoryRunStore.step .new before):=
  fun before after heq=>(forall_prefixes (ownedCalls_small " worker " (.inr rfl)) heq).persistable _
 refine ⟨hfits,fun hsame => ?_⟩
 -- Neither of the first two calls reads a lease, so the tables still follow the maps.
 obtain ⟨-,hmirrors⟩:=run_mirrors (compactReader serdeDisplay) grantedCalls
  (fun before after heq=>hfits before (after++[paddedWrite])
   (by rw [←grantedCalls_write,heq,append_assoc]))
  grantedCalls_exact
 have hlease:(execute InMemoryRunStore.step .new grantedCalls).ownershipLeases["run-000001"]? =
   some ⟨"run-000001","run-000001:1"," worker ",1,0,9⟩:=by decide +kernel
 have hload:=loadLease_padded hmirrors hlease (by decide +kernel)
 have hmemory:((execute InMemoryRunStore.step .new grantedCalls).step
   paddedWrite).1.toOption.isSome=true:=by decide +kernel
 have hsqlite:(SqliteRunStore.step (compactReader serdeDisplay)
   (execute (SqliteRunStore.step (compactReader serdeDisplay)) .openInMemory grantedCalls)
   paddedWrite).1.toOption=none:=by
  simp only [SqliteRunStore.step,SqliteRunStore.perform,paddedWrite,
   SqliteRunStore.setStatusWithOwnershipLease,SqliteRunStore.currentLease,hload,error_bind]
  rfl
 have hlast:=congrArg List.getLast? hsame
 unfold responses at hlast
 rw [←grantedCalls_write,history_concat,history_concat,map_append,map_append,
  map_singleton,map_singleton,List.getLast?_concat,List.getLast?_concat] at hlast
 have heq:=some.inj hlast
 simp only [takeStep] at heq
 rw [hsqlite] at heq
 rw [←heq] at hmemory
 cases hmemory

end GraphBlocks.RunStore
