import GraphBlocks.RecoveryRefinement
import GraphBlocks.SerdeInstance
import GraphBlocks.StoredJson

/-! Over whole runs the stores answer alike exactly as long as no checkpoint id is stored twice:
the primary key of `checkpoint_barriers` is the id alone, for all runs together, and the in-memory
store does not check it. -/
namespace GraphBlocks.Recovery
open Std MachineRuns OrderedMap Sql List Std.ExtTreeMap
open Usage (i64Max)

def SameResult : Response→Response→Prop
 | .ok a, .ok b=>a=b
 | .error e, .error f=>e.ctorIdx=f.ctorIdx
 | _, _=>False

lemma sameResult_self(response:Response):SameResult response response:=by
 cases response <;>rfl

def StoresAgree (serde:BarrierSerde) (calls:List Call) : Prop :=
 List.Forall₂ SameResult
  ((history (sqliteStep serde) .new calls).map Transition.response)
  ((history step .new calls).map Transition.response)

/-- No call of the run stores a barrier under a checkpoint id that is already stored. -/
def NeverReuses (calls:List Call) : Prop := ∀t∈history step .new calls,¬Reuses t.before t.call

/-- All fencing epochs that the run grants stay below the last one that SQLite can store. -/
def EpochsBelow (calls:List Call) : Prop := ∀t∈history step .new calls,EpochBelow t.response

variable {calls:List Call}

section
variable {serde:BarrierSerde}

lemma reuse_disagrees{s:InMemoryCheckpointStore}{db:SqliteCheckpointStore}
  (h:Mirrors serde s db){call:Call}(hfits:call.Fits)(hreuses:Reuses s call):
  ¬SameResult (sqliteStep serde db call).1 (step s call).1:=by
 cases call with
 | put barrier=>
  obtain ⟨hstorable,hused⟩:=hreuses
  have hrow:(db.checkpointBarriers.any fun r=>
    r.checkpointId==(barrierRow serde barrier).checkpointId)=true:=by
   rw [h.reused_iff]
   exact hused
  have hsql:(sqliteStep serde db (.put barrier)).1 =
    .error (.storage (.uniqueConstraint "checkpoint_barriers" "checkpoint_id")):=by
   simp only [sqliteStep,h.sqlitePut_newer hstorable.valid hfits hstorable.current,
    insertBarrier_reused hrow]
   rfl
  rw [hsql,step_put hstorable]
  exact id
 | _=>exact hreuses.elim

lemma mirrors_new : Mirrors serde .new .new where
 barriers runId:=by simp [rowsOf,SqliteCheckpointStore.new,checkpoints,InMemoryCheckpointStore.new]
 claims runId:=by simp [selectKey,SqliteCheckpointStore.new,active,InMemoryCheckpointStore.new]
 epochs runId:=by
  simp [sqliteNextEpoch,selectKey,SqliteCheckpointStore.new,nextEpoch,InMemoryCheckpointStore.new]
 valid runId:=by simp [checkpoints,InMemoryCheckpointStore.new]
 ofRun runId:=by simp [checkpoints,InMemoryCheckpointStore.new]
 increasing runId:=by simp [checkpoints,InMemoryCheckpointStore.new]
 readable runId:=by simp [active,InMemoryCheckpointStore.new]
 claimOfRun runId:=by simp [active,InMemoryCheckpointStore.new]
 below runId:=by simp [active,InMemoryCheckpointStore.new]
 positive runId:=by simp [nextEpoch,InMemoryCheckpointStore.new]
 bounded runId:=by simp [nextEpoch,InMemoryCheckpointStore.new,i64Max]

lemma mem_history_concat{p:Transition InMemoryCheckpointStore Call Response→Prop}
  (calls:List Call)(call:Call):
  (∀t∈history step .new (calls++[call]),p t) ↔
   (∀t∈history step .new calls,p t)∧p (takeStep step (execute step .new calls) call):=by
 rw [history_concat,forall_mem_append,forall_mem_singleton]

/-- While no checkpoint id is stored twice, the rows mirror the state and the answers are equal. -/
lemma run_mirrors(serde:BarrierSerde)(hfits:∀c∈calls,c.Fits)
  (hepochs:EpochsBelow calls)(hnever:NeverReuses calls):
  (history (sqliteStep serde) .new calls).map Transition.response =
   (history step .new calls).map Transition.response ∧
  Mirrors serde (execute step .new calls) (execute (sqliteStep serde) .new calls):=by
 induction calls using List.reverseRecOn with
 | nil=>exact ⟨rfl,mirrors_new⟩
 | append_singleton calls call ih=>
  obtain ⟨hepochs,hepoch⟩:=(mem_history_concat calls call).mp hepochs
  obtain ⟨hnever,hnew⟩:=(mem_history_concat calls call).mp hnever
  obtain ⟨hresponses,hmirrors⟩:=ih (fun c hc=>hfits c (mem_append_left _ hc)) hepochs
   hnever
  obtain ⟨hanswer,hnext⟩:=step_agrees hmirrors (hfits call (by simp)) hepoch hnew
  rw [history_concat,history_concat,map_append,map_append,hresponses,execute_concat,execute_concat]
  exact ⟨congrArg (fun answer=>_++[answer]) hanswer,hnext⟩

lemma forall₂_concat{α β:Type}{R:α→β→Prop}{l:List α}{m:List β}{a:α}{b:β}:
  List.Forall₂ R (l++[a]) (m++[b])↔List.Forall₂ R l m∧R a b:=by
 rw [←forall₂_reverse_iff,reverse_concat,reverse_concat,forall₂_cons,forall₂_reverse_iff,and_comm]

lemma storesAgree_concat(calls:List Call)(call:Call):
  StoresAgree serde (calls++[call])↔StoresAgree serde calls ∧
   SameResult (sqliteStep serde (execute (sqliteStep serde) .new calls) call).1
    (step (execute step .new calls) call).1:=by
 unfold StoresAgree
 rw [history_concat,history_concat,map_append,map_append]
 exact forall₂_concat

lemma neverReuses_of_agree(hfits:∀c∈calls,c.Fits)
  (hepochs:EpochsBelow calls)(hagree:StoresAgree serde calls):NeverReuses calls:=by
 induction calls using List.reverseRecOn with
 | nil=>
  intro t ht
  cases ht
 | append_singleton calls call ih=>
  have hbefore:∀c∈calls,c.Fits:=fun c hc=>hfits c (mem_append_left _ hc)
  obtain ⟨hepochs,-⟩:=(mem_history_concat calls call).mp hepochs
  obtain ⟨hagree,hsame⟩:=(storesAgree_concat calls call).mp hagree
  have hnever:=ih hbefore hepochs hagree
  refine (mem_history_concat calls call).mpr ⟨hnever,fun hreuses=>?_⟩
  have hmirrors:=(run_mirrors serde hbefore hepochs hnever).2
  exact reuse_disagrees hmirrors (hfits call (by simp)) hreuses hsame

/-- In every run whose integers fit SQLite, the two stores give the same result at every step
exactly when no barrier is stored under a checkpoint id that is already stored. -/
theorem checkpoint_stores_agree_iff (serde : BarrierSerde) (calls : List Call)
  (hfits : ∀c∈calls,c.Fits)
  (hepochs : EpochsBelow calls) : StoresAgree serde calls↔NeverReuses calls := by
 constructor
 · exact neverReuses_of_agree hfits hepochs
 · intro hnever
   unfold StoresAgree
   rw [(run_mirrors serde hfits hepochs hnever).1]
   exact forall₂_same.mpr fun response _=>sameResult_self response
end

lemma nextEpoch_effect{s s':InMemoryCheckpointStore}{call:Call}{response:Response}
  (h:Effect s call response s')(runId:String):nextEpoch s' runId≤nextEpoch s runId+1:=by
 cases h with
 | failed e alike=>rw [alike.nextEpoch];omega
 | stored storable=>exact Nat.le_succ _
 | latest target=>exact Nat.le_succ _
 | granted valid latest lapsed positive bounded=>
  rw [nextEpoch_granting]
  split
  · next hrun=>rw [←hrun];rfl
  · exact Nat.le_succ _
 | completed holds byHolder=>exact Nat.le_succ _
 | renewed holds byHolder later=>exact Nat.le_succ _

lemma nextEpoch_le_length(calls:List Call)(runId:String):
  nextEpoch (execute step .new calls) runId≤calls.length+1:=by
 induction calls using List.reverseRecOn with
 | nil=>simp [nextEpoch,InMemoryCheckpointStore.new]
 | append_singleton calls call ih=>
  have hstep:=nextEpoch_effect (step_effect (execute step .new calls) call) runId
  rw [execute_concat,length_append,length_singleton]
  omega

lemma epochsBelow_of_length(h:(calls.length:ℤ) < i64Max):EpochsBelow calls:=by
 intro t ht recovery hresponse
 obtain ⟨before,call,after,rfl,rfl⟩:=mem_history step ht
 have heffect:=step_effect (execute step .new before) call
 change (step (execute step .new before) call).1=_ at hresponse
 rw [hresponse] at heffect
 generalize (step (execute step .new before) call).2=s' at heffect
 cases heffect with
 | @granted target request checkpoint valid latest lapsed positive bounded=>
  have hlength:=nextEpoch_le_length before target.runId
  rw [length_append,length_cons] at h
  simp only [claimOf]
  omega

section

open Json CanonicalJson StoredJson

def naturalValue (n:ℕ) : Value := .number (Nat.toDigits 10 n)

lemma naturalValue_injective:Function.Injective naturalValue:=by
 intro m n h
 have hdigits:=congrArg DigitStrings.value (Value.number.inj h)
 rwa [DigitStrings.value_toDigits,DigitStrings.value_toDigits] at hdigits

lemma naturalValue_numbers(n:ℕ):AllNumbers IsNumberToken (naturalValue n):=by
 have htoken:=isNumberToken_intToken n
 simp only [intToken,Int.natAbs_natCast] at htoken
 rwa [if_neg (by omega)] at htoken

def cursorValue (cursor:SourceCursor) : Value :=
 .object [("stream",.string cursor.stream),("partition",naturalValue cursor.partitionIndex),
  ("offset",naturalValue cursor.offset)]

def nodesValue (nodes:List String) : Value := .array (nodes.map .string)

/-- The document that `serde` writes for a barrier. -/
def barrierValue (barrier:CheckpointBarrier) : Value :=
 .object [("checkpoint_id",.string barrier.checkpointId),("run_id",.string barrier.runId),
  ("release_id",.string barrier.releaseId),
  ("deployment_revision_id",.string barrier.deploymentRevisionId),
  ("plan_hash",.string barrier.planHash),
  ("checkpoint_schema",.object [("schema_id",.string barrier.checkpointSchema.schemaId),
   ("schema_version",naturalValue barrier.checkpointSchema.schemaVersion)]),
  ("state_revision",naturalValue barrier.stateRevision),
  ("completed_nodes",nodesValue barrier.completedNodes),
  ("pending_nodes",nodesValue barrier.pendingNodes),
  ("source_cursors",mapValue cursorValue barrier.sourceCursors),
  ("operator_state",mapValue Subtype.val barrier.operatorState),
  ("sink_commit_metadata",mapValue Subtype.val barrier.sinkCommitMetadata),
  ("schema_versions",mapValue naturalValue barrier.schemaVersions),
  ("created_at_unix_ms",naturalValue barrier.createdAtUnixMs)]

lemma mapValue_injective{α:Type}{write:α→Value}(h:Function.Injective write):
  Function.Injective (mapValue write):=by
 intro m n heq
 have hlists:m.toList.map (fun e=>(e.1,write e.2))=n.toList.map (fun e=>(e.1,write e.2)):=by
  have hobjects:=Value.object.inj heq
  rwa [toList_map,toList_map] at hobjects
 have hentry:Function.Injective fun e:String×α=>(e.1,write e.2):=by
  intro a b hab
  obtain ⟨hkey,hvalue⟩:=Prod.mk.inj hab
  exact Prod.ext hkey (h hvalue)
 rw [←ofList_toList m,map_injective_iff.mpr hentry hlists,ofList_toList]

lemma mapValue_numbers{α:Type}{write:α→Value}(h:∀a,AllNumbers IsNumberToken (write a))
  (m:StringMap α):AllNumbers IsNumberToken (mapValue write m):=by
 rw [mapValue,toObject,AllNumbers,allNumbersMembers_iff,toList_map]
 intro e he
 obtain ⟨entry,-,rfl⟩:=List.mem_map.mp he
 exact h entry.2

lemma cursorValue_injective:Function.Injective cursorValue:=by
 rintro ⟨stream,partition_,offset⟩ ⟨stream',partition',offset'⟩ h
 simp only [cursorValue,Value.object.injEq,List.cons.injEq,Prod.mk.injEq,true_and,
  Value.string.injEq,and_true] at h
 obtain ⟨rfl,hpartition,hoffset⟩:=h
 rw [naturalValue_injective hpartition,naturalValue_injective hoffset]

lemma cursorValue_numbers(cursor:SourceCursor):AllNumbers IsNumberToken (cursorValue cursor):=
 ⟨trivial,naturalValue_numbers _,naturalValue_numbers _,trivial⟩

lemma nodesValue_injective:Function.Injective nodesValue:=by
 intro a b h
 exact map_injective_iff.mpr (fun _ _=>Value.string.inj) (Value.array.inj h)

lemma nodesValue_numbers(nodes:List String):AllNumbers IsNumberToken (nodesValue nodes):=by
 rw [nodesValue,AllNumbers,allNumbersItems_iff]
 intro v hv
 obtain ⟨node,-,rfl⟩:=List.mem_map.mp hv
 trivial

lemma barrierValue_injective:Function.Injective barrierValue:=by
 rintro ⟨checkpointId,runId,releaseId,deployment,planHash,⟨schemaId,schemaVersion⟩,revision,
  completed,pending,cursors,operators,sinks,versions,created⟩
  ⟨checkpointId',runId',releaseId',deployment',planHash',⟨schemaId',schemaVersion'⟩,
   revision',completed',pending',cursors',operators',sinks',versions',created'⟩ h
 simp only [barrierValue,Value.object.injEq,List.cons.injEq,Prod.mk.injEq,true_and,
  Value.string.injEq,and_true] at h
 obtain ⟨rfl,rfl,rfl,rfl,rfl,⟨rfl,hschema⟩,hrevision,hcompleted,hpending,hcursors,
  hoperators,hsinks,hversions,hcreated⟩:=h
 rw [naturalValue_injective hschema,naturalValue_injective hrevision,
  nodesValue_injective hcompleted,nodesValue_injective hpending,
  mapValue_injective cursorValue_injective hcursors,
  mapValue_injective Subtype.val_injective hoperators,
  mapValue_injective Subtype.val_injective hsinks,
  mapValue_injective naturalValue_injective hversions,naturalValue_injective hcreated]

lemma barrierValue_numbers(barrier:CheckpointBarrier):
  AllNumbers IsNumberToken (barrierValue barrier):=
 ⟨trivial,trivial,trivial,trivial,trivial,⟨trivial,naturalValue_numbers _,trivial⟩,
  naturalValue_numbers _,nodesValue_numbers _,nodesValue_numbers _,
  mapValue_numbers cursorValue_numbers _,mapValue_numbers Subtype.property _,
  mapValue_numbers Subtype.property _,mapValue_numbers naturalValue_numbers _,
  naturalValue_numbers _,trivial⟩

def barrierText (barrier:CheckpointBarrier) : String := toText serdeDisplay (barrierValue barrier)

lemma barrierText_injective:Function.Injective barrierText:=by
 intro a b h
 apply barrierValue_injective
 apply compact_injective serdeDisplay (barrierValue_numbers a) (barrierValue_numbers b)
 have hlists:=congrArg String.toList h
 rwa [barrierText,barrierText,toText,toText,String.toList_ofList,String.toList_ofList]
  at hlists

open Classical in
/-- `serde_json` with its compact printer, and a reader of what it prints. -/
noncomputable def compactSerde : BarrierSerde where
 toString barrier:=.ok (barrierText barrier)
 fromStr text:=
  if h : ∃barrier,barrierText barrier=text then .ok h.choose else .error "expected value"
 survives barrier:=by
  have hwritten : ∃other,barrierText other=barrierText barrier:=⟨barrier,rfl⟩
  refine ⟨barrierText barrier,rfl,?_⟩
  rw [dif_pos hwritten]
  exact congrArg Except.ok (barrierText_injective hwritten.choose_spec)
end

def sampleBarrier (checkpointId runId:String) : CheckpointBarrier where
 checkpointId
 runId
 releaseId := "release-1"
 deploymentRevisionId := "deployment-1"
 planHash := "sha256:plan"
 checkpointSchema:=⟨"checkpoint",1⟩
 stateRevision:=1
 completedNodes:=[]
 pendingNodes:=["node-1"]
 sourceCursors:=∅
 operatorState:=∅
 sinkCommitMetadata:=∅
 schemaVersions:=(∅:ExtTreeMap String ℕ).insert "state" 1
 createdAtUnixMs:=1

def sharedIdCalls : List Call :=
 [.put (sampleBarrier "checkpoint-000001" "run-a"),.put (sampleBarrier "checkpoint-000001" "run-b")]

lemma sharedIdCalls_fit:∀c∈sharedIdCalls,c.Fits:=by
 intro c hc
 simp only [sharedIdCalls,mem_cons,not_mem_nil,or_false] at hc
 rcases hc with rfl|rfl <;>simp [Call.Fits,sampleBarrier,i64Max]

lemma sampleBarrier_valid:(sampleBarrier "checkpoint-000001" "run-a").validate=.ok () ∧
   (sampleBarrier "checkpoint-000001" "run-b").validate=.ok ():=by
 decide +kernel

lemma storable_new{barrier:CheckpointBarrier}(h:barrier.validate=.ok ()): Storable .new barrier:=
 ⟨h,by simp [checkpoints,InMemoryCheckpointStore.new]⟩

lemma not_reuses_new(call:Call):¬Reuses .new call:=by
 cases call with
 | put barrier=>
  rintro ⟨-,runId,stored,hstored,-⟩
  simp [checkpoints,InMemoryCheckpointStore.new] at hstored
 | _=>exact id

lemma sharedId_reuses:
  Reuses (execute step .new [.put (sampleBarrier "checkpoint-000001" "run-a")])
   (.put (sampleBarrier "checkpoint-000001" "run-b")):=by
 rw [execute_cons,execute_nil,step_put (storable_new sampleBarrier_valid.1)]
 refine ⟨⟨sampleBarrier_valid.2,fun stored hstored=>?_⟩,"run-a",
  sampleBarrier "checkpoint-000001" "run-a",?_,rfl⟩
 · rw [checkpoints_storing,if_neg (by decide)] at hstored
   simp [checkpoints,InMemoryCheckpointStore.new] at hstored
 · rw [checkpoints_storing,if_pos (by rfl)]
   exact mem_append_right _ (mem_singleton_self _)

/-- The second run's barrier is stored in memory and refused by the primary key. -/
theorem shared_checkpoint_id_disagrees : (∀c∈sharedIdCalls,c.Fits)∧EpochsBelow sharedIdCalls ∧
   ¬StoresAgree compactSerde sharedIdCalls := by
 refine ⟨sharedIdCalls_fit,epochsBelow_of_length (by decide),fun hagree => ?_⟩
 have hfirst:∀c∈[Call.put (sampleBarrier "checkpoint-000001" "run-a")],c.Fits:=
  fun c hc=>sharedIdCalls_fit c (mem_cons.mpr (.inl (mem_singleton.mp hc)))
 have hnever:NeverReuses [.put (sampleBarrier "checkpoint-000001" "run-a")]:=by
  intro t ht
  rw [history,history,mem_singleton] at ht
  rw [ht]
  exact not_reuses_new _
 have hmirrors:=(run_mirrors compactSerde hfirst (epochsBelow_of_length (by decide)) hnever).2
 have hsame:=((storesAgree_concat [.put (sampleBarrier "checkpoint-000001" "run-a")]
  (.put (sampleBarrier "checkpoint-000001" "run-b"))).mp hagree).2
 exact reuse_disagrees hmirrors (sharedIdCalls_fit _ (by simp [sharedIdCalls])) sharedId_reuses
  hsame

theorem sharedIdCalls_agree_iff :
  StoresAgree compactSerde sharedIdCalls↔NeverReuses sharedIdCalls :=
 checkpoint_stores_agree_iff compactSerde sharedIdCalls sharedIdCalls_fit
  (epochsBelow_of_length (by decide))

end GraphBlocks.Recovery
