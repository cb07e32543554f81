import GraphBlocks.RecoveryStoreModel

namespace GraphBlocks.Recovery
open Std MachineRuns OrderedMap RustStd List Option

def nextEpoch (s:InMemoryCheckpointStore) (runId:String) : ℕ := s.nextFencingEpochByRun.getD runId 1

def active (s:InMemoryCheckpointStore) (runId:String) : Option CheckpointRecoveryClaim :=
 s.activeClaimsByRun[runId]?

/-- Two stores that no call can tell apart. -/
structure Alike (s t:InMemoryCheckpointStore) : Prop where
 checkpoints:∀runId,checkpoints t runId=checkpoints s runId
 active:∀runId,active t runId=active s runId
 nextEpoch:∀runId,nextEpoch t runId=nextEpoch s runId

lemma Alike.refl(s:InMemoryCheckpointStore):Alike s s:=⟨fun _=>rfl,fun _=>rfl,fun _=>rfl⟩

structure HeldBy (held claim:CheckpointRecoveryClaim) (nowUnixMs:ℕ) : Prop where
 identity:CheckpointRecoveryClaimIdentity.fromClaim claim=.fromClaim held
 claimed:held.claimedAtUnixMs≤nowUnixMs
 unexpired:nowUnixMs<held.expiresAtUnixMs

variable {held claim:CheckpointRecoveryClaim} {nowUnixMs:ℕ}

lemma HeldBy.epoch(h:HeldBy held claim nowUnixMs):claim.fencingEpoch=held.fencingEpoch:=
 congrArg CheckpointRecoveryClaimIdentity.fencingEpoch h.identity

lemma checkHeld_ok{u:Unit}:checkHeld held claim nowUnixMs=.ok u↔HeldBy held claim nowUnixMs:=by
 simp only [checkHeld,bind_ok,ensure_ok,CheckpointRecoveryClaim.isActiveAt]
 constructor
 · rintro ⟨-,hidentity,-,hclaimed,hactive⟩
   simp only [Bool.not_eq_true',Bool.or_eq_false_iff,bne_eq_false_iff_eq] at hidentity
   simp only [Bool.and_eq_true,decide_eq_true_eq] at hclaimed hactive
   obtain ⟨⟨⟨hcheckpoint,hworker⟩,hlease⟩,hepoch⟩:=hidentity
   refine ⟨?_,hactive.1,hactive.2⟩
   simp [CheckpointRecoveryClaimIdentity.fromClaim,hcheckpoint,hworker,hlease,hepoch]
 · rintro ⟨hidentity,hclaimed,hunexpired⟩
   simp only [CheckpointRecoveryClaimIdentity.fromClaim,
    CheckpointRecoveryClaimIdentity.mk.injEq] at hidentity
   simp [hidentity,hclaimed,hunexpired]

variable {expiresAtUnixMs:ℕ}

lemma checkRenewal_ok{u:Unit}:checkRenewal held claim nowUnixMs expiresAtUnixMs=.ok u ↔
   HeldBy held claim nowUnixMs∧held.expiresAtUnixMs<expiresAtUnixMs:=by
 simp only [checkRenewal,bind_ok,ensure_ok,checkHeld_ok,decide_eq_true_eq,exists_const]

lemma advanceFencingEpoch_ok{current maximum next:ℕ}{runId:String}:
  advanceFencingEpoch current maximum runId=.ok next ↔
   current≠0∧next=current+1∧current+1<u64Limit∧current+1≤ maximum:=by
 unfold advanceFencingEpoch checkedSucc
 by_cases hzero:current=0
 · simp [hzero]
 · by_cases hlimit:current+1<u64Limit
   · by_cases hmax:current+1≤ maximum
     · simp [hzero,hlimit,filter_some,hmax,eq_comm]
     · simp [hzero,hlimit,filter_some,hmax]
   · simp [hzero,hlimit]

/-- A barrier that `put` stores. -/
structure Storable (s:InMemoryCheckpointStore) (barrier:CheckpointBarrier) : Prop where
 valid:barrier.validate=.ok ()
 newer:∀stored∈checkpoints s barrier.runId,stored.stateRevision<barrier.stateRevision

def storing (s:InMemoryCheckpointStore) (barrier:CheckpointBarrier) : InMemoryCheckpointStore :=
 { s with checkpointsByRun:=
    s.checkpointsByRun.insert barrier.runId (checkpoints s barrier.runId++[barrier]) }

def granting (s:InMemoryCheckpointStore) (claim:CheckpointRecoveryClaim) :
  InMemoryCheckpointStore :=
 { s with
   nextFencingEpochByRun:=s.nextFencingEpochByRun.insert claim.runId (claim.fencingEpoch+1)
   activeClaimsByRun:=s.activeClaimsByRun.insert claim.runId claim }

def holding (s:InMemoryCheckpointStore) (runId:String) (claim:CheckpointRecoveryClaim) :
  InMemoryCheckpointStore :=
 { s with activeClaimsByRun:=s.activeClaimsByRun.insert runId claim }

def releasing (s:InMemoryCheckpointStore) (runId:String) : InMemoryCheckpointStore :=
 { s with activeClaimsByRun:=s.activeClaimsByRun.erase runId }

inductive Effect (s:InMemoryCheckpointStore) : Call→Response→InMemoryCheckpointStore→Prop where
 | failed {call:Call} {t:InMemoryCheckpointStore} (e:CheckpointStoreError)
   (alike:Alike s t) : Effect s call (.error e) t
 | stored {barrier:CheckpointBarrier} (storable:Storable s barrier) :
   Effect s (.put barrier) (.ok .stored) (storing s barrier)
 | latest (target:Target) :
   Effect s (.latestCompatible target) (.ok (.latest (latestCompatible s target))) s
 | granted {target:Target} {request:ClaimRequest} {checkpoint:CheckpointBarrier}
   (valid:validateClaimRequest request=.ok ())
   (latest:latestCompatible s target=some checkpoint)
   (lapsed:∀held,active s target.runId=some held→held.expiresAtUnixMs≤request.nowUnixMs)
   (positive:nextEpoch s target.runId≠0)
   (bounded:nextEpoch s target.runId+1<u64Limit) :
   Effect s (.claimLatestCompatible target request)
    (.ok (.recovery
     ⟨checkpoint,claimOf target request checkpoint (nextEpoch s target.runId)⟩))
    (granting s (claimOf target request checkpoint (nextEpoch s target.runId)))
 | completed {claim held:CheckpointRecoveryClaim} {nowUnixMs:ℕ}
   (holds:active s claim.runId=some held) (byHolder:HeldBy held claim nowUnixMs) :
   Effect s (.completeClaim claim nowUnixMs) (.ok .completed)
    (releasing s claim.runId)
 | renewed {claim held:CheckpointRecoveryClaim} {nowUnixMs expiresAtUnixMs:ℕ}
   (holds:active s claim.runId=some held) (byHolder:HeldBy held claim nowUnixMs)
   (later:held.expiresAtUnixMs<expiresAtUnixMs) :
   Effect s (.renewClaim claim nowUnixMs expiresAtUnixMs)
    (.ok (.renewed { held with expiresAtUnixMs }))
    (holding s claim.runId { held with expiresAtUnixMs })

variable {barrier:CheckpointBarrier} {s s':InMemoryCheckpointStore} {past:Past}

lemma storable_of(hvalid:barrier.validate=.ok ())
  (hcurrent:((checkpoints s barrier.runId).map CheckpointBarrier.stateRevision).max?.filter
   (barrier.stateRevision ≤ ·)=none):Storable s barrier:=by
 refine ⟨hvalid,fun stored hstored=>?_⟩
 cases hmax:((checkpoints s barrier.runId).map CheckpointBarrier.stateRevision).max? with
 | none=>
  rw [List.max?_eq_none_iff,map_eq_nil_iff] at hmax
  rw [hmax] at hstored
  cases hstored
 | some current=>
  have hle:=(List.max?_eq_some_iff.mp hmax).2 stored.stateRevision (List.mem_map_of_mem hstored)
  rw [hmax,filter_eq_none_iff] at hcurrent
  have hstale:=hcurrent current rfl
  rw [decide_eq_true_eq] at hstale
  omega

lemma Storable.current(h:Storable s barrier):
  ((checkpoints s barrier.runId).map CheckpointBarrier.stateRevision).max?.filter
   (barrier.stateRevision ≤ ·)=none:=by
 rw [filter_eq_none_iff]
 intro current hmax
 obtain ⟨hmem,-⟩:=List.max?_eq_some_iff.mp hmax
 obtain ⟨stored,hstored,rfl⟩:=List.mem_map.mp hmem
 have hnewer:=h.newer stored hstored
 rw [decide_eq_true_eq]
 omega

lemma step_put(h:Storable s barrier):step s (.put barrier)=(.ok .stored,storing s barrier):=by
 simp only [step,put,h.valid,h.current]
 rfl

lemma put_effect(s:InMemoryCheckpointStore)(barrier:CheckpointBarrier):
  Effect s (.put barrier) (step s (.put barrier)).1 (step s (.put barrier)).2:=by
 simp only [step,put]
 cases hvalid:barrier.validate with
 | error e=>exact .failed _ (.refl s)
 | ok u=>
  cases hcurrent:((checkpoints s barrier.runId).map CheckpointBarrier.stateRevision).max?.filter
    (barrier.stateRevision ≤ ·) with
  | some current=>
   refine .failed _ ⟨fun runId=>?_,fun _=>rfl,fun _=>rfl⟩
   simp only [checkpoints,getD_insert_eq]
   split
   · next h=>rw [h]
   · rfl
  | none=>exact .stored (storable_of hvalid hcurrent)

variable {target:Target} {request:ClaimRequest}

lemma grantClaim_effect{checkpoint:CheckpointBarrier}
  (hvalid:validateClaimRequest request=.ok ())(hlatest:latestCompatible s target=some checkpoint)
  (hlapsed:∀held,active s target.runId=some held→held.expiresAtUnixMs≤request.nowUnixMs):
  Effect s (.claimLatestCompatible target request)
   ((grantClaim s target request checkpoint).1.map .recovery)
   (grantClaim s target request checkpoint).2:=by
 simp only [grantClaim]
 cases hadvance:advanceFencingEpoch (s.nextFencingEpochByRun.getD target.runId 1) (u64Limit-1)
   target.runId with
 | error e=>
  refine .failed _ ⟨fun _=>rfl,fun _=>rfl,fun runId=>?_⟩
  simp only [nextEpoch,getD_insert_eq]
  split
  · next h=>rw [h]
  · rfl
 | ok following=>
  obtain ⟨hpositive,rfl,hlimit,-⟩:=advanceFencingEpoch_ok.mp hadvance
  exact .granted hvalid hlatest hlapsed hpositive hlimit

lemma claimLatestCompatible_effect(s:InMemoryCheckpointStore)(target:Target)(request:ClaimRequest):
  Effect s (.claimLatestCompatible target request)
   (step s (.claimLatestCompatible target request)).1
   (step s (.claimLatestCompatible target request)).2:=by
 simp only [step,claimLatestCompatible]
 cases hvalid:validateClaimRequest request with
 | error e=>exact .failed _ (.refl s)
 | ok u=>
  cases hlatest:latestCompatible s target with
  | none=>exact .failed _ (.refl s)
  | some checkpoint=>
   cases hactive:s.activeClaimsByRun[target.runId]? with
   | none=>
    apply grantClaim_effect hvalid hlatest
    intro held hheld
    rw [active,hactive] at hheld
    cases hheld
   | some held=>
    by_cases hlive:request.nowUnixMs<held.expiresAtUnixMs
    · simp only [hlive,if_true]
      exact .failed _ (.refl s)
    · simp only [hlive,if_false]
      apply grantClaim_effect hvalid hlatest
      intro held' hheld'
      rw [active,hactive] at hheld'
      cases hheld'
      exact Nat.le_of_not_lt hlive

lemma completeClaim_effect(s:InMemoryCheckpointStore)(claim:CheckpointRecoveryClaim)(nowUnixMs:ℕ):
  Effect s (.completeClaim claim nowUnixMs) (step s (.completeClaim claim nowUnixMs)).1
   (step s (.completeClaim claim nowUnixMs)).2:=by
 simp only [step,completeClaim]
 cases hactive:s.activeClaimsByRun[claim.runId]? with
 | none=>exact .failed _ (.refl s)
 | some held=>
  cases hcheck:checkHeld held claim nowUnixMs with
  | error e=>
   simp only [hcheck]
   exact .failed _ (.refl s)
  | ok u=>
   simp only [hcheck]
   exact .completed hactive (checkHeld_ok.mp hcheck)

lemma renewClaim_effect(s:InMemoryCheckpointStore)(claim:CheckpointRecoveryClaim)
  (nowUnixMs expiresAtUnixMs:ℕ):
  Effect s (.renewClaim claim nowUnixMs expiresAtUnixMs)
   (step s (.renewClaim claim nowUnixMs expiresAtUnixMs)).1
   (step s (.renewClaim claim nowUnixMs expiresAtUnixMs)).2:=by
 simp only [step,renewClaim]
 by_cases hpast:expiresAtUnixMs≤nowUnixMs
 · simp only [hpast,if_true]
   exact .failed _ (.refl s)
 · simp only [hpast,if_false]
   cases hactive:s.activeClaimsByRun[claim.runId]? with
   | none=>exact .failed _ (.refl s)
   | some held=>
    cases hcheck:checkRenewal held claim nowUnixMs expiresAtUnixMs with
    | error e=>
     simp only [hcheck]
     exact .failed _ (.refl s)
    | ok u=>
     simp only [hcheck]
     obtain ⟨hholder,hlater⟩:=checkRenewal_ok.mp hcheck
     exact .renewed hactive hholder hlater

lemma step_effect(s:InMemoryCheckpointStore)(call:Call):
  Effect s call (step s call).1 (step s call).2:=by
 cases call with
 | put barrier=>exact put_effect s barrier
 | latestCompatible target=>exact .latest target
 | claimLatestCompatible target request=>exact claimLatestCompatible_effect s target request
 | completeClaim claim nowUnixMs=>exact completeClaim_effect s claim nowUnixMs
 | renewClaim claim nowUnixMs expiresAtUnixMs=>
  exact renewClaim_effect s claim nowUnixMs expiresAtUnixMs

variable {call:Call}

lemma alike_of_error{e:CheckpointStoreError}
  (h:(step s call).1=.error e):Alike s (step s call).2:=by
 have heffect:=step_effect s call
 rw [h] at heffect
 generalize (step s call).2=s' at heffect ⊢
 cases heffect with
 | failed _ alike=>exact alike

abbrev Step := Transition InMemoryCheckpointStore Call Response

abbrev Past := List Step

def putOf (t:Step) : Option CheckpointBarrier :=
 match t.call, t.response with
 | .put barrier, .ok _=>some barrier
 | _, _=>none

def grantOf (t:Step) : Option CheckpointRecoveryClaim :=
 match t.response with
 | .ok (.recovery recovery)=>some recovery.claim
 | _=>none

def completionOf (t:Step) : Option CheckpointRecoveryClaim :=
 match t.call, t.response with
 | .completeClaim claim _, .ok _=>some claim
 | _, _=>none

def stored (past:Past) : List CheckpointBarrier := past.filterMap putOf

def grantedEpochs (past:Past) (runId:String) : List ℕ :=
 ((past.filterMap grantOf).filter (·.runId==runId)).map CheckpointRecoveryClaim.fencingEpoch

def completedEpochs (past:Past) (runId:String) : List ℕ :=
 ((past.filterMap completionOf).filter (·.runId==runId)).map
  CheckpointRecoveryClaim.fencingEpoch

/-- The holder of a run after one more step: the last claim granted or renewed, until it is
completed. -/
def holderAfter (runId:String) (held:Option CheckpointRecoveryClaim) (t:Step) :
  Option CheckpointRecoveryClaim :=
 match t.call, t.response with
 | .claimLatestCompatible _ _, .ok (.recovery recovery)=>
  if recovery.claim.runId=runId then some recovery.claim else held
 | .renewClaim _ _ _, .ok (.renewed claim)=>if claim.runId=runId then some claim else held
 | .completeClaim claim _, .ok _=>if claim.runId=runId then none else held
 | _, _=>held

def holder (past:Past) (runId:String) : Option CheckpointRecoveryClaim :=
 past.foldl (holderAfter runId) none

lemma stored_concat(past:Past)(t:Step):stored (past++[t])=stored past++(putOf t).toList:=
 filterMap_concat putOf past t

lemma grantedEpochs_concat(past:Past)(t:Step)(runId:String):
  grantedEpochs (past++[t]) runId=grantedEpochs past runId ++
   ((grantOf t).toList.filter (·.runId==runId)).map
    CheckpointRecoveryClaim.fencingEpoch:=by
 rw [grantedEpochs,filterMap_concat,filter_append,map_append]
 rfl

lemma completedEpochs_concat(past:Past)(t:Step)(runId:String):
  completedEpochs (past++[t]) runId=completedEpochs past runId ++
   ((completionOf t).toList.filter (·.runId==runId)).map
    CheckpointRecoveryClaim.fencingEpoch:=by
 rw [completedEpochs,filterMap_concat,filter_append,map_append]
 rfl

lemma holder_concat(past:Past)(t:Step)(runId:String):
  holder (past++[t]) runId=holderAfter runId (holder past runId) t:=by
 rw [holder,foldl_append]
 rfl

structure RunTracks (past:Past) (s:InMemoryCheckpointStore) (runId:String) : Prop where
 kept:checkpoints s runId=(stored past).filter (·.runId==runId)
 increasing:(checkpoints s runId).Pairwise (fun a b=>a.stateRevision<b.stateRevision)
 held:active s runId=holder past runId
 ofRun:∀claim,holder past runId=some claim→claim.runId=runId
 uncompleted:∀claim,holder past runId=some claim→claim.fencingEpoch∉completedEpochs past runId
 holderBelow:∀claim,holder past runId=some claim→claim.fencingEpoch<nextEpoch s runId
 epochs:(grantedEpochs past runId).Pairwise (· < ·)
 below:∀epoch∈grantedEpochs past runId,epoch<nextEpoch s runId
 completed:(completedEpochs past runId).Nodup
 completedBelow:∀epoch∈completedEpochs past runId,epoch<nextEpoch s runId

def Tracks (past:Past) (s:InMemoryCheckpointStore) : Prop := ∀runId,RunTracks past s runId

structure Unrecorded (t:Step) (runId:String) : Prop where
 put:∀barrier,putOf t=some barrier→barrier.runId≠runId
 grant:∀claim,grantOf t=some claim→claim.runId≠runId
 completion:∀claim,completionOf t=some claim→claim.runId≠runId
 holder:∀held,holderAfter runId held t=held

section
variable {past:Past} {t:Step} {runId:String}

lemma filter_other{α:Type}{run:α→String}{o:Option α}
  (h:∀a,o=some a→ run a≠runId):o.toList.filter (fun a=>run a==runId)=[]:=by
 rw [filter_eq_nil_iff]
 intro a ha
 simpa using h a (by simpa using ha)

lemma Unrecorded.stored(h:Unrecorded t runId):(stored (past++[t])).filter (·.runId==runId) =
   (Recovery.stored past).filter (·.runId==runId):=by
 rw [stored_concat,filter_append,filter_other h.put,append_nil]

lemma Unrecorded.grantedEpochs(h:Unrecorded t runId):
  grantedEpochs (past++[t]) runId=Recovery.grantedEpochs past runId:=by
 rw [grantedEpochs_concat,filter_other h.grant,map_nil,append_nil]

lemma Unrecorded.completedEpochs(h:Unrecorded t runId):
  completedEpochs (past++[t]) runId=Recovery.completedEpochs past runId:=by
 rw [completedEpochs_concat,filter_other h.completion,map_nil,append_nil]

lemma Unrecorded.holder_eq(h:Unrecorded t runId):
  Recovery.holder (past++[t]) runId=Recovery.holder past runId:=by
 rw [holder_concat,h.holder]

lemma RunTracks.frame(h:RunTracks past s runId)
  (hun:Unrecorded t runId)(hcheckpoints:checkpoints s' runId=checkpoints s runId)
  (hactive:active s' runId=active s runId)(hnext:nextEpoch s' runId=nextEpoch s runId):
  RunTracks (past++[t]) s' runId:=by
 obtain ⟨kept,increasing,held,ofRun,uncompleted,holderBelow,epochs,below,completed,
  completedBelow⟩:=h
 constructor
 · rw [hcheckpoints,hun.stored,kept]
 · rwa [hcheckpoints]
 · rw [hactive,hun.holder_eq,held]
 · rwa [hun.holder_eq]
 · rwa [hun.holder_eq,hun.completedEpochs]
 · rwa [hun.holder_eq,hnext]
 · rwa [hun.grantedEpochs]
 · rwa [hun.grantedEpochs,hnext]
 · rwa [hun.completedEpochs]
 · rwa [hun.completedEpochs,hnext]
end

section
variable {past:Past} {s:InMemoryCheckpointStore} {runId:String}

section
variable (s:InMemoryCheckpointStore)

lemma checkpoints_storing(barrier:CheckpointBarrier):
  checkpoints (storing s barrier) runId =
   if barrier.runId=runId then checkpoints s runId++[barrier] else checkpoints s runId:=by
 simp only [checkpoints,storing,getD_insert_eq]
 split
 · next h=>rw [h]
 · rfl

lemma active_holding(claim:CheckpointRecoveryClaim)(key:String):
  active (holding s key claim) runId=if key=runId then some claim else active s runId:=by
 simp only [active,holding,lookup_insert]

lemma active_releasing(key:String):
  active (releasing s key) runId=if key=runId then none else active s runId:=by
 simp only [active,releasing,ExtTreeMap.getElem?_erase,LawfulEqCmp.compare_eq_iff_eq]

lemma active_granting(claim:CheckpointRecoveryClaim):
  active (granting s claim) runId=if claim.runId=runId then some claim else active s runId:=by
 simp only [active,granting,lookup_insert]

lemma nextEpoch_granting(claim:CheckpointRecoveryClaim):
  nextEpoch (granting s claim) runId =
   if claim.runId=runId then claim.fencingEpoch+1 else nextEpoch s runId:=by
 simp only [nextEpoch,granting,getD_insert_eq]

end

lemma RunTracks.put(h:RunTracks past s runId){t:Step}(hrun:barrier.runId=runId)
  (hstorable:Storable s barrier)(hcall:t.call=.put barrier)(hresponse:t.response=.ok .stored):
  RunTracks (past++[t]) (storing s barrier) runId:=by
 have hput:putOf t=some barrier:=by simp [putOf,hcall,hresponse]
 have hgrant:grantOf t=none:=by simp [grantOf,hresponse]
 have hcompletion:completionOf t=none:=by simp [completionOf,hcall]
 have hepochs:grantedEpochs (past++[t]) runId=grantedEpochs past runId:=by
  simp [grantedEpochs_concat,hgrant]
 have hcompleted:completedEpochs (past++[t]) runId=completedEpochs past runId:=by
  simp [completedEpochs_concat,hcompletion]
 have hholder:holder (past++[t]) runId=holder past runId:=by
  rw [holder_concat]
  simp [holderAfter,hcall]
 refine { h with
  kept := ?_,increasing := ?_,held := ?_,ofRun := ?_,uncompleted := ?_,
  holderBelow := ?_,epochs := ?_,below := ?_,completed := ?_,completedBelow := ?_ }
 · rw [checkpoints_storing,if_pos hrun,h.kept,stored_concat,hput,filter_append]
   simp [hrun]
 · rw [checkpoints_storing,if_pos hrun,pairwise_append]
   refine ⟨h.increasing,pairwise_singleton _ _,?_⟩
   intro a ha b hb
   rw [mem_singleton.mp hb]
   exact hstorable.newer a (hrun▸ha)
 · rw [hholder]
   exact h.held
 · rw [hholder]
   exact h.ofRun
 · rw [hholder,hcompleted]
   exact h.uncompleted
 · rw [hholder]
   exact h.holderBelow
 · rw [hepochs]
   exact h.epochs
 · rw [hepochs]
   exact h.below
 · rw [hcompleted]
   exact h.completed
 · rw [hcompleted]
   exact h.completedBelow

lemma RunTracks.grant(h:RunTracks past s runId)(recovery:CheckpointRecovery){t:Step}
  (hrun:recovery.claim.runId=runId)(hepoch:recovery.claim.fencingEpoch=nextEpoch s runId)
  (hcall:t.call=.claimLatestCompatible target request)
  (hresponse:t.response=.ok (.recovery recovery)):
  RunTracks (past++[t]) (granting s recovery.claim) runId:=by
 have hput:putOf t=none:=by simp [putOf,hcall]
 have hgrant:grantOf t=some recovery.claim:=by simp [grantOf,hresponse]
 have hcompletion:completionOf t=none:=by simp [completionOf,hcall]
 have hstored:stored (past++[t])=stored past:=by simp [stored_concat,hput]
 have hepochs:grantedEpochs (past++[t]) runId =
   grantedEpochs past runId++[recovery.claim.fencingEpoch]:=by
  simp [grantedEpochs_concat,hgrant,hrun]
 have hcompleted:completedEpochs (past++[t]) runId=completedEpochs past runId:=by
  simp [completedEpochs_concat,hcompletion]
 have hholder:holder (past++[t]) runId=some recovery.claim:=by
  rw [holder_concat]
  simp [holderAfter,hcall,hresponse,hrun]
 have hnext:nextEpoch (granting s recovery.claim) runId=nextEpoch s runId+1:=by
  rw [nextEpoch_granting,if_pos hrun,hepoch]
 have hactive:active (granting s recovery.claim) runId=some recovery.claim:=by
  rw [active_granting,if_pos hrun]
 constructor
 · rw [hstored]
   exact h.kept
 · exact h.increasing
 · rw [hactive,hholder]
 · rw [hholder]
   rintro claim ⟨⟩
   exact hrun
 · rw [hholder,hcompleted]
   rintro claim ⟨⟩ hmem
   have hlt:=h.completedBelow _ hmem
   omega
 · rw [hholder,hnext]
   rintro claim ⟨⟩
   omega
 · rw [hepochs,pairwise_append]
   refine ⟨h.epochs,pairwise_singleton _ _,?_⟩
   intro a ha b hb
   have hlt:=h.below a ha
   rw [mem_singleton.mp hb]
   omega
 · rw [hepochs,hnext]
   intro epoch hmem
   rcases mem_append.mp hmem with hmem|hmem
   · have hlt:=h.below epoch hmem
     omega
   · rw [mem_singleton.mp hmem]
     omega
 · rw [hcompleted]
   exact h.completed
 · rw [hcompleted,hnext]
   intro epoch hmem
   have hlt:=h.completedBelow epoch hmem
   omega

lemma RunTracks.complete(h:RunTracks past s runId){t:Step}(hrun:claim.runId=runId)
  (hactive:active s runId=some held)(hheld:HeldBy held claim nowUnixMs)
  (hcall:t.call=.completeClaim claim nowUnixMs)(hresponse:t.response=.ok .completed):
  RunTracks (past++[t]) (releasing s claim.runId) runId:=by
 have hput:putOf t=none:=by simp [putOf,hcall]
 have hgrant:grantOf t=none:=by simp [grantOf,hresponse]
 have hcompletion:completionOf t=some claim:=by simp [completionOf,hcall,hresponse]
 have hstored:stored (past++[t])=stored past:=by simp [stored_concat,hput]
 have hepochs:grantedEpochs (past++[t]) runId=grantedEpochs past runId:=by
  simp [grantedEpochs_concat,hgrant]
 have hcompleted:completedEpochs (past++[t]) runId =
   completedEpochs past runId++[held.fencingEpoch]:=by
  simp [completedEpochs_concat,hcompletion,hrun,hheld.epoch]
 have hholder:holder (past++[t]) runId=none:=by
  rw [holder_concat]
  simp [holderAfter,hcall,hresponse,hrun]
 have hwas:holder past runId=some held:=by rw [←h.held,hactive]
 constructor
 · rw [hstored]
   exact h.kept
 · exact h.increasing
 · rw [active_releasing,if_pos hrun,hholder]
 · rw [hholder]
   rintro claim ⟨⟩
 · rw [hholder]
   rintro claim ⟨⟩
 · rw [hholder]
   rintro claim ⟨⟩
 · rw [hepochs]
   exact h.epochs
 · rw [hepochs]
   exact h.below
 · rw [hcompleted,nodup_append]
   refine ⟨h.completed,nodup_singleton _,?_⟩
   intro a ha b hb hab
   rw [hab,mem_singleton.mp hb] at ha
   exact h.uncompleted held hwas ha
 · rw [hcompleted]
   intro epoch hmem
   rcases mem_append.mp hmem with hmem|hmem
   · exact h.completedBelow epoch hmem
   · rw [mem_singleton.mp hmem]
     exact h.holderBelow held hwas

lemma RunTracks.renew(h:RunTracks past s runId){t:Step}(hrun:claim.runId=runId)
  (hactive:active s runId=some held)(hcall:t.call=.renewClaim claim nowUnixMs expiresAtUnixMs)
  (hresponse:t.response=.ok (.renewed { held with expiresAtUnixMs })):
  RunTracks (past++[t]) (holding s claim.runId { held with expiresAtUnixMs }) runId:=by
 have hput:putOf t=none:=by simp [putOf,hcall]
 have hgrant:grantOf t=none:=by simp [grantOf,hresponse]
 have hcompletion:completionOf t=none:=by simp [completionOf,hcall]
 have hstored:stored (past++[t])=stored past:=by simp [stored_concat,hput]
 have hepochs:grantedEpochs (past++[t]) runId=grantedEpochs past runId:=by
  simp [grantedEpochs_concat,hgrant]
 have hcompleted:completedEpochs (past++[t]) runId=completedEpochs past runId:=by
  simp [completedEpochs_concat,hcompletion]
 have hwas:holder past runId=some held:=by rw [←h.held,hactive]
 have hholder:holder (past++[t]) runId=some { held with expiresAtUnixMs }:=by
  rw [holder_concat]
  simp [holderAfter,hcall,hresponse,h.ofRun held hwas]
 constructor
 · rw [hstored]
   exact h.kept
 · exact h.increasing
 · rw [active_holding,if_pos hrun,hholder]
 · rw [hholder]
   rintro claim ⟨⟩
   exact h.ofRun held hwas
 · rw [hholder,hcompleted]
   rintro claim ⟨⟩
   exact h.uncompleted held hwas
 · rw [hholder]
   rintro claim ⟨⟩
   exact h.holderBelow held hwas
 · rw [hepochs]
   exact h.epochs
 · rw [hepochs]
   exact h.below
 · rw [hcompleted]
   exact h.completed
 · rw [hcompleted]
   exact h.completedBelow
end

lemma unrecorded_failed{e:CheckpointStoreError}
  (runId:String):Unrecorded ⟨s,call,.error e,s'⟩ runId:=by
 cases call <;>constructor <;>simp [putOf,grantOf,completionOf,holderAfter]

lemma tracks_effect{response:Response}(h:Tracks past s)
  (heffect:Effect s call response s'):Tracks (past++[⟨s,call,response,s'⟩]) s':=by
 intro runId
 cases heffect with
 | failed e alike=>
  exact (h runId).frame (unrecorded_failed runId) (alike.checkpoints runId) (alike.active runId)
   (alike.nextEpoch runId)
 | @stored barrier storable=>
  by_cases hrun:barrier.runId=runId
  · exact (h runId).put hrun storable rfl rfl
  · refine (h runId).frame ⟨?_,?_,?_,?_⟩ ?_ rfl rfl
    · rintro b ⟨⟩
      exact hrun
    · simp [grantOf]
    · simp [completionOf]
    · simp [holderAfter]
    · rw [checkpoints_storing,if_neg hrun]
 | latest target=>
  refine (h runId).frame ⟨?_,?_,?_,?_⟩ rfl rfl rfl <;>
   simp [putOf,grantOf,completionOf,holderAfter]
 | @granted target request checkpoint valid latest lapsed positive bounded=>
  by_cases hrun:target.runId=runId
  · subst hrun
    exact (h target.runId).grant ⟨checkpoint,claimOf target request checkpoint _⟩ rfl rfl rfl
     rfl
  · refine (h runId).frame ⟨?_,?_,?_,?_⟩ rfl ?_ ?_
    · simp [putOf]
    · rintro claim ⟨⟩
      exact hrun
    · simp [completionOf]
    · simp [holderAfter,claimOf,hrun]
    · rw [active_granting,if_neg]
      exact hrun
    · rw [nextEpoch_granting,if_neg]
      exact hrun
 | @completed claim held nowUnixMs holds byHolder=>
  by_cases hrun:claim.runId=runId
  · exact (h runId).complete hrun (hrun▸holds) byHolder rfl rfl
  · refine (h runId).frame ⟨?_,?_,?_,?_⟩ rfl ?_ rfl
    · simp [putOf]
    · simp [grantOf]
    · rintro c ⟨⟩
      exact hrun
    · simp [holderAfter,hrun]
    · rw [active_releasing,if_neg hrun]
 | @renewed claim held nowUnixMs expiresAtUnixMs holds byHolder later=>
  by_cases hrun:claim.runId=runId
  · exact (h runId).renew hrun (hrun▸holds) rfl rfl
  · have hheld:held.runId≠runId:=by
     rw [(h claim.runId).ofRun held (by rw [←(h claim.runId).held,holds])]
     exact hrun
    refine (h runId).frame ⟨?_,?_,?_,?_⟩ rfl ?_ rfl
    · simp [putOf]
    · simp [grantOf]
    · simp [completionOf]
    · simp [holderAfter,hheld]
    · rw [active_holding,if_neg hrun]

lemma tracks_new:Tracks [] .new:=by
 intro runId
 constructor <;>
  simp [checkpoints,active,InMemoryCheckpointStore.new,stored,holder,grantedEpochs,completedEpochs]

lemma tracks_run(calls:List Call):Tracks (history step .new calls) (execute step .new calls):=
 history_invariant step tracks_new (fun _ s call h=>tracks_effect h (step_effect s call)) calls

section
variable {α:Type} {key:α→ℕ}

lemma foldl_keepGreatest(key:α→ℕ)(l:List α)(b:α):
  ∃a∈b::l,l.foldl (keepGreatest key) (some b)=some a∧∀c∈b::l,key c≤key a:=by
 induction l generalizing b with
 | nil=>exact ⟨b,by simp,rfl,by simp⟩
 | cons d l ih=>
  rw [foldl_cons]
  by_cases hle:key b≤key d
  · obtain ⟨a,hmem,hfold,hbound⟩:=ih d
    refine ⟨a,mem_cons_of_mem _ hmem,by simpa [keepGreatest,hle] using hfold,?_⟩
    have hd:=hbound d mem_cons_self
    intro c hc
    rcases mem_cons.mp hc with rfl|hc
    · omega
    · exact hbound c hc
  · obtain ⟨a,hmem,hfold,hbound⟩:=ih b
    have hb:=hbound b mem_cons_self
    refine ⟨a,?_,by simpa [keepGreatest,hle] using hfold,?_⟩
    · rcases mem_cons.mp hmem with rfl|hmem
      · exact mem_cons_self
      · exact mem_cons_of_mem _ (mem_cons_of_mem _ hmem)
    · intro c hc
      rcases mem_cons.mp hc with rfl|hc
      · exact hb
      · rcases mem_cons.mp hc with rfl|hc
        · omega
        · exact hbound c (mem_cons_of_mem _ hc)

lemma maxByKey_eq_some{l:List α}{a:α}(h:maxByKey key l=some a):a∈l∧∀b∈l,key b≤key a:=by
 cases l with
 | nil=>cases h
 | cons b l=>
  obtain ⟨c,hmem,hfold,hbound⟩:=foldl_keepGreatest key l b
  rw [maxByKey,foldl_cons,keepGreatest,hfold] at h
  cases h
  exact ⟨hmem,hbound⟩
end

structure Granted (past:Past) (target:Target) (request:ClaimRequest)
  (recovery:CheckpointRecovery) : Prop where
 /-- The claim before it was completed, or has expired. -/
 exclusive:∀held,holder past target.runId=some held→held.expiresAtUnixMs≤request.nowUnixMs
 /-- Its epoch was never granted before, also not to a claim that was completed. -/
 fenced:∀epoch∈grantedEpochs past target.runId,epoch<recovery.claim.fencingEpoch
 claim:recovery.claim=claimOf target request recovery.checkpoint recovery.claim.fencingEpoch
 checkpoint:recovery.checkpoint∈stored past
 ofRun:recovery.checkpoint.runId=target.runId
 compatible:compatible target recovery.checkpoint=true
 latest:∀other∈stored past,other.runId=target.runId→Recovery.compatible target other=true →
  other.stateRevision≤recovery.checkpoint.stateRevision

/-- What the store guarantees after a run of calls, and for any call that comes next. -/
structure Fenced (calls:List Call) : Prop where
 epochs:∀runId,(grantedEpochs (history step .new calls) runId).Pairwise (· < ·)
 completedOnce:∀runId,(completedEpochs (history step .new calls) runId).Nodup
 granted:∀target request recovery,
  (step (execute step .new calls) (.claimLatestCompatible target request)).1 =
   .ok (.recovery recovery) →
  Granted (history step .new calls) target request recovery
 completed:∀claim nowUnixMs answer,
  (step (execute step .new calls) (.completeClaim claim nowUnixMs)).1=.ok answer →
  ∃held,holder (history step .new calls) claim.runId=some held∧HeldBy held claim nowUnixMs
 renewed:∀claim nowUnixMs expiresAtUnixMs answer,
  (step (execute step .new calls) (.renewClaim claim nowUnixMs expiresAtUnixMs)).1 = .ok answer →
  ∃held,holder (history step .new calls) claim.runId=some held ∧
   HeldBy held claim nowUnixMs∧held.expiresAtUnixMs<expiresAtUnixMs ∧
   answer=.renewed { held with expiresAtUnixMs }

lemma granted_of_step(h:Tracks past s){recovery:CheckpointRecovery}
  (hstep:(step s (.claimLatestCompatible target request)).1=.ok (.recovery recovery)):
  Granted past target request recovery:=by
 have heffect:=step_effect s (.claimLatestCompatible target request)
 rw [hstep] at heffect
 generalize (step s (.claimLatestCompatible target request)).2=s' at heffect
 have hrun:=h target.runId
 cases heffect with
 | @granted _ _ checkpoint valid latest lapsed positive bounded=>
  obtain ⟨hmem,hgreatest⟩:=maxByKey_eq_some latest
  rw [hrun.kept] at hmem hgreatest
  simp only [mem_filter,beq_iff_eq] at hmem hgreatest
  exact
   { exclusive:=fun held hheld=>lapsed held (by rw [hrun.held,hheld]),fenced:=hrun.below,claim:=rfl
     checkpoint:=hmem.1.1,ofRun:=hmem.1.2,compatible:=hmem.2
     latest:=fun other hother hof hcompatible=>hgreatest other ⟨⟨hother,hof⟩,hcompatible⟩ }

lemma completed_of_step(h:Tracks past s)
  {answer:Answer}(hstep:(step s (.completeClaim claim nowUnixMs)).1=.ok answer):
  ∃held,holder past claim.runId=some held∧HeldBy held claim nowUnixMs:=by
 have heffect:=step_effect s (.completeClaim claim nowUnixMs)
 rw [hstep] at heffect
 generalize (step s (.completeClaim claim nowUnixMs)).2=s' at heffect
 cases heffect with
 | completed holds byHolder=>exact ⟨_,by rw [←(h claim.runId).held,holds],byHolder⟩

lemma renewed_of_step(h:Tracks past s){answer:Answer}
  (hstep:(step s (.renewClaim claim nowUnixMs expiresAtUnixMs)).1=.ok answer):
  ∃held,holder past claim.runId=some held∧HeldBy held claim nowUnixMs ∧
   held.expiresAtUnixMs<expiresAtUnixMs∧answer=.renewed { held with expiresAtUnixMs }:=by
 have heffect:=step_effect s (.renewClaim claim nowUnixMs expiresAtUnixMs)
 rw [hstep] at heffect
 generalize (step s (.renewClaim claim nowUnixMs expiresAtUnixMs)).2=s' at heffect
 cases heffect with
 | renewed holds byHolder later=>exact ⟨_,by rw [←(h claim.runId).held,holds],byHolder,later,rfl⟩

/-- However workers interleave and whatever their clocks say, claims on a run are exclusive and
fenced by increasing epochs, and each recovers the latest compatible checkpoint. -/
theorem recovery_claims_fenced (calls : List Call) : Fenced calls where
 epochs:=fun runId=>(tracks_run calls runId).epochs
 completedOnce:=fun runId=>(tracks_run calls runId).completed
 granted:=fun _ _ _ h=>granted_of_step (tracks_run calls) h
 completed:=fun _ _ _ h=>completed_of_step (tracks_run calls) h
 renewed:=fun _ _ _ _ h=>renewed_of_step (tracks_run calls) h

end GraphBlocks.Recovery
