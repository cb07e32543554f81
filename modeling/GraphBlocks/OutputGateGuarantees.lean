import GraphBlocks.OutputGateDecisions

namespace GraphBlocks.OutputPolicy
open OrderedMap RustStd MachineRuns OutputDeliveryGate List Std.ExtTreeMap

def OutputDeliveryGate.withTurn (g:OutputDeliveryGate) : Option String→OutputDeliveryGate
 | none=>g
 | some turnId=>g.withTurnId turnId

def buildGate (streamId responseId:String) (turnId:Option String)
  (policy:OutputDeliveryPolicy) : Except OutputGateError OutputDeliveryGate := do
 let gate ← (new streamId responseId).withDeliveryPolicy policy
 .ok (gate.withTurn turnId)

def OutputDeliveryGate.restored (g:OutputDeliveryGate) :
  Except OutputGateError OutputDeliveryGate :=
 fromStateWithDeliveryPolicy g.streamId g.responseId g.pendingChunks g.lastGeneratedSequence
  g.lastPolicyAcceptedSequence g.lastClientDeliveredSequence g.deliveryPolicy

/-- All chunks handed to the client over a run. -/
def returnedChunks (past:List (Transition OutputDeliveryGate Call
  (Except OutputGateError Response))) : List GenerationChunk :=
 past.flatMap fun t=>deliveredBy t.response

lemma Holds_empty(n:ℕ):¬Holds (∅:Pending) n:=by
 rintro ⟨chunk,h⟩
 simp at h

variable {g:OutputDeliveryGate}

lemma validateIdentity_ok{u:Unit}(h:g.validateIdentity=.ok u):
  isBlank g.streamId=false∧isBlank g.responseId=false:=by
 unfold validateIdentity at h
 obtain ⟨_,hstream,h⟩:=bind_ok.mp h
 obtain ⟨_,hresponse,-⟩:=bind_ok.mp h
 exact ⟨by simpa using ensure_ok.mp hstream,by simpa using ensure_ok.mp hresponse⟩

variable {streamId responseId:String} {policy:OutputDeliveryPolicy}

lemma withDeliveryPolicy_eq(h:(new streamId responseId).withDeliveryPolicy policy=.ok g):
  isBlank streamId=false∧isBlank responseId=false∧policy.validate=.ok () ∧
   g = { new streamId responseId with deliveryPolicy:=policy }:=by
 unfold withDeliveryPolicy at h
 obtain ⟨_,hidentity,h⟩:=bind_ok.mp h
 obtain ⟨⟨⟩,hpolicy,h⟩:=bind_ok.mp h
 obtain ⟨hstream,hresponse⟩:=validateIdentity_ok hidentity
 cases h
 refine ⟨hstream,hresponse,?_,rfl⟩
 cases hvalid:policy.validate with
 | error e=>
  rw [hvalid] at hpolicy
  cases hpolicy
 | ok u=>rfl

lemma buildGate_eq{turnId:Option String}(h:buildGate streamId responseId turnId policy=.ok g):
  isBlank streamId=false∧isBlank responseId=false∧policy.validate=.ok () ∧
   g=⟨streamId,responseId,turnId,policy,∅,0,0,0,none⟩:=by
 unfold buildGate at h
 obtain ⟨gate,hgate,h⟩:=bind_ok.mp h
 obtain ⟨hstream,hresponse,hpolicy,rfl⟩:=withDeliveryPolicy_eq hgate
 cases h
 refine ⟨hstream,hresponse,hpolicy,?_⟩
 cases turnId with
 | none=>rfl
 | some turnId=>rfl

lemma Sound.initial (turnId:Option String) (hstream:isBlank streamId=false)
  (hresponse:isBlank responseId=false) (hpolicy:policy.validate=.ok ()) :
  Sound ⟨streamId,responseId,turnId,policy,∅,0,0,0,none⟩ where
 streamId:=hstream
 responseId:=hresponse
 policy:=hpolicy
 generated_lt:=Nat.two_pow_pos 64
 delivered_le:=le_rfl
 accepted_le:=le_rfl
 held_back _:=le_rfl
 immediate _:=rfl
 keys _ n:=by
  constructor
  · intro h
    exact absurd h (Holds_empty n)
  · intro h
    simp only at h
    omega
 chunks n chunk h:=by simp at h

section
variable {g:OutputDeliveryGate}

lemma restorePending_ok{generated delivered:ℕ}{entries:List (ℕ×GenerationChunk)}{pending:Pending}
  (hchunks:∀e∈entries,e.2.sequence=e.1∧checkChunk e.2=.ok () ∧
   g.checkOwnChunk e.2=.ok ()∧delivered<e.1∧e.1≤generated)
  (hdistinct:(entries.map Prod.fst).Nodup)
  (hfresh:∀e∈entries,pending.contains e.1=false):
  g.restorePending generated delivered (entries.map Prod.snd) pending =
   .ok (pending.insertMany entries):=by
 induction entries generalizing pending with
 | nil=>rfl
 | cons entry rest ih=>
  obtain ⟨n,chunk⟩:=entry
  obtain ⟨hsequence,hvalid,hown,hlow,hhigh⟩:=hchunks (n,chunk) (by simp)
  have hnew:=hfresh (n,chunk) (by simp)
  simp only at hsequence hvalid hown hlow hhigh hnew
  simp only [map_cons,nodup_cons] at hdistinct
  simp only [map_cons,restorePending,hsequence,hvalid,hown,ok_bind,hnew,hlow,hhigh,
   decide_true,ensure,Bool.not_false,if_true]
  rw [insertMany_cons]
  apply ih (fun e he=>hchunks e (mem_cons_of_mem _ he)) hdistinct.2
  intro e he
  have hne:n≠e.1:=by
   rintro rfl
   exact hdistinct.1 (mem_map_of_mem he)
  rw [contains_eq_false_iff,lookup_insert_ne _ _ hne,←contains_eq_false_iff]
  exact hfresh e (mem_cons_of_mem _ he)

lemma ensureAll_ok{α:Type}{check:α→Bool}{error:α→OutputGateError}{l:List α}
  (h:∀a∈l,check a=true):ensureAll check error l=.ok ():=by
 induction l with
 | nil=>rfl
 | cons a rest ih=>
  rw [ensureAll,if_pos (h a (by simp))]
  exact ih fun b hb=>h b (mem_cons_of_mem _ hb)

lemma Sound.checkChunk(h:Sound g)(hopen:g.stopped=none){n:ℕ}{chunk:GenerationChunk}
  (hchunk:g.pending[n]?=some chunk):
  chunk.sequence=n∧OutputPolicy.checkChunk chunk=.ok ()∧g.checkOwnChunk chunk=.ok () ∧
   g.lastClientDeliveredSequence<n∧n≤g.lastGeneratedSequence:=by
 obtain ⟨hsequence,hstream,hresponse⟩:=h.chunks n chunk hchunk
 obtain ⟨hlow,hhigh⟩:=(h.keys hopen n).mp ⟨chunk,hchunk⟩
 have hne:chunk.sequence≠0:=by omega
 refine ⟨hsequence,?_,?_,hlow,hhigh⟩
 · simp [OutputPolicy.checkChunk,GenerationChunk.validate,ensure,hstream,hresponse,hne,
    h.streamId,h.responseId,Except.mapError,bind,Except.bind]
 · simp [checkOwnChunk,ensure,hstream,hresponse,bind,Except.bind]

lemma Sound.restored(h:Sound g)(hopen:g.stopped=none):g.restored=.ok { g with turnId:=none }:=by
 have hbuilt:(new g.streamId g.responseId).withDeliveryPolicy g.deliveryPolicy =
   .ok { new g.streamId g.responseId with deliveryPolicy:=g.deliveryPolicy }:=by
  simp [withDeliveryPolicy,validateIdentity,ensure,new,h.streamId,h.responseId,h.policy,
   Except.mapError,bind,Except.bind]
 have hidentity:validateIdentity
   { new g.streamId g.responseId with deliveryPolicy:=g.deliveryPolicy }=.ok ():=by
  simp [validateIdentity,ensure,new,h.streamId,h.responseId,bind,Except.bind]
 have hheld:(g.lastClientDeliveredSequence≤g.lastPolicyAcceptedSequence) ∨
   g.deliveryPolicy.mode=.immediateDraft:=by
  by_cases hmode:g.deliveryPolicy.mode=.immediateDraft
  · exact .inr hmode
  · exact .inl (h.held_back hmode)
 have hpending:restorePending
   { new g.streamId g.responseId with deliveryPolicy:=g.deliveryPolicy }
   g.lastGeneratedSequence g.lastClientDeliveredSequence g.pendingChunks ∅=.ok g.pending:=by
  unfold pendingChunks
  rw [restorePending_ok,←ofList_eq_insertMany_empty,ofList_toList]
  · rintro ⟨n,chunk⟩ he
    have hchunk:=mem_toList_iff_getElem?_eq_some.mp he
    obtain ⟨hsequence,hvalid,hown,hlow,hhigh⟩:=h.checkChunk hopen hchunk
    exact ⟨hsequence,hvalid,hown,hlow,hhigh⟩
  · exact nodup_keys_toList g.pending
  · intro e he
    simp
 have hcomplete:ensureAll (fun sequence=>g.pending.contains sequence)
   OutputGateError.missingPendingChunk
   (sequencesAfter g.lastClientDeliveredSequence g.lastGeneratedSequence)=.ok ():=by
  apply ensureAll_ok
  intro n hn
  rw [OrderedMap.contains_iff]
  exact (h.keys hopen n).mpr (mem_sequencesAfter.mp hn)
 simp only [OutputDeliveryGate.restored,fromStateWithDeliveryPolicy,hbuilt,hidentity,hpending,
  hcomplete,ok_bind,ensure,h.accepted_le,h.delivered_le,decide_true,if_true]
 rw [if_pos (by simpa using hheld)]
 simp [ok_bind,new,hopen]

lemma withTurn_restored(hopen:g.stopped=none){turn:Option String}
  (hturn:g.turnId=turn):OutputDeliveryGate.withTurn { g with turnId:=none } turn=g:=by
 subst hturn
 obtain ⟨streamId,responseId,turnId,policy,pending,generated,accepted,delivered,stopped⟩:=g
 cases turnId with
 | none=>rfl
 | some turnId=>
  simp only at hopen
  rw [hopen]
  rfl
end

section
variable {g:OutputDeliveryGate}

lemma step_stopped(h:g.stopped≠none)(call:Call):
  deliveredBy (step g call).1=[]∧(step g call).2=g:=by
 have hsome:g.stopped.isSome=true:=by
  rw [Option.isSome_iff_ne_none]
  exact h
 cases call with
 | recordChunk chunk=>
  have hchecks:∃e,g.recordChecks chunk=.error e:=by
   cases hcase:g.recordChecks chunk with
   | error e=>exact ⟨e,rfl⟩
   | ok u=>
    unfold recordChecks at hcase
    obtain ⟨_,-,hcase⟩:=bind_ok.mp hcase
    obtain ⟨_,-,hcase⟩:=bind_ok.mp hcase
    obtain ⟨_,hopen,-⟩:=bind_ok.mp hcase
    exact absurd (by simpa using ensure_ok.mp hopen) h
  obtain ⟨e,he⟩:=hchecks
  simp [step,recordChunk,he,Except.map,deliveredBy]
 | applyDecision decision occurredAt=>
  have hchecks:∃e,g.decisionChecks decision occurredAt=.error e:=by
   cases hcase:g.decisionChecks decision occurredAt with
   | error e=>exact ⟨e,rfl⟩
   | ok u=>exact absurd (decisionChecks_ok hcase).1 h
  obtain ⟨e,he⟩:=hchecks
  simp [step,applyDecision,he,Except.map,deliveredBy]
 | commitAcceptedOutput=>
  simp [step,commitAcceptedOutput,releaseAcceptedOutput,hsome,deliveredBy,Response.deliverable]

lemma run_stopped(h:g.stopped≠none)(later:List Call):
  returnedChunks (history step g later)=[]∧execute step g later=g:=by
 induction later with
 | nil=>exact ⟨rfl,rfl⟩
 | cons call later ih=>
  obtain ⟨hnone,hsame⟩:=step_stopped h call
  rw [execute_cons,hsame]
  refine ⟨?_,ih.2⟩
  simpa [returnedChunks,history,takeStep,hsame,hnone] using ih.1
end

/-- What a run has handed out so far, beside the invariant. -/
structure Delivered (start:OutputDeliveryGate) (past:List (Transition OutputDeliveryGate Call
  (Except OutputGateError Response))) (g:OutputDeliveryGate) : Prop where
 same:SameGate start g
 sound:Sound g
 returned:(returnedChunks past).map GenerationChunk.sequence =
  sequencesAfter 0 g.lastClientDeliveredSequence

lemma Delivered.step{start:OutputDeliveryGate}
  {past:List (Transition OutputDeliveryGate Call (Except OutputGateError Response))}
  (h:Delivered start past g)(call:Call):
  Delivered start (past++[takeStep OutputPolicy.step g call]) (OutputPolicy.step g call).2:=by
 have hstep:=h.sound.step call
 refine ⟨h.same.trans hstep.same,hstep.sound,?_⟩
 have hreturned:returnedChunks (past++[takeStep OutputPolicy.step g call]) =
   returnedChunks past++deliveredBy (OutputPolicy.step g call).1:=by
  simp [returnedChunks,takeStep]
 rw [hreturned,map_append,h.returned,hstep.handed,
  sequencesAfter_append (Nat.zero_le _) hstep.delivered_le]

lemma run_delivered(h:Sound g)(hzero:g.lastClientDeliveredSequence=0)
  (calls:List Call):Delivered g (history step g calls) (execute step g calls):=by
 apply history_invariant step (P:=Delivered g)
 · exact ⟨.refl g,h,by rw [hzero,sequencesAfter_self];rfl⟩
 · intro past t call ht
   exact ht.step call

/-- Over every run the gate hands out the sequences `1 ..` once and in order, never ahead of the
policy and never after a stop; it is restored from its pending chunks and counters, and is the
same gate again once it is given its turn id. -/
theorem gate_delivers_once_in_order {streamId responseId : String} {turnId : Option String}
  {policy : OutputDeliveryPolicy} {g : OutputDeliveryGate}
  (hbuilt : buildGate streamId responseId turnId policy=.ok g) (calls : List Call) :
  let past := history step g calls
  let reached:=execute step g calls
  (reached.stopped=none → ∀n,reached.pending.contains n=true ↔
   reached.lastClientDeliveredSequence<n∧n≤reached.lastGeneratedSequence) ∧
  reached.lastClientDeliveredSequence≤reached.lastGeneratedSequence ∧
  reached.lastPolicyAcceptedSequence≤reached.lastGeneratedSequence ∧
  (returnedChunks past).map GenerationChunk.sequence =
   List.range' 1 reached.lastClientDeliveredSequence ∧
  (policy.mode ≠ .immediateDraft →
   reached.lastClientDeliveredSequence≤reached.lastPolicyAcceptedSequence) ∧
  (reached.stopped≠none → ∀later,returnedChunks (history step reached later)=[]) ∧
  (reached.stopped=none → ∃restored,reached.restored=.ok restored ∧
   ∀later,history step (restored.withTurn turnId) later=history step reached later) := by
 obtain ⟨hstream,hresponse,hpolicy,rfl⟩:=buildGate_eq hbuilt
 have hrun:=run_delivered (Sound.initial turnId hstream hresponse hpolicy) rfl calls
 intro past reached
 have hmode:reached.deliveryPolicy=policy:=hrun.same.policy
 have hturn:reached.turnId=turnId:=hrun.same.turnId
 refine ⟨?_,hrun.sound.delivered_le,hrun.sound.accepted_le,?_,?_,?_,?_⟩
 · intro hopen n
   rw [OrderedMap.contains_iff]
   exact hrun.sound.keys hopen n
 · rw [hrun.returned]
   rfl
 · intro hne
   rw [←hmode] at hne
   exact hrun.sound.held_back hne
 · intro hstopped later
   exact (run_stopped hstopped later).1
 · intro hopen
   refine ⟨_,hrun.sound.restored hopen,?_⟩
   intro later
   exact congrArg (fun gate=>history step gate later) (withTurn_restored hopen hturn)

def plainDecision (disposition:OutputDisposition) (accepted:Option ℕ) : OutputPolicyDecision where
 decisionId := "decision-1"
 disposition
 acceptedThroughSequence:=accepted
 replacementChunks:=[]
 redactions:=[]
 reasonCodes:=[]
 policyRefs:=[]
 providerCancellation:=.none
 draftDisposition:=.retract
 pendingToolCalls:=.keep
 evaluatedAtUnixMs:=none
 inputDigest := "sha256:1"

def turnGate : OutputDeliveryGate := ⟨"stream-1","response-1",some "turn-1",.standard,∅,0,0,0,none⟩

def chunkOf (sequence:ℕ) : GenerationChunk := ⟨"stream-1","response-1",sequence,"text"⟩

theorem turnGate_delivers_two :
  buildGate "stream-1" "response-1" (some "turn-1") .standard=.ok turnGate ∧
  (returnedChunks (history step turnGate [.recordChunk (chunkOf 1),.recordChunk (chunkOf 2),
   .recordChunk (chunkOf 3),.applyDecision (plainDecision .allow (some 2)) 1])).map
    GenerationChunk.sequence=[1,2] := by
 have hbuilt:buildGate "stream-1" "response-1" (some "turn-1") .standard=.ok turnGate:=rfl
 have hdelivered:(execute step turnGate [.recordChunk (chunkOf 1),.recordChunk (chunkOf 2),
   .recordChunk (chunkOf 3),.applyDecision (plainDecision .allow (some 2)) 1]
    ).lastClientDeliveredSequence=2:=by
  decide +kernel
 refine ⟨hbuilt,?_⟩
 have h:=(gate_delivers_once_in_order hbuilt [.recordChunk (chunkOf 1),.recordChunk (chunkOf 2),
  .recordChunk (chunkOf 3),.applyDecision (plainDecision .allow (some 2)) 1]).2.2.2.1
 rw [hdelivered] at h
 exact h

/-- The restored gate has no turn id, so its cutoff differs from that of the gate it is of. -/
theorem restored_gate_loses_turn :
  buildGate "stream-1" "response-1" (some "turn-1") .standard=.ok turnGate ∧
  turnGate.stopped=none ∧
  ¬ ∃restored,turnGate.restored=.ok restored ∧
   (step restored (.applyDecision (plainDecision .abortResponse none) 1)).1 =
    (step turnGate (.applyDecision (plainDecision .abortResponse none) 1)).1 := by
 refine ⟨rfl,rfl,?_⟩
 rintro ⟨restored,hrestored,hsame⟩
 have hsound:Sound turnGate:=Sound.initial (some "turn-1") rfl rfl rfl
 rw [hsound.restored rfl] at hrestored
 cases hrestored
 revert hsame
 decide +kernel

end GraphBlocks.OutputPolicy
