import GraphBlocks.AsyncOperationModel

namespace GraphBlocks.AsyncOperations
open Std Json OrderedMap RustStd ToolSchemas AsyncOperationStore

/-- `accept_quarantined_callbacks_with_resume_decision` between two locked sections. -/
structure Replay where
 registry:ToolSchemaRegistry
 decision:AsyncCallbackResumeDecision
 waiting:List AsyncCallbackSubmission
 accepted:List AcceptedCallback
 resumeWinnerSeen:Bool
 firstError:Option AsyncOperationError

structure System where
 store:AsyncOperationStore
 replays:ExtTreeMap ℕ Replay

def System.new : System := ⟨AsyncOperationStore.new,∅⟩

inductive Action where
 | register (operation:AsyncOperation)
 | quarantine (submission:AsyncCallbackSubmission) (expiresAtUnixMs:ℕ)
 | accept (ingestion:Ingestion) (submission:AsyncCallbackSubmission)
   (registry:ToolSchemaRegistry) (decision:AsyncCallbackResumeDecision)
 | cancel (operationId:String) (cancelledAtUnixMs:ℕ)
 | expire (operationId:String) (expiredAtUnixMs:ℕ)
 | startReplay (replay:ℕ) (operationId:String) (registry:ToolSchemaRegistry)
   (decision:AsyncCallbackResumeDecision)
 | continueReplay (replay:ℕ)

inductive Response where
 | done
 | quarantined (callback:QuarantinedCallback)
 | accepted (callback:AcceptedCallback)
 | replayed (callbacks:List AcceptedCallback)
 | running

section
variable (d:StringDisplay) (sha256:List Char→String)

/-- What a replay returns when all its callbacks are submitted. -/
def Replay.result (replay:Replay) : Except AsyncOperationError Response :=
 match replay.accepted, replay.firstError with
 | [], some e=>.error e
 | accepted, _=>.ok (.replayed accepted)

/-- One round of the loop over the collected callbacks, or the return of the call. -/
def continueReplay (s:System) (id:ℕ) (replay:Replay) : Except AsyncOperationError Response×System :=
 match replay.waiting with
 | []=>(replay.result,{ s with replays:=s.replays.erase id })
 | submission::rest=>
  if replay.resumeWinnerSeen then
   let recorded:=
    s.store.recordCallbackRejected d sha256 submission "quarantined_callback_superseded"
   match recorded.1 with
   | .error e=>(.error e,⟨recorded.2,s.replays.erase id⟩)
   | .ok ()=>(.ok .running,⟨recorded.2,s.replays.insert id { replay with waiting:=rest }⟩)
  else
   let result:=s.store.acceptCallbackWithResumeDecision d sha256 submission replay.registry
    replay.decision
   match result.1 with
   | .error e=>
    (.ok .running,⟨result.2,s.replays.insert id
     { replay with waiting:=rest,firstError:=replay.firstError.or (some e) }⟩)
   | .ok accepted=>
    (.ok .running,⟨result.2,s.replays.insert id
     { replay with
       waiting:=rest,accepted:=replay.accepted++[accepted]
       resumeWinnerSeen:=accepted.shouldResume }⟩)

def step (s:System) : Action→Except AsyncOperationError Response×System
 | .register operation=>
  ((s.store.register operation).1.map fun _=>.done,
   { s with store:=(s.store.register operation).2 })
 | .quarantine submission expiresAt=>
  let result:=s.store.quarantineCallbackBeforeOperationCommit d sha256 submission expiresAt
  (result.1.map .quarantined,{ s with store:=result.2 })
 | .accept ingestion submission registry decision=>
  let result:=s.store.acceptCallbackBy d sha256 ingestion submission registry decision
  (result.1.map .accepted,{ s with store:=result.2 })
 | .cancel operationId cancelledAt=>
  ((s.store.cancelOperation operationId cancelledAt).1.map fun _=>.done,
   { s with store:=(s.store.cancelOperation operationId cancelledAt).2 })
 | .expire operationId expiredAt=>
  ((s.store.expireOperation operationId expiredAt).1.map fun _=>.done,
   { s with store:=(s.store.expireOperation operationId expiredAt).2 })
 | .startReplay id operationId registry decision=>
  -- the names of replays are fresh: a name in use starts nothing
  if s.replays.contains id then (.ok .running,s)
  else
   let drained:=s.store.drainQuarantinedCallbacks d sha256 operationId
   match drained.1 with
   | .error e=>(.error e,{ s with store:=drained.2 })
   | .ok submissions=>
    (.ok .running,⟨drained.2,s.replays.insert id ⟨registry,decision,submissions,[],false,none⟩⟩)
 | .continueReplay id=>
  match s.replays[id]? with
  | none=>(.ok .running,s)
  | some replay=>continueReplay d sha256 s id replay

/-- A callback on its way into the accepting section. -/
structure Attempt where
 ingestion:Ingestion
 submission:AsyncCallbackSubmission
 registry:ToolSchemaRegistry
 decision:AsyncCallbackResumeDecision

def Replay.attempt (replay:Replay) : Option Attempt :=
 match replay.waiting with
 | []=>none
 | submission::_=>
  if replay.resumeWinnerSeen then none
  else some ⟨.limited defaultMaxPayloadBytes,submission,replay.registry,replay.decision⟩

/-- The callback that a step submits, if it submits one. -/
def attemptOf (s:System) : Action→Option Attempt
 | .accept ingestion submission registry decision=>some ⟨ingestion,submission,registry,decision⟩
 | .continueReplay id=>(s.replays[id]?).bind Replay.attempt
 | _=>none

def Attempt.run (a:Attempt) (store:AsyncOperationStore) :
  Except AsyncOperationError AcceptedCallback×AsyncOperationStore :=
 store.acceptCallbackBy d sha256 a.ingestion a.submission a.registry a.decision

/-- The callbacks that the store accepts in a step; the caller of a replay sees them later. -/
def grantedBy (s:System) (action:Action) : List AcceptedCallback :=
 match attemptOf s action with
 | none=>[]
 | some a=>
  match (a.run d sha256 s.store).1 with
  | .error _=>[]
  | .ok accepted=>[accepted]
end

def returnedBy : Except AsyncOperationError Response→List AcceptedCallback
 | .ok (.accepted callback)=>[callback]
 | .ok (.replayed callbacks)=>callbacks
 | _=>[]

/-- Operations and receipts are the same; events and the quarantine may differ. -/
structure SameTables (store store':AsyncOperationStore) : Prop where
 operations:store'.operations=store.operations
 receipts:store'.receiptsByOperationAndIdempotency=store.receiptsByOperationAndIdempotency

lemma SameTables.refl(store:AsyncOperationStore):SameTables store store:=⟨rfl,rfl⟩

lemma reject_same(store:AsyncOperationStore)(submission:AsyncCallbackSubmission)
  (operationId digest reason:String):
  SameTables store (store.reject submission operationId digest reason):=⟨rfl,rfl⟩

def keyOf (submission:AsyncCallbackSubmission) : String×String :=
 (submission.operationId,submission.idempotencyKey)

variable {operation:AsyncOperation}

section
variable (d:StringDisplay) (sha256:List Char→String)

/-- What the admission checks establish. -/
structure Admitted (operation:AsyncOperation) (submission:AsyncCallbackSubmission)
  (registry:ToolSchemaRegistry) : Prop where
 runId:submission.runId=operation.runId
 nodeId:submission.nodeId=operation.nodeId
 attemptId:submission.attemptId=operation.attemptId
 providerOperationId:submission.providerOperationId=operation.providerOperationId
 schema:registry.validate operation.expectedSchema submission.payload=.ok ()
 state:operation.state=.waitingCallback∨operation.state.isTerminal=true
 inTime:operation.state=.waitingCallback →
  ∀t,operation.expiresAtUnixMs=some t→submission.receivedAtUnixMs<t

lemma admission_ok{submission:AsyncCallbackSubmission}{registry:ToolSchemaRegistry}{u:Unit}
  (h:admission operation submission registry=.ok u):Admitted operation submission registry:=by
 unfold admission at h
 obtain ⟨_,hrun,h⟩:=bind_ok.mp h
 obtain ⟨_,hnode,h⟩:=bind_ok.mp h
 obtain ⟨_,hattempt,h⟩:=bind_ok.mp h
 obtain ⟨_,hprovider,h⟩:=bind_ok.mp h
 obtain ⟨⟨⟩,hschema,h⟩:=bind_ok.mp h
 obtain ⟨_,hstate,htime⟩:=bind_ok.mp h
 refine ⟨(by simpa using ensure_ok.mp hrun:_=_).symm,(by simpa using ensure_ok.mp hnode:_=_).symm,
  (by simpa using ensure_ok.mp hattempt:_=_).symm,
  (by simpa using ensure_ok.mp hprovider:_=_).symm,?_,
  by simpa using ensure_ok.mp hstate,?_⟩
 · cases hvalid:registry.validate operation.expectedSchema submission.payload with
   | error e=>
    rw [hvalid] at hschema
    cases hschema
   | ok u=>rfl
 · intro hwaiting t ht
   have hnot:=ensure_ok.mp htime
   simp only [hwaiting,ht,Option.any_some,beq_self_eq_true,Bool.true_and,Bool.not_eq_true',
    decide_eq_false_iff_not] at hnot
   omega

inductive Accepts (store:AsyncOperationStore) (submission:AsyncCallbackSubmission)
  (registry:ToolSchemaRegistry) : AcceptedCallback→AsyncOperationStore→Prop
 | again {receipt:ExternalCallbackReceived}
   (stored:store.receiptsByOperationAndIdempotency[keyOf submission]?=some receipt)
   (same:callbackIdempotencyConflictField d sha256 receipt submission=.ok none) :
   Accepts store submission registry ⟨receipt,true,false⟩ store
 | late {operation:AsyncOperation} {digest:String} {artifacts:List CallbackArtifactRef}
   {store':AsyncOperationStore}
   (fresh:store.receiptsByOperationAndIdempotency[keyOf submission]?=none)
   (hash:canonicalHash d sha256 submission.payload=.ok digest)
   (found:store.operations[submission.operationId]?=some operation)
   (terminal:operation.state.isTerminal=true)
   (operations:store'.operations=store.operations)
   (receipts:store'.receiptsByOperationAndIdempotency =
    store.receiptsByOperationAndIdempotency.insert (keyOf submission)
     (receiptOf submission digest artifacts)) :
   Accepts store submission registry ⟨receiptOf submission digest artifacts,false,false⟩ store'
 | waiting {operation:AsyncOperation} {digest:String} {artifacts:List CallbackArtifactRef}
   {shouldResume:Bool} {store':AsyncOperationStore}
   (fresh:store.receiptsByOperationAndIdempotency[keyOf submission]?=none)
   (hash:canonicalHash d sha256 submission.payload=.ok digest)
   (found:store.operations[submission.operationId]?=some operation)
   (state:operation.state=.waitingCallback)
   (admitted:Admitted operation submission registry)
   (operations:store'.operations=store.operations.insert submission.operationId
    { operation with state:=.callbackReceived })
   (receipts:store'.receiptsByOperationAndIdempotency =
    store.receiptsByOperationAndIdempotency.insert (keyOf submission)
     (receiptOf submission digest artifacts)) :
   Accepts store submission registry
    ⟨receiptOf submission digest artifacts,false,shouldResume⟩ store'

variable {d sha256} {store:AsyncOperationStore} {submission:AsyncCallbackSubmission}
 {registry:ToolSchemaRegistry} {decision:AsyncCallbackResumeDecision}

/-- A refused callback leaves operations and receipts alone. -/
def AcceptSpec (d:StringDisplay) (sha256:List Char→String) (store:AsyncOperationStore)
  (submission:AsyncCallbackSubmission) (registry:ToolSchemaRegistry)
  (result:Except AsyncOperationError AcceptedCallback×AsyncOperationStore) : Prop :=
 match result.1 with
 | .error _=>SameTables store result.2
 | .ok accepted=>Accepts d sha256 store submission registry accepted result.2

lemma acceptValidatedCallback_spec(artifacts:List CallbackArtifactRef):
  AcceptSpec d sha256 store submission registry
   (store.acceptValidatedCallback d sha256 submission registry artifacts decision):=by
 unfold acceptValidatedCallback
 cases hhash:canonicalHash d sha256 submission.payload with
 | error e=>exact .refl store
 | ok digest=>
  cases hreceipt:store.receiptsByOperationAndIdempotency[
    (submission.operationId,submission.idempotencyKey)]? with
  | some receipt=>
   simp only [acceptAgain]
   cases hconflict:callbackIdempotencyConflictField d sha256 receipt submission with
   | error e=>exact .refl store
   | ok field=>
    cases field with
    | some field=>exact reject_same store submission _ _ _
    | none=>exact .again hreceipt hconflict
  | none=>
   simp only [acceptNew]
   cases hoperation:store.operations[submission.operationId]? with
   | none=>exact reject_same store submission _ _ _
   | some operation=>
    cases hadmission:admission operation submission registry with
    | error refusal=>
     simp only [hadmission]
     exact reject_same store submission _ _ _
    | ok u=>
     have hadmitted:=admission_ok hadmission
     simp only [hadmission]
     by_cases hterminal:operation.state.isTerminal=true
     · rw [if_pos hterminal]
       exact .late hreceipt hhash hoperation hterminal rfl rfl
     · rw [if_neg hterminal]
       have hstate:=hadmitted.state.resolve_right hterminal
       exact .waiting hreceipt hhash hoperation hstate hadmitted rfl rfl

lemma recordCallbackRejected_same(store:AsyncOperationStore)
  (submission:AsyncCallbackSubmission)(reason:String):
  SameTables store (store.recordCallbackRejected d sha256 submission reason).2:=by
 unfold recordCallbackRejected
 by_cases hknown:store.operations.contains submission.operationId=true
 · rw [if_pos hknown]
   cases canonicalHash d sha256 submission.payload with
   | error e=>exact .refl store
   | ok digest=>exact reject_same store submission _ _ _
 · rw [if_neg hknown]
   exact .refl store

lemma silently_ok{α:Type}{x:Except AsyncOperationError α}{a:α}:silently x=.ok a↔x=.ok a:=by
 cases x <;>simp [silently]

lemma enter_ok{ingestion:Ingestion}{entered:AsyncCallbackSubmission×List CallbackArtifactRef}:
  enter d submission ingestion decision=.ok entered ↔
   validateCallbackSubmissionIdentity submission=.ok ()∧decision.validate=.ok () ∧
   ensureCallbackSubmissionAuthenticated submission=.ok () ∧
   ingest d submission ingestion=.ok entered:=by
 have hmap:∀{x:Except AsyncOperationError Unit},
   x.mapError (EntryFailure.recorded "authentication_failed")=.ok ()↔x=.ok ():=by
  intro x
  cases x <;>simp [Except.mapError]
 simp only [enter,bind_ok,silently_ok,validateCallbackSubmissionAndResumeDecision]
 constructor
 · rintro ⟨⟨⟩,⟨⟨⟩,hidentity,hdecision⟩,⟨⟩,hauth,hingest⟩
   exact ⟨hidentity,hdecision,hmap.mp hauth,hingest⟩
 · rintro ⟨hidentity,hdecision,hauth,hingest⟩
   exact ⟨(),⟨(),hidentity,hdecision⟩,(),hmap.mpr hauth,hingest⟩

lemma run_entered{a:Attempt}{prepared:AsyncCallbackSubmission}{artifacts:List CallbackArtifactRef}
  (h:enter d a.submission a.ingestion a.decision=.ok (prepared,artifacts)):
  a.run d sha256 store =
   store.acceptValidatedCallback d sha256 prepared a.registry artifacts a.decision:=by
 rw [Attempt.run,acceptCallbackBy,h]
 rfl

lemma run_refused{a:Attempt}{failure:EntryFailure}
  (h:enter d a.submission a.ingestion a.decision=.error failure):
  (∃e,(a.run d sha256 store).1=.error e)∧SameTables store (a.run d sha256 store).2:=by
 rw [Attempt.run,acceptCallbackBy,h]
 cases failure with
 | silent e=>exact ⟨⟨e,rfl⟩,.refl store⟩
 | recorded reason e=>
  refine ⟨?_,recordCallbackRejected_same store a.submission reason⟩
  simp only [acceptEntered]
  cases (store.recordCallbackRejected d sha256 a.submission reason).1 with
  | error failure=>exact ⟨failure,rfl⟩
  | ok u=>exact ⟨e,rfl⟩

lemma run_spec(a:Attempt)(store:AsyncOperationStore):
  (∃e,(a.run d sha256 store).1=.error e∧SameTables store (a.run d sha256 store).2) ∨
  ∃accepted prepared artifacts,(a.run d sha256 store).1=.ok accepted ∧
   enter d a.submission a.ingestion a.decision=.ok (prepared,artifacts) ∧
   Accepts d sha256 store prepared a.registry accepted (a.run d sha256 store).2:=by
 cases hentered:enter d a.submission a.ingestion a.decision with
 | error failure=>
  have hrefused:(∃e,(a.run d sha256 store).1=.error e) ∧
    SameTables store (a.run d sha256 store).2:=run_refused hentered
  obtain ⟨⟨e,he⟩,hsame⟩:=hrefused
  exact .inl ⟨e,he,hsame⟩
 | ok entered=>
  obtain ⟨prepared,artifacts⟩:=entered
  have hspec:AcceptSpec d sha256 store prepared a.registry (store.acceptValidatedCallback
    d sha256 prepared a.registry artifacts a.decision):=acceptValidatedCallback_spec artifacts
  rw [run_entered hentered]
  unfold AcceptSpec at hspec
  cases hresult:(store.acceptValidatedCallback d sha256 prepared a.registry artifacts
    a.decision).1 with
  | error e=>
   rw [hresult] at hspec
   exact .inl ⟨e,rfl,hspec⟩
  | ok accepted=>
   rw [hresult] at hspec
   exact .inr ⟨accepted,prepared,artifacts,rfl,rfl,hspec⟩
end

section
variable (d:StringDisplay) (sha256:List Char→String)

inductive Effect (s:System) : Action→List AcceptedCallback →
  Except AsyncOperationError Response→AsyncOperationStore→Prop
 | same {action:Action} {response:Except AsyncOperationError Response}
   {store':AsyncOperationStore} (quiet:response ≠ .ok .done)
   (tables:SameTables s.store store') : Effect s action [] response store'
 | registered {operation:AsyncOperation} {store':AsyncOperationStore}
   (fresh:s.store.operations[operation.operationId]?=none)
   (operations:store'.operations=s.store.operations.insert operation.operationId operation)
   (receipts:store'.receiptsByOperationAndIdempotency=s.store.receiptsByOperationAndIdempotency) :
   Effect s (.register operation) [] (.ok .done) store'
 | ended {operationId:String} {occurredAt:ℕ} {operation:AsyncOperation}
   {target:AsyncOperationState} {action:Action} {store':AsyncOperationStore}
   (call:action=.cancel operationId occurredAt∨action=.expire operationId occurredAt)
   (found:s.store.operations[operationId]?=some operation)
   (live:isOver operation.state=false) (terminal:target.isTerminal=true)
   (operations:store'.operations=s.store.operations.insert operationId
    { operation with state:=target,completedAtUnixMs:=some occurredAt })
   (receipts:store'.receiptsByOperationAndIdempotency=s.store.receiptsByOperationAndIdempotency) :
   Effect s action [] (.ok .done) store'
 | accepted {action:Action} {a:Attempt} {callback:AcceptedCallback}
   {prepared:AsyncCallbackSubmission} {artifacts:List CallbackArtifactRef}
   {response:Except AsyncOperationError Response} {store':AsyncOperationStore}
   (quiet:response ≠ .ok .done) (attempt:attemptOf s action=some a)
   (entered:enter d a.submission a.ingestion a.decision=.ok (prepared,artifacts))
   (accepts:Accepts d sha256 s.store prepared a.registry callback store') :
   Effect s action [callback] response store'

variable {d sha256} {s:System} {operationId:String}

lemma cancelChecks_ok{cancelledAt:ℕ}{u:Unit}
  (h:cancelChecks operation operationId cancelledAt=.ok u):isOver operation.state=false:=by
 unfold cancelChecks at h
 obtain ⟨_,hlive,-⟩:=bind_ok.mp h
 simpa using ensure_ok.mp hlive

lemma expireChecks_ok{expiredAt:ℕ}{u:Unit}
  (h:expireChecks operation operationId expiredAt=.ok u):isOver operation.state=false:=by
 unfold expireChecks at h
 obtain ⟨_,hlive,-⟩:=bind_ok.mp h
 simpa using ensure_ok.mp hlive

variable {action:Action}

lemma finish_effect{checks:AsyncOperation→Except AsyncOperationError Unit}
  {target:AsyncOperationState}{occurredAt:ℕ}
  (hchecks:∀operation u,checks operation=.ok u→isOver operation.state=false)
  (hcall:action=.cancel operationId occurredAt∨action=.expire operationId occurredAt)
  (hterminal:target.isTerminal=true):
  Effect d sha256 s action []
   ((s.store.finish checks target operationId occurredAt).1.map fun _=>.done)
   (s.store.finish checks target operationId occurredAt).2:=by
 unfold finish
 cases hfound:s.store.operations[operationId]? with
 | none=>exact .same (by simp [Except.map]) (.refl _)
 | some operation=>
  cases hcase:checks operation with
  | error e=>
   simp only [hcase]
   exact .same (by simp [Except.map]) (.refl _)
  | ok u=>
   simp only [hcase]
   exact .ended hcall hfound (hchecks operation u hcase) hterminal rfl rfl

lemma register_effect(operation:AsyncOperation):Effect d sha256 s (.register operation) []
   ((s.store.register operation).1.map fun _=>.done) (s.store.register operation).2:=by
 unfold register
 cases hvalid:operation.validate with
 | error e=>exact .same (by simp [Except.map]) (.refl _)
 | ok u=>
  by_cases hknown:s.store.operations.contains operation.operationId=true
  · simp only [if_pos hknown]
    exact .same (by simp [Except.map]) (.refl _)
  · simp only [if_neg hknown]
    have hfresh:=(contains_eq_false_iff _).mp (Bool.eq_false_iff.mpr hknown)
    exact .registered hfresh rfl rfl

lemma quarantine_same(store:AsyncOperationStore)(submission:AsyncCallbackSubmission)
  (expiresAt:ℕ):SameTables store
   (store.quarantineCallbackBeforeOperationCommit d sha256 submission expiresAt).2:=by
 unfold quarantineCallbackBeforeOperationCommit
 cases quarantineChecks submission expiresAt with
 | error e=>exact .refl store
 | ok u=>
  by_cases hknown:store.operations.contains submission.operationId=true
  · simp only [if_pos hknown]
    exact .refl store
  · simp only [if_neg hknown]
    cases store.quarantinedCallbacks[(submission.operationId,submission.idempotencyKey)]? with
    | some existing=>exact .refl store
    | none=>exact ⟨rfl,rfl⟩

lemma drainLoop_same(operationId:String)(createdAt:ℕ)(keys:List (String×String))
  (submissions:List AsyncCallbackSubmission)(store:AsyncOperationStore):
  SameTables store (drainLoop d sha256 operationId createdAt keys submissions store).2:=by
 induction keys generalizing submissions store with
 | nil=>exact .refl store
 | cons key rest ih=>
  unfold drainLoop
  cases hrecord:store.quarantinedCallbacks[key]? with
  | none=>exact ih submissions store
  | some record=>
   by_cases hexpired:record.expiresAtUnixMs≤createdAt
   · simp only [if_pos hexpired]
     cases canonicalHash d sha256 record.submission.payload with
     | error e=>exact ⟨rfl,rfl⟩
     | ok digest=>exact ⟨(ih submissions _).operations,(ih submissions _).receipts⟩
   · simp only [if_neg hexpired]
     exact ⟨(ih _ _).operations,(ih _ _).receipts⟩

lemma drain_same(store:AsyncOperationStore)(operationId:String):
  SameTables store (store.drainQuarantinedCallbacks d sha256 operationId).2:=by
 unfold drainQuarantinedCallbacks
 cases store.operations[operationId]? with
 | none=>exact .refl store
 | some operation=>exact drainLoop_same operationId operation.createdAtUnixMs _ [] store

lemma attempt_effect{a:Attempt}(hattempt:attemptOf s action=some a)
  {response:Except AsyncOperationError Response}(hquiet:response ≠ .ok .done):
  Effect d sha256 s action (grantedBy d sha256 s action) response
   (a.run d sha256 s.store).2:=by
 have hrun:(∃e,(a.run d sha256 s.store).1=.error e∧SameTables s.store (a.run d sha256 s.store).2) ∨
   ∃accepted prepared artifacts,(a.run d sha256 s.store).1=.ok accepted ∧
    enter d a.submission a.ingestion a.decision=.ok (prepared,artifacts) ∧
    Accepts d sha256 s.store prepared a.registry accepted (a.run d sha256 s.store).2:=
  run_spec a s.store
 unfold grantedBy
 rw [hattempt]
 rcases hrun with ⟨e,he,hsame⟩|⟨callback,prepared,artifacts,hok,hentered,haccepts⟩
 · simp only [he]
   exact .same hquiet hsame
 · simp only [hok]
   exact .accepted hquiet hattempt hentered haccepts

lemma granted_none(h:attemptOf s action=none):grantedBy d sha256 s action=[]:=by
 simp [grantedBy,h]

lemma result_ne_done(replay:Replay):replay.result ≠ .ok .done:=by
 unfold Replay.result
 split <;>simp

lemma continueReplay_effect{id:ℕ}{replay:Replay}(hreplay:s.replays[id]?=some replay):
  Effect d sha256 s (.continueReplay id) (grantedBy d sha256 s (.continueReplay id))
   (continueReplay d sha256 s id replay).1 (continueReplay d sha256 s id replay).2.store:=by
 have hattempt:attemptOf s (.continueReplay id)=replay.attempt:=by simp [attemptOf,hreplay]
 unfold continueReplay
 cases hwaiting:replay.waiting with
 | nil=>
  rw [granted_none (by rw [hattempt];simp [Replay.attempt,hwaiting])]
  exact .same (result_ne_done replay) (.refl _)
 | cons submission rest=>
  by_cases hwinner:replay.resumeWinnerSeen=true
  · rw [granted_none (by rw [hattempt];simp [Replay.attempt,hwaiting,hwinner])]
    simp only [if_pos hwinner]
    cases hrecorded:(s.store.recordCallbackRejected d sha256 submission
      "quarantined_callback_superseded").1 with
    | error e=>exact .same (by simp) (recordCallbackRejected_same s.store submission _)
    | ok u=>exact .same (by simp) (recordCallbackRejected_same s.store submission _)
  · simp only [if_neg hwinner]
    have hsome:attemptOf s (.continueReplay id)=some ⟨.limited defaultMaxPayloadBytes,
      submission,replay.registry,replay.decision⟩:=by
     rw [hattempt]
     simp [Replay.attempt,hwaiting,hwinner]
    cases hresult:(s.store.acceptCallbackWithResumeDecision d sha256 submission
      replay.registry replay.decision).1 with
    | error e=>exact attempt_effect hsome (by simp)
    | ok callback=>exact attempt_effect hsome (by simp)

lemma map_ne_done{α:Type}{x:Except AsyncOperationError α}{f:α→Response}
  (h:∀a,f a ≠ .done):x.map f ≠ .ok .done:=by
 cases x with
 | error e=>simp [Except.map]
 | ok a=>
  intro hdone
  exact h a (by simpa [Except.map] using hdone)

lemma step_effect(s:System)(action:Action):
  Effect d sha256 s action (grantedBy d sha256 s action) (step d sha256 s action).1
   (step d sha256 s action).2.store:=by
 cases action with
 | register operation=>
  rw [granted_none rfl]
  simp only [step]
  exact register_effect operation
 | quarantine submission expiresAt=>
  rw [granted_none rfl]
  simp only [step]
  exact .same (map_ne_done (fun a=>by simp)) (quarantine_same s.store submission expiresAt)
 | accept ingestion submission registry decision=>
  have hattempt:attemptOf s (.accept ingestion submission registry decision) =
    some ⟨ingestion,submission,registry,decision⟩:=rfl
  simp only [step]
  exact attempt_effect hattempt (map_ne_done (fun a=>by simp))
 | cancel operationId cancelledAt=>
  rw [granted_none rfl]
  simp only [step]
  exact finish_effect (fun operation u=>cancelChecks_ok) (.inl rfl) rfl
 | expire operationId expiredAt=>
  rw [granted_none rfl]
  simp only [step]
  exact finish_effect (fun operation u=>expireChecks_ok) (.inr rfl) rfl
 | startReplay id operationId registry decision=>
  rw [granted_none rfl]
  unfold step
  by_cases hused:s.replays.contains id=true
  · simp only [if_pos hused]
    exact .same (by simp) (.refl _)
  · simp only [if_neg hused]
    have hsame:SameTables s.store (s.store.drainQuarantinedCallbacks d sha256 operationId).2:=
     drain_same s.store operationId
    cases hdrained:(s.store.drainQuarantinedCallbacks d sha256 operationId).1 with
    | error e=>exact .same (by simp) hsame
    | ok submissions=>exact .same (by simp) hsame
 | continueReplay id=>
  cases hreplay:s.replays[id]? with
  | none=>
   have hstep:step d sha256 s (.continueReplay id)=(.ok .running,s):=by simp only [step,hreplay]
   rw [granted_none (by simp [attemptOf,hreplay]),hstep]
   exact .same (by simp) (.refl _)
  | some replay=>
   have hstep:step d sha256 s (.continueReplay id)=continueReplay d sha256 s id replay:=by
    simp only [step,hreplay]
   rw [hstep]
   exact continueReplay_effect hreplay
end
end GraphBlocks.AsyncOperations
