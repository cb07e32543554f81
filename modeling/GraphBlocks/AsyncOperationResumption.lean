import GraphBlocks.AsyncOperationSteps
import GraphBlocks.SerdeInstance

namespace GraphBlocks.AsyncOperations
open Std Json CanonicalJson OrderedMap RustStd StoredJson ToolSchemas AsyncOperationStore List
open MachineRuns

section
variable (d:StringDisplay) (sha256:List Char→String)

abbrev Past := List (Transition System Action (Except AsyncOperationError Response))

def grants (past:Past) : List AcceptedCallback :=
 past.flatMap fun t=>grantedBy d sha256 t.before t.call

def returned (past:Past) : List AcceptedCallback := past.flatMap fun t=>returnedBy t.response

def resumes (operationId:String) (callback:AcceptedCallback) : Bool :=
 callback.shouldResume&&callback.receipt.operationId==operationId

/-- The callbacks of a kind that replays hold and have not returned. -/
def inFlight (P:AcceptedCallback→Bool) (replays:ExtTreeMap ℕ Replay) : ℕ :=
 sumOf (fun _ replay=>replay.accepted.countP P) replays

variable {d sha256} {s:System} {replays:ExtTreeMap ℕ Replay} {id:ℕ} {replay:Replay}

lemma inFlight_insert(P:AcceptedCallback→Bool)(replay':Replay)(h:replays[id]?=some replay):
  inFlight P (replays.insert id replay')+replay.accepted.countP P =
   inFlight P replays+replay'.accepted.countP P:=
 sumOf_insert_bound (fun _ r=>r.accepted.countP P) replay' h

lemma inFlight_erase(P:AcceptedCallback→Bool)(h:replays[id]?=some replay):
  replay.accepted.countP P+inFlight P (replays.erase id)=inFlight P replays:=
 sumOf_erase_bound (fun _ r=>r.accepted.countP P) h

lemma inFlight_insert_fresh(P:AcceptedCallback→Bool)(h:replays[id]?=none):
  inFlight P (replays.insert id replay)=replay.accepted.countP P+inFlight P replays:=
 sumOf_insert_fresh (fun (_:ℕ) (r:Replay)=>r.accepted.countP P) replay h

lemma returnedBy_result(replay:Replay):returnedBy replay.result=replay.accepted:=by
 unfold Replay.result
 cases hcase:replay.accepted with
 | nil=>
  cases replay.firstError with
  | none=>rfl
  | some e=>rfl
 | cons a rest=>rfl

variable {a:Attempt} {action:Action} {store':AsyncOperationStore}

lemma grantedBy_error{e:AsyncOperationError}(hattempt:attemptOf s action=some a)
  (hrun:(a.run d sha256 s.store).1=.error e):grantedBy d sha256 s action=[]:=by
 simp only [grantedBy,hattempt,hrun]

lemma grantedBy_ok{accepted:AcceptedCallback}(hattempt:attemptOf s action=some a)
  (hrun:(a.run d sha256 s.store).1=.ok accepted):grantedBy d sha256 s action=[accepted]:=by
 simp only [grantedBy,hattempt,hrun]

lemma continueReplay_counts(P:AcceptedCallback→Bool)(hreplay:s.replays[id]?=some replay):
  (returnedBy (continueReplay d sha256 s id replay).1).countP P +
    inFlight P (continueReplay d sha256 s id replay).2.replays ≤
   inFlight P s.replays+(grantedBy d sha256 s (.continueReplay id)).countP P:=by
 have hattempt:attemptOf s (.continueReplay id)=replay.attempt:=by simp [attemptOf,hreplay]
 have herase:=inFlight_erase P hreplay
 unfold continueReplay
 cases hwaiting:replay.waiting with
 | nil=>
  simp only [returnedBy_result]
  omega
 | cons submission rest=>
  by_cases hwinner:replay.resumeWinnerSeen=true
  · simp only [if_pos hwinner]
    cases (s.store.recordCallbackRejected d sha256 submission
      "quarantined_callback_superseded").1 with
    | error e=>
     simp only [returnedBy,countP_nil]
     omega
    | ok u=>
     have hinsert:=inFlight_insert P { replay with waiting:=rest } hreplay
     simp only [returnedBy,countP_nil]
     simp only at hinsert
     omega
  · simp only [if_neg hwinner]
    have hsubmitted:attemptOf s (.continueReplay id)=some ⟨.limited defaultMaxPayloadBytes,
      submission,replay.registry,replay.decision⟩:=by
     rw [hattempt,Replay.attempt,hwaiting]
     exact if_neg hwinner
    cases haccept:(s.store.acceptCallbackWithResumeDecision d sha256 submission replay.registry
      replay.decision).1 with
    | error e=>
     rw [grantedBy_error hsubmitted haccept]
     have hinsert:=inFlight_insert P
      { replay with waiting:=rest,firstError:=replay.firstError.or (some e) } hreplay
     simp only [returnedBy,countP_nil]
     simp only at hinsert
     omega
    | ok accepted=>
     rw [grantedBy_ok hsubmitted haccept]
     have hinsert:=inFlight_insert P { replay with
      waiting:=rest,accepted:=replay.accepted++[accepted]
      resumeWinnerSeen:=accepted.shouldResume } hreplay
     simp only [countP_append] at hinsert
     simp only [returnedBy,countP_nil]
     omega

lemma step_counts(P:AcceptedCallback→Bool)(s:System)(action:Action):
  (returnedBy (step d sha256 s action).1).countP P+inFlight P (step d sha256 s action).2.replays ≤
   inFlight P s.replays+(grantedBy d sha256 s action).countP P:=by
 cases action with
 | register operation=>
  simp only [step]
  cases (s.store.register operation).1 <;>simp [returnedBy,Except.map]
 | quarantine submission expiresAt=>
  simp only [step]
  cases (s.store.quarantineCallbackBeforeOperationCommit d sha256 submission expiresAt).1 <;>
   simp [returnedBy,Except.map]
 | accept ingestion submission registry decision=>
  simp only [step]
  cases haccept:(s.store.acceptCallbackBy d sha256 ingestion submission registry decision).1 with
  | error e=>simp [returnedBy,Except.map]
  | ok accepted=>
   have hattempt:attemptOf s (.accept ingestion submission registry decision) =
     some ⟨ingestion,submission,registry,decision⟩:=rfl
   rw [grantedBy_ok hattempt haccept]
   simp only [returnedBy,Except.map]
   omega
 | cancel operationId cancelledAt=>
  simp only [step]
  cases (s.store.cancelOperation operationId cancelledAt).1 <;>simp [returnedBy,Except.map]
 | expire operationId expiredAt=>
  simp only [step]
  cases (s.store.expireOperation operationId expiredAt).1 <;>simp [returnedBy,Except.map]
 | startReplay id operationId registry decision=>
  simp only [step]
  by_cases hused:s.replays.contains id=true
  · simp only [if_pos hused,returnedBy,countP_nil]
    omega
  · simp only [if_neg hused]
    have hfree:=(contains_eq_false_iff _).mp (Bool.eq_false_iff.mpr hused)
    cases (s.store.drainQuarantinedCallbacks d sha256 operationId).1 with
    | error e=>simp [returnedBy]
    | ok submissions=>
     simp only [returnedBy,countP_nil]
     rw [inFlight_insert_fresh P hfree]
     simp only [countP_nil]
     omega
 | continueReplay id=>
  cases hreplay:s.replays[id]? with
  | none=>
   have hstep:step d sha256 s (.continueReplay id)=(.ok .running,s):=by simp only [step,hreplay]
   rw [hstep]
   simp [returnedBy]
  | some replay=>
   have hstep:step d sha256 s (.continueReplay id)=continueReplay d sha256 s id replay:=by
    simp only [step,hreplay]
   rw [hstep]
   exact continueReplay_counts P hreplay

lemma run_counts(P:AcceptedCallback→Bool)(actions:List Action):
  (returned (history (step d sha256) System.new actions)).countP P +
    inFlight P (execute (step d sha256) System.new actions).replays ≤
   (grants d sha256 (history (step d sha256) System.new actions)).countP P:=by
 apply history_invariant (step d sha256) (P:=fun past s=>
  (returned past).countP P+inFlight P s.replays≤(grants d sha256 past).countP P)
 · simp [returned,grants,inFlight,System.new]
 · intro past t action h
   have hstep:(returnedBy (step d sha256 t action).1).countP P +
     inFlight P (step d sha256 t action).2.replays ≤
    inFlight P t.replays+(grantedBy d sha256 t action).countP P:=step_counts P t action
   simp only [returned,grants,flatMap_append,flatMap_cons,flatMap_nil,
    append_nil,countP_append,takeStep] at h ⊢
   omega

structure Resumed (past:Past) (t:Transition System Action (Except AsyncOperationError Response))
  (callback:AcceptedCallback) (a:Attempt) (operation:AsyncOperation) : Prop where
 attempt:attemptOf t.before t.call=some a
 registered:∃r∈past,r.call=.register operation∧r.response=.ok .done
 operationId:callback.receipt.operationId=operation.operationId
 found:t.before.store.operations[operation.operationId]?=some operation
 waiting:operation.state=.waitingCallback
 runId:callback.receipt.runId=operation.runId
 nodeId:callback.receipt.nodeId=operation.nodeId
 attemptId:callback.receipt.attemptId=operation.attemptId
 providerOperationId:callback.receipt.providerOperationId=operation.providerOperationId
 schema:a.registry.validate operation.expectedSchema callback.receipt.payload=.ok ()
 inTime:∀t,operation.expiresAtUnixMs=some t→callback.receipt.receivedAtUnixMs<t

def Keeps (d:StringDisplay) (sha256:List Char→String) (store:AsyncOperationStore)
  (a:Attempt) (receipt:ExternalCallbackReceived) : Prop :=
 ∃prepared artifacts,enter d a.submission a.ingestion a.decision=.ok (prepared,artifacts) ∧
  store.receiptsByOperationAndIdempotency[keyOf prepared]?=some receipt ∧
  callbackIdempotencyConflictField d sha256 receipt prepared=.ok none

def Ends (operationId:String)
  (t:Transition System Action (Except AsyncOperationError Response)) : Prop :=
 (∃occurredAt,t.call=.cancel operationId occurredAt∨t.call=.expire operationId occurredAt) ∧
  t.response=.ok .done

/-- Only the operations and the callbacks accepted so far matter for the count of resumptions. -/
structure Counted (past:Past) (operations:StringMap AsyncOperation)
  (granted:List AcceptedCallback) : Prop where
 own:∀(id:String) operation,operations[id]?=some operation → operation.operationId=id
 registered:∀(id:String) operation,operations[id]?=some operation →
  operation.state=.waitingCallback →
  ∃r∈past,r.call=.register operation∧r.response=.ok .done
 once:∀id,granted.countP (resumes id)≤1
 spent:∀id,0<granted.countP (resumes id) →
  ∃operation,operations[id]?=some operation∧operation.state=.callbackReceived
 ended:∀id,(∃t∈past,Ends id t) → granted.countP (resumes id)=0 ∧
  ∃operation,operations[id]?=some operation∧operation.state.isTerminal=true

structure Sound (d:StringDisplay) (sha256:List Char→String) (past:Past) (s:System) : Prop where
 counted:Counted past s.store.operations (grants d sha256 past)
 resumed:∀t∈past,∀callback∈grantedBy d sha256 t.before t.call,
  callback.shouldResume=true → ∃a operation,Resumed past t callback a operation
 kept:∀t∈past,∀a callback,attemptOf t.before t.call=some a →
  (a.run d sha256 t.before.store).1=.ok callback→Keeps d sha256 s.store a callback.receipt

variable {t:Transition System Action (Except AsyncOperationError Response)}
 {callback:AcceptedCallback} {operation:AsyncOperation}

lemma Resumed.mono{past past':Past}(hsub:∀t∈past,t∈past')
  (h:Resumed past t callback a operation):Resumed past' t callback a operation:=by
 obtain ⟨r,hr,hregister⟩:=h.registered
 exact { h with registered:=⟨r,hsub r hr,hregister⟩ }

def ReceiptsKept (store store':AsyncOperationStore) : Prop :=
 ∀(key:String×String) receipt,store.receiptsByOperationAndIdempotency[key]?=some receipt →
  store'.receiptsByOperationAndIdempotency[key]?=some receipt

variable {store:AsyncOperationStore} {receipt:ExternalCallbackReceived}

lemma Keeps.mono(hkept:ReceiptsKept store store')
  (h:Keeps d sha256 store a receipt):Keeps d sha256 store' a receipt:=by
 obtain ⟨prepared,artifacts,hentered,hstored,hsame⟩:=h
 exact ⟨prepared,artifacts,hentered,hkept _ _ hstored,hsame⟩

lemma ReceiptsKept.insert{key:String×String}
  (fresh:store.receiptsByOperationAndIdempotency[key]?=none)
  (h:store'.receiptsByOperationAndIdempotency =
   store.receiptsByOperationAndIdempotency.insert key receipt):ReceiptsKept store store':=by
 intro key' receipt' hstored
 have hne:key≠key':=by
  rintro rfl
  rw [fresh] at hstored
  cases hstored
 rw [h,lookup_insert_ne _ _ hne]
 exact hstored

variable {submission:AsyncCallbackSubmission} {registry:ToolSchemaRegistry}

lemma Accepts.receiptsKept
  (h:Accepts d sha256 store submission registry callback store'):ReceiptsKept store store':=by
 cases h with
 | again stored same=>exact fun _ _ h=>h
 | late fresh hash found terminal operations receipts=>exact .insert fresh receipts
 | waiting fresh hash found state admitted operations receipts=>exact .insert fresh receipts

lemma Effect.receiptsKept{granted:List AcceptedCallback}
  {response:Except AsyncOperationError Response}
  (h:Effect d sha256 s action granted response store'):ReceiptsKept s.store store':=by
 have hsame:store'.receiptsByOperationAndIdempotency =
   s.store.receiptsByOperationAndIdempotency→ReceiptsKept s.store store':=by
  intro heq key receipt hstored
  rw [heq]
  exact hstored
 cases h with
 | same quiet tables=>exact hsame tables.receipts
 | registered fresh operations receipts=>exact hsame receipts
 | ended call found live terminal operations receipts=>exact hsame receipts
 | accepted quiet attempt entered accepts=>exact accepts.receiptsKept

lemma conflictField_receiptOf{digest:String}
  (hash:canonicalHash d sha256 submission.payload=.ok digest)(artifacts:List CallbackArtifactRef):
  callbackIdempotencyConflictField d sha256 (receiptOf submission digest artifacts) submission =
   .ok none:=by
 simp [callbackIdempotencyConflictField,firstDifference,receiptOf,hash,ok_bind]

lemma Accepts.keeps(h:Accepts d sha256 store submission registry callback store'):
  store'.receiptsByOperationAndIdempotency[keyOf submission]?=some callback.receipt ∧
   callbackIdempotencyConflictField d sha256 callback.receipt submission=.ok none:=by
 cases h with
 | again stored same=>exact ⟨stored,same⟩
 | late fresh hash found terminal operations receipts=>
  rw [receipts]
  exact ⟨lookup_insert_self _ _ _,conflictField_receiptOf hash _⟩
 | waiting fresh hash found state admitted operations receipts=>
  rw [receipts]
  exact ⟨lookup_insert_self _ _ _,conflictField_receiptOf hash _⟩

section
variable {past:Past} {action:Action} {granted:List AcceptedCallback}
 {response:Except AsyncOperationError Response} {store':AsyncOperationStore} {operationId:String}

lemma not_ends(h:response ≠ .ok .done)(after:System):
  ¬Ends operationId ⟨s,action,response,after⟩:=by
 rintro ⟨-,hdone⟩
 exact h hdone

lemma ends_concat(h:∃r∈past++[t],Ends operationId r):
  (∃r∈past,Ends operationId r)∨Ends operationId t:=by
 obtain ⟨r,hr,hends⟩:=h
 rcases mem_append.mp hr with hr|hr
 · exact .inl ⟨r,hr,hends⟩
 · rw [mem_singleton] at hr
   exact .inr (hr▸hends)

lemma isOver_of_terminal{state:AsyncOperationState}(h:state.isTerminal=true):isOver state=true:=by
 simp [isOver,h]

lemma Accepts.operations(h:Accepts d sha256 store submission registry callback store'):
  (store'.operations=store.operations∧callback.shouldResume=false) ∨
  ∃operation,store.operations[submission.operationId]?=some operation ∧
   operation.state=.waitingCallback ∧
   callback.receipt.operationId=submission.operationId ∧
   store'.operations=store.operations.insert submission.operationId
    { operation with state:=.callbackReceived }:=by
 cases h with
 | again stored same=>exact .inl ⟨rfl,rfl⟩
 | late fresh hash found terminal operations receipts=>exact .inl ⟨operations,rfl⟩
 | waiting fresh hash found state admitted operations receipts=>
  exact .inr ⟨_,found,state,rfl,operations⟩

variable {operations:StringMap AsyncOperation}

section
variable (h:Counted past operations granted)
include h

lemma Counted.quiet (hquiet:∀id,¬Ends id t) :
  Counted (past++[t]) operations granted where
 own:=h.own
 registered id operation hfound hwaiting:=by
  obtain ⟨r,hr,hregister⟩:=h.registered id operation hfound hwaiting
  exact ⟨r,mem_append_left _ hr,hregister⟩
 once:=h.once
 spent:=h.spent
 ended id hends:=h.ended id ((ends_concat hends).resolve_right (hquiet id))

lemma Counted.without_resume
  (hresume:callback.shouldResume=false):Counted past operations (granted++[callback]):=by
 have hcount:∀id,(granted++[callback]).countP (resumes id)=granted.countP (resumes id):=by
  intro id
  simp [countP_append,resumes,hresume]
 exact {
  own:=h.own
  registered:=h.registered
  once:=fun id=>by rw [hcount];exact h.once id
  spent:=fun id hpos=>h.spent id (by rwa [hcount] at hpos)
  ended:=fun id hends=>by rw [hcount];exact h.ended id hends }

lemma Counted.register
  (hfresh:operations[operation.operationId]?=none)(hcall:t.call=.register operation)
  (hresponse:t.response=.ok .done):
  Counted (past++[t]) (operations.insert operation.operationId operation) granted:=by
 have hold:∀(id:String) o,operations[id]?=some o→ operation.operationId≠id:=by
  rintro id o hfound rfl
  rw [hfresh] at hfound
  cases hfound
 refine ⟨?_,?_,h.once,?_,?_⟩
 · intro id o hfound
   rw [lookup_insert] at hfound
   by_cases hid:operation.operationId=id
   · rw [if_pos hid] at hfound
     cases hfound
     exact hid
   · rw [if_neg hid] at hfound
     exact h.own id o hfound
 · intro id o hfound hwaiting
   rw [lookup_insert] at hfound
   by_cases hid:operation.operationId=id
   · rw [if_pos hid] at hfound
     cases hfound
     exact ⟨t,by simp,hcall,hresponse⟩
   · rw [if_neg hid] at hfound
     obtain ⟨r,hr,hregister⟩:=h.registered id o hfound hwaiting
     exact ⟨r,mem_append_left _ hr,hregister⟩
 · intro id hpos
   obtain ⟨o,hfound,hstate⟩:=h.spent id hpos
   exact ⟨o,by rw [lookup_insert_ne _ _ (hold id o hfound)];exact hfound,hstate⟩
 · intro id hends
   have hpast:∃r∈past,Ends id r:=by
    refine (ends_concat hends).resolve_right ?_
    rintro ⟨⟨occurredAt,hcancel|hexpire⟩,-⟩
    · rw [hcall] at hcancel
      cases hcancel
    · rw [hcall] at hexpire
      cases hexpire
   obtain ⟨hzero,o,hfound,hterminal⟩:=h.ended id hpast
   exact ⟨hzero,o,by rw [lookup_insert_ne _ _ (hold id o hfound)];exact hfound,hterminal⟩

lemma Counted.update
  (hfound:operations[operationId]?=some operation)(hlive:isOver operation.state=false)
  (operation':AsyncOperation)(hid:operation'.operationId=operation.operationId)
  (hstate:operation'.state ≠ .waitingCallback)
  (t:Transition System Action (Except AsyncOperationError Response)):
  (∀(id:String) o,(operations.insert operationId operation')[id]?=some o→ o.operationId=id) ∧
  (∀(id:String) o,(operations.insert operationId operation')[id]?=some o →
   o.state=.waitingCallback →
   ∃r∈past++[t],r.call=.register o∧r.response=.ok .done) ∧
  granted.countP (resumes operationId)=0∧¬(∃r∈past,Ends operationId r):=by
 refine ⟨?_,?_,?_,?_⟩
 · intro id o ho
   rw [lookup_insert] at ho
   by_cases hsame:operationId=id
   · rw [if_pos hsame] at ho
     cases ho
     rw [hid,h.own operationId operation hfound]
     exact hsame
   · rw [if_neg hsame] at ho
     exact h.own id o ho
 · intro id o ho hwaiting
   rw [lookup_insert] at ho
   by_cases hsame:operationId=id
   · rw [if_pos hsame] at ho
     cases ho
     exact absurd hwaiting hstate
   · rw [if_neg hsame] at ho
     obtain ⟨r,hr,hregister⟩:=h.registered id o ho hwaiting
     exact ⟨r,mem_append_left _ hr,hregister⟩
 · by_contra hne
   obtain ⟨o,ho,hreceived⟩:=h.spent operationId (Nat.pos_of_ne_zero hne)
   rw [hfound] at ho
   cases ho
   rw [hreceived] at hlive
   cases hlive
 · intro hends
   obtain ⟨-,o,ho,hterminal⟩:=h.ended operationId hends
   rw [hfound] at ho
   cases ho
   rw [isOver_of_terminal hterminal] at hlive
   cases hlive

lemma Counted.finish{operation':AsyncOperation}
  (hfound:operations[operationId]?=some operation)(hlive:isOver operation.state=false)
  (hid:operation'.operationId=operation.operationId)
  (hterminal:operation'.state.isTerminal=true){occurredAt:ℕ}
  (hcall:t.call=.cancel operationId occurredAt∨t.call=.expire operationId occurredAt):
  Counted (past++[t]) (operations.insert operationId operation') granted:=by
 have hstate:operation'.state ≠ .waitingCallback:=by
  intro hwaiting
  rw [hwaiting] at hterminal
  cases hterminal
 obtain ⟨hown,hregistered,hzero,hnone⟩:=h.update hfound hlive operation' hid hstate t
 refine ⟨hown,hregistered,h.once,?_,?_⟩
 · intro id hpos
   have hne:operationId≠id:=by
    rintro rfl
    omega
   obtain ⟨o,ho,hreceived⟩:=h.spent id hpos
   exact ⟨o,by rw [lookup_insert_ne _ _ hne];exact ho,hreceived⟩
 · intro id hends
   rcases ends_concat hends with hpast|⟨⟨at',hcall'⟩,-⟩
   · have hne:operationId≠id:=by
      rintro rfl
      exact hnone hpast
     obtain ⟨hcount,o,ho,hover⟩:=h.ended id hpast
     exact ⟨hcount,o,by rw [lookup_insert_ne _ _ hne];exact ho,hover⟩
   · have hsame:operationId=id:=by
      rcases hcall with hcall|hcall <;>rcases hcall' with hcall'|hcall' <;>
       (rw [hcall] at hcall';cases hcall' <;>rfl)
     subst hsame
     exact ⟨hzero,operation',lookup_insert_self _ _ _,hterminal⟩

lemma Counted.accept
  (hfound:operations[operationId]?=some operation)(hwaiting:operation.state=.waitingCallback)
  (hcallback:callback.receipt.operationId=operationId)(hquiet:∀id,¬Ends id t):
  Counted (past++[t])
   (operations.insert operationId { operation with state:=.callbackReceived })
   (granted++[callback]):=by
 have hlive:isOver operation.state=false:=by
  rw [hwaiting]
  rfl
 obtain ⟨hown,hregistered,hzero,hnone⟩:=h.update hfound hlive
  { operation with state:=.callbackReceived } rfl (by simp) t
 have hother:∀id,operationId≠id →
   (granted++[callback]).countP (resumes id)=granted.countP (resumes id):=by
  intro id hne
  simp [countP_append,resumes,hcallback,hne]
 have hsame:(granted++[callback]).countP (resumes operationId)≤1:=by
  have hone:[callback].countP (resumes operationId)≤[callback].length:=countP_le_length
  rw [countP_append,hzero]
  simpa using hone
 refine ⟨hown,hregistered,?_,?_,?_⟩
 · intro id
   by_cases hid:operationId=id
   · subst hid
     exact hsame
   · rw [hother id hid]
     exact h.once id
 · intro id hpos
   by_cases hid:operationId=id
   · subst hid
     exact ⟨_,lookup_insert_self _ _ _,rfl⟩
   · rw [hother id hid] at hpos
     obtain ⟨o,ho,hreceived⟩:=h.spent id hpos
     exact ⟨o,by rw [lookup_insert_ne _ _ hid];exact ho,hreceived⟩
 · intro id hends
   have hpast:=(ends_concat hends).resolve_right (hquiet id)
   have hid:operationId≠id:=by
    rintro rfl
    exact hnone hpast
   obtain ⟨hcount,o,ho,hover⟩:=h.ended id hpast
   rw [hother id hid]
   exact ⟨hcount,o,by rw [lookup_insert_ne _ _ hid];exact ho,hover⟩

end

lemma Effect.counted(h:Effect d sha256 s action granted response store')
  {earlier:List AcceptedCallback}(hcounted:Counted past s.store.operations earlier)
  (after:System):Counted (past++[⟨s,action,response,after⟩]) store'.operations
   (earlier++granted):=by
 cases h with
 | same quiet tables=>
  rw [tables.operations,append_nil]
  exact hcounted.quiet fun id=>not_ends quiet after
 | registered fresh operations receipts=>
  rw [operations,append_nil]
  exact hcounted.register fresh rfl rfl
 | ended call found live terminal operations receipts=>
  rw [operations,append_nil]
  refine hcounted.finish found live ?_ terminal call
  rfl
 | accepted quiet attempt entered accepts=>
  have hquiet:∀id,¬Ends id ⟨s,action,response,after⟩:=fun id=>not_ends quiet after
  rcases accepts.operations with ⟨hsame,hresume⟩|⟨operation,hfound,hwaiting,hid,hinsert⟩
  · rw [hsame]
    exact (hcounted.quiet hquiet).without_resume hresume
  · rw [hinsert]
    exact hcounted.accept hfound hwaiting hid hquiet

lemma grants_concat(past:Past)(s:System)(action:Action):
  grants d sha256 (past++[takeStep (step d sha256) s action]) =
   grants d sha256 past++grantedBy d sha256 s action:=by
 simp [grants,takeStep]

lemma granted_of_run(hattempt:attemptOf s action=some a)
  (hrun:(a.run d sha256 s.store).1=.ok callback):grantedBy d sha256 s action=[callback]:=by
 simp [grantedBy,hattempt,hrun]

lemma Effect.keeps(h:Effect d sha256 s action [callback] response store')
  (hattempt:attemptOf s action=some a):Keeps d sha256 store' a callback.receipt:=by
 cases h with
 | accepted quiet attempt entered accepts=>
  rw [hattempt] at attempt
  cases attempt
  obtain ⟨hstored,hsame⟩:=accepts.keeps
  exact ⟨_,_,entered,hstored,hsame⟩

lemma Effect.resumed(h:Effect d sha256 s action granted response store')
  (hcounted:Counted past s.store.operations (grants d sha256 past))(after:System)
  (hmem:callback∈granted)(hresume:callback.shouldResume=true):
  ∃a operation,Resumed (past++[⟨s,action,response,after⟩]) ⟨s,action,response,after⟩
   callback a operation:=by
 cases h with
 | same quiet tables=>simp at hmem
 | registered fresh operations receipts=>simp at hmem
 | ended call found live terminal operations receipts=>simp at hmem
 | @accepted _ a _ prepared _ _ _ quiet attempt entered accepts=>
  rw [mem_singleton] at hmem
  subst hmem
  cases accepts with
  | again stored same=>cases hresume
  | late fresh hash found terminal operations receipts=>cases hresume
  | @waiting operation digest artifacts _ _ fresh hash found state admitted operations receipts=>
   have hown:=hcounted.own _ operation found
   obtain ⟨r,hr,hregister⟩:=hcounted.registered _ operation found state
   exact ⟨a,operation,{
    attempt
    registered:=⟨r,mem_append_left _ hr,hregister⟩
    operationId:=hown.symm
    found:=by rw [hown];exact found
    waiting:=state
    runId:=admitted.runId
    nodeId:=admitted.nodeId
    attemptId:=admitted.attemptId
    providerOperationId:=admitted.providerOperationId
    schema:=admitted.schema
    inTime:=admitted.inTime state }⟩

lemma Sound.step(h:Sound d sha256 past s)(action:Action):
  Sound d sha256 (past++[takeStep (AsyncOperations.step d sha256) s action])
   (AsyncOperations.step d sha256 s action).2:=by
 have heffect:Effect d sha256 s action (grantedBy d sha256 s action)
   (AsyncOperations.step d sha256 s action).1 (AsyncOperations.step d sha256 s action).2.store:=
  step_effect s action
 refine ⟨?_,?_,?_⟩
 · rw [grants_concat]
   exact heffect.counted h.counted _
 · intro t ht callback hmem hresume
   rcases mem_append.mp ht with ht|ht
   · obtain ⟨a,operation,hresumed⟩:=h.resumed t ht callback hmem hresume
     exact ⟨a,operation,hresumed.mono fun r hr=>mem_append_left _ hr⟩
   · rw [mem_singleton] at ht
     subst ht
     exact heffect.resumed h.counted _ hmem hresume
 · intro t ht a callback hattempt hrun
   rcases mem_append.mp ht with ht|ht
   · exact (h.kept t ht a callback hattempt hrun).mono heffect.receiptsKept
   · rw [mem_singleton] at ht
     subst ht
     simp only [takeStep] at hattempt hrun
     rw [granted_of_run hattempt hrun] at heffect
     exact heffect.keeps hattempt
end

lemma Sound.initial:Sound d sha256 [] System.new:=by
 refine ⟨⟨?_,?_,?_,?_,?_⟩,?_,?_⟩
 · intro id operation h
   simp [System.new,AsyncOperationStore.new] at h
 · intro id operation h
   simp [System.new,AsyncOperationStore.new] at h
 · simp [grants]
 · simp [grants]
 · simp
 · simp
 · simp

lemma run_sound(actions:List Action):Sound d sha256 (history (step d sha256) System.new actions)
   (execute (step d sha256) System.new actions):=by
 apply history_invariant (step d sha256) (P:=Sound d sha256)
 · exact Sound.initial
 · intro past t action h
   exact h.step action

lemma run_receiptsKept(s:System)(actions:List Action):
  ReceiptsKept s.store (execute (step d sha256) s actions).store:=by
 induction actions generalizing s with
 | nil=>exact fun _ _ h=>h
 | cons action rest ih=>
  intro key receipt hstored
  have heffect:Effect d sha256 s action (grantedBy d sha256 s action)
    (step d sha256 s action).1 (step d sha256 s action).2.store:=step_effect s action
  exact ih _ key receipt (heffect.receiptsKept key receipt hstored)

variable {artifacts:List CallbackArtifactRef}

lemma run_again{prepared:AsyncCallbackSubmission}
  (hentered:enter d a.submission a.ingestion a.decision=.ok (prepared,artifacts))
  (hstored:store.receiptsByOperationAndIdempotency[keyOf prepared]?=some receipt)
  (hsame:callbackIdempotencyConflictField d sha256 receipt prepared=.ok none):
  a.run d sha256 store=(.ok ⟨receipt,true,false⟩,store):=by
 have hhash:∃digest,canonicalHash d sha256 prepared.payload=.ok digest:=by
  cases hcase:canonicalHash d sha256 prepared.payload with
  | ok digest=>exact ⟨digest,rfl⟩
  | error e=>
   rw [callbackIdempotencyConflictField,hcase] at hsame
   split at hsame
   · cases hsame
   · cases hsame
 obtain ⟨digest,hdigest⟩:=hhash
 rw [run_entered hentered,acceptValidatedCallback,hdigest]
 unfold keyOf at hstored
 simp only [hstored,acceptAgain,hsame]

def ReceiptsFiled (store:AsyncOperationStore) : Prop :=
 ∀(key:String×String) receipt,store.receiptsByOperationAndIdempotency[key]?=some receipt →
  key=(receipt.operationId,receipt.idempotencyKey)

lemma ReceiptsFiled.insert{digest:String}(h:ReceiptsFiled store)
  (hinsert:store'.receiptsByOperationAndIdempotency =
   store.receiptsByOperationAndIdempotency.insert (keyOf submission)
    (receiptOf submission digest artifacts)):ReceiptsFiled store':=by
 intro key receipt hstored
 rw [hinsert,lookup_insert] at hstored
 by_cases hkey:keyOf submission=key
 · rw [if_pos hkey] at hstored
   cases hstored
   exact hkey.symm
 · rw [if_neg hkey] at hstored
   exact h key receipt hstored

lemma Effect.receiptsFiled{granted:List AcceptedCallback}
  {response:Except AsyncOperationError Response}
  (h:Effect d sha256 s action granted response store')(hfiled:ReceiptsFiled s.store):
  ReceiptsFiled store':=by
 have hsame:store'.receiptsByOperationAndIdempotency =
   s.store.receiptsByOperationAndIdempotency→ReceiptsFiled store':=by
  intro heq key receipt hstored
  rw [heq] at hstored
  exact hfiled key receipt hstored
 cases h with
 | same quiet tables=>exact hsame tables.receipts
 | registered fresh operations receipts=>exact hsame receipts
 | ended call found live terminal operations receipts=>exact hsame receipts
 | accepted quiet attempt entered accepts=>
  cases accepts with
  | again stored same=>exact hfiled
  | late fresh hash found terminal operations receipts=>exact hfiled.insert receipts
  | waiting fresh hash found state admitted operations receipts=>exact hfiled.insert receipts

lemma run_receiptsFiled(actions:List Action):
  ReceiptsFiled (execute (step d sha256) System.new actions).store:=by
 apply execute_invariant (step d sha256) (I:=fun s=>ReceiptsFiled s.store)
 · intro key receipt hstored
   simp [System.new,AsyncOperationStore.new] at hstored
 · intro t action h
   exact (step_effect t action).receiptsFiled h

/-- In every interleaving at most one call returns a callback that resumes an operation, and it
was accepted in time from the registered operation while that was waiting; none does where the
operation was cancelled or expired. Receipts never change, and a callback submitted again is
answered with its receipt and changes nothing. -/
theorem operation_resumes_at_most_once (d : StringDisplay) (sha256 : List Char→String)
  (actions : List Action) :
  let past := history (step d sha256) System.new actions
  let reached:=execute (step d sha256) System.new actions
  (∀operationId,(returned past).countP (resumes operationId)≤1∧((∃t∈past,Ends operationId t) →
    ∀callback∈returned past,resumes operationId callback=false)) ∧
  (∀callback∈returned past,callback.shouldResume=true →
   ∃t∈past,callback∈grantedBy d sha256 t.before t.call ∧
    ∃a operation,Resumed past t callback a operation) ∧
  (∀(key:String×String) receipt,reached.store.receiptsByOperationAndIdempotency[key]?=some receipt →
   key=(receipt.operationId,receipt.idempotencyKey) ∧
   ∀later,(execute (step d sha256) reached later).store.receiptsByOperationAndIdempotency[key]?
    = some receipt) ∧
  (∀t∈past,∀a callback,attemptOf t.before t.call=some a →
   (a.run d sha256 t.before.store).1=.ok callback →
   ∀registry decision,decision.validate=.ok () →
    step d sha256 reached (.accept a.ingestion a.submission registry decision) =
     (.ok (.accepted ⟨callback.receipt,true,false⟩),reached)) := by
 intro past reached
 have hsound:Sound d sha256 past reached:=run_sound actions
 have hcounts:∀P,(returned past).countP P+inFlight P reached.replays ≤
   (grants d sha256 past).countP P:=fun P=>run_counts P actions
 refine ⟨?_,?_,?_,?_⟩
 · intro operationId
   have hcount:=hcounts (resumes operationId)
   refine ⟨?_,?_⟩
   · have honce:=hsound.counted.once operationId
     omega
   · intro hends callback hmem
     have hzero:=(hsound.counted.ended operationId hends).1
     have hnone:(returned past).countP (resumes operationId)=0:=by omega
     simpa using countP_eq_zero.mp hnone callback hmem
 · intro callback hmem hresume
   have hgranted:callback∈grants d sha256 past:=by
    have hpos:0<(returned past).countP (· == callback):=countP_pos_iff.mpr ⟨callback,hmem,by simp⟩
    have hcount:=hcounts (· == callback)
    have hpos':0<(grants d sha256 past).countP (· == callback):=by omega
    obtain ⟨other,hother,hsame⟩:=countP_pos_iff.mp hpos'
    rwa [beq_iff_eq.mp hsame] at hother
   obtain ⟨t,ht,hstep⟩:=mem_flatMap.mp hgranted
   exact ⟨t,ht,hstep,hsound.resumed t ht callback hstep hresume⟩
 · intro key receipt hstored
   exact ⟨run_receiptsFiled actions key receipt hstored,
    fun later=>run_receiptsKept reached later key receipt hstored⟩
 · intro t ht a callback hattempt hrun registry decision hdecision
   obtain ⟨prepared,artifacts,hentered,hstored,hsame⟩:=hsound.kept t ht a callback hattempt hrun
   obtain ⟨hidentity,-,hauth,hingest⟩:=enter_ok.mp hentered
   -- the entry looks at the decision only to validate it
   have hentered':enter d a.submission a.ingestion decision=.ok (prepared,artifacts):=
    enter_ok.mpr ⟨hidentity,hdecision,hauth,hingest⟩
   have hagain:Attempt.run d sha256 ⟨a.ingestion,a.submission,registry,decision⟩
     reached.store=(.ok ⟨callback.receipt,true,false⟩,reached.store):=
    run_again hentered' hstored hsame
   simp only [Attempt.run] at hagain
   simp only [step,hagain,Except.map]
end

def sampleOperation : AsyncOperation where
 operationId := "operation-1"
 runId := "run-1"
 nodeId := "node-1"
 attemptId := "attempt-1"
 kind:=.tool
 providerOperationId:=none
 state:=.waitingCallback
 resumeTokenHash := "sha256:0000000000000000000000000000000000000000000000000000000000000000"
 idempotencyKey := "key-1"
 expectedSchema := "schema@1"
 createdAtUnixMs:=1
 submittedAtUnixMs:=some 2
 expiresAtUnixMs:=some 9
 infiniteWaitPolicy:=none
 completedAtUnixMs:=none
 expectedCallbackPayloadBytes:=none
 resumePolicyReevaluation:=true
 callbackAttemptFencing:=true
 resumeOwnershipFence:=true

def sampleSubmission : AsyncCallbackSubmission where
 callbackId := "callback-1"
 operationId := "operation-1"
 runId := "run-1"
 nodeId := "node-1"
 attemptId := "attempt-1"
 providerOperationId:=none
 idempotencyKey := "callback-key-1"
 payload:=.null
 receivedAtUnixMs:=5
 verifiedBy := "hmac"
 policySnapshotId := "snapshot-1"

def sampleRegistry : ToolSchemaRegistry := 
 ⟨(∅:StringMap JsonSchemaNode).insert "schema@1" (.node none [] [] none)⟩

-- a quarantined callback resumes its operation once it is replayed
example : (returned (history (step serdeDisplay fun _ => "0") System.new
  [.quarantine sampleSubmission 8,.register sampleOperation,
   .startReplay 0 "operation-1" sampleRegistry
    (.resumeAuthorized true "policy-1" "budget-1" "release-1" "fence-1"),
   .continueReplay 0,.continueReplay 0])).countP (resumes "operation-1")=1 := by
 decide +kernel

end GraphBlocks.AsyncOperations
