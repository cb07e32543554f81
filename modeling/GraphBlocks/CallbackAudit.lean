import GraphBlocks.AsyncOperationResumption

namespace GraphBlocks.AsyncOperations
open Std Json CanonicalJson OrderedMap RustStd StoredJson ToolSchemas AsyncOperationStore
open List Std.ExtTreeMap
open MachineRuns

namespace AsyncOperationStore

def eventsForOperation (store:AsyncOperationStore) (operationId:String) :
  List AsyncOperationEvent :=
 store.eventsByOperation[operationId]?.getD []

end AsyncOperationStore

section
variable (d:StringDisplay) (sha256:List Char→String)

def Rejected (store:AsyncOperationStore) (submission:AsyncCallbackSubmission) : Prop :=
 ∃operationId reason occurredAt digest verifiedBy policySnapshotId,
  AsyncOperationEvent.externalCallbackRejected operationId submission.callbackId reason occurredAt
   digest verifiedBy policySnapshotId∈store.eventsForOperation submission.operationId

def Received (store:AsyncOperationStore) (submission:AsyncCallbackSubmission) : Prop :=
 ∃receipt,store.receiptsByOperationAndIdempotency[keyOf submission]?=some receipt ∧
  callbackIdempotencyConflictField d sha256 receipt submission=.ok none

def Settled (store:AsyncOperationStore) (submission:AsyncCallbackSubmission) : Prop :=
 Received d sha256 store submission∨Rejected store submission

/-- A replay that has not returned still has to submit the callback. -/
def Held (s:System) (submission:AsyncCallbackSubmission) : Prop :=
 ∃(id:ℕ) (replay:Replay),s.replays[id]?=some replay∧submission∈replay.waiting

def LeftBy (t:Transition System Action (Except AsyncOperationError Response))
  (submission:AsyncCallbackSubmission) : Prop :=
 ∃(key:String×String) (record:QuarantinedCallbackRecord),
  t.before.store.quarantinedCallbacks[key]?=some record ∧
  t.after.store.quarantinedCallbacks[key]?≠some record∧record.submission=submission

def HasDigest (payload:Value) : Prop := ∃digest,canonicalHash d sha256 payload=.ok digest

def Replayable (store:AsyncOperationStore) (operation:AsyncOperation) (operationId:String)
  (decision:AsyncCallbackResumeDecision) : Prop :=
 ∀(key:String×String) record,store.quarantinedCallbacks[key]?=some record →
  key.1=operationId→HasDigest d sha256 record.submission.payload ∧
   (operation.createdAtUnixMs<record.expiresAtUnixMs→decision.validate=.ok ())

/-- An operation that is registered has no log yet, and a replay can submit what it takes out of
quarantine. -/
def KeepsTrace (s:System) : Action→Prop
 | .register operation=>
  operation.validate=.ok ()→s.store.operations[operation.operationId]?=none →
   s.store.eventsForOperation operation.operationId=[]
 | .startReplay _ operationId _ decision=>
  ∀operation,s.store.operations[operationId]?=some operation →
   Replayable d sha256 s.store operation operationId decision
 | _=>True

variable {d sha256} {store store':AsyncOperationStore}

lemma eventsForOperation_pushEvent(store:AsyncOperationStore)(id id':String)
  (event:AsyncOperationEvent):(store.pushEvent id event).eventsForOperation id' =
   if id=id' then store.eventsForOperation id++[event]
   else store.eventsForOperation id':=by
 simp only [pushEvent,eventsForOperation]
 rw [lookup_insert]
 by_cases hid:id=id'
 · rw [if_pos hid,if_pos hid]
   rfl
 · rw [if_neg hid,if_neg hid]

/-- Logs grow at the end and the quarantine stays as it is. -/
structure Extends (store store':AsyncOperationStore) : Prop where
 logs:∀id,store.eventsForOperation id <+: store'.eventsForOperation id
 quarantine:store'.quarantinedCallbacks=store.quarantinedCallbacks

lemma Extends.refl(store:AsyncOperationStore):Extends store store:=⟨fun _=>prefix_rfl,rfl⟩

lemma Extends.trans{store'':AsyncOperationStore}(h:Extends store store')
  (h':Extends store' store''):Extends store store'':=
 ⟨fun id=>(h.logs id).trans (h'.logs id),h'.quarantine.trans h.quarantine⟩

lemma pushEvent_extends(store:AsyncOperationStore)(id:String)
  (event:AsyncOperationEvent):Extends store (store.pushEvent id event):=by
 refine ⟨fun id'=>?_,rfl⟩
 rw [eventsForOperation_pushEvent]
 by_cases hid:id=id'
 · subst hid
   rw [if_pos rfl]
   exact prefix_append _ _
 · rw [if_neg hid]

lemma operations_extends(store:AsyncOperationStore)(operations:StringMap AsyncOperation):
  Extends store { store with operations:=operations }:=
 ⟨fun _=>prefix_rfl,rfl⟩

lemma storeReceipt_extends(store:AsyncOperationStore)(receipt:ExternalCallbackReceived)
  (submission:AsyncCallbackSubmission):Extends store (store.storeReceipt receipt submission):=
 ⟨fun _=>prefix_rfl,rfl⟩

lemma mem_pushEvent(store:AsyncOperationStore)(id:String)(event:AsyncOperationEvent):
  event∈(store.pushEvent id event).eventsForOperation id:=by
 rw [eventsForOperation_pushEvent,if_pos rfl]
 exact mem_append_right _ (mem_singleton_self _)

variable {submission:AsyncCallbackSubmission}

lemma Rejected.mono(hlogs:∀id,store.eventsForOperation id <+: store'.eventsForOperation id)
  (h:Rejected store submission):Rejected store' submission:=by
 obtain ⟨operationId,reason,occurredAt,digest,verifiedBy,snapshot,hmem⟩:=h
 exact ⟨operationId,reason,occurredAt,digest,verifiedBy,snapshot,(hlogs _).subset hmem⟩

lemma Settled.mono(hlogs:∀id,store.eventsForOperation id <+: store'.eventsForOperation id)
  (hreceipts:ReceiptsKept store store')(h:Settled d sha256 store submission):
  Settled d sha256 store' submission:=by
 rcases h with ⟨receipt,hstored,hagrees⟩|hrejected
 · exact .inl ⟨receipt,hreceipts _ _ hstored,hagrees⟩
 · exact .inr (hrejected.mono hlogs)

variable {operationId:String}

lemma pushEvent_rejected(store:AsyncOperationStore)
  (howner:submission.operationId=operationId)(filedAs reason:String)(occurredAt:ℕ)
  (digest verifiedBy snapshot:String):
  Rejected (store.pushEvent operationId (.externalCallbackRejected filedAs submission.callbackId
   reason occurredAt digest verifiedBy snapshot)) submission:=by
 subst howner
 exact ⟨filedAs,reason,occurredAt,digest,verifiedBy,snapshot,mem_pushEvent store _ _⟩

lemma reject_rejected(store:AsyncOperationStore)(submission:AsyncCallbackSubmission)
  (operationId digest reason:String):
  Rejected (store.reject submission operationId digest reason) submission:=
 pushEvent_rejected store rfl _ _ _ _ _ _

section
variable {submission:AsyncCallbackSubmission} {registry:ToolSchemaRegistry}
 {decision:AsyncCallbackResumeDecision}

lemma recordCallbackRejected_extends(store:AsyncOperationStore)
  (submission:AsyncCallbackSubmission)(reason:String):
  Extends store (store.recordCallbackRejected d sha256 submission reason).2:=by
 unfold recordCallbackRejected
 by_cases hknown:store.operations.contains submission.operationId=true
 · rw [if_pos hknown]
   cases canonicalHash d sha256 submission.payload with
   | error e=>exact .refl store
   | ok digest=>exact pushEvent_extends store _ _
 · rw [if_neg hknown]
   exact .refl store

lemma recordCallbackRejected_settles{reason:String}
  (hknown:store.operations.contains submission.operationId=true)
  (hdigest:HasDigest d sha256 submission.payload):
  (store.recordCallbackRejected d sha256 submission reason).1=.ok () ∧
   Rejected (store.recordCallbackRejected d sha256 submission reason).2 submission:=by
 obtain ⟨digest,hdigest⟩:=hdigest
 rw [recordCallbackRejected,if_pos hknown,hdigest]
 exact ⟨rfl,reject_rejected store submission _ _ _⟩

lemma acceptLate_extends(store:AsyncOperationStore)(operation:AsyncOperation)
  (submission:AsyncCallbackSubmission)(receipt:ExternalCallbackReceived):
  Extends store (store.acceptLate operation submission receipt).2:=
 (pushEvent_extends store _ _).trans (storeReceipt_extends _ _ _)

lemma acceptWaiting_extends(store:AsyncOperationStore)(operation:AsyncOperation)
  (submission:AsyncCallbackSubmission)(receipt:ExternalCallbackReceived)
  (decision:AsyncCallbackResumeDecision):
  Extends store (store.acceptWaiting operation submission receipt decision).2:=by
 have hreceived:=(pushEvent_extends store submission.operationId
  (.externalCallbackReceived receipt)).trans (operations_extends _ (store.operations.insert
   submission.operationId { operation with state:=.callbackReceived }))
 have hchanged:=hreceived.trans (pushEvent_extends _ submission.operationId
  (.stateChanged submission.operationId operation.state .callbackReceived
   submission.receivedAtUnixMs))
 exact (hchanged.trans (pushEvent_extends _ _ _)).trans (storeReceipt_extends _ _ _)

lemma acceptValidatedCallback_extends(store:AsyncOperationStore)
  (submission:AsyncCallbackSubmission)(registry:ToolSchemaRegistry)
  (artifacts:List CallbackArtifactRef)(decision:AsyncCallbackResumeDecision):
  Extends store
   (store.acceptValidatedCallback d sha256 submission registry artifacts decision).2:=by
 unfold acceptValidatedCallback
 cases canonicalHash d sha256 submission.payload with
 | error e=>exact .refl store
 | ok digest=>
  cases store.receiptsByOperationAndIdempotency[
    (submission.operationId,submission.idempotencyKey)]? with
  | some receipt=>
   simp only [acceptAgain]
   cases callbackIdempotencyConflictField d sha256 receipt submission with
   | error e=>exact .refl store
   | ok field=>
    cases field with
    | some field=>exact pushEvent_extends store _ _
    | none=>exact .refl store
  | none=>
   simp only [acceptNew]
   cases store.operations[submission.operationId]? with
   | none=>exact pushEvent_extends store _ _
   | some operation=>
    simp only
    cases admission operation submission registry with
    | error refusal=>exact pushEvent_extends store _ _
    | ok u=>
     by_cases hterminal:operation.state.isTerminal=true
     · simp only [if_pos hterminal]
       exact acceptLate_extends store operation submission _
     · simp only [if_neg hterminal]
       exact acceptWaiting_extends store operation submission _ decision

lemma run_extends(a:Attempt)(store:AsyncOperationStore):Extends store (a.run d sha256 store).2:=by
 rw [Attempt.run,acceptCallbackBy]
 cases enter d a.submission a.ingestion a.decision with
 | error failure=>
  cases failure with
  | silent e=>exact .refl store
  | recorded reason e=>exact recordCallbackRejected_extends store a.submission reason
 | ok entered=>exact acceptValidatedCallback_extends store entered.1 a.registry entered.2 a.decision

lemma acceptValidatedCallback_settles(artifacts:List CallbackArtifactRef)
  (hknown:store.operations.contains submission.operationId=true)
  (hdigest:HasDigest d sha256 submission.payload):
  Settled d sha256
   (store.acceptValidatedCallback d sha256 submission registry artifacts decision).2
   submission:=by
 obtain ⟨digest,hdigest⟩:=hdigest
 obtain ⟨operation,hoperation⟩:=(contains_iff _).mp hknown
 unfold acceptValidatedCallback
 simp only [hdigest]
 cases hreceipt:store.receiptsByOperationAndIdempotency[
   (submission.operationId,submission.idempotencyKey)]? with
 | some receipt=>
  simp only [acceptAgain]
  cases hconflict:callbackIdempotencyConflictField d sha256 receipt submission with
  | error e=>
   -- only the digest of the payload can fail, and there is one
   exfalso
   unfold callbackIdempotencyConflictField at hconflict
   split at hconflict
   · cases hconflict
   · rw [hdigest,ok_bind] at hconflict
     cases hconflict
  | ok field=>
   cases field with
   | some field=>exact .inr (reject_rejected store submission _ _ _)
   | none=>exact .inl ⟨receipt,hreceipt,hconflict⟩
 | none=>
  simp only [acceptNew,hoperation]
  cases admission operation submission registry with
  | error refusal=>exact .inr (reject_rejected store submission _ _ _)
  | ok u=>
   have hagrees:=conflictField_receiptOf hdigest artifacts
   by_cases hterminal:operation.state.isTerminal=true
   · simp only [if_pos hterminal]
     exact .inl ⟨_,lookup_insert_self _ _ _,hagrees⟩
   · simp only [if_neg hterminal]
     exact .inl ⟨_,lookup_insert_self _ _ _,hagrees⟩

/-- A submission that quarantine let in and that a replay may submit. -/
structure Submittable (d:StringDisplay) (sha256:List Char→String)
  (submission:AsyncCallbackSubmission) : Prop where
 identity:validateCallbackSubmissionIdentity submission=.ok ()
 authenticated:ensureCallbackSubmissionAuthenticated submission=.ok ()
 digest:HasDigest d sha256 submission.payload

lemma HasDigest.size{payload:Value}(h:HasDigest d sha256 payload):
  ∃size,callbackPayloadSizeBytes d payload=.ok size:=by
 obtain ⟨digest,h⟩:=h
 unfold canonicalHash at h
 unfold callbackPayloadSizeBytes
 cases hcanonical:canonicalJson d payload with
 | error e=>
  rw [hcanonical] at h
  cases h
 | ok text=>exact ⟨_,rfl⟩

lemma acceptCallback_settles(hsubmittable:Submittable d sha256 submission)
  (hdecision:decision.validate=.ok ())
  (hknown:store.operations.contains submission.operationId=true):
  Settled d sha256 (store.acceptCallbackWithResumeDecision d sha256 submission registry
   decision).2 submission:=by
 obtain ⟨size,hsize⟩:=hsubmittable.digest.size
 have hentry:enter d submission (.limited defaultMaxPayloadBytes) decision =
   ingest d submission (.limited defaultMaxPayloadBytes):=by
  rw [enter,validateCallbackSubmissionAndResumeDecision,hsubmittable.identity,ok_bind,
   hdecision,hsubmittable.authenticated]
  rfl
 change Settled d sha256 (store.acceptCallbackBy d sha256 (.limited defaultMaxPayloadBytes)
  submission registry decision).2 submission
 rw [acceptCallbackBy,hentry,ingest,hsize,silently,ok_bind]
 by_cases hfits:size≤defaultMaxPayloadBytes
 · rw [decide_eq_true hfits]
   exact acceptValidatedCallback_settles [] hknown hsubmittable.digest
 · rw [decide_eq_false hfits]
   exact .inr (recordCallbackRejected_settles hknown hsubmittable.digest).2
end

/-- What the loop over the quarantined callbacks of an operation does when no payload stops it. -/
structure Drained (createdAt:ℕ) (keys:List (String×String))
  (collected submissions:List AsyncCallbackSubmission) (store store':AsyncOperationStore) :
  Prop where
 logs:∀id,store.eventsForOperation id <+: store'.eventsForOperation id
 others:∀key∉keys,store'.quarantinedCallbacks[key]?=store.quarantinedCallbacks[key]?
 stayed:∀(key:String×String) record,store'.quarantinedCallbacks[key]?=some record →
  store.quarantinedCallbacks[key]?=some record
 collects:∀x∈collected,x∈submissions
 taken:∀key∈keys,∀record,store.quarantinedCallbacks[key]?=some record →
  record.submission∈submissions∨Rejected store' record.submission
 source:∀x∈submissions,x∈collected ∨ ∃key∈keys,∃record,
  store.quarantinedCallbacks[key]?=some record∧record.submission=x∧createdAt<record.expiresAtUnixMs

section
variable {createdAt:ℕ} {key:String×String} {keys:List (String×String)}
 {collected submissions:List AsyncCallbackSubmission} {record:QuarantinedCallbackRecord}

lemma lookup_erase_some{α:Type}{m:PairMap α}{key':String×String}{a:α}
  (h:(m.erase key)[key']?=some a):key≠key'∧m[key']?=some a:=by
 rw [ExtTreeMap.getElem?_erase] at h
 split at h
 · cases h
 · rename_i hne
   exact ⟨fun heq=>hne (by simp [heq]),h⟩

lemma lookup_erase_ne{α:Type}(m:PairMap α){key':String×String}
  (h:key≠key'):(m.erase key)[key']?=m[key']?:=by
 rw [ExtTreeMap.getElem?_erase,if_neg]
 simpa using h

lemma Drained.skip (h:Drained createdAt keys collected submissions store store')
  (hnone:store.quarantinedCallbacks[key]?=none) :
  Drained createdAt (key::keys) collected submissions store store' where
 logs:=h.logs
 others:=fun key' hkey'=>h.others key' fun hmem=>hkey' (mem_cons_of_mem _ hmem)
 stayed:=h.stayed
 collects:=h.collects
 taken:=by
  intro key' hkey' record hrecord
  rcases mem_cons.mp hkey' with rfl|hmem
  · rw [hnone] at hrecord
    cases hrecord
  · exact h.taken key' hmem record hrecord
 source:=by
  intro x hx
  rcases h.source x hx with hcollected|⟨key',hmem,hrecord⟩
  · exact .inl hcollected
  · exact .inr ⟨key',mem_cons_of_mem _ hmem,hrecord⟩

lemma Drained.round {middle:AsyncOperationStore} {collected':List AsyncCallbackSubmission}
  (h:Drained createdAt keys collected' submissions middle store')
  (hrecord:store.quarantinedCallbacks[key]?=some record)
  (hlogs:∀id,store.eventsForOperation id <+: middle.eventsForOperation id)
  (herased:middle.quarantinedCallbacks=store.quarantinedCallbacks.erase key)
  (hcollects:∀x∈collected,x∈collected')
  (htaken:record.submission∈collected'∨Rejected middle record.submission)
  (hsource:∀x∈collected',x∈collected∨record.submission=x∧createdAt<record.expiresAtUnixMs) :
  Drained createdAt (key::keys) collected submissions store store' where
 logs:=fun id=>(hlogs id).trans (h.logs id)
 others:=by
  intro key' hkey'
  have hne:key≠key':=fun heq=>hkey' (heq▸mem_cons_self)
  rw [h.others key' fun hmem=>hkey' (mem_cons_of_mem _ hmem),herased,lookup_erase_ne _ hne]
 stayed:=by
  intro key' record' hstayed
  have hmiddle:=h.stayed key' record' hstayed
  rw [herased] at hmiddle
  exact (lookup_erase_some hmiddle).2
 collects:=fun x hx=>h.collects x (hcollects x hx)
 taken:=by
  intro key' hkey' record' hrecord'
  by_cases heq:key=key'
  · subst heq
    rw [hrecord] at hrecord'
    cases hrecord'
    exact htaken.imp (h.collects _) (Rejected.mono h.logs)
  · refine h.taken key' ((mem_cons.mp hkey').resolve_left fun hkey=>heq hkey.symm) record' ?_
    rw [herased,lookup_erase_ne _ heq]
    exact hrecord'
 source:=by
  intro x hx
  rcases h.source x hx with hcollected|⟨key',hmem,record',hrecord',hsame,hlive⟩
  · rcases hsource x hcollected with hold|⟨hsame,hlive⟩
    · exact .inl hold
    · exact .inr ⟨key,mem_cons_self,record,hrecord,hsame,hlive⟩
  · rw [herased] at hrecord'
    exact .inr ⟨key',mem_cons_of_mem _ hmem,record',(lookup_erase_some hrecord').2,hsame,hlive⟩

/-- Induction on the keys: with a digest for every payload the loop goes through all of them. -/
lemma drainLoop_drained(createdAt:ℕ)(keys:List (String×String))
  (collected:List AsyncCallbackSubmission)(store:AsyncOperationStore)
  (hrecords:∀key∈keys,∀record,store.quarantinedCallbacks[key]?=some record →
   record.submission.operationId=operationId∧HasDigest d sha256 record.submission.payload):
  ∃submissions,(drainLoop d sha256 operationId createdAt keys collected store).1=.ok submissions ∧
   Drained createdAt keys collected submissions store
    (drainLoop d sha256 operationId createdAt keys collected store).2:=by
 induction keys generalizing collected store with
 | nil=>
  refine ⟨collected,rfl,⟨fun _=>prefix_rfl,fun _ _=>rfl,fun _ _ h=>h,fun _ h=>h,?_,fun _ h=>.inl h⟩⟩
  intro key hkey
  cases hkey
 | cons key rest ih=>
  unfold drainLoop
  cases hrecord:store.quarantinedCallbacks[key]? with
  | none=>
   obtain ⟨submissions,hok,hdrained⟩:=ih collected store
    fun key' hmem=>hrecords key' (mem_cons_of_mem _ hmem)
   exact ⟨submissions,hok,hdrained.skip hrecord⟩
  | some record=>
   obtain ⟨howner,digest,hdigest⟩:=hrecords key mem_cons_self record hrecord
   have hrest:∀key'∈rest,∀record',(store.quarantinedCallbacks.erase key)[key']?=some record' →
     record'.submission.operationId=operationId∧HasDigest d sha256 record'.submission.payload:=by
    intro key' hmem record' hrecord'
    exact hrecords key' (mem_cons_of_mem _ hmem) record' (lookup_erase_some hrecord').2
   by_cases hexpired:record.expiresAtUnixMs≤createdAt
   · simp only [if_pos hexpired,hdigest]
     obtain ⟨submissions,hok,hdrained⟩:=ih collected (AsyncOperationStore.pushEvent
      { store with quarantinedCallbacks:=store.quarantinedCallbacks.erase key } operationId
      (.externalCallbackRejected record.submission.operationId record.submission.callbackId
       "quarantined_callback_expired" record.expiresAtUnixMs digest
       record.submission.verifiedBy record.submission.policySnapshotId)) hrest
     exact ⟨submissions,hok,hdrained.round hrecord (pushEvent_extends _ operationId _).logs rfl
      (fun x hx=>hx) (.inr (pushEvent_rejected _ howner _ _ _ _ _ _)) fun x hx=>.inl hx⟩
   · simp only [if_neg hexpired]
     obtain ⟨submissions,hok,hdrained⟩:=ih (collected++[record.submission])
      { store with quarantinedCallbacks:=store.quarantinedCallbacks.erase key } hrest
     refine ⟨submissions,hok,hdrained.round hrecord (fun _=>prefix_rfl) rfl
      (fun x hx=>mem_append_left _ hx) (.inl ?_) ?_⟩
     · exact mem_append_right _ (mem_singleton_self _)
     · intro x hx
       rcases mem_append.mp hx with hold|hnew
       · exact .inl hold
       · exact .inr ⟨(mem_singleton.mp hnew).symm,by omega⟩
end

/-- What a run has established: quarantine and replays hold callbacks that can be submitted, and
what left quarantine is still held or has left its trace. -/
structure Traced (d:StringDisplay) (sha256:List Char→String) (past:Past) (s:System) : Prop where
 quarantined:∀(key:String×String) record,s.store.quarantinedCallbacks[key]?=some record →
  key=keyOf record.submission∧validateCallbackSubmissionIdentity record.submission=.ok () ∧
   ensureCallbackSubmissionAuthenticated record.submission=.ok ()
 held:∀(id:ℕ) replay,s.replays[id]?=some replay → ∀x∈replay.waiting,
  Submittable d sha256 x∧replay.decision.validate=.ok () ∧
   s.store.operations.contains x.operationId=true
 left:∀t∈past,∀x,LeftBy t x→Held s x∨Settled d sha256 s.store x
 logs:∀t∈past,∀id,t.before.store.eventsForOperation id <+: t.after.store.eventsForOperation id

section
variable {past:Past} {s s':System} {action:Action} {response:Except AsyncOperationError Response}

lemma Traced.advance (h:Traced d sha256 past s)
  (hlogs:∀id,s.store.eventsForOperation id <+: s'.store.eventsForOperation id)
  (hreceipts:ReceiptsKept s.store s'.store)
  (hquarantined:∀(key:String×String) record,
   s'.store.quarantinedCallbacks[key]?=some record→key=keyOf record.submission ∧
    validateCallbackSubmissionIdentity record.submission=.ok () ∧
    ensureCallbackSubmissionAuthenticated record.submission=.ok ())
  (hheld:∀(id:ℕ) replay,s'.replays[id]?=some replay→∀x∈replay.waiting,
   Submittable d sha256 x∧replay.decision.validate=.ok () ∧
    s'.store.operations.contains x.operationId=true)
  (hhanded:∀x,Held s x→Held s' x∨Settled d sha256 s'.store x)
  (hleft:∀x,LeftBy ⟨s,action,response,s'⟩ x→Held s' x∨Settled d sha256 s'.store x) :
  Traced d sha256 (past++[⟨s,action,response,s'⟩]) s' where
 quarantined:=hquarantined
 held:=hheld
 left:=by
  intro t ht x hx
  rcases mem_append.mp ht with hold|hnew
  · rcases h.left t hold x hx with hx|hx
    · exact hhanded x hx
    · exact .inr (hx.mono hlogs hreceipts)
  · cases mem_singleton.mp hnew
    exact hleft x hx
 logs:=by
  intro t ht id
  rcases mem_append.mp ht with hold|hnew
  · exact h.logs t hold id
  · cases mem_singleton.mp hnew
    exact hlogs id

lemma Extends.not_left(h:Extends s.store s'.store){x:AsyncCallbackSubmission}:
  ¬LeftBy ⟨s,action,response,s'⟩ x:=by
 rintro ⟨key,record,hbefore,hafter,-⟩
 rw [h.quarantine] at hafter
 exact hafter hbefore

lemma Traced.quiet(h:Traced d sha256 past s)(hreplays:s'.replays=s.replays)
  (hextends:Extends s.store s'.store)(hreceipts:ReceiptsKept s.store s'.store)
  (hknown:∀id,s.store.operations.contains id=true→s'.store.operations.contains id=true):
  Traced d sha256 (past++[⟨s,action,response,s'⟩]) s':=by
 apply h.advance hextends.logs hreceipts
 · rw [hextends.quarantine]
   exact h.quarantined
 · intro id replay hreplay x hx
   rw [hreplays] at hreplay
   obtain ⟨hsubmittable,hdecision,hoperation⟩:=h.held id replay hreplay x hx
   exact ⟨hsubmittable,hdecision,hknown _ hoperation⟩
 · rintro x ⟨id,replay,hreplay,hx⟩
   exact .inl ⟨id,replay,hreplays▸hreplay,hx⟩
 · intro x hx
   exact absurd hx hextends.not_left

lemma Effect.known{granted:List AcceptedCallback}
  (h:Effect d sha256 s action granted response store')(id:String)
  (hknown:s.store.operations.contains id=true):store'.operations.contains id=true:=by
 have hinsert:∀(key:String) (operation:AsyncOperation),
   (s.store.operations.insert key operation).contains id=true:=by
  intro key operation
  rw [ExtTreeMap.contains_insert,hknown,Bool.or_true]
 cases h with
 | same quiet tables=>rwa [tables.operations]
 | registered fresh operations receipts=>
  rw [operations]
  exact hinsert _ _
 | ended call found live terminal operations receipts=>
  rw [operations]
  exact hinsert _ _
 | accepted quiet attempt entered accepts=>
  cases accepts with
  | again stored same=>exact hknown
  | late fresh hash found terminal operations receipts=>rwa [operations]
  | waiting fresh hash found state admitted operations receipts=>
   rw [operations]
   exact hinsert _ _

variable {operation:AsyncOperation}

lemma register_extends(h:KeepsTrace d sha256 s (.register operation)):
  Extends s.store (s.store.register operation).2:=by
 unfold register
 cases hvalid:operation.validate with
 | error e=>exact .refl _
 | ok u=>
  by_cases hknown:s.store.operations.contains operation.operationId=true
  · simp only [if_pos hknown]
    exact .refl _
  · simp only [if_neg hknown]
    have hfresh:=(contains_eq_false_iff _).mp (Bool.eq_false_iff.mpr hknown)
    refine ⟨fun id=>?_,rfl⟩
    by_cases hid:operation.operationId=id
    · subst hid
      rw [h hvalid hfresh]
      exact nil_prefix
    · rw [eventsForOperation,eventsForOperation,lookup_insert_ne _ _ hid]

lemma finish_extends(store:AsyncOperationStore)
  (checks:AsyncOperation→Except AsyncOperationError Unit)(target:AsyncOperationState)
  (operationId:String)(occurredAt:ℕ):
  Extends store (store.finish checks target operationId occurredAt).2:=by
 unfold finish
 cases store.operations[operationId]? with
 | none=>exact .refl _
 | some operation=>
  simp only
  cases checks operation with
  | error e=>exact .refl _
  | ok u=>exact (operations_extends store _).trans (pushEvent_extends _ _ _)

lemma quarantineChecks_ok{expiresAt:ℕ}{u:Unit}(h:quarantineChecks submission expiresAt=.ok u):
  validateCallbackSubmissionIdentity submission=.ok () ∧
   ensureCallbackSubmissionAuthenticated submission=.ok ():=by
 unfold quarantineChecks validateCallbackSubmissionAndResumeDecision at h
 obtain ⟨_,hentry,h⟩:=bind_ok.mp h
 obtain ⟨_,hidentity,-⟩:=bind_ok.mp hentry
 obtain ⟨_,hauthenticated,-⟩:=bind_ok.mp h
 exact ⟨hidentity,hauthenticated⟩

/-- A quarantine call files a checked callback under a key that was free, or changes nothing. -/
lemma quarantine_cases(store:AsyncOperationStore)(submission:AsyncCallbackSubmission)(expiresAt:ℕ):
  (store.quarantineCallbackBeforeOperationCommit d sha256 submission expiresAt).2=store ∨
  store.quarantinedCallbacks[keyOf submission]?=none ∧
   validateCallbackSubmissionIdentity submission=.ok () ∧
   ensureCallbackSubmissionAuthenticated submission=.ok () ∧
   (store.quarantineCallbackBeforeOperationCommit d sha256 submission expiresAt).2 =
    { store with quarantinedCallbacks :=
       store.quarantinedCallbacks.insert (keyOf submission) ⟨submission,expiresAt⟩ }:=by
 unfold quarantineCallbackBeforeOperationCommit
 cases hchecks:quarantineChecks submission expiresAt with
 | error e=>exact .inl rfl
 | ok u=>
  by_cases hknown:store.operations.contains submission.operationId=true
  · rw [if_pos hknown]
    exact .inl rfl
  · rw [if_neg hknown]
    cases hexisting:store.quarantinedCallbacks[
      (submission.operationId,submission.idempotencyKey)]? with
    | some existing=>exact .inl rfl
    | none=>
     obtain ⟨hidentity,hauthenticated⟩:=quarantineChecks_ok hchecks
     exact .inr ⟨hexisting,hidentity,hauthenticated,rfl⟩

lemma Traced.quarantine(h:Traced d sha256 past s)(submission:AsyncCallbackSubmission)(expiresAt:ℕ):
  Traced d sha256 (past++[takeStep (step d sha256) s (.quarantine submission expiresAt)])
   (step d sha256 s (.quarantine submission expiresAt)).2:=by
 have hsame:SameTables s.store (s.store.quarantineCallbackBeforeOperationCommit d sha256
   submission expiresAt).2:=quarantine_same s.store submission expiresAt
 have hcases:(s.store.quarantineCallbackBeforeOperationCommit d sha256 submission
    expiresAt).2=s.store ∨ _:=quarantine_cases s.store submission expiresAt
 rcases hcases with hstore|⟨hfree,hidentity,hauthenticated,hstore⟩
 · simp only [takeStep,step,hstore]
   exact h.quiet rfl (.refl _) (fun _ _ hreceipt=>hreceipt) fun _ hknown=>hknown
 · apply h.advance
   · simp only [step,hstore]
     exact fun _=>prefix_rfl
   · simp only [step,hstore]
     exact fun _ _ hreceipt=>hreceipt
   · intro key record hrecord
     simp only [step,hstore] at hrecord
     rw [lookup_insert] at hrecord
     by_cases hkey:keyOf submission=key
     · rw [if_pos hkey] at hrecord
       cases hrecord
       exact ⟨hkey.symm,hidentity,hauthenticated⟩
     · rw [if_neg hkey] at hrecord
       exact h.quarantined key record hrecord
   · intro id replay hreplay x hx
     simp only [step,hstore] at hreplay ⊢
     exact h.held id replay hreplay x hx
   · rintro x ⟨id,replay,hreplay,hx⟩
     simp only [step]
     exact .inl ⟨id,replay,hreplay,hx⟩
   · rintro x ⟨key,record,hbefore,hafter,-⟩
     exfalso
     simp only [step,hstore] at hafter
     have hne:keyOf submission≠key:=by
      rintro rfl
      rw [hfree] at hbefore
      cases hbefore
     rw [lookup_insert_ne _ _ hne] at hafter
     exact hafter hbefore

variable {decision:AsyncCallbackResumeDecision}

/-- The first section of a replay under the condition: the callbacks it collects are in order. -/
lemma drain_drained(h:Traced d sha256 past s)
  (hoperation:s.store.operations[operationId]?=some operation)
  (hreplayable:Replayable d sha256 s.store operation operationId decision):
  ∃keys submissions,(s.store.drainQuarantinedCallbacks d sha256 operationId).1=.ok submissions ∧
   (∀key∈keys,key.1=operationId) ∧
   Drained operation.createdAtUnixMs keys [] submissions s.store
    (s.store.drainQuarantinedCallbacks d sha256 operationId).2:=by
 unfold drainQuarantinedCallbacks
 simp only [hoperation]
 have howner:∀key∈(s.store.quarantinedCallbacks.toList.map Prod.fst).filter
   (·.1==operationId),key.1=operationId:=by
  intro key hkey
  simpa using (List.mem_filter.mp hkey).2
 have hrecords:∀key∈(s.store.quarantinedCallbacks.toList.map Prod.fst).filter
   (·.1==operationId),∀record,s.store.quarantinedCallbacks[key]?=some record →
   record.submission.operationId=operationId∧HasDigest d sha256 record.submission.payload:=by
  intro key hkey record hrecord
  refine ⟨?_,(hreplayable key record hrecord (howner key hkey)).1⟩
  have hfiled:=(h.quarantined key record hrecord).1
  exact (congrArg Prod.fst hfiled).symm.trans (howner key hkey)
 obtain ⟨collected,hok,hdrained⟩:=drainLoop_drained operation.createdAtUnixMs _ [] s.store hrecords
 have hperm:=perm_insertionSort replaysBefore collected
 refine ⟨_,collected.insertionSort replaysBefore,by rw [hok];rfl,howner,
  { hdrained with
    collects:=fun x hx=>absurd hx not_mem_nil
    taken := ?_
    source:=fun x hx=>hdrained.source x (hperm.mem_iff.mp hx) }⟩
 intro key hkey record hrecord
 exact (hdrained.taken key hkey record hrecord).imp_left hperm.mem_iff.mpr

variable {id:ℕ}

/-- A replay that holds callbacks is started: what leaves quarantine goes to it or is rejected. -/
lemma Traced.start{registry:ToolSchemaRegistry}
  {keys:List (String×String)}{submissions:List AsyncCallbackSubmission}(h:Traced d sha256 past s)
  (hfree:s.replays[id]?=none)(hoperation:s.store.operations[operationId]?=some operation)
  (hreplayable:Replayable d sha256 s.store operation operationId decision)
  (hsame:SameTables s.store store')(howner:∀key∈keys,key.1=operationId)
  (hdrained:Drained operation.createdAtUnixMs keys [] submissions s.store store'):
  Traced d sha256 (past++[⟨s,action,response,⟨store',s.replays.insert id
    ⟨registry,decision,submissions,[],false,none⟩⟩⟩])
   ⟨store',s.replays.insert id ⟨registry,decision,submissions,[],false,none⟩⟩:=by
 apply h.advance hdrained.logs
 · intro key receipt hreceipt
   rw [hsame.receipts]
   exact hreceipt
 · intro key record hrecord
   exact h.quarantined key record (hdrained.stayed key record hrecord)
 · intro id' replay hreplay x hx
   rw [hsame.operations]
   rw [lookup_insert] at hreplay
   by_cases hid:id=id'
   · rw [if_pos hid] at hreplay
     cases hreplay
     rcases hdrained.source x hx with hnone|⟨key,hkey,record,hrecord,rfl,hlive⟩
     · cases hnone
     · obtain ⟨hfiled,hidentity,hauthenticated⟩:=h.quarantined key record hrecord
       obtain ⟨hdigest,hdecision⟩:=hreplayable key record hrecord (howner key hkey)
       refine ⟨⟨hidentity,hauthenticated,hdigest⟩,hdecision hlive,(contains_iff _).mpr ?_⟩
       have hid:record.submission.operationId=operationId:=
        (congrArg Prod.fst hfiled).symm.trans (howner key hkey)
       exact ⟨operation,hid▸hoperation⟩
   · rw [if_neg hid] at hreplay
     exact h.held id' replay hreplay x hx
 · rintro x ⟨id',replay,hreplay,hx⟩
   have hne:id≠id':=by
    rintro rfl
    rw [hfree] at hreplay
    cases hreplay
   exact .inl ⟨id',replay,by rw [lookup_insert_ne _ _ hne];exact hreplay,hx⟩
 · rintro x ⟨key,record,hbefore,hafter,rfl⟩
   by_cases hkey:key∈keys
   · rcases hdrained.taken key hkey record hbefore with hcollected|hrejected
     · exact .inl ⟨id,_,lookup_insert_self _ _ _,hcollected⟩
     · exact .inr (.inr hrejected)
   · exact absurd ((hdrained.others key hkey).trans hbefore) hafter

lemma Traced.startReplay(h:Traced d sha256 past s){registry:ToolSchemaRegistry}
 
  (hkeeps:KeepsTrace d sha256 s (.startReplay id operationId registry decision)):
  Traced d sha256
   (past++[takeStep (step d sha256) s (.startReplay id operationId registry decision)])
   (step d sha256 s (.startReplay id operationId registry decision)).2:=by
 by_cases hused:s.replays.contains id=true
 · have hstep:step d sha256 s (.startReplay id operationId registry decision)=(.ok .running,s):=by
    simp only [step,if_pos hused]
   rw [takeStep,hstep]
   exact h.quiet rfl (.refl _) (fun _ _ hreceipt=>hreceipt) fun _ hknown=>hknown
 · have hfree:=(contains_eq_false_iff _).mp (Bool.eq_false_iff.mpr hused)
   cases hoperation:s.store.operations[operationId]? with
   | none=>
    have hstep:step d sha256 s (.startReplay id operationId registry decision) =
      (.error (.operationNotFound operationId),s):=by
     simp only [step,if_neg hused,drainQuarantinedCallbacks,hoperation]
    rw [takeStep,hstep]
    exact h.quiet rfl (.refl _) (fun _ _ hreceipt=>hreceipt) fun _ hknown=>hknown
   | some operation=>
    have hreplayable:=hkeeps operation hoperation
    obtain ⟨keys,submissions,hok,howner,hdrained⟩:=drain_drained h hoperation hreplayable
    have hstep:step d sha256 s (.startReplay id operationId registry decision) =
      (.ok .running,⟨(s.store.drainQuarantinedCallbacks d sha256 operationId).2,
       s.replays.insert id ⟨registry,decision,submissions,[],false,none⟩⟩):=by
     simp only [step,if_neg hused,hok]
    rw [takeStep,hstep]
    exact h.start hfree hoperation hreplayable (drain_same s.store operationId) howner hdrained

/-- A round of a replay: its first callback is settled and the others are held as before. -/
lemma Traced.submit{replay replay':Replay}
  {rest:List AsyncCallbackSubmission}(h:Traced d sha256 past s)
  (hreplay:s.replays[id]?=some replay)(hwaiting:replay.waiting=submission::rest)
  (hrest:replay'.waiting=rest)(hdecision:replay'.decision=replay.decision)
  (hextends:Extends s.store store')(hreceipts:ReceiptsKept s.store store')
  (hknown:∀id,s.store.operations.contains id=true→store'.operations.contains id=true)
  (hsettled:Settled d sha256 store' submission):
  Traced d sha256 (past++[⟨s,action,response,⟨store',s.replays.insert id replay'⟩⟩])
   ⟨store',s.replays.insert id replay'⟩:=by
 apply h.advance hextends.logs hreceipts
 · intro key record hrecord
   rw [hextends.quarantine] at hrecord
   exact h.quarantined key record hrecord
 · intro id' other hother x hx
   rw [lookup_insert] at hother
   by_cases hid:id=id'
   · rw [if_pos hid] at hother
     cases hother
     rw [hrest] at hx
     obtain ⟨hsubmittable,hvalid,hoperation⟩:=
      h.held id replay hreplay x (hwaiting▸mem_cons_of_mem _ hx)
     exact ⟨hsubmittable,hdecision▸hvalid,hknown _ hoperation⟩
   · rw [if_neg hid] at hother
     obtain ⟨hsubmittable,hvalid,hoperation⟩:=h.held id' other hother x hx
     exact ⟨hsubmittable,hvalid,hknown _ hoperation⟩
 · rintro x ⟨id',other,hother,hx⟩
   by_cases hid:id=id'
   · subst hid
     rw [hreplay] at hother
     cases hother
     rw [hwaiting] at hx
     rcases mem_cons.mp hx with rfl|hx
     · exact .inr hsettled
     · exact .inl ⟨id,replay',lookup_insert_self _ _ _,hrest▸hx⟩
   · exact .inl ⟨id',other,by rw [lookup_insert_ne _ _ hid];exact hother,hx⟩
 · intro x hx
   exact absurd hx hextends.not_left

lemma Traced.finished{replay:Replay}(h:Traced d sha256 past s)
  (hreplay:s.replays[id]?=some replay)(hwaiting:replay.waiting=[]):
  Traced d sha256 (past++[⟨s,action,response,{ s with replays:=s.replays.erase id }⟩])
   { s with replays:=s.replays.erase id }:=by
 apply h.advance
 · exact fun _=>prefix_rfl
 · exact fun _ _ hreceipt=>hreceipt
 · exact h.quarantined
 · intro id' other hother x hx
   rw [ExtTreeMap.getElem?_erase] at hother
   split at hother
   · cases hother
   · exact h.held id' other hother x hx
 · rintro x ⟨id',other,hother,hx⟩
   refine .inl ⟨id',other,?_,hx⟩
   have hne:¬compare id id'=.eq:=by
    intro heq
    rw [Std.compare_eq_iff_eq] at heq
    subst heq
    rw [hreplay] at hother
    cases hother
    rw [hwaiting] at hx
    cases hx
   rw [ExtTreeMap.getElem?_erase,if_neg hne]
   exact hother
 · rintro x ⟨key,record,hbefore,hafter,-⟩
   exact absurd hbefore hafter

lemma Traced.continueReplay(h:Traced d sha256 past s)(id:ℕ):
  Traced d sha256 (past++[takeStep (step d sha256) s (.continueReplay id)])
   (step d sha256 s (.continueReplay id)).2:=by
 have heffect:Effect d sha256 s (.continueReplay id) (grantedBy d sha256 s (.continueReplay id))
   (step d sha256 s (.continueReplay id)).1 (step d sha256 s (.continueReplay id)).2.store:=
  step_effect s (.continueReplay id)
 have hreceipts:=heffect.receiptsKept
 have hknown:=heffect.known
 cases hreplay:s.replays[id]? with
 | none=>
  have hstep:step d sha256 s (.continueReplay id)=(.ok .running,s):=by simp only [step,hreplay]
  rw [takeStep,hstep]
  exact h.quiet rfl (.refl _) (fun _ _ hreceipt=>hreceipt) fun _ hknown=>hknown
 | some replay=>
  have hstep:step d sha256 s (.continueReplay id) =
    AsyncOperations.continueReplay d sha256 s id replay:=by
   simp only [step,hreplay]
  rw [hstep] at hreceipts hknown
  rw [takeStep,hstep]
  unfold AsyncOperations.continueReplay at hreceipts hknown ⊢
  cases hwaiting:replay.waiting with
  | nil=>exact h.finished hreplay hwaiting
  | cons submission rest=>
   obtain ⟨hsubmittable,hdecision,hoperation⟩:=
    h.held id replay hreplay submission (hwaiting▸mem_cons_self)
   rw [hwaiting] at hreceipts hknown
   simp only at hreceipts hknown ⊢
   by_cases hwinner:replay.resumeWinnerSeen=true
   · rw [if_pos hwinner] at hreceipts hknown ⊢
     have hrecord:(s.store.recordCallbackRejected d sha256 submission
        "quarantined_callback_superseded").1=.ok ()∧_:=
      recordCallbackRejected_settles hoperation hsubmittable.digest
     simp only [hrecord.1] at hreceipts hknown ⊢
     exact h.submit hreplay hwaiting rfl rfl
      (recordCallbackRejected_extends s.store submission _) hreceipts hknown (.inr hrecord.2)
   · rw [if_neg hwinner] at hreceipts hknown ⊢
     have hextends:Extends s.store (s.store.acceptCallbackWithResumeDecision d sha256
       submission replay.registry replay.decision).2:=
      run_extends ⟨.limited defaultMaxPayloadBytes,submission,replay.registry,
       replay.decision⟩ s.store
     have hsettled:Settled d sha256 (s.store.acceptCallbackWithResumeDecision d sha256
       submission replay.registry replay.decision).2 submission:=
      acceptCallback_settles hsubmittable hdecision hoperation
     cases haccept:(s.store.acceptCallbackWithResumeDecision d sha256 submission
       replay.registry replay.decision).1 with
     | error e=>
      simp only [haccept] at hreceipts hknown ⊢
      exact h.submit hreplay hwaiting rfl rfl hextends hreceipts hknown hsettled
     | ok accepted=>
      simp only [haccept] at hreceipts hknown ⊢
      exact h.submit hreplay hwaiting rfl rfl hextends hreceipts hknown hsettled

lemma Traced.step(h:Traced d sha256 past s)(hkeeps:KeepsTrace d sha256 s action):
  Traced d sha256 (past++[takeStep (step d sha256) s action]) (step d sha256 s action).2:=by
 have heffect:Effect d sha256 s action (grantedBy d sha256 s action)
   (AsyncOperations.step d sha256 s action).1 (AsyncOperations.step d sha256 s action).2.store:=
  step_effect s action
 cases action with
 | register operation=>
  have hextends:=register_extends hkeeps
  simp only [takeStep,AsyncOperations.step] at heffect ⊢
  -- the store after the call stays opaque, here and below
  generalize s.store.register operation=result at hextends heffect ⊢
  exact h.quiet rfl hextends heffect.receiptsKept heffect.known
 | quarantine submission expiresAt=>exact h.quarantine submission expiresAt
 | accept ingestion submission registry decision=>
  have hextends:Extends s.store
    (s.store.acceptCallbackBy d sha256 ingestion submission registry decision).2:=
   run_extends ⟨ingestion,submission,registry,decision⟩ s.store
  simp only [takeStep,AsyncOperations.step] at heffect ⊢
  generalize s.store.acceptCallbackBy d sha256 ingestion submission registry decision=result
   at hextends heffect ⊢
  exact h.quiet rfl hextends heffect.receiptsKept heffect.known
 | cancel operationId cancelledAt=>
  have hextends:Extends s.store (s.store.cancelOperation operationId cancelledAt).2:=
   finish_extends s.store _ _ _ _
  simp only [takeStep,AsyncOperations.step] at heffect ⊢
  generalize s.store.cancelOperation operationId cancelledAt=result at hextends heffect ⊢
  exact h.quiet rfl hextends heffect.receiptsKept heffect.known
 | expire operationId expiredAt=>
  have hextends:Extends s.store (s.store.expireOperation operationId expiredAt).2:=
   finish_extends s.store _ _ _ _
  simp only [takeStep,AsyncOperations.step] at heffect ⊢
  generalize s.store.expireOperation operationId expiredAt=result at hextends heffect ⊢
  exact h.quiet rfl hextends heffect.receiptsKept heffect.known
 | startReplay id operationId registry decision=>exact h.startReplay hkeeps
 | continueReplay id=>exact h.continueReplay id

lemma Traced.initial : Traced d sha256 [] System.new where
 quarantined:=by
  intro key record hrecord
  simp [System.new,AsyncOperationStore.new] at hrecord
 held:=by
  intro id replay hreplay
  simp [System.new] at hreplay
 left:=fun t ht=>absurd ht not_mem_nil
 logs:=fun t ht=>absurd ht not_mem_nil
end

lemma run_traced(actions:List Action)
  (hkeeps:∀t∈history (step d sha256) System.new actions,KeepsTrace d sha256 t.before t.call):
  Traced d sha256 (history (step d sha256) System.new actions)
   (execute (step d sha256) System.new actions):=by
 have hinvariant:=history_invariant (step d sha256) (s:=System.new)
  (P:=fun past s=>(∀t∈past,KeepsTrace d sha256 t.before t.call)→Traced d sha256 past s)
  (fun _=>Traced.initial)
  (by
   intro past s action ih hpast
   have htraced:=ih fun t ht=>hpast t (mem_append_left _ ht)
   exact htraced.step (hpast _ (mem_append_right _ (mem_singleton_self _))))
  actions
 exact hinvariant hkeeps

/-- In every run in which operations are registered over empty logs and replays can submit what
they take out: a callback that left quarantine is still held by a replay that has not returned,
or it has a receipt or a rejection; and every step extends the log of every operation. -/
theorem quarantined_callbacks_leave_trace (d : StringDisplay) (sha256 : List Char→String)
  (actions : List Action) (hkeeps : ∀t∈history (step d sha256) System.new actions,
   KeepsTrace d sha256 t.before t.call) :
  let past := history (step d sha256) System.new actions
  let reached:=execute (step d sha256) System.new actions
  (∀t∈past,∀submission,LeftBy t submission →
   Held reached submission∨Settled d sha256 reached.store submission) ∧
  ∀t∈past,∀operationId,t.before.store.eventsForOperation operationId <+:
   t.after.store.eventsForOperation operationId := by
 intro past reached
 have htraced:Traced d sha256 past reached:=run_traced actions hkeeps
 exact ⟨htraced.left,htraced.logs⟩
end

/-- The steps of the store with a digest that is the same for all texts. -/
abbrev sampleStep : System→Action→Except AsyncOperationError Response×System :=
 step serdeDisplay fun _ => "0"

/-- A replay whose resume decision names no policy decision. -/
def undecidedReplay : List Action :=
 [.quarantine sampleSubmission 8,.register sampleOperation,
  .startReplay 0 "operation-1" sampleRegistry (.denyPolicy "" "over quota"),.continueReplay 0,
  .continueReplay 0]

/-- A callback comes before its operation and is rejected. -/
def rejectedEarly : List Action :=
 [.accept (.limited defaultMaxPayloadBytes) sampleSubmission sampleRegistry
  .pauseAuthorizationRequired,.register sampleOperation]

lemma undecidedReplay_leaves:LeftBy (takeStep sampleStep
  (execute sampleStep System.new (undecidedReplay.take 2)) (.startReplay 0 "operation-1"
   sampleRegistry (.denyPolicy "" "over quota"))) sampleSubmission:=
 ⟨keyOf sampleSubmission,⟨sampleSubmission,8⟩,by decide +kernel,by decide +kernel,rfl⟩

lemma undecidedReplay_ends:
  (execute sampleStep System.new undecidedReplay).replays.isEmpty=true ∧
  (execute sampleStep System.new
   undecidedReplay).store.receiptsByOperationAndIdempotency[keyOf sampleSubmission]?=none ∧
  (execute sampleStep System.new undecidedReplay).store.eventsForOperation
   sampleSubmission.operationId=registrationEvents sampleOperation:=by
 decide +kernel

lemma undecidedReplay_returned:
  ¬Held (execute sampleStep System.new undecidedReplay) sampleSubmission:=by
 rintro ⟨id,replay,hreplay,-⟩
 rw [ExtTreeMap.isEmpty_iff.mp undecidedReplay_ends.1] at hreplay
 cases hreplay

lemma undecidedReplay_unsettled:¬Settled serdeDisplay (fun _=>"0")
  (execute sampleStep System.new undecidedReplay).store sampleSubmission:=by
 obtain ⟨-,hreceipts,hevents⟩:=undecidedReplay_ends
 rintro (⟨receipt,hreceipt,-⟩|⟨_,_,_,_,_,_,hmem⟩)
 · rw [hreceipts] at hreceipt
   cases hreceipt
 · rw [hevents] at hmem
   simp [registrationEvents,sampleOperation] at hmem

/-- A replay with a decision that is refused drops its callback without a trace, and a
registration drops the rejections that came before it. -/
theorem callback_lost_and_log_overwritten :
  (∃t∈history sampleStep System.new undecidedReplay,LeftBy t sampleSubmission ∧
   ¬Held (execute sampleStep System.new undecidedReplay) sampleSubmission ∧
   ¬Settled serdeDisplay (fun _ => "0")
    (execute sampleStep System.new undecidedReplay).store sampleSubmission) ∧
  ∃t∈history sampleStep System.new rejectedEarly,
   ¬t.before.store.eventsForOperation "operation-1" <+:
    t.after.store.eventsForOperation "operation-1" := by
 refine ⟨⟨_,?_,undecidedReplay_leaves,undecidedReplay_returned,undecidedReplay_unsettled⟩,
  takeStep sampleStep (execute sampleStep System.new (rejectedEarly.take 1))
   (.register sampleOperation),?_,?_⟩
 · exact mem_of_getElem? (i:=2) rfl
 · exact mem_of_getElem? (i:=1) rfl
 · decide +kernel

def pausedReplay : List Action :=
 [.quarantine sampleSubmission 8,.register sampleOperation,
  .startReplay 0 "operation-1" sampleRegistry .pauseAuthorizationRequired,.continueReplay 0,
  .continueReplay 0]

lemma pausedReplay_keepsTrace:∀t∈history sampleStep System.new pausedReplay,
  KeepsTrace serdeDisplay (fun _=>"0") t.before t.call:=by
 intro t ht
 simp only [pausedReplay,history,mem_cons,not_mem_nil,or_false] at ht
 rcases ht with rfl|rfl|rfl|rfl|rfl
 · trivial
 · intro _ _
   decide +kernel
 · intro operation hoperation key record hrecord hkey
   have hquarantined:(execute sampleStep System.new
     (pausedReplay.take 2)).store.quarantinedCallbacks.toList =
     [(keyOf sampleSubmission,⟨sampleSubmission,8⟩)]:=by
    decide +kernel
   have hmem:=mem_toList_iff_getElem?_eq_some.mpr hrecord
   have hsample:(key,record)∈[(keyOf sampleSubmission,
     (⟨sampleSubmission,8⟩:QuarantinedCallbackRecord))]:=hquarantined▸hmem
   cases mem_singleton.mp hsample
   exact ⟨⟨"sha256:0",by decide +kernel⟩,fun _=>rfl⟩
 · trivial
 · trivial

theorem paused_replay_leaves_trace : (∀t∈history sampleStep System.new pausedReplay,
   KeepsTrace serdeDisplay (fun _ => "0") t.before t.call) ∧
  ∀t∈history sampleStep System.new pausedReplay,∀submission,LeftBy t submission →
   Held (execute sampleStep System.new pausedReplay) submission ∨
    Settled serdeDisplay (fun _ => "0") (execute sampleStep System.new pausedReplay).store
     submission :=
 ⟨pausedReplay_keepsTrace,(quarantined_callbacks_leave_trace serdeDisplay (fun _ => "0")
  pausedReplay pausedReplay_keepsTrace).1⟩

end GraphBlocks.AsyncOperations
