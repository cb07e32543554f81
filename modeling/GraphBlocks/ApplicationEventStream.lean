import GraphBlocks.OutputGateModel

/-! `ApplicationEventStreamState::accept`, which decides over every event that is offered to a
stream by its id, its sequence, the terminal event of its run and the output cutoff of its
response. -/
namespace GraphBlocks.ApplicationEvents
open Std Json OrderedMap StoredJson MachineRuns OutputPolicy List Option

inductive ApplicationEventKind where
 | runStarted | runSucceeded | runFailed | runCancelled | runRejected | runPaused | runExhausted
 | toolCallProposed | toolCallArgumentsDelta | toolCallArgumentsCompleted | toolCallValidated
 | toolCallPolicyEvaluated | toolCallApprovalRequested | toolCallAdmitted | toolCallStarted
 | toolCallCompleted | toolCallFailed | toolCallDenied | toolCallCancelled
 | toolCallPolicyStopped | toolCallIncomplete
 | toolResultStarted | toolResultDelta | toolResultArtifactReady | toolResultCompleted
 | toolResultFailed | toolResultDenied | toolResultCancelled | toolResultPolicyStopped
 | toolResultIncomplete
 | outputPolicyEvaluationStarted | outputPolicyAllowed | outputPolicyHeld | outputPolicyRedacted
 | outputPolicyReplaced | outputPolicyViolationDetected
 | outputCutoff | assistantIncomplete | assistantRetracted
 | runCompleted | runExpired | runPolicyStopped
 | asyncOperationStarted | asyncOperationWaitingCallback | asyncOperationPolling
 | asyncOperationCompleted | asyncOperationFailed | asyncOperationCancelled
 | asyncOperationExpired
 | externalCallbackReceived | externalCallbackRejected | lateExternalCallbackReceived
 | runResuming | runPausedBudget | runPausedCallbackDelivery | runPausedPolicy
 | runPausedOperator
deriving DecidableEq

namespace ApplicationEventKind

def isAllowedAfterOutputCutoff : ApplicationEventKind→Bool
 | toolCallDenied | toolCallCancelled | toolCallPolicyStopped | toolCallIncomplete
 | toolResultDenied | toolResultCancelled | toolResultPolicyStopped | toolResultIncomplete=>true
 | _=>false

def isToolEvent : ApplicationEventKind→Bool
 | toolCallProposed | toolCallArgumentsDelta | toolCallArgumentsCompleted | toolCallValidated
 | toolCallPolicyEvaluated | toolCallApprovalRequested | toolCallAdmitted | toolCallStarted
 | toolCallCompleted | toolCallFailed | toolCallDenied | toolCallCancelled
 | toolCallPolicyStopped | toolCallIncomplete
 | toolResultStarted | toolResultDelta | toolResultArtifactReady | toolResultCompleted
 | toolResultFailed | toolResultDenied | toolResultCancelled | toolResultPolicyStopped
 | toolResultIncomplete=>true
 | _=>false

def isRunTerminal : ApplicationEventKind→Bool
 | runSucceeded | runFailed | runCancelled | runRejected | runPaused | runExhausted
 | runCompleted | runExpired | runPolicyStopped=>true
 | _=>false

def isOutputPolicyEvent : ApplicationEventKind→Bool
 | outputPolicyEvaluationStarted | outputPolicyAllowed | outputPolicyHeld | outputPolicyRedacted
 | outputPolicyReplaced | outputPolicyViolationDetected=>true
 | _=>false

def isDraftTerminal : ApplicationEventKind→Bool
 | assistantRetracted | assistantIncomplete=>true
 | _=>false

/-- The tool call events that `accept` refuses by name after a cutoff. -/
def isToolProposal : ApplicationEventKind→Bool
 | toolCallProposed | toolCallArgumentsDelta | toolCallArgumentsCompleted=>true
 | _=>false

end ApplicationEventKind

inductive ApplicationEventVisibility where
 | client | operator | internal | auditOnly
deriving DecidableEq

structure ApplicationEventMetadata where
 eventId:String
 runId:String
 responseId:String
 turnId:Option String
 cursor:Option String
 graphId:Option String
 nodeId:Option String
 operationId:Option String
 sequence:ℕ
 releaseId:String
 policySnapshotId:String
 occurredAtUnixMs:ℕ
 visibility:ApplicationEventVisibility
deriving DecidableEq

structure ApplicationEvent where
 kind:ApplicationEventKind
 metadata:ApplicationEventMetadata
 toolCallId:Option String
 payload:Value
deriving DecidableEq

namespace ApplicationEvent

variable (event:ApplicationEvent)

def payloadText (key:String) : Option String := (event.payload.get key).bind asString

def payloadNumber (key:String) : Option ℕ := (event.payload.get key).bind asU64

def namesOwnResponse : Bool :=
 (event.payloadText "response_id").all fun responseId=>responseId=event.metadata.responseId

end ApplicationEvent

def terminalReasonOf : String→Option TerminalReason
 | "policy_denied"=>some .policyDenied
 | "budget_exhausted"=>some .budgetExhausted
 | "cancelled"=>some .cancelled
 | "client_disconnected"=>some .clientDisconnected
 | _=>none

def draftDispositionOf : String→Option DraftDisposition
 | "keep"=>some .keep
 | "mark_incomplete"=>some .markIncomplete
 | "retract"=>some .retract
 | _=>none

def durableResultOf : String→Option DurableResult
 | "none"=>some .none
 | "incomplete"=>some .incomplete
 | "partial"=>some .partialResult
 | _=>none

def readCutoff (event:ApplicationEvent) : Option OutputCutoff := do
 let terminalReason ← (event.payloadText "terminal_reason").bind terminalReasonOf
 let draftDisposition ← (event.payloadText "draft_disposition").bind draftDispositionOf
 let durableResult ← (event.payloadText "durable_result").bind durableResultOf
 let streamId ← event.payloadText "stream_id"
 let lastGeneratedSequence ← event.payloadNumber "last_generated_sequence"
 let lastPolicyAcceptedSequence ← event.payloadNumber "last_policy_accepted_sequence"
 let lastClientDeliveredSequence ← event.payloadNumber "last_client_delivered_sequence"
 let occurredAtUnixMs ← event.payloadNumber "occurred_at_unix_ms"
 let cutoff : OutputCutoff:=
  { streamId
    responseId:=event.metadata.responseId
    turnId:=event.payloadText "turn_id"
    lastGeneratedSequence
    lastPolicyAcceptedSequence
    lastClientDeliveredSequence
    terminalReason
    draftDisposition
    durableResult
    policyDecisionId:=event.payloadText "policy_decision_id"
    occurredAtUnixMs }
 match cutoff.validate with
 | .ok ()=>some cutoff
 | .error _=>none

def terminalReasonText : TerminalReason→String
 | .policyDenied=>"policy_denied"
 | .budgetExhausted=>"budget_exhausted"
 | .cancelled=>"cancelled"
 | .clientDisconnected=>"client_disconnected"

def draftTerminalDisposition : ApplicationEventKind→Option String
 | .assistantIncomplete=>some "mark_incomplete"
 | .assistantRetracted=>some "retract"
 | _=>none

def draftTerminalEventMatchesCutoff (event:ApplicationEvent) (cutoff:OutputCutoff) : Bool :=
 event.payloadText "terminal_reason" == some (terminalReasonText cutoff.terminalReason) &&
 (match draftTerminalDisposition event.kind with
  | none=>false
  | some disposition=>event.payloadText "draft_disposition" == some disposition) &&
 event.payloadNumber "last_client_delivered_sequence" == some cutoff.lastClientDeliveredSequence

structure ApplicationEventStreamState where
 cutoffs:StringMap OutputCutoff
 acceptedEvents:List ApplicationEvent
 acceptedEventsById:StringMap ApplicationEvent
 lastSequenceByRunId:StringMap ℕ
 terminalEventKindByRunId:StringMap ApplicationEventKind

namespace ApplicationEventStreamState

def new : ApplicationEventStreamState := ⟨∅,[],∅,∅,∅⟩

variable (s:ApplicationEventStreamState)

def record (event:ApplicationEvent) : ApplicationEventStreamState :=
 { s with
   terminalEventKindByRunId:=
    if event.kind.isRunTerminal then
     s.terminalEventKindByRunId.insert event.metadata.runId event.kind
    else s.terminalEventKindByRunId
   acceptedEventsById:=s.acceptedEventsById.insert event.metadata.eventId event
   lastSequenceByRunId:=s.lastSequenceByRunId.insert event.metadata.runId event.metadata.sequence
   acceptedEvents:=s.acceptedEvents++[event] }

/-- What may follow the cutoff of a response. -/
def allowedAfter (cutoff:OutputCutoff) (event:ApplicationEvent) : Bool :=
 if event.kind.isDraftTerminal then draftTerminalEventMatchesCutoff event cutoff
 else
  (event.payloadNumber "chunk_sequence").isNone && !event.kind.isOutputPolicyEvent &&
   event.kind != .runSucceeded && !event.kind.isToolProposal &&
   !(event.kind.isToolEvent && !event.kind.isAllowedAfterOutputCutoff)

def inRunOrder (event:ApplicationEvent) : Bool :=
 (s.lastSequenceByRunId[event.metadata.runId]?.all fun last=>last<event.metadata.sequence) &&
  (!s.terminalEventKindByRunId.contains event.metadata.runId ||
   event.kind=.lateExternalCallbackReceived)

def acceptNew (event:ApplicationEvent) : Option ApplicationEvent×ApplicationEventStreamState :=
 if !s.inRunOrder event then (none,s)
 else if event.kind=.outputCutoff then
  if !event.namesOwnResponse then (none,s)
  else if s.cutoffs.contains event.metadata.responseId then (none,s)
  else
   match readCutoff event with
   | none=>(none,s)
   | some cutoff=>
    (some event,
     { s with cutoffs:=s.cutoffs.insert cutoff.responseId cutoff }.record event)
 else if !event.namesOwnResponse then (none,s)
 else
  match s.cutoffs[event.metadata.responseId]? with
  | none=>(some event,s.record event)
  | some cutoff=>if allowedAfter cutoff event then (some event,s.record event) else (none,s)

def accept (event:ApplicationEvent) : Option ApplicationEvent×ApplicationEventStreamState :=
 match s.acceptedEventsById[event.metadata.eventId]? with
 | some existing=>(if existing=event then some existing else none,s)
 | none=>s.acceptNew event

structure Enters (event:ApplicationEvent) (t:ApplicationEventStreamState) : Prop where
 fresh:s.acceptedEventsById[event.metadata.eventId]?=none
 ordered:s.inRunOrder event=true
 own:event.namesOwnResponse=true
 events:t.acceptedEvents=s.acceptedEvents++[event]
 byId:t.acceptedEventsById=s.acceptedEventsById.insert event.metadata.eventId event
 lasts:t.lastSequenceByRunId =
  s.lastSequenceByRunId.insert event.metadata.runId event.metadata.sequence
 terminals:t.terminalEventKindByRunId=if event.kind.isRunTerminal then
   s.terminalEventKindByRunId.insert event.metadata.runId event.kind
  else s.terminalEventKindByRunId
 cutoffs:(event.kind=.outputCutoff∧s.cutoffs[event.metadata.responseId]?=none ∧
   ∃cutoff,readCutoff event=some cutoff ∧
    t.cutoffs=s.cutoffs.insert event.metadata.responseId cutoff) ∨
  (event.kind ≠ .outputCutoff∧t.cutoffs=s.cutoffs ∧
   ∀cutoff,s.cutoffs[event.metadata.responseId]?=some cutoff→allowedAfter cutoff event=true)

end ApplicationEventStreamState

variable {cutoff:OutputCutoff}

lemma readCutoff_fields{event:ApplicationEvent}(h:readCutoff event=some cutoff):
  cutoff.responseId=event.metadata.responseId ∧
   (event.payloadText "terminal_reason").bind terminalReasonOf=some cutoff.terminalReason ∧
   event.payloadNumber "last_client_delivered_sequence" =
    some cutoff.lastClientDeliveredSequence:=by
 simp only [readCutoff,bind_eq_bind,bind_eq_some_iff] at h
 obtain ⟨reason,hreason,disposition,-,durable,-,streamId,-,generated,-,accepted,-,
  delivered,hdelivered,occurred,-,h⟩:=h
 split at h
 · cases h
   exact ⟨rfl,bind_eq_some_iff.mpr hreason,hdelivered⟩
 · cases h

lemma terminalReasonText_of{text:String}{reason:TerminalReason}
  (h:terminalReasonOf text=some reason):terminalReasonText reason=text:=by
 unfold terminalReasonOf at h
 split at h <;>cases h <;>rfl

lemma draftTerminal_repeats_cutoff{event:ApplicationEvent}
  (h:draftTerminalEventMatchesCutoff event cutoff=true):
  event.payloadText "terminal_reason"=some (terminalReasonText cutoff.terminalReason) ∧
   event.payloadText "draft_disposition"=draftTerminalDisposition event.kind ∧
   event.payloadNumber "last_client_delivered_sequence" =
    some cutoff.lastClientDeliveredSequence:=by
 simp only [draftTerminalEventMatchesCutoff,Bool.and_eq_true,beq_iff_eq] at h
 refine ⟨h.1.1,?_,h.2⟩
 have disposition:=h.1.2
 split at disposition
 · cases disposition
 · next text htext=>
   rw [htext]
   simpa using disposition

/-- What a stream may hold after the cutoff of a response, of that response. -/
structure FollowsCutoff (cutoff later:ApplicationEvent) : Prop where
 unique:later.kind ≠ .outputCutoff
 draft:(later.payloadNumber "chunk_sequence").isSome→later.kind.isDraftTerminal ∧
   later.payloadText "terminal_reason" = cutoff.payloadText "terminal_reason" ∧
   later.payloadText "draft_disposition" = draftTerminalDisposition later.kind ∧
   later.payloadNumber "last_client_delivered_sequence" =
    cutoff.payloadNumber "last_client_delivered_sequence"
 policy:later.kind.isOutputPolicyEvent=false
 run:later.kind ≠ .runSucceeded
 tool:later.kind.isToolEvent→later.kind.isAllowedAfterOutputCutoff

variable {kind:ApplicationEventKind}

lemma ApplicationEventKind.draftTerminal_cases(h:kind.isDraftTerminal=true):
  kind=.assistantRetracted∨kind=.assistantIncomplete:=by
 unfold ApplicationEventKind.isDraftTerminal at h
 split at h
 · exact .inl rfl
 · exact .inr rfl
 · cases h

lemma follows_of_allowed{earlier later:ApplicationEvent}
  (read:readCutoff earlier=some cutoff)(other:later.kind ≠ .outputCutoff)
  (allowed:ApplicationEventStreamState.allowedAfter cutoff later=true):
  FollowsCutoff earlier later:=by
 obtain ⟨-,reason,delivered⟩:=readCutoff_fields read
 obtain ⟨text,htext,hreason⟩:=bind_eq_some_iff.mp reason
 unfold ApplicationEventStreamState.allowedAfter at allowed
 split at allowed
 · next terminal=>
   obtain ⟨sameReason,disposition,sameDelivered⟩:=draftTerminal_repeats_cutoff allowed
   have kinds:=ApplicationEventKind.draftTerminal_cases terminal
   constructor
   · exact other
   · intro _
     refine ⟨terminal,?_,disposition,?_⟩
     · rw [sameReason,htext,terminalReasonText_of hreason]
     · rw [sameDelivered,delivered]
   all_goals rcases kinds with kind|kind <;>rw [kind] <;>decide
 · simp only [Bool.and_eq_true,isNone_iff_eq_none,Bool.not_eq_true',bne_iff_ne,
    ne_eq,Bool.and_eq_false_iff] at allowed
   obtain ⟨⟨⟨⟨chunk,policy⟩,run⟩,-⟩,tool⟩:=allowed
   constructor
   · exact other
   · intro h
     rw [chunk] at h
     cases h
   · exact policy
   · exact run
   · intro h
     rcases tool with tool|tool
     · rw [h] at tool
       cases tool
     · simpa using tool

namespace ApplicationEventStreamState

lemma accept_cases(s:ApplicationEventStreamState)(event:ApplicationEvent):
  (s.acceptedEventsById[event.metadata.eventId]?=some event∧s.accept event=(some event,s)) ∨
   s.accept event=(none,s) ∨
   ∃t,s.Enters event t∧s.accept event=(some event,t):=by
 cases known:s.acceptedEventsById[event.metadata.eventId]? with
 | some existing=>
  by_cases same:existing=event
  · subst same
    exact .inl ⟨rfl,by simp [accept,known]⟩
  · exact .inr (.inl (by simp [accept,known,same]))
 | none=>
  right
  simp only [accept,known,acceptNew]
  split
  · exact .inl rfl
  next ordered=>
  rw [Bool.not_eq_true',Bool.not_eq_false] at ordered
  split
  · next kind=>
    split
    · exact .inl rfl
    next own=>
    split
    · exact .inl rfl
    next first=>
    split
    · exact .inl rfl
    next cutoff read=>
    refine .inr ⟨_,?_,rfl⟩
    refine ⟨known,ordered,by simpa using own,rfl,rfl,rfl,rfl,.inl ⟨kind,?_,cutoff,read,?_⟩⟩
    · simpa using first
    · simp [record,(readCutoff_fields read).1]
  · next kind=>
    split
    · exact .inl rfl
    next own=>
    split
    · next none'=>
      refine .inr ⟨s.record event,⟨known,ordered,by simpa using own,rfl,rfl,rfl,rfl,
       .inr ⟨kind,rfl,?_⟩⟩,rfl⟩
      intro cutoff h
      rw [none'] at h
      cases h
    · next cutoff found=>
      split
      · next allowed=>
        refine .inr ⟨s.record event,⟨known,ordered,by simpa using own,rfl,rfl,rfl,rfl,
         .inr ⟨kind,rfl,?_⟩⟩,rfl⟩
        intro other h
        rw [found] at h
        cases h
        exact allowed
      · exact .inl rfl

end ApplicationEventStreamState

structure MayFollow (earlier later:ApplicationEvent) : Prop where
 ids:earlier.metadata.eventId≠later.metadata.eventId
 sequences:earlier.metadata.runId=later.metadata.runId →
  earlier.metadata.sequence<later.metadata.sequence
 terminals:earlier.metadata.runId=later.metadata.runId→earlier.kind.isRunTerminal →
  later.kind=.lateExternalCallbackReceived
 cutoffs:earlier.kind=.outputCutoff →
  earlier.metadata.responseId=later.metadata.responseId→FollowsCutoff earlier later

structure Faithful (s:ApplicationEventStreamState) : Prop where
 ids:∀eventId event,s.acceptedEventsById[eventId]?=some event ↔
  event∈s.acceptedEvents∧event.metadata.eventId=eventId
 lasts:∀event∈s.acceptedEvents,∃last,
  s.lastSequenceByRunId[event.metadata.runId]?=some last∧event.metadata.sequence≤last
 terminals:∀event∈s.acceptedEvents,event.kind.isRunTerminal →
  s.terminalEventKindByRunId.contains event.metadata.runId=true
 cutoffs:∀event∈s.acceptedEvents,event.kind=.outputCutoff → ∃cutoff,
  readCutoff event=some cutoff∧s.cutoffs[event.metadata.responseId]?=some cutoff
 own:∀event∈s.acceptedEvents,event.namesOwnResponse=true
 order:s.acceptedEvents.Pairwise MayFollow

lemma Faithful.new:Faithful .new:=by constructor <;>simp [ApplicationEventStreamState.new]

namespace ApplicationEventStreamState

variable {s t:ApplicationEventStreamState} {event:ApplicationEvent}

lemma Enters.follows(enters:s.Enters event t)(faithful:Faithful s)
  {earlier:ApplicationEvent}(h:earlier∈s.acceptedEvents):MayFollow earlier event:=by
 have ordered:=enters.ordered
 simp only [inRunOrder,Bool.and_eq_true,Bool.or_eq_true,Bool.not_eq_true',
  decide_eq_true_eq] at ordered
 constructor
 · intro same
   have found:=(faithful.ids _ earlier).mpr ⟨h,same⟩
   rw [enters.fresh] at found
   cases found
 · intro same
   obtain ⟨last,hlast,bound⟩:=faithful.lasts earlier h
   rw [same] at hlast
   have above:=ordered.1
   rw [hlast] at above
   have above:last<event.metadata.sequence:=by simpa using above
   omega
 · intro same terminal
   have ended:=faithful.terminals earlier h terminal
   rw [same] at ended
   rcases ordered.2 with running|late
   · rw [ended] at running
     cases running
   · exact late
 · intro kind same
   obtain ⟨cutoff,read,found⟩:=faithful.cutoffs earlier h kind
   rw [same] at found
   rcases enters.cutoffs with ⟨-,first,-⟩|⟨other,-,allowed⟩
   · rw [first] at found
     cases found
   · exact follows_of_allowed read other (allowed cutoff found)

lemma Enters.faithful(enters:s.Enters event t)(faithful:Faithful s):Faithful t:=by
 constructor
 · intro eventId known
   rw [enters.byId,enters.events,lookup_insert,mem_append,mem_singleton]
   split
   · next same=>
     constructor
     · intro h
       cases h
       exact ⟨.inr rfl,same⟩
     · rintro ⟨h|rfl,named⟩
       · have ids:=(enters.follows faithful h).ids
         exact absurd (named.trans same.symm) ids
       · rfl
   · next other=>
     rw [faithful.ids]
     constructor
     · intro h
       exact ⟨.inl h.1,h.2⟩
     · rintro ⟨h|rfl,named⟩
       · exact ⟨h,named⟩
       · exact absurd named other
 · intro known h
   rw [enters.events,mem_append,mem_singleton] at h
   rw [enters.lasts,lookup_insert]
   split
   · next same=>
     refine ⟨_,rfl,?_⟩
     rcases h with h|rfl
     · exact ((enters.follows faithful h).sequences same.symm).le
     · exact Nat.le_refl _
   · next other=>
     rcases h with h|rfl
     · exact faithful.lasts known h
     · exact absurd rfl other
 · intro known h terminal
   rw [enters.events,mem_append,mem_singleton] at h
   rw [enters.terminals]
   rcases h with h|rfl
   · have held:=faithful.terminals known h terminal
     split
     · simp [ExtTreeMap.contains_insert,held]
     · exact held
   · rw [if_pos terminal]
     simp
 · intro known h kind
   rw [enters.events,mem_append,mem_singleton] at h
   rcases enters.cutoffs with ⟨-,first,cutoff,read,cutoffs⟩|⟨other,cutoffs,-⟩
   · rw [cutoffs,lookup_insert]
     rcases h with h|rfl
     · obtain ⟨held,readHeld,found⟩:=faithful.cutoffs known h kind
       refine ⟨held,readHeld,?_⟩
       rw [if_neg,found]
       intro same
       rw [←same,first] at found
       cases found
     · exact ⟨cutoff,read,if_pos rfl⟩
   · rw [cutoffs]
     rcases h with h|rfl
     · exact faithful.cutoffs known h kind
     · exact absurd kind other
 · intro known h
   rw [enters.events,mem_append,mem_singleton] at h
   rcases h with h|rfl
   · exact faithful.own known h
   · exact enters.own
 · rw [enters.events,pairwise_append]
   refine ⟨faithful.order,pairwise_singleton _ _,?_⟩
   intro earlier h later hlater
   rw [mem_singleton.mp hlater]
   exact enters.follows faithful h

lemma accept_faithful(s:ApplicationEventStreamState)(event:ApplicationEvent)
  (faithful:Faithful s):Faithful (s.accept event).2:=by
 rcases s.accept_cases event with ⟨-,h⟩|h|⟨t,enters,h⟩
 · rw [h]
   exact faithful
 · rw [h]
   exact faithful
 · rw [h]
   exact enters.faithful faithful

def offered (events:List ApplicationEvent) : ApplicationEventStreamState :=
 execute accept new events

lemma offered_faithful(events:List ApplicationEvent):Faithful (offered events):=
 execute_invariant accept Faithful.new accept_faithful events

lemma accept_answer{answer:ApplicationEvent}
  (faithful:Faithful s)(h:(s.accept event).1=some answer):
  answer=event∧event∈(s.accept event).2.acceptedEvents:=by
 rcases s.accept_cases event with ⟨known,accepted⟩|refused|⟨t,enters,accepted⟩
 · rw [accepted] at h ⊢
   cases h
   exact ⟨rfl,((faithful.ids _ _).mp known).1⟩
 · rw [refused] at h
   cases h
 · rw [accepted] at h ⊢
   cases h
   exact ⟨rfl,by simp [enters.events]⟩

lemma reoffered(faithful:Faithful s)(h:event∈s.acceptedEvents):s.accept event=(some event,s):=by
 have known:=(faithful.ids _ _).mpr ⟨h,rfl⟩
 simp [accept,known]

lemma refused_unchanged(h:(s.accept event).1=none):(s.accept event).2=s:=by
 rcases s.accept_cases event with ⟨-,accepted⟩|refused|⟨t,-,accepted⟩
 · rw [accepted] at h
   cases h
 · rw [refused]
 · rw [accepted] at h
   cases h

end ApplicationEventStreamState

lemma late_not_terminal(h:kind=.lateExternalCallbackReceived):kind.isRunTerminal=false:=by
 rw [h]
 rfl

theorem streams_wellFormed (events : List ApplicationEvent) :
  let s := ApplicationEventStreamState.offered events
  s.acceptedEvents.Pairwise (fun earlier later=>
    earlier.metadata.eventId≠later.metadata.eventId ∧
    (earlier.metadata.runId=later.metadata.runId→earlier.metadata.sequence<later.metadata.sequence ∧
     (earlier.kind.isRunTerminal →
      !later.kind.isRunTerminal∧later.kind=.lateExternalCallbackReceived)) ∧
    (earlier.kind=.outputCutoff→earlier.metadata.responseId=later.metadata.responseId →
      FollowsCutoff earlier later)) ∧
   (∀event∈s.acceptedEvents,event.namesOwnResponse∧s.accept event=(some event,s)) ∧
   (∀event answer,(s.accept event).1=some answer →
    answer=event∧event∈(s.accept event).2.acceptedEvents) ∧
   ∀event,(s.accept event).1=none→(s.accept event).2=s := by
 intro s
 have faithful:Faithful s:=ApplicationEventStreamState.offered_faithful events
 refine ⟨?_,?_,?_,?_⟩
 · refine faithful.order.imp ?_
   intro earlier later follows
   refine ⟨follows.ids,?_,follows.cutoffs⟩
   intro same
   refine ⟨follows.sequences same,?_⟩
   intro terminal
   have late:=follows.terminals same terminal
   exact ⟨by simp [late_not_terminal late],late⟩
 · intro event h
   exact ⟨faithful.own event h,ApplicationEventStreamState.reoffered faithful h⟩
 · intro event answer h
   exact ApplicationEventStreamState.accept_answer faithful h
 · intro event h
   exact ApplicationEventStreamState.refused_unchanged h

def responseEvent (kind:ApplicationEventKind) (eventId:String) (sequence:ℕ)
  (payload:List (String×Value)) : ApplicationEvent where
 kind
 metadata:=
  { eventId:=eventId,runId := "run",responseId := "response",turnId:=none,
    cursor:=none,graphId:=none,nodeId:=none,operationId:=none,
    sequence:=sequence,releaseId := "release",policySnapshotId := "policy",
    occurredAtUnixMs:=1,visibility:=.client }
 toolCallId:=none
 payload:=.object payload

def cutoffOffer : ApplicationEvent :=
 responseEvent .outputCutoff "cutoff" 1
  [("draft_disposition",.string "retract"),("durable_result",.string "none"),
   ("last_client_delivered_sequence",.number ['2']),
   ("last_generated_sequence",.number ['3']),
   ("last_policy_accepted_sequence",.number ['2']),
   ("occurred_at_unix_ms",.number ['1']),("stream_id",.string "stream"),
   ("terminal_reason",.string "policy_denied")]

def retractionOffer : ApplicationEvent :=
 responseEvent .assistantRetracted "retraction" 2
  [("chunk_sequence",.number ['3']),("draft_disposition",.string "retract"),
   ("last_client_delivered_sequence",.number ['2']),
   ("terminal_reason",.string "policy_denied")]

theorem retraction_carries_chunk_after_cutoff : ¬ ∀events : List ApplicationEvent,
   (ApplicationEventStreamState.offered events).acceptedEvents.Pairwise fun earlier later=>
    earlier.kind=.outputCutoff→earlier.metadata.responseId=later.metadata.responseId →
      later.payloadNumber "chunk_sequence" = none := by
 intro h
 have accepted :
   (ApplicationEventStreamState.offered [cutoffOffer,retractionOffer]).acceptedEvents =
    [cutoffOffer,retractionOffer]:=by decide +kernel
 have pair:=h [cutoffOffer,retractionOffer]
 rw [accepted,pairwise_pair] at pair
 have none':=pair rfl rfl
 revert none'
 decide +kernel

end GraphBlocks.ApplicationEvents
