import GraphBlocks.MachineRuns
import GraphBlocks.StoredJson

/-! `ApplicationProtocolLog` of the runtime core: the events of one run, appended in the order of
their sequences and replayed after a cursor. -/
namespace GraphBlocks.ApplicationProtocol
open Json OrderedMap RustStd StoredJson MachineRuns List Option

inductive ApplicationProtocolEventKind where
 | runStarted | turnStarted | contextReady
 | assistantDraftStarted | assistantDraftDelta | assistantCommitted | assistantIncomplete
 | assistantRetracted
 | toolStarted | toolCompleted | toolCallApprovalRequested | approvalRequested | reviewRequested
 | budgetConstrained | budgetExhausted | budgetExtensionRequested | budgetExtensionGranted
 | policyDecisionRequired | executionDegraded | outputCutoff | filePatchPreview | jobProgress
 | artifactReady | stateSnapshot
 | runCompleted | runFailed | runCancelled | runPolicyStopped | runExpired
 | asyncOperationStarted | asyncOperationWaitingCallback | asyncOperationPolling
 | asyncOperationCompleted | asyncOperationFailed | asyncOperationCancelled
 | asyncOperationExpired
 | externalCallbackReceived | externalCallbackRejected | lateExternalCallbackReceived
 | runResuming | runPausedBudget | runPausedCallbackDelivery | runPausedPolicy
 | runPausedOperator
deriving DecidableEq

def ApplicationProtocolEventKind.isRunTerminal : ApplicationProtocolEventKind→Bool
 | .runCompleted | .runFailed | .runCancelled | .runPolicyStopped | .runExpired=>true
 | _=>false

structure ApplicationProtocolEventMetadata where
 eventId:String
 protocolVersion:String
 runId:String
 releaseId:String
 turnId:Option String
 operationId:Option String
 sequence:ℕ
 cursor:Option String
 occurredAtUnixMs:ℕ
deriving DecidableEq

structure ApplicationProtocolEvent where
 kind:ApplicationProtocolEventKind
 metadata:ApplicationProtocolEventMetadata
 payload:Value
deriving DecidableEq

inductive LogStorageError where
 | secondTerminalEvent (runId:String)
 | exceedsIntegerRange (field:String) (value:ℕ)
 | negative (field:String) (value:ℤ)
 | invalidJson (message:String)
 | malformed (message:String)
 | unknownKind (text:String)
 | rowMismatch (eventId:String)
 | constraint (columns:String)
deriving DecidableEq

inductive ApplicationProtocolError where
 | emptyEventId
 | emptyMetadataField (field:String)
 | invalidPayload (field:String)
 | invalidPayloadKey (field:String)
 | duplicateEventIdConflict (eventId:String)
 | duplicateCursorConflict (cursor:String)
 | nonMonotonicSequence (previous next:ℕ)
 | runMismatch (expectedRunId actualRunId:String)
 | storage (failure:LogStorageError)
deriving DecidableEq

def eventIndexForCursor (events:List ApplicationProtocolEvent) (cursor:String) : Option ℕ :=
 (events.findIdx? fun event=>event.metadata.cursor==some cursor).or
  (events.findIdx? fun event=>toString event.metadata.sequence==cursor)

def eventCursor (event:ApplicationProtocolEvent) : String :=
 event.metadata.cursor.getD (toString event.metadata.sequence)

def eventsAfter (events:List ApplicationProtocolEvent) (cursor:Option String) :
  List ApplicationProtocolEvent :=
 events.drop (((cursor.bind (eventIndexForCursor events)).map (·+1)).getD 0)

structure ApplicationProtocolLog where
 events:List ApplicationProtocolEvent
 eventsById:StringMap ApplicationProtocolEvent
 eventIdsByCursor:StringMap String
 runId:Option String
 lastSequence:Option ℕ
 terminalEventKind:Option ApplicationProtocolEventKind

inductive ApplicationProtocolReplayError where
 | cursorExpired (requestedCursor:String) (earliestAvailableCursor:Option String)
   (lastCursor:Option String) (lastSequence:Option ℕ)

/-- The answer to a client that attaches; the status of the run is passed through. -/
inductive AttachToRunReplay (σ:Type) where
 | attached (replayedEvents:List ApplicationProtocolEvent) (liveCursor:Option String)
 | cursorExpired (requestedCursor:String) (earliestAvailableCursor:Option String)
   (lastCursor:Option String) (lastSequence:Option ℕ) (runStatus:Option σ)
deriving DecidableEq

namespace ApplicationProtocolLog

def new : ApplicationProtocolLog := ⟨[],∅,∅,none,none,none⟩

variable (log:ApplicationProtocolLog)

def indexCursor (event:ApplicationProtocolEvent) : StringMap String :=
 match event.metadata.cursor with
 | some cursor=>log.eventIdsByCursor.insert cursor event.metadata.eventId
 | none=>log.eventIdsByCursor

def push (event:ApplicationProtocolEvent) : ApplicationProtocolLog where
 events:=log.events++[event]
 eventsById:=log.eventsById.insert event.metadata.eventId event
 eventIdsByCursor:=log.indexCursor event
 runId:=log.runId
 lastSequence:=some event.metadata.sequence
 terminalEventKind:=if event.kind.isRunTerminal then some event.kind else log.terminalEventKind

def cursorTaken (event:ApplicationProtocolEvent) (cursor:String) : Bool :=
 log.eventIdsByCursor[cursor]?.any fun eventId=>eventId != event.metadata.eventId

def appendToRun (event:ApplicationProtocolEvent) :
  Except ApplicationProtocolError Bool×ApplicationProtocolLog :=
 if event.kind.isRunTerminal&&log.terminalEventKind.isSome then
  (.error (.storage (.secondTerminalEvent event.metadata.runId)),log)
 else if event.metadata.cursor.any (log.cursorTaken event) then
  (.error (.duplicateCursorConflict (event.metadata.cursor.getD "")),log)
 else
  match log.lastSequence with
  | some previous=>
   if event.metadata.sequence≤previous then
    (.error (.nonMonotonicSequence previous event.metadata.sequence),log)
   else (.ok true,log.push event)
  | none=>(.ok true,log.push event)

/-- The first event that is not known yet names the run, even if it is refused then. -/
def append (event:ApplicationProtocolEvent) :
  Except ApplicationProtocolError Bool×ApplicationProtocolLog :=
 match log.eventsById[event.metadata.eventId]? with
 | some existing=>
  if existing=event then (.ok false,log)
  else (.error (.duplicateEventIdConflict event.metadata.eventId),log)
 | none=>
  match log.runId with
  | some runId=>
   if runId≠event.metadata.runId then (.error (.runMismatch runId event.metadata.runId),log)
   else log.appendToRun event
  | none=>{ log with runId:=some event.metadata.runId }.appendToRun event

def replayAfter (cursor:Option String) (limit:ℕ) : List ApplicationProtocolEvent :=
 if cursor.any isBlank then []
 else (eventsAfter log.events cursor).take limit

def replayAfterRetained (cursor:Option String) (limit retainedEventCount:ℕ) :
  Except ApplicationProtocolReplayError (List ApplicationProtocolEvent) :=
 let retainedStart:=log.events.length-retainedEventCount
 let retained:=log.events.drop retainedStart
 match cursor with
 | none=>.ok (retained.take limit)
 | some cursor=>
  let expired:=ApplicationProtocolReplayError.cursorExpired cursor
   (retained.head?.map eventCursor) (log.events.getLast?.map eventCursor)
   (log.events.getLast?.map fun event=>event.metadata.sequence)
  match eventIndexForCursor log.events cursor with
  | some index=>
   if retainedStart ≤ index then .ok ((retained.drop (index-retainedStart+1)).take limit)
   else .error expired
  | none=>.error expired

def attachToRunWithOptionalStatus {σ:Type} (lastCursor:Option String)
  (replayLimit retainedEventCount:ℕ) (runStatus:Option σ) : AttachToRunReplay σ :=
 match log.replayAfterRetained lastCursor replayLimit retainedEventCount with
 | .ok replayedEvents=>.attached replayedEvents (log.events.getLast?.map eventCursor)
 | .error (.cursorExpired requestedCursor earliest last lastSequence)=>
  .cursorExpired requestedCursor earliest last lastSequence runStatus

def attachToRun {σ:Type} (lastCursor:Option String) (replayLimit retainedEventCount:ℕ) :
  AttachToRunReplay σ :=
 log.attachToRunWithOptionalStatus lastCursor replayLimit retainedEventCount none

structure Enters (event:ApplicationProtocolEvent) (later:ApplicationProtocolLog) : Prop where
 fresh:log.eventsById[event.metadata.eventId]?=none
 run:∀runId,log.runId=some runId → runId=event.metadata.runId
 untaken:event.metadata.cursor.any (log.cursorTaken event)=false
 above:∀previous,log.lastSequence=some previous→previous<event.metadata.sequence
 result:later = { log with runId:=some event.metadata.runId }.push event

/-- An event may stand before another one in a log. -/
structure Before (earlier later:ApplicationProtocolEvent) : Prop where
 ids:earlier.metadata.eventId≠later.metadata.eventId
 sequences:earlier.metadata.sequence<later.metadata.sequence
 cursors:∀cursor,earlier.metadata.cursor=some cursor→later.metadata.cursor≠some cursor
 runs:earlier.metadata.runId=later.metadata.runId

/-- The maps and counters of a log say what its events say. -/
structure Consistent : Prop where
 unnamed:log.runId=none→log=new
 run:∀event∈log.events,log.runId=some event.metadata.runId
 ids:∀event∈log.events,log.eventsById[event.metadata.eventId]?=some event
 known:∀(eventId:String) event,log.eventsById[eventId]?=some event →
  event∈log.events∧event.metadata.eventId=eventId
 cursors:∀event∈log.events,∀cursor,event.metadata.cursor=some cursor →
  log.eventIdsByCursor[cursor]?=some event.metadata.eventId
 lasts:∀event∈log.events,∃last,log.lastSequence=some last∧event.metadata.sequence≤last
 order:log.events.Pairwise Before

variable {log} {event:ApplicationProtocolEvent} {later:ApplicationProtocolLog}

lemma consistent_new:Consistent new:=by constructor <;>simp [new]

lemma appendToRun_first(runId:String):appendToRun { new with runId:=some runId } event =
   (.ok true,{ new with runId:=some runId }.push event):=by
 have untaken:event.metadata.cursor.any
   (cursorTaken { new with runId:=some runId } event)=false:=by
  cases event.metadata.cursor <;>simp [cursorTaken,new]
 unfold appendToRun
 rw [untaken]
 simp [new]

lemma appendToRun_cases(log:ApplicationProtocolLog)(event:ApplicationProtocolEvent):
  (∃error,log.appendToRun event=(.error error,log)) ∨
   (event.metadata.cursor.any (log.cursorTaken event)=false ∧
    (∀previous,log.lastSequence=some previous→previous<event.metadata.sequence) ∧
    log.appendToRun event=(.ok true,log.push event)):=by
 unfold appendToRun
 split
 · exact .inl ⟨_,rfl⟩
 split
 · exact .inl ⟨_,rfl⟩
 next untaken=>
 rw [Bool.not_eq_true] at untaken
 split
 · next previous hlast=>
   split
   · exact .inl ⟨_,rfl⟩
   · next above=>
     refine .inr ⟨untaken,?_,rfl⟩
     intro other h
     cases hlast.symm.trans h
     omega
 · next hlast=>
   refine .inr ⟨untaken,?_,rfl⟩
   intro other h
   rw [hlast] at h
   cases h

lemma append_cases(consistent:Consistent log)(event:ApplicationProtocolEvent):
  (∃error,log.append event=(.error error,log))∨(log.eventsById[event.metadata.eventId]?=some event ∧
    log.append event=(.ok false,log)) ∨
   ∃later,log.Enters event later∧log.append event=(.ok true,later):=by
 cases known:log.eventsById[event.metadata.eventId]? with
 | some existing=>
  simp only [append,known]
  split
  · next same=>exact .inr (.inl ⟨congrArg some same,rfl⟩)
  · exact .inl ⟨_,rfl⟩
 | none=>
  cases hrun:log.runId with
  | none=>
   have empty:=consistent.unnamed hrun
   subst empty
   refine .inr (.inr ⟨_,⟨known,?_,?_,?_,rfl⟩,?_⟩)
   · intro runId h
     cases h
   · cases event.metadata.cursor <;>simp [cursorTaken,new]
   · intro previous h
     cases h
   · simp only [append,known,hrun]
     exact appendToRun_first _
  | some runId=>
   simp only [append,known,hrun]
   split
   · exact .inl ⟨_,rfl⟩
   next same=>
   rw [not_not] at same
   have self:{ log with runId:=some event.metadata.runId }=log:=by rw [←same,←hrun]
   rcases appendToRun_cases log event with ⟨error,refused⟩|⟨untaken,above,accepted⟩
   · exact .inl ⟨error,refused⟩
   · refine .inr (.inr ⟨_,⟨known,?_,untaken,above,rfl⟩,?_⟩)
     · intro other h
       cases hrun.symm.trans h
       exact same
     · rw [accepted,self]

lemma Enters.events(enters:log.Enters event later):later.events=log.events++[event]:=by
 rw [enters.result]
 rfl

lemma Enters.before(enters:log.Enters event later)(consistent:Consistent log)
  {earlier:ApplicationProtocolEvent}(h:earlier∈log.events):Before earlier event:=by
 have other:earlier.metadata.eventId≠event.metadata.eventId:=by
  intro same
  have known:=consistent.ids earlier h
  rw [same,enters.fresh] at known
  cases known
 constructor
 · exact other
 · obtain ⟨last,hlast,bound⟩:=consistent.lasts earlier h
   have above:=enters.above last hlast
   omega
 · intro cursor hearlier hevent
   have held:=consistent.cursors earlier h cursor hearlier
   have untaken:=enters.untaken
   rw [hevent,any_some,cursorTaken,held,any_some,bne_eq_false_iff_eq] at untaken
   exact other untaken
 · exact enters.run _ (consistent.run earlier h)

lemma Enters.consistent(enters:log.Enters event later)(consistent:Consistent log):
  Consistent later:=by
 have before:∀earlier∈log.events,Before earlier event:=fun earlier h=>enters.before consistent h
 rw [enters.result]
 constructor
 · intro h
   cases h
 · intro known h
   rcases mem_append.mp h with h|h
   · rw [(before known h).runs]
     rfl
   · rw [mem_singleton.mp h]
     rfl
 · intro known h
   change (log.eventsById.insert _ _)[_]?=_
   rw [lookup_insert]
   rcases mem_append.mp h with h|h
   · rw [if_neg fun same=>(before known h).ids same.symm]
     exact consistent.ids known h
   · rw [mem_singleton.mp h,if_pos rfl]
 · intro eventId known h
   change (log.eventsById.insert _ _)[_]?=_ at h
   rw [lookup_insert] at h
   split at h
   · next same=>
     cases h
     exact ⟨mem_append_right _ mem_cons_self,same⟩
   · have held:=consistent.known eventId known h
     exact ⟨mem_append_left _ held.1,held.2⟩
 · intro known h cursor hcursor
   change (indexCursor _ event)[cursor]?=_
   rcases mem_append.mp h with h|h
   · have held:=consistent.cursors known h cursor hcursor
     unfold indexCursor
     split
     · next taken htaken=>
       rw [lookup_insert,if_neg,held]
       intro same
       rw [same] at htaken
       exact (before known h).cursors cursor hcursor htaken
     · exact held
   · rw [mem_singleton.mp h] at hcursor ⊢
     unfold indexCursor
     rw [hcursor]
     exact (lookup_insert _ _ _ _).trans (if_pos rfl)
 · intro known h
   refine ⟨event.metadata.sequence,rfl,?_⟩
   rcases mem_append.mp h with h|h
   · exact (before known h).sequences.le
   · rw [mem_singleton.mp h]
 · change (log.events++[event]).Pairwise Before
   rw [pairwise_append]
   refine ⟨consistent.order,pairwise_singleton _ _,?_⟩
   intro earlier h other hother
   rw [mem_singleton.mp hother]
   exact before earlier h

lemma append_consistent(log:ApplicationProtocolLog)(event:ApplicationProtocolEvent)
  (consistent:Consistent log):Consistent (log.append event).2:=by
 rcases append_cases consistent event with ⟨error,h⟩|⟨-,h⟩|⟨later,enters,h⟩
 · rw [h]
   exact consistent
 · rw [h]
   exact consistent
 · rw [h]
   exact enters.consistent consistent

/-- The log after a list of offers, refused ones among them. -/
def appendAll (log:ApplicationProtocolLog) (events:List ApplicationProtocolEvent) :
  ApplicationProtocolLog :=
 execute append log events

lemma appendAll_consistent(consistent:Consistent log)
  (events:List ApplicationProtocolEvent):Consistent (log.appendAll events):=
 execute_invariant append consistent append_consistent events

lemma appendAll_extends(consistent:Consistent log)(events:List ApplicationProtocolEvent):
  log.events <+: (log.appendAll events).events:=by
 have both:Consistent (log.appendAll events)∧log.events <+: (log.appendAll events).events:=by
  refine execute_invariant (I:=fun later=>Consistent later∧log.events <+: later.events)
   append ⟨consistent,prefix_refl _⟩ ?_ events
  rintro later event ⟨kept,grown⟩
  refine ⟨append_consistent later event kept,?_⟩
  rcases append_cases kept event with ⟨error,h⟩|⟨-,h⟩|⟨last,enters,h⟩
  · rw [h]
    exact grown
  · rw [h]
    exact grown
  · rw [h,enters.events]
    exact grown.trans (prefix_append _ _)
 exact both.2

end ApplicationProtocolLog

end GraphBlocks.ApplicationProtocol
