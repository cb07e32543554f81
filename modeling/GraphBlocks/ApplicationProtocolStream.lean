import GraphBlocks.ApplicationProtocol

/-! `ApplicationProtocolStreamState::accept`. Of a cutoff the stream keeps the boundary of the
response that the payload names; an event whose payload names no response is of none. -/
namespace GraphBlocks.ApplicationProtocol
open OrderedMap RustStd StoredJson MachineRuns List Option

namespace ApplicationProtocolEventKind

/-- The events that end the draft of a response, with the disposition they have to name. -/
def draftDisposition : ApplicationProtocolEventKind→Option String
 | assistantIncomplete=>some "mark_incomplete"
 | assistantRetracted=>some "retract"
 | _=>none

end ApplicationProtocolEventKind

namespace ApplicationProtocolEvent

variable (event:ApplicationProtocolEvent)

def payloadText (key:String) : Option String := (event.payload.get key).bind asString

def payloadNumber (key:String) : Option ℕ := (event.payload.get key).bind asU64

def responseId : Option String := event.payloadText "response_id"

end ApplicationProtocolEvent

structure OutputCutoffBoundary where
 lastClientDeliveredSequence:ℕ
 terminalReason:String

def readBoundary (event:ApplicationProtocolEvent) : Option OutputCutoffBoundary := do
 let terminalReason ← event.payloadText "terminal_reason"
 guard (terminalReason∈["policy_denied","budget_exhausted","cancelled","client_disconnected"])
 let draftDisposition ← event.payloadText "draft_disposition"
 guard (draftDisposition∈["keep","mark_incomplete","retract"])
 let durableResult ← event.payloadText "durable_result"
 guard (durableResult∈["none","incomplete","partial"])
 let occurredAtUnixMs ← event.payloadNumber "occurred_at_unix_ms"
 guard (occurredAtUnixMs≠0)
 let lastGeneratedSequence ← event.payloadNumber "last_generated_sequence"
 let lastPolicyAcceptedSequence ← event.payloadNumber "last_policy_accepted_sequence"
 let lastClientDeliveredSequence ← event.payloadNumber "last_client_delivered_sequence"
 guard (lastPolicyAcceptedSequence≤lastGeneratedSequence ∧
  lastClientDeliveredSequence≤lastGeneratedSequence)
 guard (lastClientDeliveredSequence≤lastPolicyAcceptedSequence∨draftDisposition ≠ "keep")
 return ⟨lastClientDeliveredSequence,terminalReason⟩

def matchesBoundary (event:ApplicationProtocolEvent) (boundary:OutputCutoffBoundary) : Bool :=
 event.payloadText "terminal_reason" == some boundary.terminalReason &&
 (event.kind.draftDisposition.isSome &&
  event.payloadText "draft_disposition" == event.kind.draftDisposition) &&
 event.payloadNumber "last_client_delivered_sequence" == some boundary.lastClientDeliveredSequence

structure ApplicationProtocolStreamState where
 cutoffs:StringMap OutputCutoffBoundary
 acceptedEvents:List ApplicationProtocolEvent
 terminalEventByRunId:StringMap ApplicationProtocolEvent

namespace ApplicationProtocolStreamState

def new : ApplicationProtocolStreamState := ⟨∅,[],∅⟩

variable (s:ApplicationProtocolStreamState)

def acceptCutoff (event:ApplicationProtocolEvent) :
  Option ApplicationProtocolEvent×ApplicationProtocolStreamState :=
 match event.responseId with
 | none=>(none,s)
 | some responseId=>
  if isBlank responseId||s.cutoffs.contains responseId then (none,s)
  else
   match readBoundary event with
   | none=>(none,s)
   | some boundary=>
    (some event,
     { s with
       cutoffs:=s.cutoffs.insert responseId boundary,acceptedEvents:=s.acceptedEvents++[event] })

def boundaryOf (event:ApplicationProtocolEvent) : Option OutputCutoffBoundary :=
 event.responseId.bind fun responseId=>s.cutoffs[responseId]?

def acceptOther (event:ApplicationProtocolEvent) :
  Option ApplicationProtocolEvent×ApplicationProtocolStreamState :=
 match s.boundaryOf event with
 | some boundary=>
  if matchesBoundary event boundary then
   (some event,{ s with acceptedEvents:=s.acceptedEvents++[event] })
  else (none,s)
 | none=>
  (some event,
   { s with
     terminalEventByRunId:=
      if event.kind.isRunTerminal then s.terminalEventByRunId.insert event.metadata.runId event
      else s.terminalEventByRunId
     acceptedEvents:=s.acceptedEvents++[event] })

def acceptNew (event:ApplicationProtocolEvent) :
  Option ApplicationProtocolEvent×ApplicationProtocolStreamState :=
 if event.kind=.outputCutoff then s.acceptCutoff event else s.acceptOther event

def accept (event:ApplicationProtocolEvent) :
  Option ApplicationProtocolEvent×ApplicationProtocolStreamState :=
 if event.kind.isRunTerminal then
  match s.terminalEventByRunId[event.metadata.runId]? with
  | some existing=>(if existing=event then some existing else none,s)
  | none=>s.acceptNew event
 else s.acceptNew event

structure Enters (event:ApplicationProtocolEvent) (t:ApplicationProtocolStreamState) : Prop where
 events:t.acceptedEvents=s.acceptedEvents++[event]
 cutoffs:(event.kind=.outputCutoff ∧ ∃responseId boundary,
   event.responseId=some responseId∧s.cutoffs[responseId]?=none∧readBoundary event=some boundary ∧
    t.cutoffs=s.cutoffs.insert responseId boundary) ∨
  (event.kind ≠ .outputCutoff∧t.cutoffs=s.cutoffs ∧
   ∀boundary,s.boundaryOf event=some boundary→matchesBoundary event boundary=true)

variable {s}

lemma acceptNew_cases(event:ApplicationProtocolEvent):s.acceptNew event=(none,s) ∨
   ∃t,s.Enters event t∧s.acceptNew event=(some event,t):=by
 unfold acceptNew
 split
 · next kind=>
   unfold acceptCutoff
   split
   · exact .inl rfl
   next responseId named=>
   split
   · exact .inl rfl
   next first=>
   split
   · exact .inl rfl
   next boundary read=>
   simp only [Bool.or_eq_true,not_or] at first
   have fresh:s.cutoffs[responseId]?=none:=by simpa using first.2
   exact .inr ⟨_,⟨rfl,.inl ⟨kind,responseId,boundary,named,fresh,read,rfl⟩⟩,rfl⟩
 · next kind=>
   unfold acceptOther
   split
   · next boundary found=>
     split
     · next fits=>
       refine .inr ⟨_,?_,rfl⟩
       refine ⟨rfl,.inr ⟨kind,rfl,?_⟩⟩
       intro other h
       rw [found] at h
       cases h
       exact fits
     · exact .inl rfl
   · next unknown=>
     refine .inr ⟨_,?_,rfl⟩
     refine ⟨rfl,.inr ⟨kind,rfl,?_⟩⟩
     intro boundary h
     rw [unknown] at h
     cases h

lemma accept_cases(event:ApplicationProtocolEvent):
  (s.accept event).2=s ∨ ∃t,s.Enters event t∧s.accept event=(some event,t):=by
 unfold accept
 split
 · split
   · exact .inl rfl
   · rcases s.acceptNew_cases event with h|h
     · exact .inl (by rw [h])
     · exact .inr h
 · rcases s.acceptNew_cases event with h|h
   · exact .inl (by rw [h])
   · exact .inr h

end ApplicationProtocolStreamState

lemma readBoundary_fields{event:ApplicationProtocolEvent}{boundary:OutputCutoffBoundary}
  (h:readBoundary event=some boundary):
  event.payloadText "terminal_reason"=some boundary.terminalReason ∧
   event.payloadNumber "last_client_delivered_sequence" =
    some boundary.lastClientDeliveredSequence:=by
 simp only [readBoundary,bind_eq_bind,bind_eq_some_iff] at h
 obtain ⟨reason,hreason,-,-,disposition,-,-,-,durable,-,-,-,occurred,-,-,-,
  generated,-,accepted,-,delivered,hdelivered,-,-,-,-,h⟩:=h
 cases h
 exact ⟨hreason,hdelivered⟩

def Bounded (s:ApplicationProtocolStreamState) : Prop :=
 ∀event∈s.acceptedEvents,event.kind=.outputCutoff → ∃boundary,
  readBoundary event=some boundary∧s.boundaryOf event=some boundary

namespace ApplicationProtocolStreamState

variable {s t:ApplicationProtocolStreamState} {event:ApplicationProtocolEvent}

lemma Enters.bounded(enters:s.Enters event t)(bounded:Bounded s):Bounded t:=by
 intro known h kind
 rw [enters.events,mem_append,mem_singleton] at h
 rcases enters.cutoffs with ⟨-,responseId,boundary,named,fresh,read,cutoffs⟩ |
  ⟨other,cutoffs,-⟩
 · rcases h with h|rfl
   · obtain ⟨held,readHeld,found⟩:=bounded known h kind
     refine ⟨held,readHeld,?_⟩
     obtain ⟨knownId,hknown,found⟩:=bind_eq_some_iff.mp found
     refine bind_eq_some_iff.mpr ⟨knownId,hknown,?_⟩
     rw [cutoffs,lookup_insert,if_neg]
     · exact found
     · intro same
       rw [←same,fresh] at found
       cases found
   · refine ⟨boundary,read,bind_eq_some_iff.mpr ⟨responseId,named,?_⟩⟩
     rw [cutoffs,lookup_insert,if_pos rfl]
 · rcases h with h|rfl
   · obtain ⟨held,readHeld,found⟩:=bounded known h kind
     refine ⟨held,readHeld,?_⟩
     unfold boundaryOf at found ⊢
     rw [cutoffs]
     exact found
   · exact absurd kind other

lemma accept_bounded(s:ApplicationProtocolStreamState)(event:ApplicationProtocolEvent)
  (bounded:Bounded s):Bounded (s.accept event).2:=by
 rcases accept_cases (s:=s) event with h|⟨t,enters,h⟩
 · rw [h]
   exact bounded
 · rw [h]
   exact enters.bounded bounded

def offered (events:List ApplicationProtocolEvent) : ApplicationProtocolStreamState :=
 execute accept new events

lemma offered_bounded(events:List ApplicationProtocolEvent):Bounded (offered events):=by
 apply execute_invariant accept _ accept_bounded events
 intro event h
 cases h

end ApplicationProtocolStreamState

end GraphBlocks.ApplicationProtocol
