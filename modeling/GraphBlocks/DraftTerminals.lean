import GraphBlocks.ApplicationEventStream
import GraphBlocks.ApplicationProtocolStream

namespace GraphBlocks.DraftTerminals
open Json MachineRuns List Option

/-- What a reader finds in an event; `ending` is the disposition that the kind carries out. -/
structure DraftReader (ε:Type) where
 isCutoff:ε→Bool
 ending:ε→Option String
 response:ε→Option String
 text:ε→String→Option String
 number:ε→String→Option ℕ

namespace DraftReader

variable {ε:Type} (reader:DraftReader ε)

structure EndsDraftOf (cutoff later:ε) : Prop where
 cuts:reader.isCutoff cutoff=true
 ends:(reader.ending later).isSome=true
 response:reader.response later=reader.response cutoff

/-- The end of a draft repeats its cutoff and names the disposition of its own kind. -/
structure Repeats (cutoff later:ε) : Prop where
 reason:reader.text later "terminal_reason" = reader.text cutoff "terminal_reason"
 own:reader.text later "draft_disposition" = reader.ending later
 delivered:reader.number later "last_client_delivered_sequence" =
  reader.number cutoff "last_client_delivered_sequence"

def Prescribed (cutoff later:ε) : Prop := reader.ending later=reader.text cutoff "draft_disposition"

/-- `event` is the only end of the draft that `cutoff` cuts off among the events `since`. -/
def OnlyEnd (cutoff:ε) (since:List ε) (event:ε) : Prop :=
 ∀other∈since,reader.EndsDraftOf cutoff other → other=event

def Settled (accepted:List ε) : Prop :=
 ∀past cutoff since,accepted=past++cutoff::since → ∀later∈since,reader.EndsDraftOf cutoff later →
   reader.Prescribed cutoff later∧reader.Repeats cutoff later∧reader.OnlyEnd cutoff since later

def Meets (accepted:List ε) (event:ε) : Prop :=
 ∀past cutoff since,accepted=past++cutoff::since →
  reader.EndsDraftOf cutoff event → reader.Repeats cutoff event →
   reader.Prescribed cutoff event∧reader.OnlyEnd cutoff since event

/-- What the stream has to say of an event that it appends. -/
def Follows (accepted:List ε) (event:ε) : Prop :=
 ∀past cutoff since,accepted=past++cutoff::since → reader.EndsDraftOf cutoff event →
   reader.Prescribed cutoff event∧reader.Repeats cutoff event∧reader.OnlyEnd cutoff since event

end DraftReader

lemma forall_splits_concat{α:Type}{P:List α→α→List α→Prop}(l:List α)(a:α):
  (∀past x since,l++[a]=past++x::since→P past x since) ↔
   P l a []∧∀past x since,l=past++x::since→P past x (since++[a]):=by
 constructor
 · intro h
   refine ⟨h l a [] rfl,?_⟩
   intro past x since split
   exact h past x (since++[a]) (by simp [split])
 · rintro ⟨last,inner⟩ past x since split
   rcases eq_nil_or_concat since with rfl|⟨front,b,rfl⟩
   · obtain ⟨rfl,same⟩:=append_inj' split rfl
     cases same
     exact last
   · rw [concat_eq_append,←cons_append,←append_assoc] at split
     obtain ⟨rfl,same⟩:=append_inj' split rfl
     cases same
     rw [concat_eq_append]
     exact inner past x front rfl

namespace DraftReader

variable {ε:Type} {reader:DraftReader ε} {accepted:List ε} {event:ε}

lemma settled_nil:reader.Settled []:=by
 intro past cutoff since split
 simp at split

lemma settled_concat:reader.Settled (accepted++[event]) ↔
   reader.Settled accepted∧reader.Follows accepted event:=by
 unfold Settled
 rw [forall_splits_concat]
 constructor
 · rintro ⟨-,settled⟩
   constructor
   · intro past cutoff since split later held ends
     obtain ⟨prescribed,repeats,only⟩:=
      settled past cutoff since split later (mem_append_left _ held) ends
     refine ⟨prescribed,repeats,?_⟩
     intro other holds
     exact only other (mem_append_left _ holds)
   · intro past cutoff since split ends
     obtain ⟨prescribed,repeats,only⟩:=settled past cutoff since split event (by simp) ends
     refine ⟨prescribed,repeats,?_⟩
     intro other holds
     exact only other (mem_append_left _ holds)
 · rintro ⟨settled,follows⟩
   constructor
   · intro later held
     cases held
   · intro past cutoff since split later held ends
     rw [mem_append,mem_singleton] at held
     rcases held with held|rfl
     · obtain ⟨prescribed,repeats,only⟩:=settled past cutoff since split later held ends
       refine ⟨prescribed,repeats,?_⟩
       intro other holds endsToo
       rw [mem_append,mem_singleton] at holds
       rcases holds with holds|rfl
       · exact only other holds endsToo
       · exact ((follows past cutoff since split endsToo).2.2 later held ends).symm
     · obtain ⟨prescribed,repeats,only⟩:=follows past cutoff since split ends
       refine ⟨prescribed,repeats,?_⟩
       intro other holds endsToo
       rw [mem_append,mem_singleton] at holds
       rcases holds with holds|rfl
       · exact only other holds endsToo
       · rfl

lemma follows_iff_meets(repeats:∀past cutoff since,accepted=past++cutoff::since →
   reader.EndsDraftOf cutoff event→ reader.Repeats cutoff event):
  reader.Follows accepted event↔reader.Meets accepted event:=by
 constructor
 · intro follows past cutoff since split ends _
   obtain ⟨prescribed,-,only⟩:=follows past cutoff since split ends
   exact ⟨prescribed,only⟩
 · intro meets past cutoff since split ends
   have same:=repeats past cutoff since split ends
   obtain ⟨prescribed,only⟩:=meets past cutoff since split ends same
   exact ⟨prescribed,same,only⟩

end DraftReader

/-- A stream that appends, of the ends of drafts it admits, those that repeat their cutoff. -/
structure ChecksCutoffs {σ ε:Type} (reader:DraftReader ε) (step:σ→ε→Option ε×σ)
  (accepted:σ→List ε) (Inv:σ→Prop) (Admits:σ→ε→Prop) : Prop where
 keeps:∀s event,Inv s→Inv (step s event).2
 appends:∀s event,Inv s→accepted (step s event).2=accepted s ∨
  accepted (step s event).2=accepted s++[event]∧Admits s event ∧
   ∀past cutoff since,accepted s=past++cutoff::since →
    reader.EndsDraftOf cutoff event → reader.Repeats cutoff event
 takes:∀s event past cutoff since,Inv s→Admits s event →
  accepted s=past++cutoff::since → reader.EndsDraftOf cutoff event →
   reader.Repeats cutoff event→accepted (step s event).2=accepted s++[event]

section
variable {σ ε:Type} {reader:DraftReader ε} {step:σ→ε→Option ε×σ}
 {accepted:σ→List ε} {Inv:σ→Prop} {Admits:σ→ε→Prop}

lemma ChecksCutoffs.step_iff(checks:ChecksCutoffs reader step accepted Inv Admits){s:σ}
  (inv:Inv s)(event:ε):
  reader.Settled (accepted (step s event).2) ↔
   reader.Settled (accepted s)∧(Admits s event→ reader.Meets (accepted s) event):=by
 rcases checks.appends s event inv with same|⟨more,admits,repeats⟩
 · rw [same]
   constructor
   · intro settled
     refine ⟨settled,?_⟩
     intro admits past cutoff since split ends repeats
     -- An event that repeats the cutoff is appended, which the stream was not.
     have more:=checks.takes s event past cutoff since inv admits split ends repeats
     rw [same] at more
     simp at more
   · exact fun h=>h.1
 · rw [more,DraftReader.settled_concat,DraftReader.follows_iff_meets repeats]
   constructor
   · rintro ⟨settled,meets⟩
     exact ⟨settled,fun _=>meets⟩
   · rintro ⟨settled,meets⟩
     exact ⟨settled,meets admits⟩

lemma ChecksCutoffs.settled_iff(checks:ChecksCutoffs reader step accepted Inv Admits)
  {start:σ}(inv:Inv start)(empty:accepted start=[])(events:List ε):
  reader.Settled (accepted (execute step start events)) ↔
   ∀before event after,events=before++event::after→Admits (execute step start before) event →
     reader.Meets (accepted (execute step start before)) event:=by
 induction events using List.reverseRecOn with
 | nil=>
  rw [execute_nil,empty]
  constructor
  · intro _ before event after split
    simp at split
  · intro _
    exact DraftReader.settled_nil
 | append_singleton events event ih=>
  have reached:Inv (execute step start events):=execute_invariant step inv checks.keeps events
  rw [execute_concat,checks.step_iff reached,ih,forall_splits_concat,and_comm]
end

section

open ApplicationEvents

def eventReader : DraftReader ApplicationEvent where
 isCutoff:=fun event=>event.kind=.outputCutoff
 ending:=fun event=>draftTerminalDisposition event.kind
 response:=fun event=>some event.metadata.responseId
 text:=ApplicationEvent.payloadText
 number:=ApplicationEvent.payloadNumber

/-- What the stream asks of every event before it looks at the cutoffs. -/
def Passes (s:ApplicationEventStreamState) (event:ApplicationEvent) : Prop :=
 s.acceptedEventsById[event.metadata.eventId]?=none∧s.inRunOrder event=true ∧
  event.namesOwnResponse=true

lemma ending_isSome{kind:ApplicationEventKind}:
  (draftTerminalDisposition kind).isSome=kind.isDraftTerminal:=by
 cases kind <;>rfl

lemma matches_iff_repeats{event earlier:ApplicationEvent}{cutoff:OutputPolicy.OutputCutoff}
  (read:readCutoff earlier=some cutoff)(ends:eventReader.EndsDraftOf earlier event):
  draftTerminalEventMatchesCutoff event cutoff=true↔eventReader.Repeats earlier event:=by
 obtain ⟨-,reason,delivered⟩:=readCutoff_fields read
 obtain ⟨text,htext,hreason⟩:=bind_eq_some_iff.mp reason
 rw [←terminalReasonText_of hreason] at htext
 constructor
 · intro fits
   obtain ⟨sameReason,own,sameDelivered⟩:=draftTerminal_repeats_cutoff fits
   exact ⟨sameReason.trans htext.symm,own,sameDelivered.trans delivered.symm⟩
 · rintro ⟨sameReason,own,sameDelivered⟩
   change event.payloadText "terminal_reason"=earlier.payloadText "terminal_reason"
    at sameReason
   change event.payloadText "draft_disposition"=draftTerminalDisposition event.kind at own
   change event.payloadNumber "last_client_delivered_sequence" =
    earlier.payloadNumber "last_client_delivered_sequence" at sameDelivered
   obtain ⟨disposition,hdisposition⟩:=isSome_iff_exists.mp ends.ends
   change draftTerminalDisposition event.kind=some disposition at hdisposition
   rw [htext] at sameReason
   rw [delivered] at sameDelivered
   rw [hdisposition] at own
   simp [draftTerminalEventMatchesCutoff,sameReason,hdisposition,own,sameDelivered]

lemma held_cutoff{s:ApplicationEventStreamState}(faithful:Faithful s)
  {past since:List ApplicationEvent}{earlier event:ApplicationEvent}
  (split:s.acceptedEvents=past++earlier::since)
  (ends:eventReader.EndsDraftOf earlier event):∃cutoff,
   readCutoff earlier=some cutoff∧s.cutoffs[event.metadata.responseId]?=some cutoff:=by
 have kind:earlier.kind=.outputCutoff:=by simpa [eventReader] using ends.cuts
 have same:event.metadata.responseId=earlier.metadata.responseId:=by
  simpa [eventReader] using ends.response
 rw [same]
 exact faithful.cutoffs earlier (by simp [split]) kind

lemma eventStream_checks:ChecksCutoffs eventReader ApplicationEventStreamState.accept
   ApplicationEventStreamState.acceptedEvents Faithful Passes:=by
 constructor
 · intro s event faithful
   exact s.accept_faithful event faithful
 · intro s event faithful
   rcases s.accept_cases event with ⟨-,h⟩|h|⟨t,enters,h⟩
   · exact .inl (by rw [h])
   · exact .inl (by rw [h])
   · rw [h]
     refine .inr ⟨enters.events,⟨enters.fresh,enters.ordered,enters.own⟩,?_⟩
     intro past earlier since split ends
     obtain ⟨cutoff,read,held⟩:=held_cutoff faithful split ends
     rcases enters.cutoffs with ⟨-,first,-⟩|⟨-,-,allowed⟩
     · rw [first] at held
       cases held
     · have fits:=allowed cutoff held
       have terminal:event.kind.isDraftTerminal=true:=by
        rw [←ending_isSome]
        exact ends.ends
       rw [ApplicationEventStreamState.allowedAfter,if_pos terminal] at fits
       exact (matches_iff_repeats read ends).mp fits
 · intro s event past earlier since faithful passes split ends repeats
   obtain ⟨cutoff,read,held⟩:=held_cutoff faithful split ends
   have fits:=(matches_iff_repeats read ends).mpr repeats
   have terminal:event.kind.isDraftTerminal=true:=by
    rw [←ending_isSome]
    exact ends.ends
   have other:event.kind ≠ .outputCutoff:=by
    intro kind
    rw [kind] at terminal
    cases terminal
   obtain ⟨fresh,ordered,own⟩:=passes
   simp [ApplicationEventStreamState.accept,fresh,ApplicationEventStreamState.acceptNew,
    ordered,other,own,held,ApplicationEventStreamState.allowedAfter,terminal,fits,
    ApplicationEventStreamState.record]
end

section

open ApplicationProtocol

def protocolReader : DraftReader ApplicationProtocolEvent where
 isCutoff:=fun event=>event.kind=.outputCutoff
 ending:=fun event=>event.kind.draftDisposition
 response:=ApplicationProtocolEvent.responseId
 text:=ApplicationProtocolEvent.payloadText
 number:=ApplicationProtocolEvent.payloadNumber

lemma matchesBoundary_iff_repeats{event earlier:ApplicationProtocolEvent}
  {boundary:OutputCutoffBoundary}(read:readBoundary earlier=some boundary)
  (ends:protocolReader.EndsDraftOf earlier event):
  matchesBoundary event boundary=true↔protocolReader.Repeats earlier event:=by
 obtain ⟨reason,delivered⟩:=readBoundary_fields read
 have terminal:event.kind.draftDisposition.isSome=true:=ends.ends
 simp only [matchesBoundary,terminal,Bool.true_and,Bool.and_eq_true,beq_iff_eq]
 rw [←reason,←delivered]
 constructor
 · rintro ⟨⟨sameReason,own⟩,sameDelivered⟩
   exact ⟨sameReason,own,sameDelivered⟩
 · rintro ⟨sameReason,own,sameDelivered⟩
   exact ⟨⟨sameReason,own⟩,sameDelivered⟩

lemma held_boundary{s:ApplicationProtocolStreamState}(bounded:Bounded s)
  {past since:List ApplicationProtocolEvent}{earlier event:ApplicationProtocolEvent}
  (split:s.acceptedEvents=past++earlier::since)
  (ends:protocolReader.EndsDraftOf earlier event):∃boundary,
   readBoundary earlier=some boundary∧s.boundaryOf event=some boundary:=by
 have kind:earlier.kind=.outputCutoff:=by simpa [protocolReader] using ends.cuts
 have same:event.responseId=earlier.responseId:=ends.response
 unfold ApplicationProtocolStreamState.boundaryOf
 rw [same]
 exact bounded earlier (by simp [split]) kind

lemma protocolStream_checks:ChecksCutoffs protocolReader ApplicationProtocolStreamState.accept
   ApplicationProtocolStreamState.acceptedEvents Bounded (fun _ _=>True):=by
 constructor
 · intro s event bounded
   exact s.accept_bounded event bounded
 · intro s event bounded
   rcases ApplicationProtocolStreamState.accept_cases (s:=s) event with h|⟨t,enters,h⟩
   · exact .inl (by rw [h])
   · rw [h]
     refine .inr ⟨enters.events,trivial,?_⟩
     intro past earlier since split ends
     obtain ⟨boundary,read,held⟩:=held_boundary bounded split ends
     rcases enters.cutoffs with ⟨kind,-⟩|⟨-,-,allowed⟩
     · have terminal:event.kind.draftDisposition.isSome=true:=ends.ends
       rw [kind] at terminal
       cases terminal
     · exact (matchesBoundary_iff_repeats read ends).mp (allowed boundary held)
 · intro s event past earlier since bounded _ split ends repeats
   obtain ⟨boundary,read,held⟩:=held_boundary bounded split ends
   have fits:=(matchesBoundary_iff_repeats read ends).mpr repeats
   have terminal:event.kind.draftDisposition.isSome=true:=ends.ends
   have other:event.kind ≠ .outputCutoff:=by
    intro kind
    rw [kind] at terminal
    cases terminal
   have running:event.kind.isRunTerminal=false:=by
    cases kind:event.kind <;>rw [kind] at terminal <;>first | rfl | cases terminal
   simp [ApplicationProtocolStreamState.accept,running,
    ApplicationProtocolStreamState.acceptNew,other,
    ApplicationProtocolStreamState.acceptOther,held,fits]
end

section

open ApplicationEvents ApplicationProtocol

/-- Neither stream looks at the disposition of the cutoff: the ends of drafts agree with the
cutoffs in the runs whose offers see to it, and in no others. -/
theorem draft_ends_agree_iff (events : List ApplicationEvent)
  (offers : List ApplicationProtocolEvent) :
  (eventReader.Settled (ApplicationEventStreamState.offered events).acceptedEvents ↔
   ∀before event after,events=before++event::after→Passes (.offered before) event →
     eventReader.Meets (ApplicationEventStreamState.offered before).acceptedEvents event) ∧
  (protocolReader.Settled (ApplicationProtocolStreamState.offered offers).acceptedEvents ↔
   ∀before event after,offers=before++event::after →
    protocolReader.Meets (ApplicationProtocolStreamState.offered before).acceptedEvents event) := by
 constructor
 · exact eventStream_checks.settled_iff Faithful.new rfl events
 · have started:Bounded .new:=ApplicationProtocolStreamState.offered_bounded []
   have runs:=protocolStream_checks.settled_iff started rfl offers
   simp only [forall_const] at runs
   exact runs

/-- The end of the draft that `cutoffOffer` does not prescribe. -/
def incompleteOffer : ApplicationEvent :=
 responseEvent .assistantIncomplete "incomplete" 2
  [("draft_disposition",.string "mark_incomplete"),("last_client_delivered_sequence",.number ['2']),
   ("terminal_reason",.string "policy_denied")]

def protocolOffer (kind:ApplicationProtocolEventKind) (eventId:String) (sequence:ℕ)
  (payload:List (String×Value)) : ApplicationProtocolEvent where
 kind
 metadata:=
  { eventId:=eventId,protocolVersion := "graphblocks.app.v1",runId := "run",
    releaseId := "release",turnId:=none,operationId:=none,sequence:=sequence,
    cursor:=none,occurredAtUnixMs:=1 }
 payload:=.object payload

def protocolCutoff : ApplicationProtocolEvent :=
 protocolOffer .outputCutoff "cutoff" 1
  [("draft_disposition",.string "keep"),("durable_result",.string "none"),
   ("last_client_delivered_sequence",.number ['2']),
   ("last_generated_sequence",.number ['3']),
   ("last_policy_accepted_sequence",.number ['2']),
   ("occurred_at_unix_ms",.number ['1']),("response_id",.string "response"),
   ("terminal_reason",.string "policy_denied")]

def protocolRetraction : ApplicationProtocolEvent :=
 protocolOffer .assistantRetracted "retraction" 2
  [("draft_disposition",.string "retract"),
   ("last_client_delivered_sequence",.number ['2']),("response_id",.string "response"),
   ("terminal_reason",.string "policy_denied")]

lemma unprescribed_end{ε:Type}{reader:DraftReader ε}{cutoff later:ε}
  (ends:reader.EndsDraftOf cutoff later)
  (other:reader.ending later≠reader.text cutoff "draft_disposition"):
  ¬reader.Settled [cutoff,later]:=by
 intro settled
 exact other (settled [] cutoff [later] rfl later (by simp) ends).1

theorem draft_ends_against_cutoff : (¬eventReader.Settled
    (ApplicationEventStreamState.offered [cutoffOffer,incompleteOffer]).acceptedEvents) ∧
   ¬protocolReader.Settled (ApplicationProtocolStreamState.offered
    [protocolCutoff,protocolRetraction]).acceptedEvents := by
 constructor
 · have accepted :
     (ApplicationEventStreamState.offered [cutoffOffer,incompleteOffer]).acceptedEvents =
      [cutoffOffer,incompleteOffer]:=by decide +kernel
   rw [accepted]
   exact unprescribed_end ⟨by decide +kernel,by decide +kernel,rfl⟩ (by decide +kernel)
 · have accepted:(ApplicationProtocolStreamState.offered
     [protocolCutoff,protocolRetraction]).acceptedEvents =
      [protocolCutoff,protocolRetraction]:=by decide +kernel
   rw [accepted]
   exact unprescribed_end ⟨by decide +kernel,by decide +kernel,rfl⟩ (by decide +kernel)
end

end GraphBlocks.DraftTerminals
