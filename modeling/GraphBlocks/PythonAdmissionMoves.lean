import GraphBlocks.PythonAdmissionTickets
import Mathlib.Logic.Relation

namespace GraphBlocks.PythonAdmission
open PythonStd List

/-- The representation invariant of the queue. -/
structure Consistent (q:AdmissionTicketQueue) : Prop where
 pending_nodup:q.pending.Nodup
 pending_iff:∀id,id∈q.pending ↔ ∃t,q.tickets.get? id=some t∧t.state=.queued
 pending_length:q.pending.length≤q.maxPending
 active_iff:∀id,id∈q.active ↔ ∃t,q.tickets.get? id=some t∧(t.state=.admitted∨t.state=.running)
 active_card:q.active.card≤q.maxConcurrent
 windowUsed_le:q.windowUsed≤q.rateLimit
 inverse:∀key id,q.requestTickets.get? key=some id ↔ ∃t,q.tickets.get? id=some t∧t.requestKey=key
 ownId:∀id t,q.tickets.get? id=some t→t.ticketId=id
 numbered:∀id t,q.tickets.get? id=some t → ∃n,n<q.nextTicket∧id=ticketIdOf q.limiterId n
 fenced:∀id t token,q.tickets.get? id=some t→t.fencingToken=some token→token<q.nextFencingToken
 tokens:∀i j t u token,q.tickets.get? i=some t→q.tickets.get? j=some u →
  t.fencingToken=some token→u.fencingToken=some token→i=j
 nextFencingToken_pos:0<q.nextFencingToken
 nextSequence_pos:0<q.nextSequence

variable {now:ℕ} {q q':AdmissionTicketQueue} {id:String} {t t':AdmissionTicket}

/-- The ticket of `id` is replaced, together with what the queue keeps about its state. -/
def AdmissionTicketQueue.moved (q:AdmissionTicketQueue) (id:String) (ticket:AdmissionTicket)
  (pending:List String) (active:Finset String) (windowUsed nextFencingToken:ℕ) :
  AdmissionTicketQueue :=
 { q.withTicket id ticket with
   pending
   active
   windowUsed
   nextFencingToken }

lemma get?_moved(q:AdmissionTicketQueue)(id other:String)(ticket:AdmissionTicket)
  (pending:List String)(active:Finset String)(windowUsed nextFencingToken:ℕ):
  (q.moved id ticket pending active windowUsed nextFencingToken).tickets.get? other =
   if other=id then some ticket else q.tickets.get? other:=
 Dict.get?_set q.tickets id other ticket

section
variable (h:Consistent q) (known:q.tickets.get? id=some t)
include h known

/-- The rule for a change of one ticket: what the queue keeps about it follows its state. -/
lemma Consistent.move
  (hid:t'.ticketId=t.ticketId) (hkey:t'.requestKey=t.requestKey) {pending:List String}
  {active:Finset String} {windowUsed nextFencingToken:ℕ} (hnodup:pending.Nodup)
  (hlength:pending.length≤q.pending.length)
  (hpending:∀other,other∈pending↔if other=id then t'.state=.queued else other∈q.pending)
  (hactive:∀other,other∈active ↔
   if other=id then t'.state=.admitted∨t'.state=.running else other∈q.active)
  (hcard:active.card≤q.maxConcurrent) (hused:windowUsed≤q.rateLimit)
  (htoken:(t'.fencingToken=t.fencingToken∧nextFencingToken=q.nextFencingToken) ∨
   (t'.fencingToken=some q.nextFencingToken∧nextFencingToken=q.nextFencingToken+1)) :
  Consistent (q.moved id t' pending active windowUsed nextFencingToken) where
 pending_nodup:=hnodup
 pending_iff other:=by
  rw [get?_moved]
  change other∈pending ↔ _
  rw [hpending]
  split
  · simp
  · exact h.pending_iff other
 pending_length:=hlength.trans h.pending_length
 active_iff other:=by
  rw [get?_moved]
  change other∈active ↔ _
  rw [hactive]
  split
  · simp
  · exact h.active_iff other
 active_card:=hcard
 windowUsed_le:=hused
 inverse key other:=by
  rw [get?_moved]
  change q.requestTickets.get? key=some other ↔ _
  rw [h.inverse]
  split
  · next heq=>
    subst heq
    simp [known,hkey]
  · rfl
 ownId other u hu:=by
  rw [get?_moved] at hu
  split at hu
  · next heq=>
    cases hu
    rw [hid,h.ownId id t known,heq]
  · exact h.ownId other u hu
 numbered other u hu:=by
  rw [get?_moved] at hu
  split at hu
  · next heq=>exact heq▸h.numbered id t known
  · exact h.numbered other u hu
 fenced other u token hu hfence:=by
  change token<nextFencingToken
  rw [get?_moved] at hu
  have hold:∀v,q.tickets.get? other=some v→v.fencingToken=some token →
    token<q.nextFencingToken:=fun v hv=>h.fenced other v token hv
  have hnext:q.nextFencingToken≤nextFencingToken:=by
   rcases htoken with ⟨-,hnext⟩|⟨-,hnext⟩ <;>omega
  split at hu
  · next heq=>
    subst heq
    cases hu
    rcases htoken with ⟨hsame,-⟩|⟨hnew,hnext'⟩
    · exact (hold t known (hsame▸hfence)).trans_le hnext
    · rw [hnew] at hfence
      cases hfence
      omega
  · exact (hold u hu hfence).trans_le hnext
 tokens i j u v token hi hj hu hv:=by
  rw [get?_moved] at hi hj
  have hnone:∀k w,q.tickets.get? k=some w→w.fencingToken=some q.nextFencingToken →
    False:=fun k w hw hk=>absurd (h.fenced k w _ hw hk) (Nat.lt_irrefl _)
  split at hi <;>split at hj
  · next hi' hj'=>rw [hi',hj']
  · next hi' _=>
    cases hi
    rcases htoken with ⟨hsame,-⟩|⟨hnew,-⟩
    · exact hi'▸h.tokens id j t v token known hj (hsame▸hu) hv
    · rw [hnew] at hu
      cases hu
      exact (hnone j v hj hv).elim
  · next hj'=>
    cases hj
    rcases htoken with ⟨hsame,-⟩|⟨hnew,-⟩
    · exact hj'▸h.tokens i id u t token hi known hu (hsame▸hv)
    · rw [hnew] at hv
      cases hv
      exact (hnone i u hi hu).elim
  · exact h.tokens i j u v token hi hj hu hv
 nextFencingToken_pos:=by
  have hpos:=h.nextFencingToken_pos
  change 0<nextFencingToken
  rcases htoken with ⟨-,hnext⟩|⟨-,hnext⟩ <;>omega
 nextSequence_pos:=h.nextSequence_pos

lemma Consistent.notMem_active(hstate:t.state ≠ .admitted∧t.state ≠ .running):id∉q.active:=by
 rw [h.active_iff]
 rintro ⟨u,hu,hoccupying⟩
 rw [known] at hu
 cases hu
 rcases hoccupying with h'|h'
 · exact hstate.1 h'
 · exact hstate.2 h'

lemma Consistent.notMem_pending(hstate:t.state ≠ .queued):id∉q.pending:=by
 rw [h.pending_iff]
 rintro ⟨u,hu,hqueued⟩
 rw [known] at hu
 cases hu
 exact hstate hqueued

lemma Consistent.mem_pending
  (hstate:t.state=.queued):id∈q.pending:=(h.pending_iff id).mpr ⟨t,known,hstate⟩

end

/-- The units that the pending tickets `ids` ask for. -/
def AdmissionTicketQueue.unitsOf (q:AdmissionTicketQueue) (ids:List String) : ℕ :=
 (ids.map fun id=>(q.tickets.get? id).elim 0 fun t=>t.units).sum

/-- The retry hint of a pending ticket that has the tickets `front` before it. -/
def AdmissionTicketQueue.retryHint (q:AdmissionTicketQueue) (now:ℕ) (front:List String)
  (units:ℕ) : Option ℕ :=
 if q.rateLimit<q.windowUsed+q.unitsOf front+units then
  q.windowStartMs.map fun start=>start+q.windowMs-now
 else none

/-- More ended tickets are kept than allowed, and this one ended first. -/
structure Surplus (q:AdmissionTicketQueue) (t:AdmissionTicket) : Prop where
 many:q.maxTerminalTickets<(q.tickets.values.filter fun u=>u.state.isTerminal).length
 first:∀id u,q.tickets.get? id=some u→u.state.isTerminal=true → retentionOrder t u

/-- The single moves of the maintenance that is due at `now`. -/
inductive Tidies (now:ℕ) : AdmissionTicketQueue→AdmissionTicketQueue→Prop where
 | refresh (q:AdmissionTicketQueue) : Tidies now q (q.refreshed now)
 | expire {q:AdmissionTicketQueue} {id:String} {t t':AdmissionTicket}
   (known:q.tickets.get? id=some t) (live:t.state.isTerminal=false)
   (due:t.expiresAtMs≤now) (ended:t'.toTicketFields=t.ended .expired now) :
   Tidies now q (q.moved id t' (q.pending.erase id) (q.active.erase id) q.windowUsed
    q.nextFencingToken)
 | reindex {q:AdmissionTicketQueue} {id:String} {t t':AdmissionTicket}
   {front back:List String} (known:q.tickets.get? id=some t)
   (place:q.pending=front++id::back)
   (placed:t'.toTicketFields=t.placed (front.length+1) (q.retryHint now front t.units)) :
   Tidies now q (q.withTicket id t')
 | promote {q:AdmissionTicketQueue} {id:String} {t t':AdmissionTicket}
   {rest:List String} (known:q.tickets.get? id=some t) (place:q.pending=id::rest)
   (slot:q.active.card<q.maxConcurrent) (issued:t.issuedAtMs≤now)
   (fits:q.windowUsed+t.units≤q.rateLimit)
   (promoted:t'.toTicketFields=t.promoted q.nextFencingToken) :
   Tidies now q (q.moved id t' rest (insert id q.active) (q.windowUsed+t.units)
    (q.nextFencingToken+1))
 | evict {q:AdmissionTicketQueue} {id:String} {t:AdmissionTicket}
   (known:q.tickets.get? id=some t) (ended:t.state.isTerminal=true)
   (due:q.terminalRetentionExpired t now=true∨Surplus q t) :
   Tidies now q (q.evicted id)

/-- Any amount of the maintenance that is due at `now`. -/
abbrev Tidied (now:ℕ) : AdmissionTicketQueue→AdmissionTicketQueue→Prop :=
 Relation.ReflTransGen (Tidies now)

lemma get?_evicted(known:q.tickets.get? id=some t)(ended:t.state.isTerminal=true)(other:String):
  (q.evicted id).tickets.get? other=if other=id then none else q.tickets.get? other:=by
 simp only [AdmissionTicketQueue.evicted,known,ended,if_true]
 exact Dict.get?_pop q.tickets id other

lemma Consistent.evict(h:Consistent q)(known:q.tickets.get? id=some t)
  (ended:t.state.isTerminal=true):Consistent (q.evicted id):=by
 have hget:=get?_evicted known ended
 have hkey:q.requestTickets.get? t.requestKey=some id:=(h.inverse _ _).mpr ⟨t,known,rfl⟩
 have hstill:∀other u,(q.evicted id).tickets.get? other=some u →
   other≠id∧q.tickets.get? other=some u:=by
  intro other u hu
  rw [hget] at hu
  split at hu
  · cases hu
  · next hne=>exact ⟨hne,hu⟩
 have hstate:∀u,q.tickets.get? id=some u→u.state.isTerminal=true:=by
  intro u hu
  rw [known] at hu
  cases hu
  exact ended
 have hpending:(q.evicted id).pending=q.pending:=by simp [AdmissionTicketQueue.evicted,known,ended]
 have hactive:(q.evicted id).active=q.active:=by simp [AdmissionTicketQueue.evicted,known,ended]
 have hrequests:∀key,(q.evicted id).requestTickets.get? key =
   if key=t.requestKey then none else q.requestTickets.get? key:=by
  intro key
  simp only [AdmissionTicketQueue.evicted,known,ended,if_true,hkey]
  exact Dict.get?_pop q.requestTickets t.requestKey key
 have hfields:(q.evicted id).toQueueFields=q.toQueueFields ∧
   (q.evicted id).windowUsed=q.windowUsed∧(q.evicted id).nextTicket=q.nextTicket ∧
   (q.evicted id).nextSequence=q.nextSequence ∧
   (q.evicted id).nextFencingToken=q.nextFencingToken:=by
  simp [AdmissionTicketQueue.evicted,known,ended]
 obtain ⟨hconfig,hused,hticket,hsequence,hfence⟩:=hfields
 have hkept:∀(P:AdmissionTicket→Prop),(∀u,P u→u.state.isTerminal=false) →
   ∀other,(∃u,q.tickets.get? other=some u∧P u) ↔ ∃u,(q.evicted id).tickets.get? other=some u∧P u:=by
  intro P hP other
  constructor
  · rintro ⟨u,hu,hp⟩
    refine ⟨u,?_,hp⟩
    rw [hget,if_neg]
    · exact hu
    · rintro rfl
      have hlive:=hP u hp
      rw [hstate u hu] at hlive
      cases hlive
  · rintro ⟨u,hu,hp⟩
    exact ⟨u,(hstill other u hu).2,hp⟩
 exact
  { pending_nodup:=hpending▸h.pending_nodup
    pending_iff:=by
     intro other
     rw [hpending,h.pending_iff]
     exact hkept (fun u=>u.state=.queued) (fun u hu=>by rw [hu];rfl) other
    pending_length:=by
     rw [hpending,hconfig]
     exact h.pending_length
    active_iff:=by
     intro other
     rw [hactive,h.active_iff]
     exact hkept (fun u=>u.state=.admitted∨u.state=.running)
      (fun u hu=>by rcases hu with hu|hu <;>rw [hu] <;>rfl) other
    active_card:=by
     rw [hactive,hconfig]
     exact h.active_card
    windowUsed_le:=by
     rw [hused,hconfig]
     exact h.windowUsed_le
    inverse:=by
     intro key other
     rw [hrequests]
     constructor
     · intro hother
       split at hother
       · cases hother
       · next hne=>
         obtain ⟨u,hu,rfl⟩:=(h.inverse key other).mp hother
         refine ⟨u,?_,rfl⟩
         rw [hget,if_neg]
         · exact hu
         · rintro rfl
           rw [known] at hu
           cases hu
           exact hne rfl
     · rintro ⟨u,hu,rfl⟩
       obtain ⟨hne,hu'⟩:=hstill other u hu
       have hother:=(h.inverse u.requestKey other).mpr ⟨u,hu',rfl⟩
       rw [if_neg]
       · exact hother
       · intro heq
         rw [heq,hkey] at hother
         exact hne (Option.some.inj hother).symm
    ownId:=fun other u hu=>h.ownId other u (hstill other u hu).2
    numbered:=by
     intro other u hu
     rw [hticket,hconfig]
     exact h.numbered other u (hstill other u hu).2
    fenced:=by
     intro other u token hu htoken
     rw [hfence]
     exact h.fenced other u token (hstill other u hu).2 htoken
    tokens:=fun i j u v token hi hj=>h.tokens i j u v token (hstill i u hi).2 (hstill j v hj).2
    nextFencingToken_pos:=hfence▸h.nextFencingToken_pos
    nextSequence_pos:=hsequence▸h.nextSequence_pos }

lemma Consistent.refresh(h:Consistent q)(now:ℕ):Consistent (q.refreshed now):=by
 unfold AdmissionTicketQueue.refreshed
 split
 · exact { h with windowUsed_le:=Nat.zero_le _ }
 · exact h

/-- A ticket that stops being live leaves the queue of pending tickets and the active set. -/
lemma Consistent.finish(h:Consistent q)(known:q.tickets.get? id=some t)
  (hid:t'.ticketId=t.ticketId)(hkey:t'.requestKey=t.requestKey)
  (htoken:t'.fencingToken=t.fencingToken)(ended:t'.state.isTerminal=true):
  Consistent (q.moved id t' (q.pending.erase id) (q.active.erase id) q.windowUsed
   q.nextFencingToken):=by
 have hqueued:t'.state ≠ .queued:=by
  intro hstate
  rw [hstate] at ended
  cases ended
 have hoccupying:¬(t'.state=.admitted∨t'.state=.running):=by
  rintro (hstate|hstate) <;>rw [hstate] at ended <;>cases ended
 apply h.move known hid hkey (h.pending_nodup.erase id) length_erase_le
 · intro other
   rw [h.pending_nodup.mem_erase_iff]
   split
   · next heq=>simp [heq,hqueued]
   · next hne=>simp [hne]
 · intro other
   rw [Finset.mem_erase]
   split
   · next heq=>simp [heq,hoccupying]
   · next hne=>simp [hne]
 · exact (Finset.card_le_card (Finset.erase_subset _ _)).trans h.active_card
 · exact h.windowUsed_le
 · exact .inl ⟨htoken,rfl⟩

lemma Tidies.consistent(h:Tidies now q q')(hq:Consistent q):Consistent q':=by
 cases h with
 | refresh=>exact hq.refresh now
 | @expire id t t' known live due ended=>
  exact hq.finish known (by rw [ended];rfl)
   (by rw [TicketFields.requestKey,TicketFields.requestKey,ended];rfl) (by rw [ended];rfl)
   (by rw [ended];rfl)
 | @reindex id t t' front back known place placed=>
  have hmem:id∈q.pending:=by
   rw [place]
   simp
  obtain ⟨u,hu,hqueued⟩:=(hq.pending_iff id).mp hmem
  rw [known] at hu
  cases hu
  have hstate:t'.state=.queued:=by
   rw [placed]
   exact hqueued
  change Consistent (q.moved id t' q.pending q.active q.windowUsed q.nextFencingToken)
  refine hq.move known (by rw [placed];rfl)
   (by rw [TicketFields.requestKey,TicketFields.requestKey,placed];rfl) hq.pending_nodup
   le_rfl ?_ ?_ hq.active_card hq.windowUsed_le (.inl ⟨by rw [placed];rfl,rfl⟩)
  · intro other
    split
    · next heq=>simp [heq,hmem,hstate]
    · rfl
  · intro other
    split
    · next heq=>
      have hnot:id∉q.active:=hq.notMem_active known (by simp [hqueued])
      simp [heq,hnot,hstate]
    · rfl
 | @promote id t t' rest known place slot issued fits promoted=>
  have hnodup:(id::rest).Nodup:=place▸hq.pending_nodup
  have hstate:t'.state=.admitted:=by
   rw [promoted]
   rfl
  refine hq.move known (by rw [promoted];rfl)
   (by rw [TicketFields.requestKey,TicketFields.requestKey,promoted];rfl)
   (nodup_cons.mp hnodup).2 (by simp [place]) ?_ ?_ ?_ fits
   (.inr ⟨by rw [promoted];rfl,rfl⟩)
  · intro other
    split
    · next heq=>simp [heq,hstate,(nodup_cons.mp hnodup).1]
    · next hne=>simp [place,hne]
  · intro other
    split
    · next heq=>simp [heq,hstate]
    · next hne=>simp [hne]
  · exact (Finset.card_insert_le _ _).trans slot
 | evict known ended due=>exact hq.evict known ended

lemma Tidied.consistent(h:Tidied now q q')(hq:Consistent q):Consistent q':=by
 induction h with
 | refl=>exact hq
 | tail _ hmove ih=>exact hmove.consistent ih

end GraphBlocks.PythonAdmission
