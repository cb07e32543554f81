import GraphBlocks.PythonAdmissionMoves

namespace GraphBlocks.PythonAdmission
open RustStd List

variable {now:ℕ} {q q' q'' s:AdmissionTicketQueue} {id:String} {t t' t'':AdmissionTicket}

/-- A ticket after maintenance at `now`. -/
structure Later (now:ℕ) (t t':AdmissionTicket) : Prop where
 issuedAtMs:t'.issuedAtMs=t.issuedAtMs
 expiresAtMs:t'.expiresAtMs=t.expiresAtMs
 startedAtMs:t'.startedAtMs=t.startedAtMs
 units:t'.units=t.units
 requestKey:t'.requestKey=t.requestKey
 frozen:t.state.isTerminal=true→t'=t
 running:t'.state.isTerminal=false→(t'.state=.running↔t.state=.running)
 token:t'.state=.running→t'.fencingToken=t.fencingToken
 failed:t'.state=.failed→t'=t
 expired:t'.state=.expired→t'=t∨t.state.isTerminal=false∧t.expiresAtMs≤now

lemma Later.refl(now:ℕ)(t:AdmissionTicket):Later now t t:=
 ⟨rfl,rfl,rfl,rfl,rfl,fun _=>rfl,fun _=>.rfl,fun _=>rfl,fun _=>rfl,fun _=>.inl rfl⟩

lemma Later.live(h:Later now t t')(hlive:t'.state.isTerminal=false):t.state.isTerminal=false:=by
 cases hstate:t.state.isTerminal with
 | false=>rfl
 | true=>
  rw [h.frozen hstate,hstate] at hlive
  cases hlive

lemma Later.trans (h:Later now t t') (h':Later now t' t'') : Later now t t'' where
 issuedAtMs:=h'.issuedAtMs.trans h.issuedAtMs
 expiresAtMs:=h'.expiresAtMs.trans h.expiresAtMs
 startedAtMs:=h'.startedAtMs.trans h.startedAtMs
 units:=h'.units.trans h.units
 requestKey:=h'.requestKey.trans h.requestKey
 frozen hend:=by
  have heq:=h.frozen hend
  exact (h'.frozen (heq▸hend)).trans heq
 running hlive:=(h'.running hlive).trans (h.running (h'.live hlive))
 token hrun:=by
  have hrun':t'.state=.running:=(h'.running (by rw [hrun];rfl)).mp hrun
  exact (h'.token hrun).trans (h.token hrun')
 failed hfail:=by
  have heq:=h'.failed hfail
  exact heq.trans (h.failed (heq▸hfail))
 expired hexp:=by
  rcases h'.expired hexp with heq|⟨hlive,hdue⟩
  · subst heq
    exact h.expired hexp
  · exact .inr ⟨h.live hlive,h.expiresAtMs▸hdue⟩

/-- Tokens only come from the counter. -/
structure Fences (q q':AdmissionTicketQueue) : Prop where
 next_le:q.nextFencingToken≤q'.nextFencingToken
 token:∀id t' token,q'.tickets.get? id=some t'→t'.fencingToken=some token →
  (∃t,q.tickets.get? id=some t∧t.fencingToken=some token)∨q.nextFencingToken≤token

lemma Fences.refl(q:AdmissionTicketQueue):Fences q q:=
 ⟨le_rfl,fun _ t' _ ht' htoken=>.inl ⟨t',ht',htoken⟩⟩

lemma Fences.trans (h:Fences q q') (h':Fences q' q'') : Fences q q'' where
 next_le:=h.next_le.trans h'.next_le
 token id t' token ht' htoken:=by
  rcases h'.token id t' token ht' htoken with ⟨t,ht,hold⟩|hnew
  · exact h.token id t token ht hold
  · exact .inr (h.next_le.trans hnew)

variable {pending:List String} {active:Finset String} {windowUsed nextFencingToken:ℕ}

lemma fences_moved (known:q.tickets.get? id=some t)
  (htoken:(t'.fencingToken=t.fencingToken∧nextFencingToken=q.nextFencingToken) ∨
   (t'.fencingToken=some q.nextFencingToken∧nextFencingToken=q.nextFencingToken+1)) :
  Fences q (q.moved id t' pending active windowUsed nextFencingToken) where
 next_le:=by
  change q.nextFencingToken≤nextFencingToken
  rcases htoken with ⟨-,hnext⟩|⟨-,hnext⟩ <;>omega
 token other u token hu hfence:=by
  rw [get?_moved] at hu
  split at hu
  · next heq=>
    subst heq
    cases hu
    rcases htoken with ⟨hsame,-⟩|⟨hnew,-⟩
    · exact .inl ⟨t,known,hsame▸hfence⟩
    · rw [hnew] at hfence
      cases hfence
      exact .inr le_rfl
  · exact .inl ⟨u,hu,hfence⟩

/-- What maintenance at `now` leaves of a queue. -/
structure Carried (now:ℕ) (q q':AdmissionTicketQueue) : Prop where
 fields:q'.toQueueFields=q.toQueueFields
 pending:q'.pending.Sublist q.pending
 nextTicket:q'.nextTicket=q.nextTicket
 nextSequence:q'.nextSequence=q.nextSequence
 fences:Fences q q'
 ticket:∀id t',q'.tickets.get? id=some t' → ∃t,q.tickets.get? id=some t∧Later now t t'

lemma Carried.refl(now:ℕ)(q:AdmissionTicketQueue):Carried now q q:=
 ⟨rfl,List.Sublist.refl _,rfl,rfl,.refl q,fun _ t ht=>⟨t,ht,.refl now t⟩⟩

lemma Carried.trans (h:Carried now q q') (h':Carried now q' q'') : Carried now q q'' where
 fields:=h'.fields.trans h.fields
 pending:=h'.pending.trans h.pending
 nextTicket:=h'.nextTicket.trans h.nextTicket
 nextSequence:=h'.nextSequence.trans h.nextSequence
 fences:=h.fences.trans h'.fences
 ticket id u hu:=by
  obtain ⟨v,hv,hvu⟩:=h'.ticket id u hu
  obtain ⟨w,hw,hwv⟩:=h.ticket id v hv
  exact ⟨w,hw,hwv.trans hvu⟩

lemma later_moved(known:q.tickets.get? id=some t)(h:Later now t t')(other:String)
  (u:AdmissionTicket)
  (hu:(q.moved id t' pending active windowUsed nextFencingToken).tickets.get? other=some u):
  ∃v,q.tickets.get? other=some v∧Later now v u:=by
 rw [get?_moved] at hu
 split at hu
 · next heq=>
   cases hu
   exact ⟨t,heq▸known,h⟩
 · exact ⟨u,hu,.refl now u⟩

lemma evicted_eq(known:q.tickets.get? id=some t)(ended:t.state.isTerminal=true):
  (q.evicted id).toQueueFields=q.toQueueFields∧(q.evicted id).pending=q.pending ∧
   (q.evicted id).windowUsed=q.windowUsed∧(q.evicted id).windowStartMs=q.windowStartMs ∧
   (q.evicted id).nextTicket=q.nextTicket∧(q.evicted id).nextSequence=q.nextSequence ∧
   (q.evicted id).nextFencingToken=q.nextFencingToken:=by
 simp [AdmissionTicketQueue.evicted,known,ended]

lemma carried_evicted(known:q.tickets.get? id=some t)(ended:t.state.isTerminal=true):
  Carried now q (q.evicted id):=by
 obtain ⟨hfields,hpending,-,-,hticket,hsequence,hfence⟩:=evicted_eq known ended
 have hstill:∀other u,(q.evicted id).tickets.get? other=some u→q.tickets.get? other=some u:=by
  intro other u hu
  rw [get?_evicted known ended] at hu
  split at hu
  · cases hu
  · exact hu
 exact ⟨hfields,hpending▸List.Sublist.refl _,hticket,hsequence,
  ⟨hfence.ge,fun other u token hu htoken=>.inl ⟨u,hstill other u hu,htoken⟩⟩,
  fun other u hu=>⟨u,hstill other u hu,.refl now u⟩⟩

lemma refreshed_eq(now:ℕ)(q:AdmissionTicketQueue):
  (q.refreshed now).toQueueFields=q.toQueueFields∧(q.refreshed now).tickets=q.tickets ∧
   (q.refreshed now).requestTickets=q.requestTickets ∧
   (q.refreshed now).pending=q.pending∧(q.refreshed now).active=q.active ∧
   (q.refreshed now).nextTicket=q.nextTicket ∧
   (q.refreshed now).nextSequence=q.nextSequence ∧
   (q.refreshed now).nextFencingToken=q.nextFencingToken:=by
 unfold AdmissionTicketQueue.refreshed
 split <;>simp

lemma carried_refreshed(now:ℕ)(q:AdmissionTicketQueue):Carried now q (q.refreshed now):=by
 obtain ⟨hfields,htickets,-,hpending,-,hticket,hsequence,hfence⟩:=refreshed_eq now q
 exact ⟨hfields,hpending▸List.Sublist.refl _,hticket,hsequence,
  ⟨hfence.ge,fun other u token hu htoken=>.inl ⟨u,htickets▸hu,htoken⟩⟩,
  fun other u hu=>⟨u,htickets▸hu,.refl now u⟩⟩

lemma Consistent.queued_of_mem(h:Consistent q)(hmem:id∈q.pending)
  (known:q.tickets.get? id=some t):t.state=.queued:=by
 obtain ⟨u,hu,hqueued⟩:=(h.pending_iff id).mp hmem
 rw [known] at hu
 cases hu
 exact hqueued

lemma Tidies.carried(h:Tidies now q q')(hq:Consistent q):Carried now q q':=by
 cases h with
 | refresh=>exact carried_refreshed now q
 | @expire id t t' known live due ended=>
  have hlater:Later now t t':=by
   refine ⟨by rw [ended];rfl,by rw [ended];rfl,by rw [ended];rfl,by rw [ended];rfl,?_,?_,
    ?_,?_,?_,fun _=>.inr ⟨live,due⟩⟩
   · rw [TicketFields.requestKey,TicketFields.requestKey,ended]
     rfl
   · intro hend
     rw [live] at hend
     cases hend
   · intro hlive
     rw [ended] at hlive
     cases hlive
   · intro hrun
     rw [ended] at hrun
     cases hrun
   · intro hfail
     rw [ended] at hfail
     cases hfail
  exact ⟨rfl,erase_sublist,rfl,rfl,fences_moved known (.inl ⟨by rw [ended];rfl,rfl⟩),
   later_moved known hlater⟩
 | @reindex id t t' front back known place placed=>
  have hqueued:t.state=.queued:=hq.queued_of_mem (by rw [place];simp) known
  have hstate:t'.state=.queued:=by
   rw [placed]
   exact hqueued
  have hlater:Later now t t':=by
   refine ⟨by rw [placed];rfl,by rw [placed];rfl,by rw [placed];rfl,by rw [placed];rfl,?_,
    ?_,?_,?_,?_,?_⟩
   · rw [TicketFields.requestKey,TicketFields.requestKey,placed]
     rfl
   · intro hend
     rw [hqueued] at hend
     cases hend
   · intro _
     rw [hstate,hqueued]
   all_goals
    intro hother
    rw [hstate] at hother
    cases hother
  have hmoved:Carried now q
    (q.moved id t' q.pending q.active q.windowUsed q.nextFencingToken):=
   ⟨rfl,List.Sublist.refl _,rfl,rfl,fences_moved known (.inl ⟨by rw [placed];rfl,rfl⟩),
    later_moved known hlater⟩
  exact hmoved
 | @promote id t t' rest known place slot issued fits promoted=>
  have hqueued:t.state=.queued:=hq.queued_of_mem (by rw [place];simp) known
  have hstate:t'.state=.admitted:=by
   rw [promoted]
   rfl
  have hlater:Later now t t':=by
   refine ⟨by rw [promoted];rfl,by rw [promoted];rfl,by rw [promoted];rfl,
    by rw [promoted];rfl,?_,?_,?_,?_,?_,?_⟩
   · rw [TicketFields.requestKey,TicketFields.requestKey,promoted]
     rfl
   · intro hend
     rw [hqueued] at hend
     cases hend
   · intro _
     rw [hstate,hqueued]
     simp
   all_goals
    intro hother
    rw [hstate] at hother
    cases hother
  refine ⟨rfl,?_,rfl,rfl,fences_moved known (.inr ⟨by rw [promoted];rfl,rfl⟩),
   later_moved known hlater⟩
  change rest.Sublist q.pending
  rw [place]
  exact sublist_cons_self _ _
 | evict known ended due=>exact carried_evicted known ended

lemma Tidied.carried(h:Tidied now q q')(hq:Consistent q):Carried now q q':=by
 induction h with
 | refl=>exact .refl now q
 | tail hmoves hmove ih=>exact ih.trans (hmove.carried (Tidied.consistent hmoves hq))

/-- No live ticket is due at `now`. -/
def NotDue (now:ℕ) (q:AdmissionTicketQueue) : Prop :=
 ∀id t,q.tickets.get? id=some t→t.state.isTerminal=false→now<t.expiresAtMs

lemma NotDue.carried(h:NotDue now q)(hc:Carried now q q'):NotDue now q':=by
 intro id t' ht' hlive
 obtain ⟨t,ht,hlater⟩:=hc.ticket id t' ht'
 rw [hlater.expiresAtMs]
 exact h id t ht (hlater.live hlive)

/-- Every pending ticket can take `k` more versions. -/
def Versions (k:ℕ) (q:AdmissionTicketQueue) : Prop :=
 ∀id t,id∈q.pending→q.tickets.get? id=some t→t.stateVersion+k≤ maxAdmissionInteger

/-- Every pending ticket and `extra` more can take a fencing token. -/
def Tokens (extra:ℕ) (q:AdmissionTicketQueue) : Prop :=
 q.nextFencingToken+q.pending.length+extra≤ maxAdmissionInteger

/-- The pending units and `extra` more fit into the window, or its end is in reach. -/
def Fits (now extra:ℕ) (q:AdmissionTicketQueue) : Prop :=
 q.windowUsed+q.unitsOf q.pending+extra≤q.rateLimit ∨
  ∀start,q.windowStartMs=some start→start+q.windowMs≤now+maxAdmissionInteger

lemma unitsOf_congr{ids:List String}(h:∀id∈ids,
  ((q'.tickets.get? id).elim 0 fun t=>t.units)=(q.tickets.get? id).elim 0 fun t=>t.units):
  q'.unitsOf ids=q.unitsOf ids:=by
 rw [AdmissionTicketQueue.unitsOf,AdmissionTicketQueue.unitsOf,map_congr_left h]

lemma unitsOf_append(q:AdmissionTicketQueue)(front back:List String):
  q.unitsOf (front++back)=q.unitsOf front+q.unitsOf back:=by
 simp [AdmissionTicketQueue.unitsOf]

lemma unitsOf_cons(known:q.tickets.get? id=some t)(rest:List String):
  q.unitsOf (id::rest)=t.units+q.unitsOf rest:=by
 simp [AdmissionTicketQueue.unitsOf,known]

lemma unitsOf_sublist{ids ids':List String}(h:ids'.Sublist ids):q.unitsOf ids'≤q.unitsOf ids:=
 (h.map _).sum_le_sum fun _ _=>Nat.zero_le _

lemma unitsOf_moved_of_units(known:q.tickets.get? id=some t)(hunits:t'.units=t.units)
  (ids:List String):
  (q.moved id t' pending active windowUsed nextFencingToken).unitsOf ids=q.unitsOf ids:=by
 apply unitsOf_congr
 intro other _
 rw [get?_moved]
 split
 · next heq=>simp [heq,known,hunits]
 · rfl

lemma positiveInteger_of_check(h:q.toQueueFields.check=.ok ()):
  Text q.limiterId∧Within q.windowMs∧Within q.maxPending∧Within q.ticketTtlMs∧0<q.ticketTtlMs:=by
 simp only [QueueFields.check,bind_ok,nonEmptyString_ok,positiveInteger_natCast] at h
 obtain ⟨_,⟨h1,-⟩,_,-,_,-,_,⟨-,-,h4⟩,_,⟨-,-,h5⟩,_,⟨-,h6',h6⟩,-⟩:=h
 exact ⟨h1,h4,h5,h6,h6'⟩

variable {extra:ℕ}

lemma Fits.evicted(h:Fits now extra q)(hq:Consistent q)(known:q.tickets.get? id=some t)
  (ended:t.state.isTerminal=true):Fits now extra (q.evicted id):=by
 obtain ⟨hfields,hpending,hused,hwindow,-⟩:=evicted_eq known ended
 have hunits:(q.evicted id).unitsOf q.pending=q.unitsOf q.pending:=by
  apply unitsOf_congr
  intro other hother
  rw [get?_evicted known ended,if_neg]
  rintro rfl
  rw [hq.queued_of_mem hother known] at ended
  cases ended
 unfold Fits
 rw [hpending,hused,hwindow,hunits,hfields]
 exact h

lemma Tidies.fits(h:Tidies now q q')(hq:Consistent q)(hfits:Fits now extra q):Fits now extra q':=by
 cases h with
 | refresh=>
  unfold AdmissionTicketQueue.refreshed
  split
  · right
    intro start hstart
    cases hstart
    have hwindow:=(positiveInteger_of_check q.accepted).2.1
    exact Nat.add_le_add_left hwindow now
  · exact hfits
 | @expire id t t' known live due ended=>
  rcases hfits with hfits|hfits
  · left
    have hunits:t'.units=t.units:=by
     rw [ended]
     rfl
    have hle:q.unitsOf (q.pending.erase id)≤q.unitsOf q.pending:=unitsOf_sublist erase_sublist
    change q.windowUsed+AdmissionTicketQueue.unitsOf _ (q.pending.erase id)+extra≤q.rateLimit
    rw [unitsOf_moved_of_units known hunits]
    omega
  · exact .inr hfits
 | @reindex id t t' front back known place placed=>
  rcases hfits with hfits|hfits
  · left
    have hunits:t'.units=t.units:=by
     rw [placed]
     rfl
    have hsame:(q.withTicket id t').unitsOf q.pending=q.unitsOf q.pending:=by
     have hmoved:(q.moved id t' q.pending q.active q.windowUsed q.nextFencingToken).unitsOf
       q.pending=q.unitsOf q.pending:=unitsOf_moved_of_units known hunits q.pending
     exact hmoved
    change q.windowUsed+(q.withTicket id t').unitsOf q.pending+extra≤q.rateLimit
    rw [hsame]
    exact hfits
  · exact .inr hfits
 | @promote id t t' rest known place slot issued fits promoted=>
  rcases hfits with hfits|hfits
  · left
    have hunits:t'.units=t.units:=by
     rw [promoted]
     rfl
    rw [place,unitsOf_cons known] at hfits
    change q.windowUsed+t.units+AdmissionTicketQueue.unitsOf _ rest+extra≤q.rateLimit
    rw [unitsOf_moved_of_units known hunits]
    omega
  · exact .inr hfits
 | evict known ended due=>exact hfits.evicted hq known ended

lemma Tidied.fits(h:Tidied now q q')(hq:Consistent q)(hfits:Fits now extra q):Fits now extra q':=by
 induction h with
 | refl=>exact hfits
 | tail hmoves hmove ih=>exact hmove.fits (Tidied.consistent hmoves hq) ih

lemma Tidies.tokens(h:Tidies now q q')(htokens:Tokens extra q):Tokens extra q':=by
 unfold Tokens at *
 cases h with
 | refresh=>
  obtain ⟨-,-,-,hpending,-,-,-,hfence⟩:=refreshed_eq now q
  rw [hpending,hfence]
  exact htokens
 | @expire id t t' known live due ended=>
  have hlength:(q.pending.erase id).length≤q.pending.length:=length_erase_le
  change q.nextFencingToken+(q.pending.erase id).length+extra≤_
  omega
 | reindex=>exact htokens
 | @promote id t t' rest known place slot issued fits promoted=>
  rw [place,length_cons] at htokens
  change q.nextFencingToken+1+rest.length+extra≤_
  omega
 | evict known ended due=>
  obtain ⟨-,hpending,-,-,-,-,hfence⟩:=evicted_eq known ended
  rw [hpending,hfence]
  exact htokens

lemma Tidied.tokens(h:Tidied now q q')(htokens:Tokens extra q):Tokens extra q':=by
 induction h with
 | refl=>exact htokens
 | tail _ hmove ih=>exact hmove.tokens ih

end GraphBlocks.PythonAdmission
