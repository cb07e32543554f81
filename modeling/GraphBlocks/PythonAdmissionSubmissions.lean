import GraphBlocks.PythonAdmissionCalls

namespace GraphBlocks.PythonAdmission
open RustStd PythonStd RaisingMethods List

variable {now:ℕ} {nowMs:ℤ} {q s s':AdmissionTicketQueue} {id:String} {t t':AdmissionTicket}

def AdmissionTicketQueue.registered (q:AdmissionTicketQueue) (ticket:AdmissionTicket)
  (pending:List String) (active:Finset String) (windowUsed nextFencingToken:ℕ) :
  AdmissionTicketQueue :=
 { q.withTicket ticket.ticketId ticket with
   requestTickets:=q.requestTickets.set ticket.requestKey ticket.ticketId,pending,active,windowUsed
   nextTicket:=q.nextTicket+1,nextSequence:=q.nextSequence+1,nextFencingToken }

lemma get?_registered(q:AdmissionTicketQueue)(ticket:AdmissionTicket)(other:String)
  (pending:List String)(active:Finset String)(windowUsed nextFencingToken:ℕ):
  (q.registered ticket pending active windowUsed nextFencingToken).tickets.get? other =
   if other=ticket.ticketId then some ticket else q.tickets.get? other:=
 Dict.get?_set q.tickets ticket.ticketId other ticket

lemma requests_registered(q:AdmissionTicketQueue)(ticket:AdmissionTicket)(key:RequestKey)
  (pending:List String)(active:Finset String)(windowUsed nextFencingToken:ℕ):
  (q.registered ticket pending active windowUsed nextFencingToken).requestTickets.get? key =
   if key=ticket.requestKey then some ticket.ticketId else q.requestTickets.get? key:=
 Dict.get?_set q.requestTickets ticket.requestKey key ticket.ticketId

lemma ticketIdOf_injective(limiterId:String):Function.Injective (ticketIdOf limiterId):=by
 intro m n h
 exact zeroPadded_injective 6 (append_left_injective _ h)

lemma Consistent.next_fresh(h:Consistent q):
  q.tickets.get? (ticketIdOf q.limiterId q.nextTicket)=none:=by
 cases hget:q.tickets.get? (ticketIdOf q.limiterId q.nextTicket) with
 | none=>rfl
 | some u=>
  obtain ⟨n,hn,hid⟩:=h.numbered _ u hget
  have heq:=ticketIdOf_injective q.limiterId hid
  omega

variable {windowUsed:ℕ}

lemma Consistent.tokens_registered (h : Consistent q) {pending : List String}
  {active : Finset String} {nextFencingToken : ℕ}
  (hown : ∀ token, t.fencingToken = some token → token = q.nextFencingToken)
  (i j : String) (u v : AdmissionTicket) (token : ℕ)
  (hi : (q.registered t pending active windowUsed nextFencingToken).tickets.get? i = some u)
  (hj : (q.registered t pending active windowUsed nextFencingToken).tickets.get? j = some v)
  (hu : u.fencingToken = some token) (hv : v.fencingToken = some token) : i = j := by
 rw [get?_registered] at hi hj
 split at hi <;> split at hj
 · next hi' hj' => rw [hi', hj']
 · next hi' _ =>
   cases hi
   obtain rfl:=hown token hu
   exact absurd (h.fenced j v _ hj hv) (Nat.lt_irrefl _)
 · next hj' =>
   cases hj
   obtain rfl:=hown token hv
   exact absurd (h.fenced i u _ hi hu) (Nat.lt_irrefl _)
 · exact h.tokens i j u v token hi hj hu hv

section
variable (h:Consistent q) (hid:t.ticketId=ticketIdOf q.limiterId q.nextTicket)
  (hkey:q.requestTickets.get? t.requestKey=none)
include h hid hkey

lemma Consistent.inverse_registered {pending : List String} {active : Finset String}
  {nextFencingToken : ℕ} (key : RequestKey) (other : String) :
  (q.registered t pending active windowUsed nextFencingToken).requestTickets.get? key =
   some other ↔ ∃ u, (q.registered t pending active windowUsed nextFencingToken).tickets.get?
    other = some u ∧ u.requestKey = key := by
 rw [get?_registered, requests_registered]
 split
 · next hkey' =>
   subst hkey'
   constructor
   · intro hsome
     cases hsome
     exact ⟨t, if_pos rfl, rfl⟩
   · rintro ⟨u, hu, hsame⟩
     split at hu
     · next heq => rw [heq]
     · have hheld:=(h.inverse u.requestKey other).mpr ⟨u, hu, rfl⟩
       rw [hsame, hkey] at hheld
       cases hheld
 · next hkey' =>
   rw [h.inverse]
   constructor
   · rintro ⟨u, hu, hsame⟩
     have hother:other ≠ t.ticketId:=by
      rintro rfl
      rw [hid, h.next_fresh] at hu
      cases hu
     exact ⟨u, by rw [if_neg hother]; exact hu, hsame⟩
   · rintro ⟨u, hu, hsame⟩
     split at hu
     · cases hu
       exact absurd hsame.symm hkey'
     · exact ⟨u, hu, hsame⟩

lemma Consistent.register{pending:List String}
  {active:Finset String}{nextFencingToken:ℕ}(hnodup:pending.Nodup)
  (hlength:pending.length≤q.maxPending)
  (hpending:∀other,other∈pending↔if other=t.ticketId then t.state=.queued else other∈q.pending)
  (hactive:∀other,other∈active ↔
   if other=t.ticketId then t.state=.admitted∨t.state=.running else other∈q.active)
  (hcard:active.card≤q.maxConcurrent)(hused:windowUsed≤q.rateLimit)
  (htoken:(t.fencingToken=none∧nextFencingToken=q.nextFencingToken) ∨
   (t.fencingToken=some q.nextFencingToken∧nextFencingToken=q.nextFencingToken+1)):
  Consistent (q.registered t pending active windowUsed nextFencingToken):=by
 have hfresh:q.tickets.get? t.ticketId=none:=hid▸h.next_fresh
 have hnext:q.nextFencingToken≤nextFencingToken:=by rcases htoken with ⟨-,hnext⟩|⟨-,hnext⟩ <;>omega
 have hown:∀token,t.fencingToken=some token →
   token=q.nextFencingToken∧nextFencingToken=q.nextFencingToken+1:=by
  intro token ht
  rcases htoken with ⟨hnone,-⟩|⟨hsome,hnext⟩
  · rw [hnone] at ht
    cases ht
  · rw [hsome] at ht
    cases ht
    exact ⟨rfl,hnext⟩
 refine
  { pending_nodup:=hnodup
    pending_iff := ?_
    pending_length:=hlength
    active_iff := ?_
    active_card:=hcard
    windowUsed_le:=hused
    inverse := h.inverse_registered hid hkey
    ownId := ?_
    numbered := ?_
    fenced := ?_
    tokens := h.tokens_registered fun token ht=>(hown token ht).1
    nextFencingToken_pos:=h.nextFencingToken_pos.trans_le hnext
    nextSequence_pos:=Nat.succ_pos _ }
 · intro other
   rw [get?_registered]
   change other∈pending ↔ _
   rw [hpending]
   split
   · simp
   · exact h.pending_iff other
 · intro other
   rw [get?_registered]
   change other∈active ↔ _
   rw [hactive]
   split
   · simp
   · exact h.active_iff other
 · intro other u hu
   rw [get?_registered] at hu
   split at hu
   · next heq=>
     cases hu
     exact heq.symm
   · exact h.ownId other u hu
 · intro other u hu
   rw [get?_registered] at hu
   change ∃n,n<q.nextTicket+1∧other=ticketIdOf q.limiterId n
   split at hu
   · next heq=>exact ⟨q.nextTicket,Nat.lt_succ_self _,heq.trans hid⟩
   · obtain ⟨n,hn,hid'⟩:=h.numbered other u hu
     exact ⟨n,Nat.lt_succ_of_lt hn,hid'⟩
 · intro other u token hu hfence
   rw [get?_registered] at hu
   change token<nextFencingToken
   split at hu
   · cases hu
     obtain ⟨rfl,hnext'⟩:=hown token hfence
     omega
   · exact (h.fenced other u token hu hfence).trans_le hnext

lemma Consistent.register_admitted(hstate:t.state=.admitted)
  (htoken:t.fencingToken=some q.nextFencingToken)(hslot:q.active.card<q.maxConcurrent)
  (hused:windowUsed≤q.rateLimit):
  Consistent (q.registered t q.pending (insert t.ticketId q.active) windowUsed
   (q.nextFencingToken+1)):=by
 have hnot:t.ticketId∉q.pending:=by
  intro hmem
  obtain ⟨u,hu,-⟩:=(h.pending_iff _).mp hmem
  rw [hid,h.next_fresh] at hu
  cases hu
 refine h.register hid hkey h.pending_nodup h.pending_length ?_ ?_
  ((Finset.card_insert_le _ _).trans hslot) hused (.inr ⟨htoken,rfl⟩)
 · intro other
   split
   · next heq=>simp [heq,hnot,hstate]
   · rfl
 · intro other
   split
   · next heq=>simp [heq,hstate]
   · next hne=>simp [hne]

lemma Consistent.register_queued(hstate:t.state=.queued)
  (htoken:t.fencingToken=none)(hroom:q.pending.length<q.maxPending):
  Consistent (q.registered t (q.pending++[t.ticketId]) q.active q.windowUsed
   q.nextFencingToken):=by
 have hfresh:∀u,q.tickets.get? t.ticketId≠some u:=by
  intro u hu
  rw [hid,h.next_fresh] at hu
  cases hu
 have hpending:t.ticketId∉q.pending:=by
  intro hmem
  obtain ⟨u,hu,-⟩:=(h.pending_iff _).mp hmem
  exact hfresh u hu
 have hactive:t.ticketId∉q.active:=by
  intro hmem
  obtain ⟨u,hu,-⟩:=(h.active_iff _).mp hmem
  exact hfresh u hu
 refine h.register hid hkey ?_ ?_ ?_ ?_ h.active_card h.windowUsed_le (.inl ⟨htoken,rfl⟩)
 · rw [nodup_append]
   refine ⟨h.pending_nodup,nodup_singleton _,?_⟩
   intro a ha b hb hab
   rw [mem_singleton] at hb
   exact hpending (hb▸hab▸ha)
 · rw [length_append,length_singleton]
   exact hroom
 · intro other
   split
   · next heq=>simp [heq,hstate]
   · next hne=>simp [hne]
 · intro other
   split
   · next heq=>simp [heq,hactive,hstate]
   · rfl

end

lemma advances_registered(hid:t.ticketId=ticketIdOf q.limiterId q.nextTicket)
  {pending:List String}{active:Finset String}{nextFencingToken:ℕ}
  (hpending:pending.Sublist (q.pending++[t.ticketId]))
  (htoken:(t.fencingToken=none∧nextFencingToken=q.nextFencingToken) ∨
   (t.fencingToken=some q.nextFencingToken∧nextFencingToken=q.nextFencingToken+1))
  (hc:Consistent (q.registered t pending active windowUsed nextFencingToken)):
  Advances q (q.registered t pending active windowUsed nextFencingToken) [t.ticketId]:=by
 refine ⟨hc,rfl,⟨?_,?_⟩,hpending,by rw [hid];rfl,rfl⟩
 · change q.nextFencingToken≤nextFencingToken
   rcases htoken with ⟨-,hnext⟩|⟨-,hnext⟩ <;>omega
 · intro other u token hu hfence
   rw [get?_registered] at hu
   split at hu
   · cases hu
     rcases htoken with ⟨hnone,-⟩|⟨hsome,-⟩
     · rw [hnone] at hfence
       cases hfence
     · rw [hsome] at hfence
       cases hfence
       exact .inr le_rfl
   · exact .inl ⟨u,hu,hfence⟩

lemma room_registered(h:Consistent q)(hid:t.ticketId=ticketIdOf q.limiterId q.nextTicket)
  (hversion:t.stateVersion=1)(hversions:Versions 1 q)(hfits:Fits now t.units q):
  Versions 1 (q.registered t (q.pending++[t.ticketId]) q.active q.windowUsed
    q.nextFencingToken) ∧
   Fits now 0 (q.registered t (q.pending++[t.ticketId]) q.active q.windowUsed
    q.nextFencingToken):=by
 have hne:∀{other:String},other∈q.pending→ other≠t.ticketId:=by
  rintro other hmem rfl
  obtain ⟨u,hu,-⟩:=(h.pending_iff _).mp hmem
  rw [hid,h.next_fresh] at hu
  cases hu
 refine ⟨?_,?_⟩
 · intro other u hmem hu
   rw [get?_registered] at hu
   split at hu
   · cases hu
     rw [hversion]
     unfold maxAdmissionInteger
     decide
   · next hother=>
     have hmem':other∈q.pending++[t.ticketId]:=hmem
     rw [mem_append,mem_singleton] at hmem'
     exact hversions other u (hmem'.resolve_right hother) hu
 · rcases hfits with hfits|hfits
   · left
     have hsame:(q.registered t (q.pending++[t.ticketId]) q.active q.windowUsed
       q.nextFencingToken).unitsOf q.pending=q.unitsOf q.pending:=by
      apply unitsOf_congr
      intro other hmem
      rw [get?_registered,if_neg (hne hmem)]
     have hself:(q.registered t (q.pending++[t.ticketId]) q.active q.windowUsed
       q.nextFencingToken).tickets.get? t.ticketId=some t:=by
      rw [get?_registered,if_pos rfl]
     change q.windowUsed+AdmissionTicketQueue.unitsOf _ (q.pending++[t.ticketId])+0≤q.rateLimit
     rw [unitsOf_append,hsame,unitsOf_cons hself]
     change q.windowUsed+(q.unitsOf q.pending+(t.units+0))+0≤q.rateLimit
     omega
   · exact .inr hfits

def issuedBy (submission:AdmissionSubmission) : List String :=
 if submission.duplicate then [] else [submission.ticket.ticketId]

/-- A request as `submit` has checked it. -/
structure Requestable (q:AdmissionTicketQueue) (r:AdmissionRequest) : Prop where
 runId:Text r.runId
 requestId:Text r.requestId
 ownerId:Text r.ownerId
 tenantId:∀tenant,r.tenantId=some tenant→Text tenant
 now:Within r.now
 units:0<r.units∧Within r.units
 expiry:r.now+q.ticketTtlMs≤ maxAdmissionInteger

/-- The record of `submit`. -/
def AdmissionRequest.fields (r:AdmissionRequest) (q:AdmissionTicketQueue)
  (state:AdmissionTicketState) (queuePosition retryAfterMs fencingToken:Option ℕ) :
  TicketFields where
 ticketId:=ticketIdOf q.limiterId q.nextTicket
 runId:=r.runId
 requestId:=r.requestId
 ownerId:=r.ownerId
 tenantId:=r.tenantId
 limiterId:=q.limiterId
 state
 units:=r.units
 sequence:=q.nextSequence
 stateVersion:=1
 issuedAtMs:=r.now
 expiresAtMs:=r.now+q.ticketTtlMs
 queuePosition
 retryAfterMs
 fencingToken
 startedAtMs:=none
 completedAtMs:=none

lemma one_within:Within 1:=by
 unfold Within maxAdmissionInteger
 decide

variable {r:AdmissionRequest}

lemma Requestable.wellformed (hr:Requestable q r) (hq:Consistent q)
  (hsequence:q.nextSequence< maxAdmissionInteger) {state:AdmissionTicketState}
  {queuePosition retryAfterMs fencingToken:Option ℕ}
  (hstate:(state=.queued∧queuePosition.isSome=true∧fencingToken=none) ∨
   (state=.admitted∧queuePosition=none∧retryAfterMs=none∧fencingToken.isSome=true))
  (hposition:∀n,queuePosition=some n→0<n∧Within n)
  (hretry:∀n,retryAfterMs=some n→Within n)
  (htoken:∀n,fencingToken=some n→0<n∧Within n) :
  (r.fields q state queuePosition retryAfterMs fencingToken).Wellformed where
 ticketId:=text_ticketIdOf (positiveInteger_of_check q.accepted).1 q.nextTicket
 runId:=hr.runId
 requestId:=hr.requestId
 ownerId:=hr.ownerId
 limiterId:=(positiveInteger_of_check q.accepted).1
 tenantId:=hr.tenantId
 units:=hr.units
 sequence:=⟨hq.nextSequence_pos,hsequence.le⟩
 stateVersion:=⟨Nat.one_pos,one_within⟩
 issuedAtMs:=hr.now
 expiresAtMs:=hr.expiry
 ordered:=Nat.lt_add_of_pos_right (positiveInteger_of_check q.accepted).2.2.2.2
 queuePosition:=hposition
 retryAfterMs:=hretry
 fencingToken:=htoken
 startedAtMs _ h:=nomatch h
 completedAtMs _ h:=nomatch h
 queued h:=by
  rcases hstate with ⟨-,hsome,hnone⟩|⟨hadmitted,-⟩
  · exact ⟨hsome,hnone⟩
  · rw [show state=.queued from h] at hadmitted
    cases hadmitted
 unqueued h:=by
  rcases hstate with ⟨hqueued,-⟩|⟨-,hnone,hretry',-⟩
  · exact absurd hqueued h
  · exact ⟨hnone,hretry'⟩
 occupying h:=by
  rcases hstate with ⟨rfl,-⟩|⟨-,-,-,hsome⟩
  · rcases h with h|h <;>cases h
  · exact hsome
 running h:=by rcases hstate with ⟨rfl,-⟩|⟨rfl,-⟩ <;>cases h
 terminal h:=by rcases hstate with ⟨rfl,-⟩|⟨rfl,-⟩ <;>cases h
 unstarted _:=rfl
 live _:=rfl
 started _ h:=nomatch h
 completed _ h:=nomatch h

/-- Room for one more pending ticket, and in every counter. -/
structure Vacant (q:AdmissionTicketQueue) : Prop where
 pending:q.pending.length<q.maxPending
 ticket:q.nextTicket< maxAdmissionInteger
 sequence:q.nextSequence< maxAdmissionInteger
 token:q.nextFencingToken< maxAdmissionInteger

/-- An error of a new submission: nothing is registered. -/
def Unsubmitted (now:ℕ) (q:AdmissionTicketQueue) (e:Raised) (s:AdmissionTicketQueue) : Prop :=
 (∃error,e=.admission error)∧s=q.refreshed now∧¬Vacant q

variable {E:Raised→AdmissionTicketQueue→Prop}

lemma ends_increment{fieldName:String}{n:ℕ}{Q:ℕ→AdmissionTicketQueue→Prop}
  (h:n< maxAdmissionInteger→Q (n+1) s)(hfull:∀error,¬n< maxAdmissionInteger→E (.admission error) s):
  Ends (accept (incrementAdmissionCounter fieldName n)) s Q E:=by
 refine ends_accept.mpr ⟨?_,?_⟩
 · intro m hm
   obtain ⟨hlt,rfl⟩:=incrementAdmissionCounter_ok.mp hm
   exact h hlt
 · intro error herror
   apply hfull error
   intro hlt
   rw [incrementAdmissionCounter_ok.mpr ⟨hlt,rfl⟩] at herror
   cases herror

/-- A registered ticket is given its place and is then the one that was issued. -/
lemma reindexed_ends (hregistered : Consistent s') (hissued : Advances q s' [id])
  (hroomy : Versions 1 s') (hfitting : Fits now 0 s') (hmem : id ∈ s'.pending) :
  Ends (reindex now) s' (fun _ s => Ends (ticketAt id) s
   (fun ticket s => Advances q s (issuedBy ⟨ticket, false⟩)) E) E := by
 refine (reindex_ends (k := 0) hregistered .refl fun _ : True => hroomy).weaken ?_ ?_
 · rintro _ s₁ ⟨hs₁, -, -, hpending⟩
   have hc₁:=hs₁.consistent hregistered
   obtain ⟨placed, known, -⟩:=(hc₁.pending_iff id).mp (hpending ▸ hmem)
   rw [ends_ticketAt known]
   have hown:issuedBy ⟨placed, false⟩ = [id]:=by
    rw [← hc₁.ownId _ placed known]
    rfl
   rw [hown]
   exact hissued.tidied hs₁
 · rintro _ _ ⟨-, -, hnone⟩
   exact absurd ⟨trivial, hfitting⟩ hnone

lemma submitNew_ends(hq:Consistent q)(hr:Requestable q r)
  (hkey:q.requestTickets.get? r.key=none)(hversions:Versions 1 q)(hfits:Fits r.now r.units q):
  Ends (submitNew r) q (fun submission s=>Advances q s (issuedBy submission))
   (Unsubmitted r.now q):=by
 have hs:Tidied r.now q (q.refreshed r.now):=.single (.refresh q)
 have hc:=hs.consistent hq
 obtain ⟨start,hstart⟩:=refreshed_started r.now q
 have hversions':Versions 1 (q.refreshed r.now):=hversions.refreshed
 have hfits':=hs.fits hq hfits
 obtain ⟨hfields,-,hrequests,hpending,-,hticket,hsequence,hfence⟩:=refreshed_eq r.now q
 have hr':Requestable (q.refreshed r.now) r:={ hr with expiry:=hfields▸hr.expiry }
 have hkey':(q.refreshed r.now).requestTickets.get? r.key=none:=hrequests▸hkey
 -- an error before the registration
 have hunsubmitted:∀error,¬Vacant (q.refreshed r.now) →
   Unsubmitted r.now q (.admission error) (q.refreshed r.now):=by
  intro error hnone
  refine ⟨⟨error,rfl⟩,rfl,fun hvacant=>hnone ?_⟩
  exact ⟨by rw [hpending,hfields];exact hvacant.pending,by rw [hticket];exact hvacant.ticket,
   by rw [hsequence];exact hvacant.sequence,by rw [hfence];exact hvacant.token⟩
 have hadvances:∀{submission:AdmissionSubmission} {s:AdmissionTicketQueue},
   Advances (q.refreshed r.now) s (issuedBy submission)→Advances q s (issuedBy submission):=
  fun h=>h.after hq hs
 simp only [submitNew,ends_bind,ends_modify,ends_get]
 generalize q.refreshed r.now=s at *
 cases hadmit:(s.pending.isEmpty&&decide (s.active.card<s.maxConcurrent) &&
   decide (s.windowUsed+r.units≤ s.rateLimit)) with
 | true=>
  rw [Bool.and_eq_true,Bool.and_eq_true,List.isEmpty_iff,decide_eq_true_eq,
   decide_eq_true_eq] at hadmit
  obtain ⟨⟨hempty,hslot⟩,hfree⟩:= hadmit
  simp only [Bool.not_true,Bool.false_and,Bool.false_eq_true,if_false,if_true,ends_bind]
  refine ends_increment (fun _=>?_) fun error hfull=>hunsubmitted error fun hv=>hfull hv.ticket
  refine ends_increment (fun hsequence'=>?_) fun error hfull=>
   hunsubmitted error fun hv=>hfull hv.sequence
  refine ends_increment (fun htoken=>?_) fun error hfull=>
   hunsubmitted error fun hv=>hfull hv.token
  simp only [ends_modify,ends_pure]
  have hpositive:∀n,some s.nextFencingToken=some n→0<n∧Within n:=by
   intro n hn
   cases hn
   exact ⟨hc.nextFencingToken_pos,htoken.le⟩
  obtain ⟨ticket,hnew,hrecord⟩:=(hr'.wellformed hc hsequence' (.inr ⟨rfl,rfl,rfl,rfl⟩)
   (by intro _ h;cases h) (by intro _ h;cases h) hpositive).new
  refine ends_passed hnew (hadvances ?_)
  have hid:ticket.ticketId=ticketIdOf s.limiterId s.nextTicket:=by rw [hrecord];rfl
  have hrequest:ticket.requestKey=r.key:=by rw [hrecord];rfl
  have htaken:ticket.fencingToken=some s.nextFencingToken:=by rw [hrecord];rfl
  have hstate:ticket.state=.admitted:=by rw [hrecord];rfl
  rw [←hrequest] at hkey'
  rw [←hid,←hrequest]
  exact advances_registered hid (sublist_append_left _ _) (.inr ⟨htaken,rfl⟩)
   (hc.register_admitted hid hkey' hstate htaken hslot hfree)
 | false=>
  simp only [Bool.not_false,Bool.true_and,Bool.false_eq_true,if_false]
  split
  · next hfull=>
    simp only [ends_bind,ends_throw]
    refine hunsubmitted _ fun hv=>?_
    have hlt:=hv.pending
    rw [decide_eq_true_eq] at hfull
    omega
  · next hroom=>
    rw [decide_eq_true_eq,Nat.not_le] at hroom
    simp only [ends_bind]
    refine ends_increment (fun _=>?_) fun error hfull=>hunsubmitted error fun hv=>hfull hv.ticket
    refine ends_increment (fun hsequence'=>?_) fun error hfull=>
     hunsubmitted error fun hv=>hfull hv.sequence
    rw [ends_hint hstart]
    simp only [ends_bind,ends_modify,ends_pure]
    have hmax:=(positiveInteger_of_check s.accepted).2.2.1
    have hposition:∀n,some (s.pending.length+1)=some n→0<n∧Within n:=by
     intro n hn
     cases hn
     unfold Within at *
     omega
    have hretry:∀n,(if s.rateLimit<s.windowUsed+r.units then
      some (start+s.windowMs-r.now) else none)=some n→Within n:=fun n hn=>
     hfits'.hint (by omega) hstart hn
    obtain ⟨ticket,hnew,hrecord⟩:=(hr'.wellformed hc hsequence' (.inl ⟨rfl,rfl,rfl⟩)
     hposition hretry (by intro _ h;cases h)).new
    refine ends_passed hnew ?_
    have hid:ticket.ticketId=ticketIdOf s.limiterId s.nextTicket:=by rw [hrecord];rfl
    have hrequest:ticket.requestKey=r.key:=by rw [hrecord];rfl
    have htaken:ticket.fencingToken=none:=by rw [hrecord];rfl
    have hstate:ticket.state=.queued:=by rw [hrecord];rfl
    have hunits:ticket.units=r.units:=by rw [hrecord];rfl
    have hversion:ticket.stateVersion=1:=by rw [hrecord];rfl
    rw [←hrequest] at hkey'
    rw [←hid,←hrequest]
    have hregistered:=hc.register_queued hid hkey' hstate htaken hroom
    have hissued:=advances_registered hid (List.Sublist.refl _) (.inl ⟨htaken,rfl⟩) hregistered
    obtain ⟨hroomy,hfitting⟩:=room_registered hc hid hversion hversions' (hunits▸hfits')
    exact reindexed_ends hregistered (hissued.after hq hs) hroomy hfitting
     (mem_append_right _ (mem_singleton_self _))

variable {key:RequestKey}

lemma Consistent.ticket_of_request(h:Consistent q)(hkey:q.requestTickets.get? key=some id):
  ∃t,q.tickets.get? id=some t∧t.requestKey=key:=(h.inverse key id).mp hkey

lemma checkExisting_ends(hq:Consistent q)(r:AdmissionRequest){Q:Unit→AdmissionTicketQueue→Prop}
  (h:Q () q):Ends (checkExisting r) q Q (Fails now q):=by
 simp only [checkExisting,ends_bind,ends_get]
 cases hkey:q.requestTickets.get? r.key with
 | none=>exact (ends_pure ()).mpr h
 | some existingId=>
  obtain ⟨existing,known,-⟩:=hq.ticket_of_request hkey
  simp only [ends_bind,ends_ticketAt known]
  split
  · simp only [ends_bind]
    exact ends_refusal .refl
  · exact ends_check .refl fun _ _=>h

lemma reuseExisting_ends(hs:Consistent s)(r:AdmissionRequest)
  {Q:Option AdmissionTicket→AdmissionTicketQueue→Prop}
  (hreused:∀existing,Q (some existing) s)
  (hunknown:s.requestTickets.get? r.key=none→Q none s)
  (hforgotten:∀id t,s.requestTickets.get? r.key=some id→s.tickets.get? id=some t →
   t.state=.expired∨t.state=.failed∨s.terminalRetentionExpired t r.now=true →
   Q none (s.evicted id)):
  Ends (reuseExisting r) s Q E:=by
 simp only [reuseExisting,ends_bind,ends_get]
 cases hkey:s.requestTickets.get? r.key with
 | none=>exact (ends_pure none).mpr (hunknown hkey)
 | some existingId=>
  obtain ⟨existing,known,-⟩:=hs.ticket_of_request hkey
  simp only [ends_bind,ends_ticketAt known]
  split
  · next hended=>
    simp only [ends_bind,ends_modify,ends_pure]
    exact hforgotten existingId existing hkey known (by tauto)
  split
  · next hretained=>
    simp only [ends_bind,ends_modify,ends_pure]
    exact hforgotten existingId existing hkey known (.inr (.inr hretained))
  · exact (ends_pure _).mpr (hreused existing)

/-- The request has a ticket that a submission at `now` forgets before its retention is over. -/
def Readmits (now:ℕ) (q:AdmissionTicketQueue) (key:RequestKey) : Prop :=
 ∃id t,q.requestTickets.get? key=some id∧q.tickets.get? id=some t ∧
  ((t.state=.failed∨t.state=.expired)∧q.terminalRetentionExpired t now=false ∨
   t.state.isTerminal=false∧t.expiresAtMs≤now)

/-- The pending tickets that are not due at `now`. -/
def AdmissionTicketQueue.undue (q:AdmissionTicketQueue) (now:ℕ) : List String :=
 q.pending.filter fun id=>(q.tickets.get? id).any fun t=>now<t.expiresAtMs

/-- Room for one more pending ticket once the due ones are gone, and in every counter. -/
structure RoomToReadmit (now:ℕ) (q:AdmissionTicketQueue) : Prop where
 pending:(q.undue now).length<q.maxPending
 ticket:q.nextTicket< maxAdmissionInteger
 sequence:q.nextSequence< maxAdmissionInteger
 tokens:Tokens 1 q

/-- A submission at `now` can go wrong only before it changes anything. -/
structure Submittable (now units:ℕ) (q:AdmissionTicketQueue) (key:RequestKey) : Prop where
 versions:Versions 3 q
 fits:Fits now units q
 readmission:Readmits now q key→ RoomToReadmit now q

lemma Tidied.unknown(h:Tidied now q s)(hq:Consistent q)
  (hkey:q.requestTickets.get? key=none):s.requestTickets.get? key=none:=by
 cases hget:s.requestTickets.get? key with
 | none=>rfl
 | some id=>
  obtain ⟨t',ht',rfl⟩:=(h.consistent hq).ticket_of_request hget
  obtain ⟨t,ht,hlater⟩:=(h.carried hq).ticket id t' ht'
  have hheld:=(hq.inverse t'.requestKey id).mpr ⟨t,ht,hlater.requestKey.symm⟩
  rw [hkey] at hheld
  cases hheld

lemma Consistent.unknown_evicted(h:Consistent q)(hkey:q.requestTickets.get? key=some id)
  (known:q.tickets.get? id=some t)(ended:t.state.isTerminal=true):
  (q.evicted id).requestTickets.get? key=none:=by
 cases hget:(q.evicted id).requestTickets.get? key with
 | none=>rfl
 | some other=>
  obtain ⟨u,hu,rfl⟩:=(h.evict known ended).ticket_of_request hget
  rw [get?_evicted known ended] at hu
  split at hu
  · cases hu
  · next hne=>
    have hheld:=(h.inverse u.requestKey other).mpr ⟨u,hu,rfl⟩
    rw [hkey] at hheld
    exact absurd (Option.some.inj hheld).symm hne

lemma pending_undue(hq:Consistent q)(hs:Tidied now q s)(hdue:NotDue now s):
  s.pending.length≤(q.undue now).length:=by
 have hc:=hs.carried hq
 have hall:s.pending.filter (fun id=>(q.tickets.get? id).any fun t=>now<t.expiresAtMs)=s.pending:=by
  rw [filter_eq_self]
  intro id hmem
  obtain ⟨t',ht',hqueued⟩:=((hs.consistent hq).pending_iff id).mp hmem
  obtain ⟨t,ht,hlater⟩:=hc.ticket id t' ht'
  have hbefore:=hdue id t' ht' (by rw [hqueued];rfl)
  rw [hlater.expiresAtMs] at hbefore
  rw [ht]
  simpa using hbefore
 rw [←hall]
 exact (hc.pending.filter _).length_le

/-- Maintenance leaves room for one more ticket where there is room for it and for the tokens of
the pending tickets. -/
lemma Tidied.vacant(h:Tidied now q s)(hq:Consistent q)
  (hpending:q.pending.length<q.maxPending)(hticket:q.nextTicket< maxAdmissionInteger)
  (hsequence:q.nextSequence< maxAdmissionInteger)(htokens:Tokens 1 q):Vacant s:=by
 have hc:=h.carried hq
 have htokens':Tokens 1 s:=h.tokens htokens
 unfold Tokens at htokens'
 refine ⟨?_,by rw [hc.nextTicket];exact hticket,by rw [hc.nextSequence];exact hsequence,by omega⟩
 rw [hc.fields]
 exact hc.pending.length_le.trans_lt hpending

lemma submitFree_ends(hq:Consistent q)(hr:Requestable q r)
  (hkey:q.requestTickets.get? r.key=none)(hversions:Versions 1 q)(hfits:Fits r.now r.units q):
  Ends (modify (AdmissionTicketQueue.pruned r.now) >>= fun _=>submitNew r) q
   (fun submission s=>Advances q s (issuedBy submission))
   (fun e s=>(∃error,e=.admission error)∧Tidied r.now q s ∧
    (q.pending.length<q.maxPending→q.nextTicket< maxAdmissionInteger →
     q.nextSequence< maxAdmissionInteger→Tokens 1 q→False)):=by
 obtain ⟨hs,hversions'⟩:Tidied r.now q (q.pruned r.now) ∧
   (True→Versions 1 (q.pruned r.now)):=pruned_tidied hq .refl fun _=>hversions
 have hc:=hs.carried hq
 simp only [ends_bind,ends_modify]
 refine (submitNew_ends (hs.consistent hq) { hr with expiry:=hc.fields▸hr.expiry }
  (hs.unknown hq hkey) (hversions' trivial) (hs.fits hq hfits)).weaken ?_ ?_
 · exact fun _ _ h=>h.after hq hs
 · rintro e s' ⟨hadmission,rfl,hfull⟩
   refine ⟨hadmission,hs.tail (.refresh _),?_⟩
   intro hpending hticket hsequence htokens
   exact hfull (hs.vacant hq hpending hticket hsequence htokens)

/-- A ticket that the submission forgets although its retention is not over has room to come
back. -/
lemma readmits_of_forgotten(hq:Consistent q)(hs:Tidied now q s)
  (hkey:s.requestTickets.get? key=some id)(known:s.tickets.get? id=some t)
  (hended:t.state=.expired∨t.state=.failed)
  (hretained:s.terminalRetentionExpired t now=false):Readmits now q key:=by
 have hc:=hs.carried hq
 obtain ⟨u,hu,hlater⟩:=hc.ticket id t known
 obtain ⟨v,hv,hvkey⟩:=(hs.consistent hq).ticket_of_request hkey
 rw [known] at hv
 cases hv
 have hheld:q.requestTickets.get? key=some id:=
  (hq.inverse key id).mpr ⟨u,hu,hlater.requestKey.symm.trans hvkey⟩
 have hsame:q.terminalRetentionExpired t now=s.terminalRetentionExpired t now:=by
  unfold AdmissionTicketQueue.terminalRetentionExpired
  rw [hc.fields]
 rcases hended with hexpired|hfailed
 · rcases hlater.expired hexpired with rfl|⟨hlive,hdue⟩
   · exact ⟨id,t,hheld,hu,.inl ⟨.inr hexpired,hsame.trans hretained⟩⟩
   · exact ⟨id,u,hheld,hu,.inr ⟨hlive,hdue⟩⟩
 · obtain rfl:=hlater.failed hfailed
   exact ⟨id,t,hheld,hu,.inl ⟨.inl hfailed,hsame.trans hretained⟩⟩

lemma submitLocked_ends(hq:Consistent q)(hr:Requestable q r)(h:Submittable r.now r.units q r.key):
  Ends (submitLocked r) q (fun submission s=>Advances q s (issuedBy submission))
   (Fails r.now q):=by
 simp only [submitLocked,ends_bind]
 refine checkExisting_ends hq r ?_
 refine ends_expireLocked (k:=2) hq hr.now (fun _:True=>h.versions)
  fun _ s hs hroom hdue _=>?_
 have hcs:=hs.consistent hq
 refine (promoteLocked_ends (k:=1) hcs .refl hroom).weaken ?_
  fun _ _ he=>⟨he.1,hs.trans he.2.1⟩
 rintro _ s₁ ⟨hmove,hroom₁,-⟩
 have hs₁:Tidied r.now q s₁:=hs.trans hmove
 have hc₁:=hs₁.consistent hq
 have hcarried:=hs₁.carried hq
 have hdue₁:NotDue r.now s₁:=hdue.carried (hmove.carried hcs)
 have hversions₁:Versions 1 s₁:=hroom₁ trivial
 have hfits₁:Fits r.now r.units s₁:=hs₁.fits hq h.fits
 have hr₁:Requestable s₁ r:={ hr with expiry:=hcarried.fields▸hr.expiry }
 refine reuseExisting_ends hc₁ r ?_ ?_ ?_
 · intro existing
   simp only [ends_pure]
   exact hs₁.advances hq
 · intro hkey
   refine (submitFree_ends hc₁ hr₁ hkey hversions₁ hfits₁).weaken ?_ ?_
   · exact fun _ _ h=>h.after hq hs₁
   · exact fun _ _ h=>⟨h.1,hs₁.trans h.2.1⟩
 · intro id t hkey known hended
   have hend:t.state.isTerminal=true:=by
    rcases hended with hstate|hstate|hretained
    · rw [hstate]
      rfl
    · rw [hstate]
      rfl
    · rw [AdmissionTicketQueue.terminalRetentionExpired,Bool.and_eq_true] at hretained
      exact hretained.1
   obtain ⟨hfields,hpending,-,-,hticket,hsequence,hfence⟩:=evicted_eq known hend
   have hc₂:=hc₁.evict known hend
   have hevicted:Advances q (s₁.evicted id) []:=
    (hcarried.trans (carried_evicted known hend)).advances hc₂
   have hfits₂:=hfits₁.evicted hc₁ known hend
   refine (submitFree_ends hc₂ { hr₁ with expiry:=hfields▸hr₁.expiry }
    (hc₁.unknown_evicted hkey known hend) (hversions₁.evicted known hend) hfits₂).weaken ?_ ?_
   · exact fun _ _ h=>hevicted.trans h
   · rintro e s₂ ⟨hadmission,hs₂,hfull⟩
     refine ⟨hadmission,?_⟩
     cases hretained:s₁.terminalRetentionExpired t r.now with
     | true=>exact (hs₁.tail (.evict known hend (.inl hretained))).trans hs₂
     | false=>
      have hforgotten:t.state=.expired∨t.state=.failed:=by
       rcases hended with hstate|hstate|hexpired
       · exact .inl hstate
       · exact .inr hstate
       · rw [hretained] at hexpired
         cases hexpired
      have hroomy:=h.readmission (readmits_of_forgotten hq hs₁ hkey known hforgotten hretained)
      exfalso
      apply hfull
      · rw [hpending,hfields,hcarried.fields]
        exact (pending_undue hq hs₁ hdue₁).trans_lt hroomy.pending
      · rw [hticket,hcarried.nextTicket]
        exact hroomy.ticket
      · rw [hsequence,hcarried.nextSequence]
        exact hroomy.sequence
      · have htokens:=hs₁.tokens hroomy.tokens
        unfold Tokens at htokens ⊢
        rw [hfence,hpending]
        exact htokens

end GraphBlocks.PythonAdmission
