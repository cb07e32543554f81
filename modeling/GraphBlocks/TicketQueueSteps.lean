import GraphBlocks.TicketQueueMaintenance

/-! `Effect` lists what a call can do: nothing, maintenance only, or maintenance and then one new
ticket, one claim, or one settlement. -/
namespace GraphBlocks.TicketQueue
open FiniteMap RustStd List

/-- The state a call works on once its maintenance has run. -/
abbrev maintained (s:Inner) (c:TimedCall) : Inner := (maintainAt s c.now).2

def runTicket (now:SystemTime) (token:ℕ) (t:AdmissionTicket) : AdmissionTicket :=
 { t with state:=.running,runningAt:=some now,fencingToken:=some token }

def claimTicket (s:Inner) (now:SystemTime) (front rest:List String) (id:String)
  (t:AdmissionTicket) : Inner :=
 { s with
   nextFencingToken:=s.nextFencingToken+1
   tickets:=s.tickets.insert id (runTicket now s.nextFencingToken t),admitted:=front++rest }

def claimOf (s:Inner) (now:SystemTime) (t:AdmissionTicket) : AdmissionTicketClaim where
 ticketId:=t.ticketId
 requestId:=t.requestId
 owner:=t.owner
 fencingToken:=s.nextFencingToken
 claimedAt:=now
 expiresAt:=t.expiresAt

/-- The first issued ticket of the admitted deque, with the ones before it. -/
structure NextClaim (s:Inner) (now:SystemTime) (front rest:List String) (id:String)
  (t:AdmissionTicket) : Prop where
 admitted_eq:s.admitted=front++id::rest
 front_future:∀j∈front,∀u,s.tickets.lookup j=some u→now<u.createdAt
 lookup_eq:s.tickets.lookup id=some t
 state_eq:t.state=.admitted
 issued:t.createdAt≤now

def ClaimRefused (r:Except AdmissionTicketError (Option AdmissionTicketClaim)) : Prop :=
 r=.ok none∨r=.error .identifierOverflow ∨ ∃id created now,r=.error (.notYetIssued id created now)

lemma claimLoop_spec(now:SystemTime)(remaining deferred:List String)(s:Inner)
  (pending:Option AdmissionTicketError)(ha:s.admitted=remaining++deferred)
  (hadm:∀j∈s.admitted,∃t,s.tickets.lookup j=some t∧t.state=.admitted)
  (hdef:∀j∈deferred,∀u,s.tickets.lookup j=some u→now<u.createdAt)
  (hpending:∀e,pending=some e→∃id created at',e=.notYetIssued id created at'):
  let r:=claimLoop now remaining.length s deferred.length pending
  let s₀:={ s with admitted:=deferred++remaining }
  (ClaimRefused r.1∧r.2=s₀) ∨ ∃front rest id t,NextClaim s₀ now front rest id t ∧
   r.1=.ok (some (claimOf s₀ now t))∧r.2=claimTicket s₀ now front rest id t:=by
 induction remaining generalizing deferred s pending with
 | nil=>
  have hrest:restoreDeferredFront s.admitted deferred.length=deferred:=by
   simpa [ha] using restoreDeferredFront_append [] deferred
  simp only [length_nil,claimLoop,hrest,append_nil]
  cases pending with
  | none=>exact Or.inl ⟨Or.inl rfl,rfl⟩
  | some e=>
   obtain ⟨id,created,at',rfl⟩:=hpending e rfl
   exact Or.inl ⟨Or.inr (Or.inr ⟨id,created,at',rfl⟩),rfl⟩
 | cons id rest ih=>
  obtain ⟨t,hid,hst⟩:=hadm id (by simp [ha])
  have hback:=restoreDeferredFront_append (id::rest) deferred
  have hskip:=restoreDeferredFront_append rest deferred
  simp only [cons_append] at hback
  simp only [length_cons,claimLoop,ha,cons_append,hid,hst,ne_eq,
   not_true_eq_false,↓reduceIte,ensureTicketIssued]
  by_cases hfuture:now<t.createdAt
  · simp only [hfuture,↓reduceIte]
    have step:=ih (deferred++[id]) { s with admitted:=rest++deferred++[id] }
     (pending <|> some (.notYetIssued t.ticketId t.createdAt now)) (by simp)
     (by
      intro j hj
      apply hadm j
      rw [ha]
      simp only [mem_append,mem_cons] at hj ⊢
      tauto)
     (by
      intro j hj u hu
      rcases mem_append.mp hj with hj|hj
      · exact hdef j hj u hu
      · rw [mem_singleton] at hj
        subst hj
        rw [hid] at hu
        cases hu
        exact hfuture)
     (by
      intro e he
      cases pending with
      | none=>cases he;exact ⟨_,_,_,rfl⟩
      | some e'=>cases he;exact hpending e rfl)
    simpa only [length_append,length_singleton,append_assoc,
     singleton_append,cons_append,nil_append] using step
  · simp only [hfuture,↓reduceIte]
    cases hnext:checkedSucc s.nextFencingToken with
    | none=>exact Or.inl ⟨Or.inr (Or.inl rfl),by simp only [hback]⟩
    | some next=>
     rw [checkedSucc_eq_some hnext]
     simp only [hskip]
     exact Or.inr ⟨deferred,rest,id,t,⟨rfl,hdef,hid,hst,not_lt.mp hfuture⟩,rfl,rfl⟩

variable {s:Inner} {now:SystemTime} {id:String} {t:AdmissionTicket}

lemma claimTicket_invariant{front rest:List String}(h:Invariant s)
  (hn:NextClaim s now front rest id t):Invariant (claimTicket s now front rest id t):=by
 have hperm:(front++id::rest).Perm (id::(front++rest)):=perm_middle
 have hcons:=hperm.nodup_iff.mp (hn.admitted_eq▸h.dispatch.admitted_nodup)
 have hslot:s.concurrent+slot t=s.concurrent+slot (runTicket now s.nextFencingToken t):=by
  simp [slot,runTicket,hn.state_eq,AdmissionTicketState.isOccupying]
 have hnq:id∉s.queued:=by
  rw [h.dispatch.mem_queued]
  rintro ⟨u,hu,hq⟩
  rw [hn.lookup_eq] at hu
  cases hu
  rw [hn.state_eq] at hq
  cases hq
 refine ⟨?_,?_,?_,h.concurrent_le,h.pending_le,h.rate_le⟩
 · refine Dispatch.update h.dispatch hn.lookup_eq hslot h.dispatch.queued_nodup
    (nodup_cons.mp hcons).2 ?_ ?_
   · intro j
     change j∈s.queued ↔ _
     by_cases hj:j=id
     · subst hj
       simpa [runTicket] using hnq
     · simp [hj]
   · intro j
     change j∈front++rest ↔ _
     rw [hn.admitted_eq,hperm.mem_iff]
     by_cases hj:j=id
     · subst hj
       simpa [runTicket] using (nodup_cons.mp hcons).1
     · simp [hj]
 · exact Registry.update h.registry hn.lookup_eq ⟨rfl,rfl,rfl⟩
 · refine Fencing.update h.fencing hn.lookup_eq (fun _=>rfl) (Nat.le_succ _) ?_
   exact Or.inr ⟨rfl,Nat.lt_succ_self _⟩

def endTicket (now:SystemTime) (state:AdmissionTicketState) (t:AdmissionTicket) : AdmissionTicket :=
 { t with state:=state,terminalAt:=some now }

def settleTicket (s:Inner) (now:SystemTime) (id:String) (t:AdmissionTicket)
  (state:AdmissionTicketState) : Inner :=
 removeTerminalFromDispatchQueues
  { s with tickets:=s.tickets.insert id (endTicket now state t),concurrent:=s.concurrent-slot t }

/-- The calls that settle ticket `id`, with what they require of its record. -/
inductive SettleRequest (id:String) (t:AdmissionTicket) : Call→AdmissionTicketState→Prop where
 | complete (k:ℕ) (hs:t.state=.running) (hk:t.fencingToken=some k) :
   SettleRequest id t (.completeAt id k) .completed
 | fail (k:ℕ) (hs:t.state=.running) (hk:t.fencingToken=some k) :
   SettleRequest id t (.failAt id k) .failed
 | cancelClaimed (k:ℕ) (hs:t.state=.running) (hk:t.fencingToken=some k) :
   SettleRequest id t (.cancelClaimedAt id k) .cancelled
 | cancel (hs:t.state=.queued∨t.state=.admitted) : SettleRequest id t (.cancelAt id) .cancelled

variable {state:AdmissionTicketState}

lemma SettleRequest.live{c:Call}(h:SettleRequest id t c state):
  t.state.isTerminal=false∧state.isTerminal=true:=by
 cases h with
 | complete _ hs _ | fail _ hs _ | cancelClaimed _ hs _=>exact ⟨by rw [hs];rfl,rfl⟩
 | cancel hs=>exact ⟨by rcases hs with hs|hs <;>rw [hs] <;>rfl,rfl⟩

lemma slot_le_concurrent(h:Invariant s)(hid:s.tickets.lookup id=some t):slot t≤ s.concurrent:=by
 have hc:s.concurrent=sumValues slot s.tickets:=h.dispatch.concurrent_eq
 rw [hc]
 exact le_sumValues slot s.tickets id t hid

lemma mem_filter_insert{tickets:FMap String AdmissionTicket}{deque:List String}
  {st:AdmissionTicketState}{u:AdmissionTicket}
  (hmem:∀j,j∈deque ↔ ∃t,tickets.lookup j=some t∧t.state=st)(hu:u.state≠st)(j:String):
  j∈deque.filter (stateIs (tickets.insert id u) st)↔if j=id then u.state=st else j∈deque:=by
 rw [mem_filter,stateIs_iff,lookup_insert_eq]
 by_cases hj:j=id
 · simp [hj,hu]
 · simp only [hj,↓reduceIte,hmem]
   tauto

lemma settleTicket_invariant(h:Invariant s)(hid:s.tickets.lookup id=some t)
  (hstate:state.isTerminal=true):Invariant (settleTicket s now id t state):=by
 have hslot:s.concurrent-slot t+slot t=s.concurrent+slot (endTicket now state t):=by
  have hle:=slot_le_concurrent h hid
  have hz:slot (endTicket now state t)=0:=by
   cases state <;>simp_all [slot,endTicket,AdmissionTicketState.isTerminal,
    AdmissionTicketState.isOccupying]
  omega
 refine ⟨?_,?_,?_,?_,?_,h.rate_le⟩
 · refine Dispatch.update h.dispatch hid hslot (h.dispatch.queued_nodup.filter _)
    (h.dispatch.admitted_nodup.filter _) ?_ ?_
   · apply mem_filter_insert h.dispatch.mem_queued
     intro hq
     have:state=.queued:=hq
     simp [this,AdmissionTicketState.isTerminal] at hstate
   · apply mem_filter_insert h.dispatch.mem_admitted
     intro ha
     have:state=.admitted:=ha
     simp [this,AdmissionTicketState.isTerminal] at hstate
 · exact Registry.update h.registry hid ⟨rfl,rfl,rfl⟩
 · refine Fencing.update h.fencing hid ?_ le_rfl (Or.inl rfl)
   intro hr
   have:state=.running:=hr
   simp [this,AdmissionTicketState.isTerminal] at hstate
 · exact (Nat.sub_le _ _).trans h.concurrent_le
 · exact (length_filter_le _ _).trans h.pending_le

lemma settleTicket_unexpired(state:AdmissionTicketState)(h:Unexpired now s)
  (hid:s.tickets.lookup id=some t):Unexpired now (settleTicket s now id t state):=by
 intro j u hu
 simp only [settleTicket,removeTerminalFromDispatchQueues,lookup_insert_eq] at hu
 split at hu
 · cases hu
   exact h id t hid
 · exact h j u hu

def hasCapacity (s:Inner) : Bool :=
 decide (s.concurrent<s.config.maxConcurrent)&&decide (s.rateWindowUsed<s.config.rateLimit)

def newTicket (s:Inner) (requestId owner:String) (now expiresAt:SystemTime) : AdmissionTicket where
 ticketId:=ticketIdOf s.nextTicketNumber
 requestId
 owner
 state:=if hasCapacity s then .admitted else .queued
 createdAt:=now
 expiresAt
 admittedAt:=if hasCapacity s then some now else none
 runningAt:=none
 terminalAt:=none
 fencingToken:=none

def issued (s:Inner) (requestId owner:String) (now expiresAt:SystemTime) : Inner :=
 { s with
   concurrent:=if hasCapacity s then s.concurrent+1 else s.concurrent
   rateWindowUsed:=if hasCapacity s then s.rateWindowUsed+1 else s.rateWindowUsed
   admitted:=if hasCapacity s then s.admitted++[ticketIdOf s.nextTicketNumber] else s.admitted
   queued:=if hasCapacity s then s.queued else s.queued++[ticketIdOf s.nextTicketNumber]
   nextTicketNumber:=s.nextTicketNumber+1
   ticketsByRequest:=s.ticketsByRequest.insert (requestId,owner) (ticketIdOf s.nextTicketNumber)
   tickets:=s.tickets.insert (ticketIdOf s.nextTicketNumber)
    (newTicket s requestId owner now expiresAt) }

lemma ticketIdOf_injective:Function.Injective ticketIdOf:=by
 intro m n h
 exact zeroPadded_injective 20 (append_left_injective "ticket-" h)

lemma lookup_next_none(h:Invariant s):s.tickets.lookup (ticketIdOf s.nextTicketNumber)=none:=by
 cases hl:s.tickets.lookup (ticketIdOf s.nextTicketNumber) with
 | none=>rfl
 | some t=>
  obtain ⟨n,hn,he⟩:=h.registry.number_lt _ t hl
  have:=ticketIdOf_injective he
  omega

section
variable (h:Invariant s) (requestId owner:String) (now expiresAt:SystemTime)
include h

lemma issued_dispatch:
  let t:=issued s requestId owner now expiresAt
  Dispatch t.tickets t.queued t.admitted t.concurrent:=by
 have hfresh:=lookup_next_none h
 have hnq:ticketIdOf s.nextTicketNumber∉s.queued:=by
  rw [h.dispatch.mem_queued,hfresh]
  simp
 have hna:ticketIdOf s.nextTicketNumber∉s.admitted:=by
  rw [h.dispatch.mem_admitted,hfresh]
  simp
 have hsum:=sumValues_insert_fresh slot s.tickets _
  (newTicket s requestId owner now expiresAt) hfresh
 have hcount:s.concurrent=sumValues slot s.tickets:=h.dispatch.concurrent_eq
 dsimp only [issued]
 cases hcap:hasCapacity s with
 | true=>
  simp only [↓reduceIte]
  refine ⟨h.dispatch.queued_nodup,?_,?_,?_,?_⟩
  · exact List.Nodup.append h.dispatch.admitted_nodup (nodup_singleton _)
     (by simpa using hna)
  · intro j
    rw [lookup_insert_eq,h.dispatch.mem_queued]
    by_cases hj:j=ticketIdOf s.nextTicketNumber
    · subst hj
      simp [hfresh,newTicket,hcap]
    · simp [hj]
  · intro j
    rw [lookup_insert_eq,mem_append,h.dispatch.mem_admitted]
    by_cases hj:j=ticketIdOf s.nextTicketNumber <;>simp [hj,newTicket,hcap]
  · have hone:slot (newTicket s requestId owner now expiresAt)=1:=by
     simp [slot,newTicket,hcap,AdmissionTicketState.isOccupying]
    change s.concurrent+1=sumValues slot _
    omega
 | false=>
  simp only [Bool.false_eq_true,↓reduceIte]
  refine ⟨?_,h.dispatch.admitted_nodup,?_,?_,?_⟩
  · exact List.Nodup.append h.dispatch.queued_nodup (nodup_singleton _)
     (by simpa using hnq)
  · intro j
    rw [lookup_insert_eq,mem_append,h.dispatch.mem_queued]
    by_cases hj:j=ticketIdOf s.nextTicketNumber <;>simp [hj,newTicket,hcap]
  · intro j
    rw [lookup_insert_eq,h.dispatch.mem_admitted]
    by_cases hj:j=ticketIdOf s.nextTicketNumber
    · subst hj
      simp [hfresh,newTicket,hcap]
    · simp [hj]
  · have hzero:slot (newTicket s requestId owner now expiresAt)=0:=by
     simp [slot,newTicket,hcap,AdmissionTicketState.isOccupying]
    change s.concurrent=sumValues slot _
    omega

lemma issued_registry(hnone:s.ticketsByRequest.lookup (requestId,owner)=none):
  let t:=issued s requestId owner now expiresAt
  Registry t.tickets t.ticketsByRequest t.nextTicketNumber:=by
 have hfresh:=lookup_next_none h
 refine ⟨?_,?_,?_⟩
 · intro j u hu
   simp only [issued,lookup_insert_eq] at hu
   split at hu
   · next hj=>cases hu;exact hj.symm
   · exact h.registry.key_eq j u hu
 · intro key j
   simp only [issued,lookup_insert_eq]
   by_cases hk:key=(requestId,owner)
   · subst hk
     simp only [↓reduceIte,Option.some.injEq]
     constructor
     · rintro rfl
       exact ⟨newTicket s requestId owner now expiresAt,by simp,rfl⟩
     · rintro ⟨u,hu,he⟩
       split at hu
       · next hj=>exact hj.symm
       · have:=(h.registry.request_iff (requestId,owner) j).mpr ⟨u,hu,he⟩
         rw [hnone] at this
         cases this
   · simp only [hk,↓reduceIte]
     rw [h.registry.request_iff]
     by_cases hj:j=ticketIdOf s.nextTicketNumber
     · subst hj
       simp only [hfresh,reduceCtorEq,false_and,exists_false,↓reduceIte,Option.some.injEq,
        exists_eq_left',false_iff]
       exact fun he=>hk he.symm
     · simp [hj]
 · intro j u hu
   simp only [issued,lookup_insert_eq] at hu ⊢
   split at hu
   · next hj=>exact ⟨s.nextTicketNumber,Nat.lt_succ_self _,hj⟩
   · obtain ⟨n,hn,he⟩:=h.registry.number_lt j u hu
     exact ⟨n,Nat.lt_succ_of_lt hn,he⟩

lemma issued_fencing:
  Fencing (issued s requestId owner now expiresAt).tickets s.nextFencingToken:=by
 have hno:∀k,(newTicket s requestId owner now expiresAt).fencingToken≠some k:=by simp [newTicket]
 have hst:(newTicket s requestId owner now expiresAt).state ≠ .running:=by
  unfold newTicket
  dsimp only
  split <;>simp
 refine ⟨?_,?_,?_⟩
 · intro j u hu hs
   simp only [issued,lookup_insert_eq] at hu
   split at hu
   · cases hu;exact absurd hs hst
   · exact h.fencing.running_token j u hu hs
 · intro j u k hu hk
   simp only [issued,lookup_insert_eq] at hu
   split at hu
   · cases hu;exact absurd hk (hno k)
   · exact h.fencing.token_lt j u k hu hk
 · intro i j u v k hu hv huk hvk
   simp only [issued,lookup_insert_eq] at hu hv
   split at hu
   · cases hu;exact absurd huk (hno k)
   · split at hv
     · cases hv;exact absurd hvk (hno k)
     · exact h.fencing.token_unique i j u v k hu hv huk hvk

lemma issued_invariant(hnone:s.ticketsByRequest.lookup (requestId,owner)=none)
  (hroom:hasCapacity s=true∨s.queued.length<s.config.maxPending):
  Invariant (issued s requestId owner now expiresAt):=by
 refine ⟨issued_dispatch h requestId owner now expiresAt,
  issued_registry h requestId owner now expiresAt hnone,
  issued_fencing h requestId owner now expiresAt,?_,?_,?_⟩
 · have hle:=h.concurrent_le
   dsimp only [issued]
   split
   · next hcap=>
     simp only [hasCapacity,Bool.and_eq_true,decide_eq_true_eq] at hcap
     omega
   · exact hle
 · have hle:=h.pending_le
   dsimp only [issued]
   split
   · exact hle
   · next hcap=>
     simp only [length_append,length_singleton]
     rcases hroom with hr|hr
     · exact absurd hr hcap
     · omega
 · have hle:=h.rate_le
   dsimp only [issued]
   split
   · next hcap=>
     simp only [hasCapacity,Bool.and_eq_true,decide_eq_true_eq] at hcap
     omega
   · exact hle

end

end GraphBlocks.TicketQueue
