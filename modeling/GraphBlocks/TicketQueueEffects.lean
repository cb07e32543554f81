import GraphBlocks.TicketQueueSteps

namespace GraphBlocks.TicketQueue
open FiniteMap RustStd MachineRuns

def reportsChange (c:Call) : Response→Bool
 | .receipt (.ok r) => !r.duplicate
 | .claim (.ok (some _))=>true
 | .ticket (.ok _)=>
  match c with
  | .completeAt _ _ | .failAt _ _ | .cancelClaimedAt _ _=>true
  | _=>false
 | _=>false

/-- An `Ok` of `cancel_at` without a change: the ticket had been cancelled before. -/
def RepeatsCancel (m:Inner) (c:Call) (r:Response) : Prop :=
 ∀id t,c=.cancelAt id → r=.ticket (.ok t)→m.tickets.lookup id=some t∧t.state=.cancelled

/-- Whether the call passes the checks that the source makes before `maintain_at`. -/
def reachesMaintenance (s:Inner) (c:TimedCall) : Bool :=
 match c.call with
 | .admitAt requestId owner | .ticketForAt requestId owner=>
  (validateIdentity .requestId requestId).isOk&&(validateIdentity .owner owner).isOk
 | .completeAt id _ | .failAt id _ | .cancelClaimedAt id _ | .cancelAt id=>
  (ensureKnownIssued s id c.now).isOk
 | _=>true

inductive Effect (s:Inner) (c:TimedCall) : Response→Inner→Prop where
 | unchanged {r:Response} (early:reachesMaintenance s c=false) (quiet:reportsChange c.call r=false)
   (sound:r.isInvariantViolation=false)
   (refused:∀id t,c.call=.cancelAt id → r ≠ .ticket (.ok t)) : Effect s c r s
 | maintained {r:Response} (reached:reachesMaintenance s c=true)
   (quiet:reportsChange c.call r=false)
   (sound:r.isInvariantViolation=false)
   (again:RepeatsCancel (maintained s c) c.call r) : Effect s c r (maintained s c)
 | issued {requestId owner:String} {expiresAt:SystemTime}
   (reached:reachesMaintenance s c=true) (call_eq:c.call=.admitAt requestId owner)
   (unregistered:(maintained s c).ticketsByRequest.lookup (requestId,owner)=none)
   (expiry:expiresAt=c.now+(maintained s c).config.ticketTtl)
   (room:hasCapacity (maintained s c)=true ∨
    (maintained s c).queued.length<(maintained s c).config.maxPending) :
   Effect s c
    (.receipt (.ok ⟨newTicket (maintained s c) requestId owner c.now expiresAt,false⟩))
    (issued (maintained s c) requestId owner c.now expiresAt)
 | claimed {front rest:List String} {id:String} {t:AdmissionTicket}
   (reached:reachesMaintenance s c=true) (call_eq:c.call=.claimNextAt)
   (next:NextClaim (maintained s c) c.now front rest id t) :
   Effect s c (.claim (.ok (some (claimOf (maintained s c) c.now t))))
    (claimTicket (maintained s c) c.now front rest id t)
 | settled {id:String} {t:AdmissionTicket} {state:AdmissionTicketState}
   (reached:reachesMaintenance s c=true) (request:SettleRequest id t c.call state)
   (lookup_eq:(maintained s c).tickets.lookup id=some t) :
   Effect s c (.ticket (.ok (endTicket c.now state t)))
    (promoteAt (settleTicket (maintained s c) c.now id t state) c.now).2

section

-- keeps unification from running the maintenance of a symbolic state
attribute [local irreducible] maintainAt promoteAt

variable {s:Inner} {now:SystemTime}

lemma registered_none{m:Inner}(h:Invariant m){requestId owner:String}
  (hr:registered m requestId owner=none):m.ticketsByRequest.lookup (requestId,owner)=none:=by
 cases hl:m.ticketsByRequest.lookup (requestId,owner) with
 | none=>rfl
 | some id=>
  obtain ⟨t,ht,-⟩:=(h.registry.request_iff _ id).mp hl
  simp [registered,hl,ht] at hr

lemma issueTicket_effect{m:Inner}(requestId owner:String):
  let r:=issueTicket m requestId owner now
  (∃e,r.1=.error e∧(∀op,e ≠ .invariantViolation op)∧r.2=m) ∨
   ∃expiresAt,expiresAt=now+m.config.ticketTtl ∧
    (hasCapacity m=true∨m.queued.length< m.config.maxPending) ∧
    r.1=.ok ⟨newTicket m requestId owner now expiresAt,false⟩ ∧
    r.2=issued m requestId owner now expiresAt:=by
 unfold issueTicket
 cases hexp:checkedAddTime now m.config.ticketTtl with
 | none=>exact Or.inl ⟨_,rfl,by simp,rfl⟩
 | some expiresAt=>
  have hcap:(decide (m.concurrent< m.config.maxConcurrent) &&
   decide (m.rateWindowUsed< m.config.rateLimit))=hasCapacity m:=rfl
  dsimp only
  rw [hcap]
  split
  · exact Or.inl ⟨_,rfl,by simp,rfl⟩
  · next hfull=>
    cases hnum:checkedSucc m.nextTicketNumber with
    | none=>exact Or.inl ⟨_,rfl,by simp,rfl⟩
    | some next=>
     rw [checkedSucc_eq_some hnum]
     refine Or.inr ⟨expiresAt,checkedAddTime_eq_some hexp,?_,rfl,?_⟩
     · cases hc:hasCapacity m with
       | true=>exact Or.inl rfl
       | false=>exact Or.inr (by simpa [hc] using hfull)
     · unfold issued newTicket
       cases hasCapacity m <;>rfl

lemma ensureTicketIssued_cases(t:AdmissionTicket)(now:SystemTime):
  ensureTicketIssued t now=.ok () ∨
   ensureTicketIssued t now=.error (.notYetIssued t.ticketId t.createdAt now):=by
 unfold ensureTicketIssued
 split
 · exact Or.inr rfl
 · exact Or.inl rfl

lemma validateIdentity_cases(field:IdentityField)(value:String):
  validateIdentity field value=.ok () ∨
   validateIdentity field value=.error (.invalidIdentity field):=by
 unfold validateIdentity
 split
 · exact Or.inr rfl
 · exact Or.inl rfl

lemma ensureKnownIssued_cases(s:Inner)(id:String)(now:SystemTime):
  ensureKnownIssued s id now=.ok () ∨ ∃t : AdmissionTicket,
    ensureKnownIssued s id now=.error (.notYetIssued t.ticketId t.createdAt now):=by
 unfold ensureKnownIssued
 cases s.tickets.lookup id with
 | none=>exact Or.inl rfl
 | some t=>
  rcases ensureTicketIssued_cases t now with h|h
  · exact Or.inl h
  · exact Or.inr ⟨t,h⟩

lemma admitAt_effect(h:Invariant s)(requestId owner:String)(now:SystemTime):
  Effect s ⟨.admitAt requestId owner,now⟩ (.receipt (admitAt s requestId owner now).1)
   (admitAt s requestId owner now).2:=by
 unfold admitAt
 rcases validateIdentity_cases .requestId requestId with hr|hr <;>rw [hr]
 · rcases validateIdentity_cases .owner owner with ho|ho <;>rw [ho]
   · have hreach:reachesMaintenance s ⟨.admitAt requestId owner,now⟩=true:=by
      simp only [reachesMaintenance,hr,ho]
      rfl
     dsimp only
     cases hreg:registered (maintainAt s now).2 requestId owner with
     | some t=>
      dsimp only
      rcases ensureTicketIssued_cases t now with hi|hi <;>rw [hi]
      · exact .maintained hreach rfl rfl (by intro id t hc;cases hc)
      · exact .maintained hreach rfl rfl (by intro id t hc;cases hc)
     | none=>
      rcases issueTicket_effect (m:=(maintainAt s now).2) requestId owner with
       ⟨e,h1,h2,h3⟩ | ⟨expiresAt,h1,h2,h3,h4⟩
      · dsimp only
        rw [h1,h3]
        refine .maintained hreach rfl ?_ (by intro id t hc;cases hc)
        cases e <;>first | rfl | exact absurd rfl (h2 _)
      · dsimp only
        rw [h3,h4]
        exact .issued hreach rfl (registered_none (maintainAt_invariant now h) hreg) h1 h2
   · exact .unchanged (by simp only [reachesMaintenance,hr,ho];rfl) rfl rfl (by intro id t hc;cases hc)
 · exact .unchanged (by simp only [reachesMaintenance,hr];rfl) rfl rfl (by intro id t hc;cases hc)

lemma ticketAt_effect(s:Inner)(id:String)(now:SystemTime):
  Effect s ⟨.ticketAt id,now⟩ (.ticket (ticketAt s id now).1) (ticketAt s id now).2:=by
 unfold ticketAt
 dsimp only
 cases (maintainAt s now).2.tickets.lookup id with
 | none=>exact .maintained rfl rfl rfl (by intro id t hc;cases hc)
 | some t=>
  dsimp only
  rcases ensureTicketIssued_cases t now with hi|hi <;>rw [hi]
  · exact .maintained rfl rfl rfl (by intro id t hc;cases hc)
  · exact .maintained rfl rfl rfl (by intro id t hc;cases hc)

lemma ticketForAt_effect(s:Inner)(requestId owner:String)(now:SystemTime):
  Effect s ⟨.ticketForAt requestId owner,now⟩ (.ticket (ticketForAt s requestId owner now).1)
   (ticketForAt s requestId owner now).2:=by
 unfold ticketForAt
 rcases validateIdentity_cases .requestId requestId with hr|hr <;>rw [hr]
 · rcases validateIdentity_cases .owner owner with ho|ho <;>rw [ho]
   · have hreach:reachesMaintenance s ⟨.ticketForAt requestId owner,now⟩=true:=by
      simp only [reachesMaintenance,hr,ho]
      rfl
     dsimp only
     cases registered (maintainAt s now).2 requestId owner with
     | none=>exact .maintained hreach rfl rfl (by intro id t hc;cases hc)
     | some t=>
      dsimp only
      rcases ensureTicketIssued_cases t now with hi|hi <;>rw [hi]
      · exact .maintained hreach rfl rfl (by intro id t hc;cases hc)
      · exact .maintained hreach rfl rfl (by intro id t hc;cases hc)
   · exact .unchanged (by simp only [reachesMaintenance,hr,ho];rfl) rfl rfl (by intro id t hc;cases hc)
 · exact .unchanged (by simp only [reachesMaintenance,hr];rfl) rfl rfl (by intro id t hc;cases hc)

lemma claimNextAt_spec(h:Invariant s)(now:SystemTime):
  (ClaimRefused (claimNextAt s now).1∧(claimNextAt s now).2=(maintainAt s now).2) ∨
   ∃front rest id t,NextClaim (maintainAt s now).2 now front rest id t ∧
    (claimNextAt s now).1=.ok (some (claimOf (maintainAt s now).2 now t)) ∧
    (claimNextAt s now).2=claimTicket (maintainAt s now).2 now front rest id t:=by
 have hinv:=maintainAt_invariant now h
 exact claimLoop_spec now (maintainAt s now).2.admitted [] (maintainAt s now).2 none
  (by simp) (fun j hj=>(hinv.dispatch.mem_admitted j).mp hj) (by simp) (by simp)

lemma claimNextAt_effect(h:Invariant s)(now:SystemTime):
  Effect s ⟨.claimNextAt,now⟩ (.claim (claimNextAt s now).1) (claimNextAt s now).2:=by
 rcases claimNextAt_spec h now with ⟨hr,hs⟩|⟨front,rest,id,t,hn,hr,hs⟩
 · rw [hs]
   rcases hr with hr|hr|⟨id,created,at',hr⟩ <;>rw [hr]
   all_goals exact .maintained rfl rfl rfl (by intro id t hc;cases hc)
 · rw [hr,hs]
   exact .claimed rfl rfl hn

/-- The deques hold no running ticket, so filtering them after a claimed settlement is void. -/
lemma settleTicket_running{m:Inner}(h:Invariant m){id:String}{t:AdmissionTicket}
  (now:SystemTime)(state:AdmissionTicketState)(hid:m.tickets.lookup id=some t)
  (hs:t.state=.running):settleTicket m now id t state =
   { m with tickets:=m.tickets.insert id (endTicket now state t),concurrent:=m.concurrent-1 }:=by
 have keep:∀(deque:List String) (st:AdmissionTicketState),st ≠ .running →
   (∀j,j∈deque ↔ ∃u,m.tickets.lookup j=some u∧u.state=st) →
   deque.filter (stateIs (m.tickets.insert id (endTicket now state t)) st)=deque:=by
  intro deque st hst hmem
  rw [List.filter_eq_self]
  intro j hj
  obtain ⟨u,hu,hus⟩:=(hmem j).mp hj
  rw [stateIs_iff,lookup_insert_eq]
  by_cases he:j=id
  · subst he
    rw [hid] at hu
    cases hu
    exact absurd (hus.symm.trans hs) hst
  · simp [he,hu,hus]
 have hone:slot t=1:=by simp [slot,hs,AdmissionTicketState.isOccupying]
 simp only [settleTicket,removeTerminalFromDispatchQueues,hone,
  keep m.queued .queued (by simp) h.dispatch.mem_queued,
  keep m.admitted .admitted (by simp) h.dispatch.mem_admitted]

/-- The three claimed settlements are one function of the source, at three terminal states. -/
lemma transitionClaimedAt_effect(h:Invariant s)(id:String)(token:ℕ)
  (state:AdmissionTicketState)(now:SystemTime)(call:Call)(hnot:∀j,call ≠ .cancelAt j)
  (hreach:reachesMaintenance s ⟨call,now⟩=(ensureKnownIssued s id now).isOk)
  (hreq:∀t,t.state=.running→t.fencingToken=some token→SettleRequest id t call state):
  Effect s ⟨call,now⟩ (.ticket (transitionClaimedAt s id token state now).1)
   (transitionClaimedAt s id token state now).2:=by
 have hinv:=maintainAt_invariant now h
 have quiet:∀e,reportsChange call (.ticket (.error e))=false:=fun _=>rfl
 unfold transitionClaimedAt
 rcases ensureKnownIssued_cases s id now with hk|⟨u,hk⟩ <;>rw [hk] at hreach ⊢
 · dsimp only
   cases hid:(maintainAt s now).2.tickets.lookup id with
   | none=>exact .maintained hreach (quiet _) rfl (fun j t hc=>absurd hc (hnot j))
   | some t=>
    dsimp only
    split
    · exact .maintained hreach (quiet _) rfl (fun j t hc=>absurd hc (hnot j))
    · next hst=>
      have hrun:t.state=.running:=not_not.mp hst
      have hsome:=hinv.fencing.running_token id t hid hrun
      cases htok:t.fencingToken with
      | none=>simp [htok] at hsome
      | some expected=>
       dsimp only
       split
       · exact .maintained hreach (quiet _) rfl (fun j t hc=>absurd hc (hnot j))
       · next heq=>
         have heq:token=expected:=not_not.mp heq
         subst heq
         have hsettle:=settleTicket_running hinv now state hid hrun
         have heffect:=Effect.settled (s:=s) (c:=⟨call,now⟩) hreach (hreq t hrun htok) hid
         rw [hsettle] at heffect
         simp only [endTicket,htok] at heffect
         exact heffect
 · exact .unchanged hreach (quiet _) rfl (fun j t hc=>absurd hc (hnot j))

lemma cancelAt_effect(s:Inner)(id:String)(now:SystemTime):
  Effect s ⟨.cancelAt id,now⟩ (.ticket (cancelAt s id now).1) (cancelAt s id now).2:=by
 have hreach:reachesMaintenance s ⟨.cancelAt id,now⟩=(ensureKnownIssued s id now).isOk:=rfl
 unfold cancelAt
 rcases ensureKnownIssued_cases s id now with hk|⟨u,hk⟩ <;>rw [hk] at hreach ⊢
 · dsimp only
   cases hid:(maintainAt s now).2.tickets.lookup id with
   | none=>exact .maintained hreach rfl rfl (by intro j t _ hr;cases hr)
   | some t=>
    dsimp only
    split
    · next hst=>
      refine .maintained hreach rfl rfl ?_
      intro j u hc hr
      cases hc
      cases hr
      exact ⟨hid,hst⟩
    · next hnc=>
      split
      · exact .maintained hreach rfl rfl (by intro j t _ hr;cases hr)
      · next hlive=>
        split
        · exact .maintained hreach rfl rfl (by intro j t _ hr;cases hr)
        · next hnr=>
          have hwait:t.state=.queued∨t.state=.admitted:=by
           cases hst:t.state <;>
            simp_all [AdmissionTicketState.isTerminal]
          have hslot:(if t.state=.admitted then (maintainAt s now).2.concurrent-1
            else (maintainAt s now).2.concurrent)=(maintainAt s now).2.concurrent-slot t:=by
           rcases hwait with hw|hw <;>
            simp [hw,slot,AdmissionTicketState.isOccupying]
          have heffect:=Effect.settled (s:=s) (c:=⟨.cancelAt id,now⟩) hreach
           (SettleRequest.cancel hwait) hid
          simp only [settleTicket,←hslot] at heffect
          exact heffect
 · exact .unchanged hreach rfl rfl (by intro j t _ hr;cases hr)

attribute [local irreducible] admitAt ticketAt ticketForAt claimNextAt transitionClaimedAt cancelAt

/-- Every response and next state of the queue is one of the listed effects. -/
lemma step_effect(h:Invariant s)(c:TimedCall):Effect s c (step s c).1 (step s c).2:=by
 obtain ⟨call,now⟩:=c
 cases call with
 | admitAt requestId owner=>exact admitAt_effect h requestId owner now
 | ticketAt id=>exact ticketAt_effect s id now
 | ticketForAt requestId owner=>exact ticketForAt_effect s requestId owner now
 | claimNextAt=>exact claimNextAt_effect h now
 | completeAt id token=>
  exact transitionClaimedAt_effect h id token .completed now (.completeAt id token)
   (by simp) rfl (fun t hs hk=>.complete token hs hk)
 | failAt id token=>
  exact transitionClaimedAt_effect h id token .failed now (.failAt id token)
   (by simp) rfl (fun t hs hk=>.fail token hs hk)
 | cancelClaimedAt id token=>
  exact transitionClaimedAt_effect h id token .cancelled now (.cancelClaimedAt id token)
   (by simp) rfl (fun t hs hk=>.cancelClaimed token hs hk)
 | cancelAt id=>exact cancelAt_effect s id now
 | refreshAt=>
  change Effect s ⟨.refreshAt,now⟩ (.maintenance (maintainAt s now).1) (maintainAt s now).2
  exact .maintained rfl rfl rfl (by intro j t hc;cases hc)
 | countsAt=>
  change Effect s ⟨.countsAt,now⟩ (.counts (counts (maintainAt s now).2)) (maintainAt s now).2
  exact .maintained rfl rfl rfl (by intro j t hc;cases hc)
end

lemma Promotes.unexpired{now:SystemTime}{s s':Inner}{moved:List String}
  (h:Promotes now s moved s')(hs:Unexpired now s):Unexpired now s':=by
 induction h with
 | done _=>exact hs
 | promote _ _ _ _ _ hlive _ _ _ ih=>exact ih (unexpired_promoteTicket hs hlive)

lemma maintainAt_unexpired{s:Inner}(h:Invariant s)(now:SystemTime):
  Unexpired now (maintainAt s now).2:=by
 obtain ⟨moved,hrun,-⟩:=maintainAt_spec now h
 exact hrun.unexpired (sweep_unexpired s now)

lemma Effect.invariant{s s':Inner}{c:TimedCall}{r:Response}(h:Effect s c r s')
  (hs:Invariant s):Invariant s':=by
 have hm:=maintainAt_invariant c.now hs
 cases h with
 | unchanged _ _ _ _=>exact hs
 | maintained _ _ _ _=>exact hm
 | issued _ _ hnone _ hroom=>exact issued_invariant hm _ _ _ _ hnone hroom
 | claimed _ _ hn=>exact claimTicket_invariant hm hn
 | settled _ hreq hid=>
  exact promoteAt_invariant c.now (settleTicket_invariant hm hid hreq.live.2)
   (settleTicket_unexpired _ (maintainAt_unexpired hs c.now) hid)

lemma Effect.sound{s s':Inner}{c:TimedCall}{r:Response}(h:Effect s c r s'):
  r.isInvariantViolation=false:=by
 cases h with
 | unchanged _ _ hv _=>exact hv
 | maintained _ _ hv _=>exact hv
 | _=>rfl

lemma step_invariant(s:Inner)(c:TimedCall)(h:Invariant s):Invariant (step s c).2:=
 (step_effect h c).invariant h

lemma execute_step_invariant(config:AdmissionTicketQueueConfig)(start:SystemTime)
  (calls:List TimedCall):Invariant (execute step (newAt config start) calls):=
 execute_invariant step (newAt_invariant config start) step_invariant calls

end GraphBlocks.TicketQueue
