import GraphBlocks.TicketQueueHistory

namespace GraphBlocks.TicketQueue
open FiniteMap RustStd MachineRuns List

/-- `t` is a later version of the record `u`, with no claim in between. -/
structure Resumes (u t:AdmissionTicket) : Prop where
 createdAt_eq:t.createdAt=u.createdAt
 expiresAt_eq:t.expiresAt=u.expiresAt
 token_eq:t.fencingToken=u.fencingToken
 frozen:u.state.isTerminal=true→t=u

def Carries (a b:Inner) : Prop :=
 ∀id t,b.tickets.lookup id=some t → ∃u,a.tickets.lookup id=some u∧Resumes u t

lemma Resumes.refl(t:AdmissionTicket):Resumes t t:=⟨rfl,rfl,rfl,fun _=>rfl⟩

variable {t u:AdmissionTicket} {id:String}

lemma Resumes.trans{v:AdmissionTicket}(h:Resumes t u)(h':Resumes u v):Resumes t v:=by
 refine ⟨h'.createdAt_eq.trans h.createdAt_eq,h'.expiresAt_eq.trans h.expiresAt_eq,
  h'.token_eq.trans h.token_eq,?_⟩
 intro hend
 have hu:=h.frozen hend
 rw [hu] at h'
 exact h'.frozen hend

lemma Carries.refl(s:Inner):Carries s s:=fun _ t ht=>⟨t,ht,.refl t⟩

lemma Carries.trans{a b c:Inner}(h:Carries a b)(h':Carries b c):Carries a c:=by
 intro id t ht
 obtain ⟨u,hu,hut⟩:=h' id t ht
 obtain ⟨v,hv,hvu⟩:=h id u hu
 exact ⟨v,hv,hvu.trans hut⟩

lemma carries_of_insert{a b:Inner}
  (hid:a.tickets.lookup id=some t)(hb:b.tickets=a.tickets.insert id u)
  (h:Resumes t u):Carries a b:=by
 intro j v hv
 rw [hb,lookup_insert_eq] at hv
 split at hv
 · next hj=>
   cases hv
   exact ⟨t,hj▸hid,h⟩
 · exact ⟨v,hv,.refl v⟩

lemma sweep_carries(s:Inner)(now:SystemTime):Carries s (sweep s now):=
 fun id t ht=>⟨t,((lookup_sweep s now id t).mp ht).1,.refl t⟩

lemma resumes_of_live(live:t.state.isTerminal=false)
  (hc:u.createdAt=t.createdAt)(he:u.expiresAt=t.expiresAt)
  (hk:u.fencingToken=t.fencingToken):Resumes t u:=by
 refine ⟨hc,he,hk,?_⟩
 intro h
 rw [live] at h
 cases h

variable {now:SystemTime}

lemma Promotes.carries{s s':Inner}{moved:List String}(h:Promotes now s moved s'):Carries s s':=by
 induction h with
 | done s=>exact .refl s
 | @promote s s' front rest moved id t _ _ hid hs _ _ _ _ _ ih=>
  have hone:Carries s (promoteTicket s now front rest id t):=by
   refine carries_of_insert hid rfl (resumes_of_live ?_ rfl rfl rfl)
   rw [hs]
   rfl
  exact hone.trans ih

variable {s:Inner}

lemma maintainAt_carries(h:Invariant s)(now:SystemTime):Carries s (maintainAt s now).2:=by
 obtain ⟨moved,hrun,-⟩:=maintainAt_spec now h
 exact (sweep_carries s now).trans hrun.carries

section
variable {m:Inner} {c:TimedCall} {id:String} {t:AdmissionTicket}
variable {state:AdmissionTicketState}

section
variable (hm:Invariant m) (hun:Unexpired c.now m) (hreq:SettleRequest id t c.call state)
  (hid:m.tickets.lookup id=some t)
include hm hun hreq hid

lemma settled_promotes:
  ∃moved,Promotes c.now (settleTicket m c.now id t state) moved
   (promoteAt (settleTicket m c.now id t state) c.now).2:=by
 obtain ⟨moved,hrun,-⟩:=promoteAt_spec c.now (settleTicket_invariant hm hid hreq.live.2)
  (settleTicket_unexpired _ hun hid)
 exact ⟨moved,hrun⟩

lemma settled_carries:Carries m (promoteAt (settleTicket m c.now id t state) c.now).2:=by
 obtain ⟨moved,hrun⟩:=settled_promotes hm hun hreq hid
 have hone:Carries m (settleTicket m c.now id t state):=
  carries_of_insert (u:=endTicket c.now state t) hid rfl
   (resumes_of_live hreq.live.1 rfl rfl rfl)
 exact hone.trans hrun.carries

lemma settled_frame:
  (promoteAt (settleTicket m c.now id t state) c.now).2.nextFencingToken=m.nextFencingToken:=by
 obtain ⟨moved,hrun⟩:=settled_promotes hm hun hreq hid
 exact hrun.frame.2.2.1

end
end

section

attribute [local irreducible] maintainAt promoteAt

variable {c:TimedCall}

lemma Effect.frozen{s':Inner}{r:Response}(h:Effect s c r s')
  (hs:Invariant s)(hid:s.tickets.lookup id=some t)
  (hend:t.state.isTerminal=true)(hu:s'.tickets.lookup id=some u):u=t:=by
 have hm:=maintainAt_invariant c.now hs
 have hcar:=maintainAt_carries hs c.now
 have back:∀{w},(maintainAt s c.now).2.tickets.lookup id=some w→w=t:=by
  intro w hl
  obtain ⟨v,hv,hres⟩:=hcar id w hl
  rw [hid] at hv
  cases hv
  exact hres.frozen hend
 cases h with
 | unchanged _ _ _ _=>
  rw [hid] at hu
  exact (Option.some.inj hu).symm
 | maintained _ _ _ _=>exact back hu
 | issued _ _ _ _ _=>
  simp only [GraphBlocks.TicketQueue.issued,lookup_insert_eq] at hu
  split at hu
  · next hj=>
    change id=ticketIdOf (maintainAt s c.now).2.nextTicketNumber at hj
    obtain ⟨n,hn,he⟩:=hs.registry.number_lt id t hid
    have hnext:=(maintainAt_frame hs c.now).2.1
    have:=ticketIdOf_injective (he.symm.trans hj)
    omega
  · exact back hu
 | claimed _ _ hn=>
  simp only [claimTicket,lookup_insert_eq] at hu
  split at hu
  · next hj=>
    obtain ⟨v,hv,hres⟩:=hcar _ _ hn.lookup_eq
    rw [←hj,hid] at hv
    cases hv
    have hsame:=hres.frozen hend
    have hadm:=hn.state_eq
    rw [hsame] at hadm
    rw [hadm] at hend
    cases hend
  · exact back hu
 | settled _ hreq hl=>
  obtain ⟨v,hv,hres⟩:=settled_carries hm (maintainAt_unexpired hs c.now) hreq hl id u hu
  have hvt:=back hv
  rw [hvt] at hres
  exact hres.frozen hend

/-- What the claims handed out so far say about the state they lead to. -/
structure ClaimLedger (claims:List AdmissionTicketClaim) (s:Inner) : Prop where
 ids_nodup:(claims.map AdmissionTicketClaim.ticketId).Nodup
 ids_rank:∀id∈claims.map AdmissionTicketClaim.ticketId,3≤rank s id
 tokens_nodup:(claims.map AdmissionTicketClaim.fencingToken).Nodup
 tokens_lt:∀k∈claims.map AdmissionTicketClaim.fencingToken,k<s.nextFencingToken
 stored:∀id t k,s.tickets.lookup id=some t→t.fencingToken=some k →
  ∃claim∈claims,claim.ticketId=id∧claim.fencingToken=k∧claim.expiresAt=t.expiresAt

variable {claims:List AdmissionTicketClaim}

lemma ClaimLedger.carry{a b:Inner}(h:ClaimLedger claims a)(hadv:Advances a b)
  (hcar:Carries a b)(hk:b.nextFencingToken=a.nextFencingToken):ClaimLedger claims b:=by
 refine ⟨h.ids_nodup,fun id hid=>(h.ids_rank id hid).trans (hadv id),h.tokens_nodup,?_,?_⟩
 · rw [hk]
   exact h.tokens_lt
 · intro id t k ht hkt
   obtain ⟨u,hu,hres⟩:=hcar id t ht
   rw [hres.token_eq] at hkt
   rw [hres.expiresAt_eq]
   exact h.stored id u k hu hkt

lemma ClaimLedger.issue{m:Inner}(h:ClaimLedger claims m)(hm:Invariant m)(requestId owner:String)
  (now expiresAt:SystemTime):ClaimLedger claims (issued m requestId owner now expiresAt):=by
 have hadv:=issued_advances hm requestId owner now expiresAt
 refine ⟨h.ids_nodup,fun id hid=>(h.ids_rank id hid).trans (hadv id),h.tokens_nodup,h.tokens_lt,?_⟩
 intro id t k ht hk
 simp only [issued,lookup_insert_eq] at ht
 split at ht
 · cases ht
   cases hk
 · exact h.stored id t k ht hk

lemma claimTicket_advances{m:Inner}{front rest:List String}
  (hn:NextClaim m now front rest id t):Advances m (claimTicket m now front rest id t):=by
 refine advances_of_insert hn.lookup_eq rfl rfl ?_
 rw [hn.state_eq]
 change stateRank .admitted≤ stateRank .running
 decide

lemma ClaimLedger.claim{m:Inner}{front rest:List String}
  (h:ClaimLedger claims m)(hm:Invariant m)(hn:NextClaim m now front rest id t):
  ClaimLedger (claims++[claimOf m now t]) (claimTicket m now front rest id t):=by
 have hkey:(claimOf m now t).ticketId=id:=hm.registry.key_eq id t hn.lookup_eq
 have hbefore:rank m id=2:=by rw [rank_of_lookup hn.lookup_eq,hn.state_eq];rfl
 have hafter:rank (claimTicket m now front rest id t) id=3:=by
  rw [rank_of_lookup (t:=runTicket now m.nextFencingToken t)]
  · rfl
  · simp [claimTicket]
 obtain ⟨hnodup,hrank⟩:=crossing_append h.ids_nodup h.ids_rank (claimTicket_advances hn)
  (nodup_singleton id) (by simp only [mem_singleton];rintro k rfl;omega)
 refine ⟨?_,?_,?_,?_,?_⟩
 · simpa [hkey] using hnodup
 · simpa [hkey] using hrank
 · rw [map_append]
   refine List.Nodup.append h.tokens_nodup (nodup_singleton _) ?_
   intro k hk hk'
   have hlt:=h.tokens_lt k hk
   rw [map_singleton,mem_singleton] at hk'
   change k=m.nextFencingToken at hk'
   omega
 · intro k hk
   rw [map_append,mem_append] at hk
   change k< m.nextFencingToken+1
   rcases hk with hk|hk
   · exact Nat.lt_succ_of_lt (h.tokens_lt k hk)
   · rw [map_singleton,mem_singleton] at hk
     change k=m.nextFencingToken at hk
     omega
 · intro j u k hu hk
   simp only [claimTicket,lookup_insert_eq] at hu
   split at hu
   · next hj=>
     cases hu
     cases hk
     exact ⟨claimOf m now t,by simp,hkey.trans hj.symm,rfl,rfl⟩
   · obtain ⟨claim,hc,rest⟩:=h.stored j u k hu hk
     exact ⟨claim,by simp [hc],rest⟩

lemma claimed_eq_none{c:Call}{r:Response}(h:reportsChange c r=false):r.claimed=none:=by
 match r with
 | .receipt _ | .ticket _ | .maintenance _ | .counts _=>rfl
 | .claim (.error _)=>rfl
 | .claim (.ok none)=>rfl
 | .claim (.ok (some _))=>simp [reportsChange] at h

lemma Effect.ledger{s':Inner}{r:Response}(h:Effect s c r s')(hs:Invariant s)
  (hled:ClaimLedger claims s):ClaimLedger (claims++r.claimed.toList) s':=by
 have hm:=maintainAt_invariant c.now hs
 have hun:=maintainAt_unexpired hs c.now
 have hmid:ClaimLedger claims (maintainAt s c.now).2:=
  hled.carry (maintainAt_advances hs c.now) (maintainAt_carries hs c.now)
   (maintainAt_frame hs c.now).2.2
 have hphases:=h.phases hs
 cases h with
 | unchanged _ hq _ _=>simpa [claimed_eq_none hq] using hled
 | maintained _ hq _ _=>simpa [claimed_eq_none hq] using hmid
 | issued _ _ _ _ _=>
  have hnew:=hmid.issue hm
  simpa [Response.claimed] using hnew _ _ _ _
 | claimed _ _ hn=>exact hmid.claim hm hn
 | settled reached hreq hid=>
  obtain ⟨-,-,-,hadv⟩:=hphases
  simp only [midpoint,reached,↓reduceIte] at hadv
  have hend:=hmid.carry hadv (settled_carries hm hun hreq hid) (settled_frame hm hun hreq hid)
  simpa [Response.claimed] using hend

lemma claimLedger_history(config:AdmissionTicketQueueConfig)(start:SystemTime)
  (calls:List TimedCall):ClaimLedger (claimLog (history step (newAt config start) calls))
   (execute step (newAt config start) calls):=by
 refine (history_invariant step (P:=fun past s=>Invariant s∧ClaimLedger (claimLog past) s)
  ⟨newAt_invariant config start,?_⟩ ?_ calls).2
 · exact ⟨nodup_nil,by simp [claimLog],nodup_nil,by simp [claimLog],by simp [newAt]⟩
 · rintro past s c ⟨hinv,hled⟩
   have heff:=step_effect hinv c
   refine ⟨heff.invariant hinv,?_⟩
   have hlog:claimLog (past++[takeStep step s c])=claimLog past++(step s c).1.claimed.toList:=by
    simp only [claimLog,filterMap_append,takeStep]
    congr 1
   rw [hlog]
   exact heff.ledger hinv hled

/-- Each `saturating_sub` on `concurrent` that a call may execute subtracts at most what is there. -/
def SubtractionsExact (s:Inner) (c:TimedCall) : Prop :=
 releasedCapacity (resetRateWindow s c.now).tickets c.now≤(resetRateWindow s c.now).concurrent ∧
  ∀id t,(maintained s c).tickets.lookup id=some t→t.state.isOccupying=true →
   1≤(maintained s c).concurrent

lemma subtractionsExact(h:Invariant s)(c:TimedCall):SubtractionsExact s c:=by
 refine ⟨releasedCapacity_le (resetRateWindow_invariant h c.now) c.now,?_⟩
 intro id t ht hocc
 have hle:=slot_le_concurrent (maintainAt_invariant c.now h) ht
 simpa [slot,hocc] using hle

theorem queue_representation (config : AdmissionTicketQueueConfig) (start : SystemTime)
  (calls : List TimedCall) :
  let past := history step (newAt config start) calls
  let s:=execute step (newAt config start) calls
  let tokens:=(claimLog past).map AdmissionTicketClaim.fencingToken
  Invariant s∧tokens.Nodup∧(∀k∈tokens,k<s.nextFencingToken) ∧
   ∀c:TimedCall,(step s c).1.isInvariantViolation=false∧SubtractionsExact s c := by
 intro past s tokens
 have hinv:=execute_step_invariant config start calls
 have hled:=claimLedger_history config start calls
 refine ⟨hinv,hled.tokens_nodup,hled.tokens_lt,?_⟩
 intro c
 exact ⟨(step_effect hinv c).sound,subtractionsExact hinv c⟩

def ClaimedRequest (c:Call) (id:String) (token:ℕ) : Prop :=
 c=.completeAt id token∨c=.failAt id token∨c=.cancelClaimedAt id token

/-- The ticket stops being queued, admitted or running during this call. -/
def Settles (s:Inner) (c:TimedCall) (id:String) : Prop :=
 id∈departures liveIds s (midpoint s c)++departures liveIds (midpoint s c) (step s c).2

lemma settled_departs{m:Inner}{state:AdmissionTicketState}(hm:Invariant m)(hun:Unexpired c.now m)
  (hreq:SettleRequest id t c.call state)(hid:m.tickets.lookup id=some t):
  id∈departures liveIds m (promoteAt (settleTicket m c.now id t state) c.now).2:=by
 obtain ⟨moved,hrun⟩:=settled_promotes hm hun hreq hid
 obtain ⟨hlive,hend⟩:=hreq.live
 have hended:rank (settleTicket m c.now id t state) id=4:=by
  rw [rank_of_lookup (t:=endTicket c.now state t)]
  · cases state <;>first | rfl | cases hend
  · simp [settleTicket,removeTerminalFromDispatchQueues]
 have hlater:=hrun.advances id
 refine mem_departures.mpr ⟨(mem_keysWhere_iff _ _ id).mpr ⟨t,hid,by simp [hlive]⟩,?_⟩
 rw [mem_liveIds_iff]
 omega

lemma claimed_settlement(h:Invariant s)(hled:ClaimLedger claims s)
  {k:ℕ}(hc:ClaimedRequest c.call id k)(hr:(step s c).1=.ticket (.ok u)):
  Settles s c id∧∃claim∈claims,claim.ticketId=id∧claim.fencingToken=k ∧
   claim.expiresAt=u.expiresAt∧c.now<u.expiresAt:=by
 have loud:∀r,r=.ticket (.ok u)→ reportsChange c.call r=true:=by
  rintro r rfl
  rcases hc with hc|hc|hc <;>rw [hc] <;>rfl
 have heff:=step_effect h c
 unfold Settles
 generalize (step s c).1=r at hr heff
 generalize (step s c).2=s' at heff ⊢
 have hm:=maintainAt_invariant c.now h
 have hun:=maintainAt_unexpired h c.now
 cases heff with
 | unchanged _ hq _ _=>rw [loud r hr] at hq;cases hq
 | maintained _ hq _ _=>rw [loud r hr] at hq;cases hq
 | issued _ _ _ _ _=>cases hr
 | claimed _ _ _=>cases hr
 | @settled j t state reached hreq hid=>
  cases hr
  have hkey:j=id∧t.fencingToken=some k:=by
   rcases hc with hc|hc|hc <;>rw [hc] at hreq <;>cases hreq <;>exact ⟨rfl,‹_›⟩
  obtain ⟨rfl,htok⟩:=hkey
  constructor
  · rw [mem_append]
    right
    simp only [midpoint,reached,↓reduceIte]
    exact settled_departs hm hun hreq hid
  · obtain ⟨v,hv,hres⟩:=maintainAt_carries h c.now j t hid
    rw [hres.token_eq] at htok
    obtain ⟨claim,hmem,h1,h2,h3⟩:=hled.stored j v k hv htok
    exact ⟨claim,hmem,h1,h2,h3.trans hres.expiresAt_eq.symm,hun j t hid⟩

lemma cancel_settlement(h:Invariant s)(hc:c.call=.cancelAt id)(hr:(step s c).1=.ticket (.ok u)):
  Settles s c id∨((midpoint s c).tickets.lookup id=some u∧u.state=.cancelled):=by
 have heff:=step_effect h c
 unfold Settles
 generalize (step s c).1=r at hr heff
 generalize (step s c).2=s' at heff ⊢
 have hm:=maintainAt_invariant c.now h
 have hun:=maintainAt_unexpired h c.now
 cases heff with
 | unchanged _ _ _ hno=>exact absurd hr (hno id u hc)
 | maintained reached _ _ again=>
  simp only [midpoint,reached,↓reduceIte]
  exact Or.inr (again id u hc hr)
 | issued _ _ _ _ _=>cases hr
 | claimed _ _ _=>cases hr
 | @settled j t state reached hreq hid=>
  have hkey:j=id:=by
   rw [hc] at hreq
   cases hreq
   rfl
  subst hkey
  left
  rw [mem_append]
  right
  simp only [midpoint,reached,↓reduceIte]
  exact settled_departs hm hun hreq hid

variable {taken released settled:List String}

lemma SlotLedger.mem_slotIds(h:SlotLedger taken released settled s)(id:String):
  id∈slotIds s↔id∈taken∧id∉released:=by
 rw [mem_slotIds_iff]
 constructor
 · rintro ⟨hlo,hhi⟩
   refine ⟨h.occupying_taken id hlo hhi,?_⟩
   intro hrel
   have:=h.released_rank id hrel
   omega
 · rintro ⟨htaken,hrel⟩
   refine ⟨h.taken_rank id htaken,?_⟩
   by_contra hfour
   exact hrel (h.settled_of_rank id htaken (by omega)).1

lemma SlotLedger.released_iff_settled(h:SlotLedger taken released settled s)
  (hid:id∈taken):id∈released↔id∈settled:=
 ⟨fun hr=>(h.settled_of_rank id hid (h.released_rank id hr)).2,
  fun hs=>(h.settled_of_rank id hid (h.settled_rank id hs)).1⟩

theorem claims_settle_once (config : AdmissionTicketQueueConfig) (start : SystemTime)
  (calls : List TimedCall) :
  let past := history step (newAt config start) calls
  let s:=execute step (newAt config start) calls
  ((claimLog past).map AdmissionTicketClaim.ticketId).Nodup ∧
  (settlementLog past).Nodup ∧
  (∀tr∈past,∀id t u,tr.before.tickets.lookup id=some t→t.state.isTerminal=true →
   tr.after.tickets.lookup id=some u→u=t) ∧
  (∀(c:TimedCall) (id:String) (k:ℕ) (u:AdmissionTicket),ClaimedRequest c.call id k →
   (step s c).1=.ticket (.ok u) →
   Settles s c id ∧ ∃claim∈claimLog past,claim.ticketId=id∧claim.fencingToken=k ∧
    claim.expiresAt=u.expiresAt∧c.now<u.expiresAt) ∧
  (∀(c:TimedCall) (id:String) (u:AdmissionTicket),c.call=.cancelAt id→(step s c).1=.ticket (.ok u) →
   Settles s c id∨((midpoint s c).tickets.lookup id=some u∧u.state=.cancelled)) ∧
  (slotTakenLog past).Nodup∧(slotReleasedLog past).Nodup ∧
  (∀id∈slotReleasedLog past,id∈slotTakenLog past) ∧
  (∀id∈slotTakenLog past,id∈slotReleasedLog past↔id∈settlementLog past) ∧
  (∀id,id∈slotIds s↔id∈slotTakenLog past∧id∉slotReleasedLog past) ∧
  s.concurrent+(slotReleasedLog past).length=(slotTakenLog past).length := by
 intro past s
 have hinv:=execute_step_invariant config start calls
 have hclaims:=claimLedger_history config start calls
 have hslots:=slotLedger_history config start calls
 refine ⟨hclaims.ids_nodup,hslots.settled_nodup,?_,?_,?_,hslots.taken_nodup,
  hslots.released_nodup,hslots.released_taken,fun id hid=>hslots.released_iff_settled hid,
  hslots.mem_slotIds,hslots.balance⟩
 · intro tr htr id t u ht hend hu
   obtain ⟨before,c,after,-,rfl⟩:=mem_history step htr
   have hbefore:=execute_step_invariant config start before
   exact (step_effect hbefore c).frozen hbefore ht hend hu
 · intro c id k u hc hr
   exact claimed_settlement hinv hclaims hc hr
 · intro c id u hc hr
   exact cancel_settlement hinv hc hr
end

end GraphBlocks.TicketQueue
