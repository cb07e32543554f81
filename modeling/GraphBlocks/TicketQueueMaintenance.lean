import GraphBlocks.TicketQueueInvariant

/-! `maintain_at` first drops every ticket whose expiry has passed (`sweep`) and then promotes. -/
namespace GraphBlocks.TicketQueue
open FiniteMap RustStd List Option

def Unexpired (now:SystemTime) (s:Inner) : Prop := ∀id t,s.tickets.lookup id=some t→now<t.expiresAt

/-- `maintain_at` up to its call of `promote_at`. -/
def sweep (s:Inner) (now:SystemTime) : Inner :=
 pruneExpiredTerminalTickets
  (removeTerminalFromDispatchQueues (expireTickets (resetRateWindow s now) now)) now

lemma maintainAt_state(s:Inner)(now:SystemTime):
  (maintainAt s now).2=(promoteAt (sweep s now) now).2:=rfl

lemma lookup_pruneTicket(s:Inner)(id j:String):
  (pruneTicket s id).tickets.lookup j=if j=id then none else s.tickets.lookup j:=by
 unfold pruneTicket
 cases hid:s.tickets.lookup id with
 | none=>
  by_cases hj:j=id
  · subst hj
    simp [hid]
  · simp [hj]
 | some t=>exact lookup_erase_eq s.tickets id j

lemma lookup_pruneFold(ids:List String)(s:Inner)(j:String):
  (ids.foldl pruneTicket s).tickets.lookup j=if j∈ids then none else s.tickets.lookup j:=by
 induction ids generalizing s with
 | nil=>simp
 | cons id ids ih=>
  rw [foldl_cons,ih,lookup_pruneTicket]
  by_cases hj:j∈ids <;>by_cases he:j=id <;>simp [hj,he]

lemma pruneFold_invariant(ids:List String)(s:Inner)(h:Invariant s)
  (hterm:∀id∈ids,∀t,s.tickets.lookup id=some t→t.state.isTerminal=true):
  Invariant (ids.foldl pruneTicket s):=by
 induction ids generalizing s with
 | nil=>exact h
 | cons id ids ih=>
  apply ih
  · exact pruneTicket_invariant h id (hterm id (by simp))
  · intro j hj t ht
    rw [lookup_pruneTicket] at ht
    split at ht
    · cases ht
    · exact hterm j (by simp [hj]) t ht

lemma pruneFold_frame(ids:List String)(s:Inner):let t:=ids.foldl pruneTicket s
  t.config=s.config∧t.queued=s.queued∧t.admitted=s.admitted ∧
   t.concurrent=s.concurrent∧t.nextTicketNumber=s.nextTicketNumber ∧
   t.nextFencingToken=s.nextFencingToken∧t.rateWindowUsed=s.rateWindowUsed:=by
 induction ids generalizing s with
 | nil=>simp
 | cons id ids ih=>
  have hone:∀u:Inner,u=pruneTicket s id→u.config=s.config∧u.queued=s.queued ∧
    u.admitted=s.admitted∧u.concurrent=s.concurrent ∧
    u.nextTicketNumber=s.nextTicketNumber∧u.nextFencingToken=s.nextFencingToken ∧
    u.rateWindowUsed=s.rateWindowUsed:=by
   rintro u rfl
   unfold pruneTicket
   cases s.tickets.lookup id <;>simp
  have hrest:=ih (pruneTicket s id)
  obtain ⟨h1,h2,h3,h4,h5,h6,h7⟩:=hone _ rfl
  simp only [h1,h2,h3,h4,h5,h6,h7] at hrest
  exact hrest

lemma resetRateWindow_tickets(s:Inner)(now:SystemTime):
  (resetRateWindow s now).tickets=s.tickets:=by
 unfold resetRateWindow
 split <;>rfl

variable {s:Inner}

lemma sweep_invariant(h:Invariant s)(now:SystemTime):Invariant (sweep s now):=by
 apply pruneFold_invariant
 · exact expireTickets_invariant (resetRateWindow_invariant h now) now
 · intro id hid t ht
   obtain ⟨u,hu,hp⟩:=(mem_keysWhere_iff _ _ id).mp hid
   rw [ht] at hu
   cases hu
   simp only [Bool.and_eq_true] at hp
   exact hp.1

lemma expire_terminal(now:SystemTime)(t:AdmissionTicket)(h:t.expiresAt≤now):
  (expire now t).state.isTerminal=true:=by
 unfold expire expires
 cases ht:t.state.isTerminal with
 | true=>simp [ht]
 | false=>simp [h,AdmissionTicketState.isTerminal]

lemma expire_of_lt(now:SystemTime)(t:AdmissionTicket)(h:now<t.expiresAt):expire now t=t:=by
 have hn:¬t.expiresAt≤now:=not_le.mpr h
 simp [expire,expires,hn]

lemma lookup_sweep(s:Inner)(now:SystemTime)(id:String)(t:AdmissionTicket):
  (sweep s now).tickets.lookup id=some t↔s.tickets.lookup id=some t∧now<t.expiresAt:=by
 unfold sweep pruneExpiredTerminalTickets
 have hmap:(removeTerminalFromDispatchQueues
   (expireTickets (resetRateWindow s now) now)).tickets.lookup id =
    (s.tickets.lookup id).map (expire now):=by
  simp only [removeTerminalFromDispatchQueues,expireTickets,lookup_mapValues,
   resetRateWindow_tickets]
 generalize removeTerminalFromDispatchQueues (expireTickets (resetRateWindow s now) now)=e at hmap
 rw [lookup_pruneFold]
 by_cases hdrop:id∈keysWhere (fun t=>t.state.isTerminal&&decide (t.expiresAt≤now))
   e.tickets
 · obtain ⟨u,hu,hp⟩:=(mem_keysWhere_iff _ _ id).mp hdrop
   rw [hmap] at hu
   obtain ⟨v,hv,rfl⟩:=map_eq_some_iff.mp hu
   simp only [expire_expiresAt,Bool.and_eq_true,decide_eq_true_eq] at hp
   simp only [hdrop,↓reduceIte,reduceCtorEq,hv,Option.some.injEq,false_iff,not_and,not_lt]
   rintro rfl
   exact hp.2
 · simp only [hdrop,↓reduceIte,hmap]
   constructor
   · intro h
     obtain ⟨u,hu,rfl⟩:=map_eq_some_iff.mp h
     have hlt:now<u.expiresAt:=by
      by_contra hge
      have hle:=not_lt.mp hge
      apply hdrop
      refine (mem_keysWhere_iff _ _ id).mpr ⟨expire now u,by rw [hmap,hu];rfl,?_⟩
      simp [expire_terminal now u hle,expire_expiresAt,hle]
     rw [expire_of_lt now u hlt]
     exact ⟨hu,hlt⟩
   · rintro ⟨ht,hlt⟩
     rw [ht,map_some,expire_of_lt now t hlt]

lemma sweep_unexpired(s:Inner)(now:SystemTime):Unexpired now (sweep s now):=
 fun id t ht=>((lookup_sweep s now id t).mp ht).2

lemma sweep_frame(s:Inner)(now:SystemTime):
  (sweep s now).config=s.config∧(sweep s now).queued.Sublist s.queued ∧
   (sweep s now).admitted.Sublist s.admitted ∧
   (sweep s now).nextTicketNumber=s.nextTicketNumber ∧
   (sweep s now).nextFencingToken=s.nextFencingToken:=by
 unfold sweep pruneExpiredTerminalTickets
 obtain ⟨hc,hq,ha,-,hn,hf,-⟩:=pruneFold_frame
  (keysWhere (fun t=>t.state.isTerminal&&decide (t.expiresAt≤now))
   (removeTerminalFromDispatchQueues (expireTickets (resetRateWindow s now) now)).tickets)
  (removeTerminalFromDispatchQueues (expireTickets (resetRateWindow s now) now))
 rw [hc,hq,ha,hn,hf]
 simp only [removeTerminalFromDispatchQueues,expireTickets]
 have hw:(resetRateWindow s now).config=s.config∧(resetRateWindow s now).queued=s.queued ∧
   (resetRateWindow s now).admitted=s.admitted ∧
   (resetRateWindow s now).nextTicketNumber=s.nextTicketNumber ∧
   (resetRateWindow s now).nextFencingToken=s.nextFencingToken:=by
  unfold resetRateWindow
  split <;>exact ⟨rfl,rfl,rfl,rfl,rfl⟩
 obtain ⟨h1,h2,h3,h4,h5⟩:=hw
 rw [h1,h2,h3,h4,h5]
 exact ⟨rfl,filter_sublist,filter_sublist,rfl,rfl⟩

def admitTicket (now:SystemTime) (t:AdmissionTicket) : AdmissionTicket :=
 { t with state:=.admitted,admittedAt:=some now }

/-- One promotion: the ticket between `front` and `rest` takes a slot. -/
def promoteTicket (s:Inner) (now:SystemTime) (front rest:List String) (id:String)
  (t:AdmissionTicket) : Inner :=
 { s with
   queued:=front++rest,tickets:=s.tickets.insert id (admitTicket now t),concurrent:=s.concurrent+1
   rateWindowUsed:=s.rateWindowUsed+1,admitted:=s.admitted++[id] }

inductive Promotes (now:SystemTime) : Inner→List String→Inner→Prop where
 | done (s:Inner) : Promotes now s [] s
 | promote {s s':Inner} {front rest moved:List String} {id:String} {t:AdmissionTicket}
   (hq:s.queued=front++id::rest)
   (hfront:∀j∈front,∀u,s.tickets.lookup j=some u→now<u.createdAt)
   (hid:s.tickets.lookup id=some t) (hs:t.state=.queued) (hissued:t.createdAt≤now)
   (hlive:now<t.expiresAt) (hc:s.concurrent<s.config.maxConcurrent)
   (hr:s.rateWindowUsed<s.config.rateLimit)
   (tail:Promotes now (promoteTicket s now front rest id t) moved s') :
   Promotes now s (id::moved) s'

/-- No further ticket can be promoted: all waiting ones lie in the future, or a limit is met. -/
def Saturated (now:SystemTime) (s:Inner) : Prop :=
 (∀id∈s.queued,∀t,s.tickets.lookup id=some t→now<t.createdAt) ∨
  s.config.maxConcurrent≤ s.concurrent∨s.config.rateLimit≤ s.rateWindowUsed

lemma restoreDeferredFront_append(front back:List String):
  restoreDeferredFront (front++back) back.length=back++front:=by
 unfold restoreDeferredFront
 split
 · exact rotateRight_append front back
 · next h=>
   have:back=[]:=eq_nil_of_length_eq_zero (by omega)
   simp [this]

lemma unexpired_promoteTicket{now:SystemTime}{front rest:List String}{id:String}
  {t:AdmissionTicket}(h:Unexpired now s)(hlive:now<t.expiresAt):
  Unexpired now (promoteTicket s now front rest id t):=by
 intro j u hu
 simp only [promoteTicket,lookup_insert_eq] at hu
 split at hu
 · cases hu;exact hlive
 · exact h j u hu

lemma promoteTicket_invariant{front rest:List String}{id:String}{t:AdmissionTicket}
  (now:SystemTime)(h:Invariant s)(hq:s.queued=front++id::rest)(hid:s.tickets.lookup id=some t)
  (hs:t.state=.queued)(hc:s.concurrent<s.config.maxConcurrent)
  (hr:s.rateWindowUsed<s.config.rateLimit):Invariant (promoteTicket s now front rest id t):=by
 have hnodup:(front++id::rest).Nodup:=hq▸h.dispatch.queued_nodup
 have hperm:(front++id::rest).Perm (id::(front++rest)):=perm_middle
 have hcons:=hperm.nodup_iff.mp hnodup
 have hnew:id∉s.admitted:=by
  rw [h.dispatch.mem_admitted]
  rintro ⟨u,hu,hau⟩
  rw [hid] at hu
  cases hu
  rw [hs] at hau
  cases hau
 have hslot:s.concurrent+1+slot t=s.concurrent+slot (admitTicket now t):=by
  simp [slot,admitTicket,hs,AdmissionTicketState.isOccupying]
 refine ⟨?_,?_,?_,hc,?_,hr⟩
 · refine Dispatch.update h.dispatch hid hslot (nodup_cons.mp hcons).2 ?_ ?_ ?_
   · exact List.Nodup.append h.dispatch.admitted_nodup (nodup_singleton id)
      (by simpa using hnew)
   · intro j
     change j∈front++rest ↔ _
     rw [hq,hperm.mem_iff]
     by_cases hj:j=id
     · subst hj
       simpa [admitTicket] using (nodup_cons.mp hcons).1
     · simp [hj]
   · intro j
     change j∈s.admitted++[id] ↔ _
     by_cases hj:j=id <;>simp [hj,admitTicket]
 · exact Registry.update h.registry hid ⟨rfl,rfl,rfl⟩
 · refine Fencing.update h.fencing hid ?_ le_rfl (Or.inl rfl)
   intro hrun
   cases hrun
 · have hlen:=congrArg List.length hq
   have:=h.pending_le
   simp only [promoteTicket,length_append,length_cons] at hlen ⊢
   omega

lemma Invariant.reorder{queued':List String}(h:Invariant s)(hp:queued'.Perm s.queued):
  Invariant { s with queued:=queued' }:=by
 refine ⟨⟨hp.nodup_iff.mpr h.dispatch.queued_nodup,h.dispatch.admitted_nodup,?_,
  h.dispatch.mem_admitted,h.dispatch.concurrent_eq⟩,h.registry,h.fencing,h.concurrent_le,
  hp.length_eq▸h.pending_le,h.rate_le⟩
 intro j
 exact hp.mem_iff.trans (h.dispatch.mem_queued j)

lemma Promotes.invariant{now:SystemTime}{s':Inner}{moved:List String}
  (h:Promotes now s moved s')(hs:Invariant s):Invariant s':=by
 induction h with
 | done _=>exact hs
 | promote hq _ hid hst _ _ hc hr _ ih=>exact ih (promoteTicket_invariant now hs hq hid hst hc hr)

/-- The loop of `promote_at` at a queue whose last `deferred` entries have been put back. -/
lemma promoteLoop_spec(now:SystemTime)(remaining deferred:List String)(s:Inner)(p:ℕ)
  (hq:s.queued=remaining++deferred)(hinv:Invariant s)(hun:Unexpired now s)
  (hdef:∀j∈deferred,∀u,s.tickets.lookup j=some u→now<u.createdAt):
  let r:=promoteLoop now remaining.length s deferred.length p
  let t:={ r.1 with queued:=restoreDeferredFront r.1.queued r.2.1 }
  ∃moved,Promotes now { s with queued:=deferred++remaining } moved t∧Saturated now t:=by
 induction remaining generalizing deferred s p with
 | nil=>
  have hrest:restoreDeferredFront s.queued deferred.length=deferred:=by
   simpa [hq] using restoreDeferredFront_append [] deferred
  simp only [length_nil,promoteLoop,hrest,append_nil]
  exact ⟨[],.done _,Or.inl hdef⟩
 | cons id rest ih=>
  simp only [length_cons,promoteLoop]
  split
  · next hlimit=>
    have hrest:=restoreDeferredFront_append (id::rest) deferred
    rw [←hq] at hrest
    simp only [hrest]
    exact ⟨[],.done _,Or.inr hlimit⟩
  · next hlimit=>
    obtain ⟨hc,hr⟩:=not_or.mp hlimit
    have hmem:id∈s.queued:=by simp [hq]
    obtain ⟨t,hid,hst⟩:=(hinv.dispatch.mem_queued id).mp hmem
    have hperm:(rest++(deferred++[id])).Perm s.queued:=by
     rw [hq,←append_assoc]
     exact perm_append_singleton id (rest++deferred)
    have hlive:now<t.expiresAt:=hun id t hid
    simp only [hq,cons_append,hid,hst,ne_eq,not_true_eq_false,↓reduceIte,not_le.mpr hlive]
    split
    · next hfuture=>
      -- deferred: the ticket moves to the back, where the final rotation finds it
      have step:=ih (deferred++[id]) { s with queued:=rest++(deferred++[id]) } p rfl
       (hinv.reorder hperm) hun (by
        intro j hj u hu
        rcases mem_append.mp hj with hj|hj
        · exact hdef j hj u hu
        · rw [mem_singleton] at hj
          subst hj
          rw [hid] at hu
          cases hu
          exact hfuture)
      simpa only [length_append,length_singleton,append_assoc,
       singleton_append,cons_append,nil_append] using step
    · next hfuture=>
      have hfront:{ s with queued:=deferred++id::rest }.queued=deferred++id::rest:=rfl
      have hinv₀:Invariant { s with queued:=deferred++id::rest }:=hinv.reorder (hq▸perm_append_comm)
      have hinv₁:=promoteTicket_invariant now hinv₀ hfront hid hst
       (not_le.mp hc) (not_le.mp hr)
      have hinv':Invariant { promoteTicket { s with queued:=deferred++id::rest } now
        deferred rest id t with queued:=rest++deferred }:=
       hinv₁.reorder perm_append_comm
      have hndef:id∉deferred:=by
       have hn:=hinv.dispatch.queued_nodup
       rw [hq,cons_append,nodup_cons] at hn
       exact fun hj=>hn.1 (mem_append_right _ hj)
      obtain ⟨moved,hrun,hsat⟩:=ih deferred _ (p+1) rfl hinv'
       (unexpired_promoteTicket hun hlive) (by
        intro j hj u hu
        simp only [promoteTicket,lookup_insert_eq] at hu
        split at hu
        · next he=>exact absurd (he▸hj) hndef
        · exact hdef j hj u hu)
      exact ⟨id::moved,.promote hfront hdef hid hst (not_lt.mp hfuture) hlive
       (not_le.mp hc) (not_le.mp hr) hrun,hsat⟩

section
variable (now:SystemTime) (hinv:Invariant s)
include hinv

lemma promoteAt_spec(hun:Unexpired now s):
  ∃moved,Promotes now s moved (promoteAt s now).2∧Saturated now (promoteAt s now).2:=by
 have h:=promoteLoop_spec now s.queued [] s 0 (by simp) hinv hun (by simp)
 exact h

lemma promoteAt_invariant(hun:Unexpired now s):Invariant (promoteAt s now).2:=by
 obtain ⟨moved,hrun,-⟩:=promoteAt_spec now hinv hun
 exact hrun.invariant hinv

lemma maintainAt_spec:
  ∃moved,Promotes now (sweep s now) moved (maintainAt s now).2 ∧
   Saturated now (maintainAt s now).2:=by
 rw [maintainAt_state]
 exact promoteAt_spec now (sweep_invariant hinv now) (sweep_unexpired s now)

lemma maintainAt_invariant:Invariant (maintainAt s now).2:=by
 obtain ⟨moved,hrun,-⟩:=maintainAt_spec now hinv
 exact hrun.invariant (sweep_invariant hinv now)

end

end GraphBlocks.TicketQueue
