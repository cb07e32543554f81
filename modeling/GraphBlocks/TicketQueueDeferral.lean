import GraphBlocks.TicketQueueEffects

namespace GraphBlocks.TicketQueue
open FiniteMap RustStd MachineRuns List

/-- A ticket that a dispatch queue may still hand out at `now`. -/
def Live (s:Inner) (state:AdmissionTicketState) (now:SystemTime) (id:String) : Prop :=
 ∃t,s.tickets.lookup id=some t∧t.state=state∧now<t.expiresAt

/-- The loop of `promote_at` ended in `t`: it put `deferred` back in front of those it left. -/
structure Leaves (now:SystemTime) (s:Inner) (deferred remaining kept promoted:List String)
  (t:Inner) (count:ℕ) : Prop where
 queued_eq:restoreDeferredFront t.queued count=deferred++kept
 kept_order:kept.Sublist remaining
 admitted_eq:t.admitted=s.admitted++promoted
 promoted_order:promoted.Sublist remaining
 removed:∀id∈remaining,id∉kept → id∈promoted∨¬Live s .queued now id

section
variable {s s' t:Inner} {now:SystemTime} {id j:String} {deferred rest kept promoted:List String}
 {count:ℕ}

lemma Live.of_insert{state:AdmissionTicketState}{ticket:AdmissionTicket}(h:Live s state now j)
  (hj:j≠id)(hinsert:s'.tickets=s.tickets.insert id ticket):Live s' state now j:=by
 obtain ⟨u,hu,hlive⟩:=h
 exact ⟨u,by rw [hinsert,lookup_insert_eq,if_neg hj,hu],hlive⟩

lemma Leaves.stale(h:Leaves now s' deferred rest kept promoted t count)
  (hadmitted:s'.admitted=s.admitted)(hlive:∀j,Live s .queued now j→j≠id∧Live s' .queued now j):
  Leaves now s deferred (id::rest) kept promoted t count:=by
 refine ⟨h.queued_eq,h.kept_order.cons id,hadmitted▸h.admitted_eq,h.promoted_order.cons id,?_⟩
 intro j hj hgone
 by_cases hjlive:Live s .queued now j
 · obtain ⟨hne,hlater⟩:=hlive j hjlive
   exact (h.removed j ((mem_cons.mp hj).resolve_left hne) hgone).imp_right
    fun hdead=>absurd hlater hdead
 · exact .inr hjlive

lemma Leaves.defer(h:Leaves now s' (deferred++[id]) rest kept promoted t count)
  (hadmitted:s'.admitted=s.admitted)(htickets:s'.tickets=s.tickets):
  Leaves now s deferred (id::rest) (id::kept) promoted t count:=by
 refine ⟨?_,h.kept_order.cons_cons id,hadmitted▸h.admitted_eq,h.promoted_order.cons id,?_⟩
 · rw [h.queued_eq,append_assoc,singleton_append]
 · intro j hj hgone
   obtain ⟨hne,hkept⟩:=not_or.mp (mt mem_cons.mpr hgone)
   have hremoved:=h.removed j ((mem_cons.mp hj).resolve_left hne) hkept
   unfold Live at hremoved ⊢
   rwa [htickets] at hremoved

lemma Leaves.promote{ticket:AdmissionTicket}(h:Leaves now s' deferred rest kept promoted t count)
  (hadmitted:s'.admitted=s.admitted++[id])(htickets:s'.tickets=s.tickets.insert id ticket):
  Leaves now s deferred (id::rest) kept (id::promoted) t count:=by
 refine ⟨h.queued_eq,h.kept_order.cons id,?_,h.promoted_order.cons_cons id,?_⟩
 · rw [h.admitted_eq,hadmitted,append_assoc,singleton_append]
 · intro j hj hgone
   by_cases hne:j=id
   · exact .inl (hne▸mem_cons_self)
   · rcases h.removed j ((mem_cons.mp hj).resolve_left hne) hgone with hpromoted|hdead
     · exact .inl (mem_cons_of_mem id hpromoted)
     · exact .inr fun hlive=>hdead (hlive.of_insert hne htickets)
end

/-- No assumption on the state: stale ids of the queue are dropped as the loop drops them. -/
lemma promoteLoop_leaves(now:SystemTime)(remaining deferred:List String)(s:Inner)(p:ℕ)
  (hq:s.queued=remaining++deferred):∃kept promoted,Leaves now s deferred remaining kept promoted
   (promoteLoop now remaining.length s deferred.length p).1
   (promoteLoop now remaining.length s deferred.length p).2.1:=by
 induction remaining generalizing deferred s p with
 | nil=>
  refine ⟨[],[],?_,.refl _,(append_nil _).symm,.refl _,fun _ h=>absurd h not_mem_nil⟩
  change restoreDeferredFront s.queued deferred.length=_
  simpa [hq] using restoreDeferredFront_append [] deferred
 | cons id rest ih=>
  simp only [length_cons,promoteLoop]
  split
  · refine ⟨id::rest,[],?_,.refl _,(append_nil _).symm,nil_sublist _,fun _ h hgone=>absurd h hgone⟩
    rw [hq]
    exact restoreDeferredFront_append (id::rest) deferred
  · rw [hq,cons_append]
    dsimp only
    cases hid:s.tickets.lookup id with
    | none=>
     obtain ⟨kept,promoted,h⟩:=ih deferred { s with queued:=rest++deferred } p rfl
     refine ⟨kept,promoted,h.stale rfl fun j hlive=>⟨?_,hlive⟩⟩
     rintro rfl
     obtain ⟨u,hu,-⟩:=hlive
     cases hid.symm.trans hu
    | some ticket=>
     dsimp only
     split
     · next hstate=>
      obtain ⟨kept,promoted,h⟩:=ih deferred { s with queued:=rest++deferred } p rfl
      refine ⟨kept,promoted,h.stale rfl fun j hlive=>⟨?_,hlive⟩⟩
      rintro rfl
      obtain ⟨u,hu,hqueued,-⟩:=hlive
      cases hid.symm.trans hu
      exact hstate hqueued
     · split
       · obtain ⟨kept,promoted,h⟩:=ih (deferred++[id]) { s with queued:=rest++(deferred++[id]) } p
          rfl
         rw [length_append,length_singleton] at h
         rw [append_assoc]
         exact ⟨id::kept,promoted,h.defer rfl rfl⟩
       · split
         · next hexpired=>
          obtain ⟨kept,promoted,h⟩:=ih deferred { s with
           queued:=rest++deferred
           tickets:=s.tickets.insert id { ticket with state:=.expired,terminalAt:=some now } } p rfl
          refine ⟨kept,promoted,h.stale rfl fun j hlive=>?_⟩
          have hne:j≠id:=by
           rintro rfl
           obtain ⟨u,hu,-,hunexpired⟩:=hlive
           cases hid.symm.trans hu
           exact absurd hexpired (not_le.mpr hunexpired)
          exact ⟨hne,hlive.of_insert hne rfl⟩
         · obtain ⟨kept,promoted,h⟩:=ih deferred { s with
            queued:=rest++deferred
            tickets:=s.tickets.insert id { ticket with state:=.admitted,admittedAt:=some now }
            concurrent:=s.concurrent+1,rateWindowUsed:=s.rateWindowUsed+1
            admitted:=s.admitted++[id] } (p+1) rfl
           exact ⟨kept,id::promoted,h.promote rfl rfl⟩

lemma promoteAt_leaves(s:Inner)(now:SystemTime):∃promoted,
  (promoteAt s now).2.queued.Sublist s.queued ∧
   (promoteAt s now).2.admitted=s.admitted++promoted∧promoted.Sublist s.queued ∧
   ∀id∈s.queued,id∉(promoteAt s now).2.queued→id∈promoted∨¬Live s .queued now id:=by
 obtain ⟨kept,promoted,h⟩:=promoteLoop_leaves now s.queued [] s 0 (append_nil _).symm
 have hkept:(promoteAt s now).2.queued=kept:=h.queued_eq
 rw [hkept]
 exact ⟨promoted,h.kept_order,h.admitted_eq,h.promoted_order,h.removed⟩

section
variable {s:Inner} (h:Invariant s) (now:SystemTime)
include h

lemma not_admitted_of_queued{id:String}(hqueued:id∈s.queued):id∉s.admitted:=by
 intro hadmitted
 obtain ⟨t,ht,hstate⟩:=(h.dispatch.mem_queued id).mp hqueued
 obtain ⟨u,hu,hstate'⟩:=(h.dispatch.mem_admitted id).mp hadmitted
 cases ht.symm.trans hu
 cases hstate.symm.trans hstate'

lemma live_of_dropped{id:String}(hgone:id∉(sweep s now).admitted):¬Live s .admitted now id:=by
 rintro ⟨t,ht,hstate,hunexpired⟩
 exact hgone (((sweep_invariant h now).dispatch.mem_admitted id).mpr
  ⟨t,(lookup_sweep s now id t).mpr ⟨ht,hunexpired⟩,hstate⟩)

lemma claimNextAt_order:∃promoted,promoted.Sublist s.queued ∧
  (claimNextAt s now).2.admitted.Sublist (s.admitted++promoted) ∧
  ∀id∈s.admitted,id∉(claimNextAt s now).2.admitted →
   (∃claim,(claimNextAt s now).1=.ok (some claim)∧claim.ticketId=id)∨¬Live s .admitted now id:=by
 obtain ⟨promoted,-,hadmitted,hpromoted,-⟩:=promoteAt_leaves (sweep s now) now
 obtain ⟨-,hqueued,hswept,-⟩:=sweep_frame s now
 have hm:=maintainAt_invariant now h
 rw [←maintainAt_state] at hadmitted
 refine ⟨promoted,hpromoted.trans hqueued,?_⟩
 have hbefore:(maintainAt s now).2.admitted.Sublist (s.admitted++promoted):=by
  rw [hadmitted]
  exact hswept.append (.refl _)
 have hdropped:∀id,id∉(maintainAt s now).2.admitted → ¬Live s .admitted now id:=by
  intro id hgone
  rw [hadmitted] at hgone
  exact live_of_dropped h now fun hmem=>hgone (mem_append_left _ hmem)
 rcases claimNextAt_spec h now with ⟨-,hsame⟩|⟨front,rest,id,t,hnext,hresult,hafter⟩
 · rw [hsame]
   exact ⟨hbefore,fun id _ hgone=>.inr (hdropped id hgone)⟩
 · have hkept:(claimNextAt s now).2.admitted=front++rest:=by rw [hafter,claimTicket]
   have hwas:=hnext.admitted_eq
   rw [hkept]
   rw [hwas] at hbefore hdropped
   refine ⟨(((List.Sublist.refl _).append (sublist_cons_self id rest))).trans hbefore,?_⟩
   intro j _ hgone
   by_cases hj:j=id
   · refine .inl ⟨_,hresult,?_⟩
     rw [hj]
     exact hm.registry.key_eq id t hnext.lookup_eq
   · refine .inr (hdropped j fun hmem=>hgone ?_)
     simp only [mem_append,mem_cons,hj,false_or] at hmem ⊢
     exact hmem
end

theorem deferral_keeps_order (config : AdmissionTicketQueueConfig) (start : SystemTime)
  (calls : List TimedCall) (now : SystemTime) : let s := execute step (newAt config start) calls
  (promoteAt s now).2.queued.Sublist s.queued∧(∀id∈s.queued,id∉(promoteAt s now).2.queued →
    (id∈(promoteAt s now).2.admitted∧id∉s.admitted)∨¬Live s .queued now id) ∧
   ∃promoted,(∀id∈promoted,id∈s.queued∧id∉s.admitted) ∧
    (claimNextAt s now).2.admitted.Sublist (s.admitted++promoted) ∧
    ∀id∈s.admitted,id∉(claimNextAt s now).2.admitted →
     (∃claim,(claimNextAt s now).1=.ok (some claim)∧claim.ticketId=id) ∨
      ¬Live s .admitted now id := by
 intro s
 have hs:Invariant s:=execute_step_invariant config start calls
 obtain ⟨promoted,hqueued,hadmitted,hpromoted,hremoved⟩:=promoteAt_leaves s now
 obtain ⟨later,hlater,hclaimed⟩:=claimNextAt_order hs now
 refine ⟨hqueued,?_,later,fun id hid=>?_,hclaimed⟩
 · intro id hid hgone
   refine (hremoved id hid hgone).imp_left fun hmem=>⟨?_,not_admitted_of_queued hs hid⟩
   rw [hadmitted]
   exact mem_append_right _ hmem
 · exact ⟨hlater.subset hid,not_admitted_of_queued hs (hlater.subset hid)⟩

end GraphBlocks.TicketQueue
