import GraphBlocks.TicketQueueFencing

namespace GraphBlocks.TicketQueue
open FiniteMap RustStd MachineRuns List

def CreatedBy (now:SystemTime) (s:Inner) : Prop := ∀id t,s.tickets.lookup id=some t→t.createdAt≤now

variable {now:SystemTime} {moved:List String}

lemma CreatedBy.carry{a b:Inner}(h:CreatedBy now a)(hcar:Carries a b):CreatedBy now b:=by
 intro id t ht
 obtain ⟨u,hu,hres⟩:=hcar id t ht
 rw [hres.createdAt_eq]
 exact h id u hu

variable {s:Inner}

lemma front_eq_nil{front:List String}(h:CreatedBy now s)
  (hstored:∀j∈front,∃u,s.tickets.lookup j=some u)
  (hfront:∀j∈front,∀u,s.tickets.lookup j=some u→now<u.createdAt):front=[]:=by
 refine eq_nil_iff_forall_not_mem.mpr ?_
 intro j hj
 obtain ⟨u,hu⟩:=hstored j hj
 have h1:=hfront j hj u hu
 exact absurd (h j u hu) (not_le.mpr h1)

variable {s':Inner}

lemma Promotes.fifo(h:Promotes now s moved s')
  (hinv:Invariant s)(hcreated:CreatedBy now s):s.queued=moved++s'.queued:=by
 induction h with
 | done s=>rfl
 | @promote s s' front rest moved id t hq hfront hid hs _ _ hc hr _ ih=>
  have hnil:front=[]:=by
   refine front_eq_nil hcreated ?_ hfront
   intro j hj
   obtain ⟨u,hu,-⟩:=(hinv.dispatch.mem_queued j).mp (by simp [hq,hj])
   exact ⟨u,hu⟩
  subst hnil
  have hone:Carries s (promoteTicket s now [] rest id t):=by
   refine carries_of_insert hid rfl (resumes_of_live ?_ rfl rfl rfl)
   rw [hs]
   rfl
  have htail:=ih (promoteTicket_invariant now hinv hq hid hs hc hr) (hcreated.carry hone)
  rw [hq,cons_append,←htail]
  rfl

variable {id:String} {t:AdmissionTicket}

lemma Promotes.admittedAt(h:Promotes now s moved s')(ht:s'.tickets.lookup id=some t):
  (id∈moved∧t.admittedAt=some now) ∨ ∃u,s.tickets.lookup id=some u∧t.admittedAt=u.admittedAt:=by
 induction h with
 | done s=>exact Or.inr ⟨t,ht,rfl⟩
 | @promote s s' front rest moved j v _ _ hid _ _ _ _ _ _ ih=>
  rcases ih ht with ⟨hm,ha⟩|⟨u,hu,ha⟩
  · exact Or.inl ⟨mem_cons_of_mem _ hm,ha⟩
  · simp only [promoteTicket,lookup_insert_eq] at hu
    split at hu
    · next hj=>
      cases hu
      exact Or.inl ⟨hj▸mem_cons_self,ha⟩
    · exact Or.inr ⟨u,hu,ha⟩

lemma Promotes.admittedAt_of_mem(h:Promotes now s moved s')
  (hinv:Invariant s)(hm:id∈moved)(ht:s'.tickets.lookup id=some t):t.admittedAt=some now:=by
 induction h with
 | done s=>simp at hm
 | @promote s s' front rest moved j v hq hfront hid hs _ _ hc hr tail ih=>
  have hinv':=promoteTicket_invariant now hinv hq hid hs hc hr
  rcases mem_cons.mp hm with rfl|hm
  · rcases tail.admittedAt ht with ⟨-,ha⟩|⟨u,hu,ha⟩
    · exact ha
    · simp only [promoteTicket,lookup_insert_eq,↓reduceIte,Option.some.injEq] at hu
      rw [ha,←hu]
      rfl
  · exact ih hinv' hm ht

lemma queued_eq_nil(hinv:Invariant s)(hcreated:CreatedBy now s)
  (hsat:Saturated now s)(hcap:hasCapacity s=true):s.queued=[]:=by
 simp only [hasCapacity,Bool.and_eq_true,decide_eq_true_eq] at hcap
 rcases hsat with hfuture|hfull|hrate
 · refine front_eq_nil hcreated ?_ hfuture
   intro j hj
   obtain ⟨u,hu,-⟩:=(hinv.dispatch.mem_queued j).mp hj
   exact ⟨u,hu⟩
 · omega
 · omega

/-- What the creation, admission and claim logs say about the state they lead to. -/
structure OrderLedger (created admissions claims:List String) (s:Inner) : Prop where
 created_nodup:created.Nodup
 created_number:∀id∈created,HasNumber s id
 admission_order:(admissions++s.queued).Sublist created
 claim_order:(claims++s.admitted).Sublist admissions
 admittedAt_iff:∀id t,s.tickets.lookup id=some t→(t.admittedAt.isSome↔id∈admissions)

section
variable {created admissions claims moved:List String} {a a' b m:Inner} {now:SystemTime}

lemma OrderLedger.promote(h:OrderLedger created admissions claims a)
  (hq:a'.queued.Sublist a.queued)(ha:a'.admitted.Sublist a.admitted)
  (hkeep:∀id t,a'.tickets.lookup id=some t →
   ∃u,a.tickets.lookup id=some u∧t.admittedAt=u.admittedAt)
  (hnum:a'.nextTicketNumber=a.nextTicketNumber)(hinv:Invariant a')
  (hcreated:CreatedBy now a')(hrun:Promotes now a' moved b):
  OrderLedger created (admissions++moved) claims b:=by
 obtain ⟨-,hn,-,hadm⟩:=hrun.frame
 have hfifo:=hrun.fifo hinv hcreated
 refine ⟨h.created_nodup,?_,?_,?_,?_⟩
 · intro id hid
   unfold HasNumber
   rw [hn,hnum]
   exact h.created_number id hid
 · rw [append_assoc,←hfifo]
   exact ((List.Sublist.refl _).append hq).trans h.admission_order
 · rw [hadm,←append_assoc]
   exact (((List.Sublist.refl _).append ha).trans h.claim_order).append (List.Sublist.refl _)
 · intro id t ht
   rw [mem_append]
   by_cases hm:id∈moved
   · simp [hrun.admittedAt_of_mem hinv hm ht,hm]
   · rcases hrun.admittedAt ht with ⟨hm',-⟩|⟨u,hu,he⟩
     · exact absurd hm' hm
     · obtain ⟨v,hv,he'⟩:=hkeep id u hu
       rw [he,he',h.admittedAt_iff id v hv]
       simp [hm]

lemma newlyAdmitted_promote(hinv:Invariant a)(hq:a'.queued.Sublist a.queued)
  (ha:a'.admitted.Sublist a.admitted)(hinv':Invariant a')(hcreated:CreatedBy now a')
  (hrun:Promotes now a' moved b):newlyAdmitted a b=moved:=by
 obtain ⟨-,-,-,hadm⟩:=hrun.frame
 have hfifo:=hrun.fifo hinv' hcreated
 unfold newlyAdmitted
 rw [hadm,filter_append]
 have hold:a'.admitted.filter (fun id=>id∉a.admitted)=[]:=by
  rw [filter_eq_nil_iff]
  intro id hid
  simpa using ha.subset hid
 have hnew:moved.filter (fun id=>id∉a.admitted)=moved:=by
  rw [filter_eq_self]
  intro id hid
  have hqueued:id∈a.queued:=hq.subset (by rw [hfifo];exact mem_append_left _ hid)
  obtain ⟨t,ht,hs⟩:=(hinv.dispatch.mem_queued id).mp hqueued
  rw [decide_eq_true_eq,hinv.dispatch.mem_admitted]
  rintro ⟨u,hu,hs'⟩
  rw [ht] at hu
  cases hu
  rw [hs] at hs'
  cases hs'
 rw [hold,hnew,nil_append]

lemma OrderLedger.next_not_mem(h:OrderLedger created admissions claims m):
  ticketIdOf m.nextTicketNumber∉admissions:=by
 intro hmem
 have hsub:=(sublist_append_left admissions m.queued).trans h.admission_order
 obtain ⟨n,hn,he⟩:=h.created_number _ (hsub.subset hmem)
 have:=ticketIdOf_injective he
 omega

lemma newlyAdmitted_issued(hm:Invariant m)(requestId owner:String)(now expiresAt:SystemTime):
  newlyAdmitted m (issued m requestId owner now expiresAt) =
   if hasCapacity m then [ticketIdOf m.nextTicketNumber] else []:=by
 have hnew:ticketIdOf m.nextTicketNumber∉m.admitted:=by
  rw [hm.dispatch.mem_admitted,lookup_next_none hm]
  simp
 unfold newlyAdmitted issued
 cases hasCapacity m with
 | true=>simp [filter_append,hnew]
 | false=>simp

lemma OrderLedger.issue(h:OrderLedger created admissions claims m)
  (hempty:hasCapacity m=true→m.queued=[])(requestId owner:String)(now expiresAt:SystemTime):
  OrderLedger (created++[ticketIdOf m.nextTicketNumber])
   (admissions++if hasCapacity m then [ticketIdOf m.nextTicketNumber] else []) claims
   (issued m requestId owner now expiresAt):=by
 have hfresh:=h.next_not_mem
 have hnew:ticketIdOf m.nextTicketNumber∉created:=by
  intro hmem
  obtain ⟨n,hn,he⟩:=h.created_number _ hmem
  have:=ticketIdOf_injective he
  omega
 refine ⟨?_,?_,?_,?_,?_⟩
 · exact List.Nodup.append h.created_nodup (nodup_singleton _) (by simpa using hnew)
 · intro id hid
   rcases mem_append.mp hid with hid|hid
   · obtain ⟨n,hn,he⟩:=h.created_number id hid
     exact ⟨n,Nat.lt_succ_of_lt hn,he⟩
   · rw [mem_singleton] at hid
     exact ⟨m.nextTicketNumber,Nat.lt_succ_self _,hid⟩
 · have hbase:=h.admission_order
   cases hcap:hasCapacity m with
   | true=>
    rw [hempty hcap,append_nil] at hbase
    simp only [issued,hcap,↓reduceIte,hempty hcap,append_nil]
    exact hbase.append (List.Sublist.refl _)
   | false=>
    simp only [issued,hcap,Bool.false_eq_true,↓reduceIte,append_nil]
    rw [←append_assoc]
    exact hbase.append (List.Sublist.refl _)
 · have hbase:=h.claim_order
   cases hcap:hasCapacity m with
   | true=>
    simp only [issued,hcap,↓reduceIte]
    rw [←append_assoc]
    exact hbase.append (List.Sublist.refl _)
   | false=>
    simp only [issued,hcap,Bool.false_eq_true,↓reduceIte,append_nil]
    exact hbase
 · intro id t ht
   simp only [issued,lookup_insert_eq] at ht
   split at ht
   · next hj=>
     cases ht
     cases hcap:hasCapacity m <;>simp [newTicket,hcap,hj,hfresh]
   · next hj=>
     rw [h.admittedAt_iff id t ht,mem_append]
     cases hasCapacity m <;>simp [hj]

lemma OrderLedger.claim{front rest:List String}(h:OrderLedger created admissions claims m)
  (hm:Invariant m)(hcreated:CreatedBy now m)(hn:NextClaim m now front rest id t):
  OrderLedger created admissions (claims++[id]) (claimTicket m now front rest id t):=by
 have hnil:front=[]:=by
  refine front_eq_nil hcreated ?_ hn.front_future
  intro j hj
  obtain ⟨u,hu,-⟩:=(hm.dispatch.mem_admitted j).mp (by simp [hn.admitted_eq,hj])
  exact ⟨u,hu⟩
 subst hnil
 refine ⟨h.created_nodup,h.created_number,h.admission_order,?_,?_⟩
 · have hbase:=h.claim_order
   rw [hn.admitted_eq] at hbase
   simpa [claimTicket] using hbase
 · intro j u hu
   simp only [claimTicket,lookup_insert_eq] at hu
   split at hu
   · next hj=>
     cases hu
     exact hj▸h.admittedAt_iff id t hn.lookup_eq
   · exact h.admittedAt_iff j u hu

lemma newlyAdmitted_of_subset(h:∀id∈b.admitted,id∈a.admitted):newlyAdmitted a b=[]:=by
 unfold newlyAdmitted
 rw [filter_eq_nil_iff]
 intro id hid
 simpa using h id hid
end

section

attribute [local irreducible] maintainAt promoteAt

variable {r:Response}

lemma created_eq_none{c:Call}(h:reportsChange c r=false):r.created=none:=by
 match r with
 | .ticket _ | .claim _ | .maintenance _ | .counts _=>rfl
 | .receipt (.error _)=>rfl
 | .receipt (.ok ⟨_,true⟩)=>rfl
 | .receipt (.ok ⟨_,false⟩)=>simp [reportsChange] at h

variable {created admissions claims:List String}

lemma OrderLedger.maintain
  (h:OrderLedger created admissions claims s)(hs:Invariant s)(hcreated:CreatedBy now s):
  OrderLedger created (admissions++newlyAdmitted s (maintainAt s now).2) claims
   (maintainAt s now).2:=by
 obtain ⟨moved,hrun,-⟩:=maintainAt_spec now hs
 obtain ⟨-,hq,ha,hnum,-⟩:=sweep_frame s now
 have hinv:=sweep_invariant hs now
 have hcr:=hcreated.carry (sweep_carries s now)
 rw [newlyAdmitted_promote hs hq ha hinv hcr hrun]
 refine h.promote hq ha ?_ hnum hinv hcr hrun
 intro id t ht
 exact ⟨t,((lookup_sweep s now id t).mp ht).1,rfl⟩

variable {c:TimedCall}

lemma OrderLedger.settle{m:Inner}
  {state:AdmissionTicketState}(h:OrderLedger created admissions claims m)(hm:Invariant m)
  (hun:Unexpired c.now m)(hcreated:CreatedBy c.now m)(hreq:SettleRequest id t c.call state)
  (hid:m.tickets.lookup id=some t):
  let b:=(promoteAt (settleTicket m c.now id t state) c.now).2
  OrderLedger created (admissions++newlyAdmitted m b) claims b:=by
 intro b
 obtain ⟨moved,hrun⟩:=settled_promotes hm hun hreq hid
 have hq:(settleTicket m c.now id t state).queued.Sublist m.queued:=filter_sublist
 have ha:(settleTicket m c.now id t state).admitted.Sublist m.admitted:=filter_sublist
 have hinv:Invariant (settleTicket m c.now id t state):=settleTicket_invariant hm hid hreq.live.2
 have hone:Carries m (settleTicket m c.now id t state):=
  carries_of_insert (u:=endTicket c.now state t) hid rfl
   (resumes_of_live hreq.live.1 rfl rfl rfl)
 rw [newlyAdmitted_promote hm hq ha hinv (hcreated.carry hone) hrun]
 refine h.promote hq ha ?_ rfl hinv (hcreated.carry hone) hrun
 intro j u hu
 simp only [settleTicket,removeTerminalFromDispatchQueues,lookup_insert_eq] at hu
 split at hu
 · next hj=>
   cases hu
   exact ⟨t,hj▸hid,rfl⟩
 · exact ⟨u,hu,rfl⟩

section
variable (h:Effect s c r s') (hs:Invariant s) (hcreated:CreatedBy c.now s)
include h hs hcreated

lemma Effect.order(hled:OrderLedger created admissions claims s):
  OrderLedger (created++(r.created.map AdmissionTicket.ticketId).toList)
   (admissions++newlyAdmitted s (midpoint s c)++newlyAdmitted (midpoint s c) s')
   (claims++(r.claimed.map AdmissionTicketClaim.ticketId).toList) s':=by
 have hm:=maintainAt_invariant c.now hs
 have hun:=maintainAt_unexpired hs c.now
 have hcr:=hcreated.carry (maintainAt_carries hs c.now)
 have hmid:=hled.maintain hs hcreated
 have hself:∀a:Inner,newlyAdmitted a a=[]:=fun a=>newlyAdmitted_of_subset fun _ h=>h
 cases h with
 | unchanged early hq _ _=>
  simpa [midpoint,early,created_eq_none hq,claimed_eq_none hq,hself] using hled
 | maintained reached hq _ _=>
  simpa [midpoint,reached,created_eq_none hq,claimed_eq_none hq,hself] using hmid
 | @issued requestId owner expiresAt reached _ _ _ _=>
  obtain ⟨moved,-,hsat⟩:=maintainAt_spec c.now hs
  have hnew:=hmid.issue (fun hcap=>queued_eq_nil hm hcr hsat hcap) requestId owner c.now
   expiresAt
  rw [←newlyAdmitted_issued hm requestId owner c.now expiresAt] at hnew
  simpa [midpoint,reached,Response.created,Response.claimed,newTicket] using hnew
 | @claimed front rest id t reached _ hn=>
  have hkey:t.ticketId=id:=hm.registry.key_eq id t hn.lookup_eq
  have hnone:newlyAdmitted (maintainAt s c.now).2
    (claimTicket (maintainAt s c.now).2 c.now front rest id t)=[]:=by
   refine newlyAdmitted_of_subset ?_
   intro j hj
   change j∈front++rest at hj
   rw [hn.admitted_eq]
   simp only [mem_append,mem_cons] at hj ⊢
   tauto
  have hnew:=hmid.claim hm hcr hn
  simpa [midpoint,reached,Response.created,Response.claimed,claimOf,hkey,hnone] using hnew
 | settled reached hreq hid=>
  have hnew:=hmid.settle hm hun hcr hreq hid
  simpa [midpoint,reached,Response.created,Response.claimed] using hnew

lemma Effect.createdBy:CreatedBy c.now s':=by
 have hm:=maintainAt_invariant c.now hs
 have hcr:=hcreated.carry (maintainAt_carries hs c.now)
 cases h with
 | unchanged _ _ _ _=>exact hcreated
 | maintained _ _ _ _=>exact hcr
 | issued _ _ _ _ _=>
  intro id t ht
  simp only [GraphBlocks.TicketQueue.issued,lookup_insert_eq] at ht
  split at ht
  · cases ht
    exact le_rfl
  · exact hcr id t ht
 | claimed _ _ hn=>
  intro id t ht
  simp only [claimTicket,lookup_insert_eq] at ht
  split at ht
  · cases ht
    exact hn.issued
  · exact hcr id t ht
 | settled _ hreq hid=>exact hcr.carry (settled_carries hm (maintainAt_unexpired hs c.now) hreq hid)

lemma Effect.immediate
  {u:AdmissionTicket}(hu:r.created=some u)(hadm:u.state=.admitted):s'.queued=[]:=by
 have hm:=maintainAt_invariant c.now hs
 have hcr:=hcreated.carry (maintainAt_carries hs c.now)
 cases h with
 | unchanged _ hq _ _=>rw [created_eq_none hq] at hu;cases hu
 | maintained _ hq _ _=>rw [created_eq_none hq] at hu;cases hu
 | issued _ _ _ _ _=>
  cases hu
  obtain ⟨moved,-,hsat⟩:=maintainAt_spec c.now hs
  have hcap:hasCapacity (maintainAt s c.now).2=true:=by simpa [newTicket] using hadm
  have hempty:=queued_eq_nil hm hcr hsat hcap
  simp only [GraphBlocks.TicketQueue.issued,hcap,↓reduceIte,hempty]
 | claimed _ _ _=>cases hu
 | settled _ _ _=>cases hu

end

/-- Everything the order proof carries along a run with a monotone clock. -/
structure OrderedRun (past:Past) (s:Inner) : Prop where
 invariant:Invariant s
 createdBy:∀now,(∀tr∈past,tr.call.now≤now)→CreatedBy now s
 ledger:OrderLedger (creationLog past) (admissionLog past)
  ((claimLog past).map AdmissionTicketClaim.ticketId) s
 immediate:∀tr∈past,∀u,tr.response.created=some u→u.state=.admitted →
  ∀id t,tr.after.tickets.lookup id=some t→t.state ≠ .queued

lemma OrderedRun.extend{past:Past}(h:OrderedRun past s)(c:TimedCall)
  (hmono:∀tr∈past,tr.call.now≤c.now):OrderedRun (past++[takeStep step s c]) (step s c).2:=by
 have heff:=step_effect h.invariant c
 have hcreated:=h.createdBy c.now hmono
 have hafter:=heff.invariant h.invariant
 refine ⟨hafter,?_,?_,?_⟩
 · intro now hnow id t ht
   have hc:c.now≤now:=hnow (takeStep step s c) (by simp)
   exact (heff.createdBy h.invariant hcreated id t ht).trans hc
 · have hnew:=heff.order h.invariant hcreated h.ledger
   have hclaims:(claimLog (past++[takeStep step s c])).map
     AdmissionTicketClaim.ticketId=(claimLog past).map AdmissionTicketClaim.ticketId ++
      ((step s c).1.claimed.map AdmissionTicketClaim.ticketId).toList:=by
    rw [claimLog,filterMap_concat,map_append]
    congr 1
    cases h:(step s c).1.claimed <;>simp [takeStep,h]
   rw [hclaims,creationLog,filterMap_concat,admissionLog,phaseLog_concat]
   exact hnew
 · intro tr htr u hu hadm id t ht
   rcases mem_append.mp htr with htr|htr
   · exact h.immediate tr htr u hu hadm id t ht
   · rw [mem_singleton] at htr
     subst htr
     have hempty:=heff.immediate h.invariant hcreated hu hadm
     intro hs
     have hmem:=(hafter.dispatch.mem_queued id).mpr ⟨t,ht,hs⟩
     rw [hempty] at hmem
     simp at hmem

lemma orderedRun_history(config:AdmissionTicketQueueConfig)(start:SystemTime)
  (calls:List TimedCall)(hmono:calls.Pairwise fun c d=>c.now≤d.now):
  OrderedRun (history step (newAt config start) calls)
   (execute step (newAt config start) calls):=by
 refine history_invariant_of step (P:=OrderedRun)
  (G:=fun past c=>∀tr∈past,tr.call.now≤c.now) ?_ ?_ calls ?_
 · refine ⟨newAt_invariant config start,?_,⟨nodup_nil,?_,?_,?_,?_⟩,by simp⟩
   · intro now _ id t ht
     simp [newAt] at ht
   · simp [creationLog]
   · exact List.Sublist.refl _
   · exact List.Sublist.refl _
   · intro id t ht
     simp [newAt] at ht
 · intro past s c hguard h
   exact h.extend c hguard
 · intro before c after hcalls tr htr
   have hmem:tr.call∈before:=by
    rw [←history_calls step (newAt config start) before]
    exact mem_map_of_mem htr
   rw [hcalls,pairwise_append] at hmono
   exact hmono.2.2 tr.call hmem c (by simp)

/-- In a list without repetitions a subsequence keeps the order of any two of its members. -/
lemma sublist_pair{l sub:List String}(hl:l.Nodup)(hs:sub.Sublist l){a b:String}
  (hab:[a,b].Sublist l)(ha:a∈sub)(hb:b∈sub):[a,b].Sublist sub:=by
 have hfilter:l.filter (fun x=>x∈sub)=sub:=by
  have hsub:sub.Sublist (l.filter fun x=>x∈sub):=by
   have h:=hs.filter (fun x=>decide (x∈sub))
   rwa [filter_eq_self.mpr (by simp)] at h
  refine (hsub.eq_of_length_le ?_).symm
  refine (List.Subperm.length_le ?_)
  refine (hl.filter _).subperm ?_
  intro x hx
  simpa using (mem_filter.mp hx).2
 have hpair:=hab.filter (fun x=>decide (x∈sub))
 rw [hfilter] at hpair
 simpa [ha,hb] using hpair

theorem admission_first_come_first_served (config : AdmissionTicketQueueConfig) (start : SystemTime)
  (calls : List TimedCall) (hmono : calls.Pairwise fun c d=>c.now≤d.now) :
  let past := history step (newAt config start) calls
  let s:=execute step (newAt config start) calls
  (creationLog past).Nodup ∧
  (∀a b,[a,b].Sublist (creationLog past)→a∈admissionLog past→b∈admissionLog past →
   [a,b].Sublist (admissionLog past)) ∧
  (admissionLog past++s.queued).Sublist (creationLog past) ∧
  ((claimLog past).map AdmissionTicketClaim.ticketId++s.admitted).Sublist
   (admissionLog past) ∧
  (∀id t,s.tickets.lookup id=some t→(t.admittedAt.isSome↔id∈admissionLog past)) ∧
  (∀tr∈past,∀u,tr.response.created=some u→u.state=.admitted →
   ∀id t,tr.after.tickets.lookup id=some t→t.state ≠ .queued) := by
 intro past s
 have hrun:=orderedRun_history config start calls hmono
 have hled:=hrun.ledger
 refine ⟨hled.created_nodup,?_,hled.admission_order,hled.claim_order,hled.admittedAt_iff,
  hrun.immediate⟩
 intro a b hab ha hb
 have hsub:=(sublist_append_left (admissionLog past) s.queued).trans hled.admission_order
 exact sublist_pair hled.created_nodup hsub hab ha hb
end

/-- One slot, and two requests that want it. -/
def singleSlot : AdmissionTicketQueueConfig :=
 ⟨1,10,1000,5,1000,by decide,by decide,by decide,by decide⟩

def twoRequests : List TimedCall :=
 [⟨.admitAt "first" "client",0⟩,⟨.admitAt "second" "client",1⟩,⟨.claimNextAt,2⟩,
  ⟨.completeAt (ticketIdOf 1) 1,3⟩,⟨.claimNextAt,3⟩]

theorem twoRequests_first_come_first_served :
  let past := history step (newAt singleSlot 0) twoRequests
  creationLog past=[ticketIdOf 1,ticketIdOf 2] ∧
   [ticketIdOf 1,ticketIdOf 2].Sublist (admissionLog past) := by
 intro past
 have hcreated:creationLog past=[ticketIdOf 1,ticketIdOf 2]:=by decide +kernel
 have hfair:=admission_first_come_first_served singleSlot 0 twoRequests (by decide)
 refine ⟨hcreated,hfair.2.1 (ticketIdOf 1) (ticketIdOf 2) ?_ (by decide +kernel)
  (by decide +kernel)⟩
 change [ticketIdOf 1,ticketIdOf 2].Sublist (creationLog past)
 rw [hcreated]

end GraphBlocks.TicketQueue
