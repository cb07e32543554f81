import GraphBlocks.TicketQueueEffects

namespace GraphBlocks.TicketQueue
open FiniteMap RustStd MachineRuns List

abbrev Past := List (Transition Inner TimedCall Response)

/-- The state between a call's maintenance and its own change. -/
def midpoint (s:Inner) (c:TimedCall) : Inner := if reachesMaintenance s c then maintained s c else s

/-- Collects `f` over both halves of every transition of a run. -/
def phaseLog (f:Inner→Inner→List String) (past:Past) : List String :=
 past.flatMap fun tr=>
  f tr.before (midpoint tr.before tr.call)++f (midpoint tr.before tr.call) tr.after

def Response.created : Response→Option AdmissionTicket
 | .receipt (.ok ⟨t,false⟩)=>some t
 | _=>none

def creationLog (past:Past) : List String :=
 past.filterMap fun tr=>tr.response.created.map AdmissionTicket.ticketId

def Response.claimed : Response→Option AdmissionTicketClaim
 | .claim (.ok found)=>found
 | _=>none

def claimLog (past:Past) : List AdmissionTicketClaim := past.filterMap fun tr=>tr.response.claimed

def newlyAdmitted (a b:Inner) : List String := b.admitted.filter fun id=>id∉a.admitted

def admissionLog (past:Past) : List String := phaseLog newlyAdmitted past

def liveIds (s:Inner) : List String := keysWhere (fun t => !t.state.isTerminal) s.tickets

def slotIds (s:Inner) : List String := keysWhere (fun t=>t.state.isOccupying) s.tickets

def departures (f:Inner→List String) (a b:Inner) : List String := (f a).filter fun id=>id∉f b

def arrivals (f:Inner→List String) (a b:Inner) : List String := (f b).filter fun id=>id∉f a

/-- Tickets in the order in which they stop being queued, admitted or running. -/
def settlementLog (past:Past) : List String := phaseLog (departures liveIds) past

def slotTakenLog (past:Past) : List String := phaseLog (arrivals slotIds) past

def slotReleasedLog (past:Past) : List String := phaseLog (departures slotIds) past

def HasNumber (s:Inner) (id:String) : Prop := ∃n<s.nextTicketNumber,id=ticketIdOf n

instance (s:Inner) (id:String) : Decidable (HasNumber s id) :=
 inferInstanceAs (Decidable (∃n<s.nextTicketNumber,id=ticketIdOf n))

def stateRank : AdmissionTicketState→ℕ
 | .queued=>1
 | .admitted=>2
 | .running=>3
 | _=>4

/-- Not issued, queued, admitted, running, settled (with its record or without). -/
def rank (s:Inner) (id:String) : ℕ :=
 match s.tickets.lookup id with
 | some t=>stateRank t.state
 | none=>if HasNumber s id then 4 else 0

variable {s:Inner} {id:String} {t:AdmissionTicket}

lemma rank_of_lookup(h:s.tickets.lookup id=some t):rank s id=stateRank t.state:=by
 simp [rank,h]

lemma rank_of_none(h:s.tickets.lookup id=none)(hn:HasNumber s id):rank s id=4:=by
 simp [rank,h,hn]

variable {a b:Inner}

lemma rank_congr(hl:b.tickets.lookup id=a.tickets.lookup id)
  (hn:HasNumber b id↔HasNumber a id):rank b id=rank a id:=by
 unfold rank
 rw [hl]
 cases a.tickets.lookup id with
 | none=>exact if_congr hn rfl rfl
 | some t=>rfl

lemma stateRank_bounds(st:AdmissionTicketState):1≤ stateRank st∧stateRank st≤4:=by
 cases st <;>decide

lemma rank_le(s:Inner)(id:String):rank s id≤4:=by
 unfold rank
 cases s.tickets.lookup id with
 | none=>dsimp only;split <;>omega
 | some t=>exact (stateRank_bounds t.state).2

lemma mem_liveIds_iff(s:Inner)(id:String):id∈liveIds s↔1≤rank s id∧rank s id≤3:=by
 unfold liveIds
 rw [mem_keysWhere_iff]
 cases h:s.tickets.lookup id with
 | none=>
  simp only [reduceCtorEq,false_and,exists_false,false_iff,rank,h]
  split <;>omega
 | some t=>
  rw [rank_of_lookup h]
  simp only [Option.some.injEq,exists_eq_left']
  cases t.state <;>decide

lemma mem_slotIds_iff(s:Inner)(id:String):id∈slotIds s↔2≤rank s id∧rank s id≤3:=by
 unfold slotIds
 rw [mem_keysWhere_iff]
 cases h:s.tickets.lookup id with
 | none=>
  simp only [reduceCtorEq,false_and,exists_false,false_iff,rank,h]
  split <;>omega
 | some t=>
  rw [rank_of_lookup h]
  simp only [Option.some.injEq,exists_eq_left']
  cases t.state <;>decide

def Advances (a b:Inner) : Prop := ∀id,rank a id≤rank b id

lemma Advances.refl(s:Inner):Advances s s:=fun _=>le_rfl

lemma Advances.trans{c:Inner}(h:Advances a b)(h':Advances b c):Advances a c:=
 fun id=>(h id).trans (h' id)

lemma advances_of_insert{u:AdmissionTicket}(hid:a.tickets.lookup id=some t)
  (hb:b.tickets=a.tickets.insert id u)(hn:b.nextTicketNumber=a.nextTicketNumber)
  (hr:stateRank t.state≤ stateRank u.state):Advances a b:=by
 intro j
 have hl:b.tickets.lookup j=if j=id then some u else a.tickets.lookup j:=by rw [hb,lookup_insert_eq]
 by_cases hj:j=id
 · subst hj
   rw [rank_of_lookup hid,rank_of_lookup (by simpa using hl)]
   exact hr
 · refine (rank_congr (by simpa [hj] using hl) ?_).ge
   simp only [HasNumber,hn]

lemma sweep_advances(h:Invariant s)(now:SystemTime):Advances s (sweep s now):=by
 intro id
 obtain ⟨-,-,-,hn,-⟩:=sweep_frame s now
 cases hid:s.tickets.lookup id with
 | none=>
  have hs:(sweep s now).tickets.lookup id=none:=by
   cases hl:(sweep s now).tickets.lookup id with
   | none=>rfl
   | some t=>
    have:=((lookup_sweep s now id t).mp hl).1
    rw [hid] at this
    cases this
  refine (rank_congr (hs.trans hid.symm) ?_).ge
  simp only [HasNumber,hn]
 | some t=>
  have hnum:HasNumber (sweep s now) id:=by
   unfold HasNumber
   rw [hn]
   exact h.registry.number_lt id t hid
  cases hs:(sweep s now).tickets.lookup id with
  | none=>
   rw [rank_of_none hs hnum]
   exact rank_le s id
  | some u=>
   have hu:=((lookup_sweep s now id u).mp hs).1
   rw [hid] at hu
   cases hu
   rw [rank_of_lookup hid,rank_of_lookup hs]

variable {s':Inner}

lemma Promotes.advances{now:SystemTime}{moved:List String}(h:Promotes now s moved s'):
  Advances s s':=by
 induction h with
 | done s=>exact .refl s
 | @promote s s' front rest moved id t _ _ hid hs _ _ _ _ _ ih=>
  have hone:Advances s (promoteTicket s now front rest id t):=by
   refine advances_of_insert hid rfl rfl ?_
   rw [hs]
   change stateRank .queued≤ stateRank .admitted
   decide
  exact hone.trans ih

lemma Promotes.frame{now:SystemTime}{moved:List String}(h:Promotes now s moved s'):
  s'.config=s.config∧s'.nextTicketNumber=s.nextTicketNumber∧s'.nextFencingToken=s.nextFencingToken ∧
   s'.admitted=s.admitted++moved:=by
 induction h with
 | done s=>simp
 | promote _ _ _ _ _ _ _ _ _ ih=>
  obtain ⟨h1,h2,h3,h4⟩:=ih
  exact ⟨h1,h2,h3,by simp [h4,promoteTicket]⟩

lemma maintainAt_advances(h:Invariant s)(now:SystemTime):Advances s (maintainAt s now).2:=by
 obtain ⟨moved,hrun,-⟩:=maintainAt_spec now h
 exact (sweep_advances h now).trans hrun.advances

lemma maintainAt_frame(h:Invariant s)(now:SystemTime):(maintainAt s now).2.config=s.config ∧
   (maintainAt s now).2.nextTicketNumber=s.nextTicketNumber ∧
   (maintainAt s now).2.nextFencingToken=s.nextFencingToken:=by
 obtain ⟨moved,hrun,-⟩:=maintainAt_spec now h
 obtain ⟨h1,h2,h3,-⟩:=hrun.frame
 obtain ⟨k1,-,-,k4,k5⟩:=sweep_frame s now
 exact ⟨h1.trans k1,h2.trans k4,h3.trans k5⟩

variable {m:Inner}

lemma issued_advances(h:Invariant m)(requestId owner:String)(now expiresAt:SystemTime):
  Advances m (issued m requestId owner now expiresAt):=by
 intro j
 by_cases hj:j=ticketIdOf m.nextTicketNumber
 · have hno:¬HasNumber m j:=by
    rintro ⟨n,hn,he⟩
    have:=ticketIdOf_injective (hj.symm.trans he)
    omega
   have hzero:rank m j=0:=by
    rw [rank,hj,lookup_next_none h,←hj]
    simp [hno]
   omega
 · refine (rank_congr ?_ ?_).ge
   · simp only [issued,lookup_insert_eq,hj,↓reduceIte]
   · constructor
     · rintro ⟨n,hn,he⟩
       refine ⟨n,lt_of_le_of_ne (Nat.lt_succ_iff.mp hn) ?_,he⟩
       rintro rfl
       exact hj he
     · rintro ⟨n,hn,he⟩
       exact ⟨n,Nat.lt_succ_of_lt hn,he⟩

lemma SettleRequest.rank_le{c:Call}{state:AdmissionTicketState}(h:SettleRequest id t c state):
  stateRank t.state≤ stateRank state:=by
 have hend:stateRank state=4:=by cases h <;>rfl
 rw [hend]
 exact (stateRank_bounds _).2

lemma claimed_ticket_advances(now:SystemTime)(front rest:List String)
  (hid:m.tickets.lookup id=some t)(ht:t.state=.admitted):
  Advances m (claimTicket m now front rest id t):=by
 refine advances_of_insert (u:=runTicket now m.nextFencingToken t) hid rfl rfl ?_
 rw [ht]
 change stateRank .admitted≤ stateRank .running
 decide

lemma settled_ticket_advances(now:SystemTime)(state:AdmissionTicketState)
  (hid:m.tickets.lookup id=some t)(hrank:stateRank t.state≤ stateRank state):
  Advances m (settleTicket m now id t state):=
 advances_of_insert (u:=endTicket now state t) hid rfl rfl hrank

lemma Effect.phases{c:TimedCall}{r:Response}(h:Effect s c r s')(hs:Invariant s):
  Invariant (midpoint s c)∧Invariant s'∧Advances s (midpoint s c)∧Advances (midpoint s c) s':=by
 have hm:=maintainAt_invariant c.now hs
 have hadv:=maintainAt_advances hs c.now
 have hs':=h.invariant hs
 cases h with
 | unchanged early _ _ _=>
  simp only [midpoint,early,Bool.false_eq_true,↓reduceIte]
  exact ⟨hs,hs,.refl s,.refl s⟩
 | maintained reached _ _ _=>
  simp only [midpoint,reached,↓reduceIte]
  exact ⟨hm,hm,hadv,.refl _⟩
 | issued reached _ _ _ _=>
  simp only [midpoint,reached,↓reduceIte]
  exact ⟨hm,hs',hadv,issued_advances hm _ _ _ _⟩
 | claimed reached _ hn=>
  simp only [midpoint,reached,↓reduceIte]
  exact ⟨hm,hs',hadv,claimed_ticket_advances _ _ _ hn.lookup_eq hn.state_eq⟩
 | @settled id t state reached hreq hid=>
  simp only [midpoint,reached,↓reduceIte]
  refine ⟨hm,hs',hadv,?_⟩
  obtain ⟨moved,hrun,-⟩:=promoteAt_spec c.now (settleTicket_invariant hm hid hreq.live.2)
   (settleTicket_unexpired _ (maintainAt_unexpired hs c.now) hid)
  exact (settled_ticket_advances c.now state hid hreq.rank_le).trans hrun.advances

lemma crossing_append{rankA rankB:String→ℕ}{θ:ℕ}{old new:List String}(hold:old.Nodup)
  (hθ:∀k∈old,θ≤rankA k)(mono:∀k,rankA k≤rankB k)(hnew:new.Nodup)
  (cross:∀k∈new,rankA k<θ∧θ≤rankB k):(old++new).Nodup∧∀k∈old++new,θ≤rankB k:=by
 constructor
 · refine List.Nodup.append hold hnew ?_
   intro k hk hk'
   have h1:=hθ k hk
   have h2:=(cross k hk').1
   omega
 · intro k hk
   rcases mem_append.mp hk with hk|hk
   · exact (hθ k hk).trans (mono k)
   · exact (cross k hk).2

lemma mem_departures{f:Inner→List String}:id∈departures f a b↔id∈f a∧id∉f b:=by
 simp [departures]

lemma mem_arrivals{f:Inner→List String}:id∈arrivals f a b↔id∈f b∧id∉f a:=by simp [arrivals]

lemma departures_live_cross(h:Advances a b):∀id∈departures liveIds a b,rank a id<4∧4≤rank b id:=by
 intro id hid
 obtain ⟨ha,hb⟩:=mem_departures.mp hid
 rw [mem_liveIds_iff] at ha hb
 have:=h id
 omega

lemma departures_slot_cross(h:Advances a b):∀id∈departures slotIds a b,rank a id<4∧4≤rank b id:=by
 intro id hid
 obtain ⟨ha,hb⟩:=mem_departures.mp hid
 rw [mem_slotIds_iff] at ha hb
 have:=h id
 omega

lemma arrivals_slot_cross(h:Advances a b):∀id∈arrivals slotIds a b,rank a id<2∧2≤rank b id:=by
 intro id hid
 obtain ⟨hb,ha⟩:=mem_arrivals.mp hid
 rw [mem_slotIds_iff] at ha hb
 have:=h id
 omega

/-- What the slot and settlement logs say about the state they lead to. -/
structure SlotLedger (taken released settled:List String) (s:Inner) : Prop where
 taken_nodup:taken.Nodup
 released_nodup:released.Nodup
 settled_nodup:settled.Nodup
 taken_rank:∀id∈taken,2≤rank s id
 released_rank:∀id∈released,4≤rank s id
 settled_rank:∀id∈settled,4≤rank s id
 occupying_taken:∀id,2≤rank s id → rank s id≤3→id∈taken
 released_taken:∀id∈released,id∈taken
 settled_of_rank:∀id∈taken,4≤rank s id→id∈released∧id∈settled
 balance:s.concurrent+released.length=taken.length

lemma slotIds_length(h:Invariant s):s.concurrent=(slotIds s).length:=by
 rw [h.dispatch.concurrent_eq]
 unfold slotIds keysWhere countValues sumValues values
 rw [length_map,map_map]
 induction s.tickets.entries with
 | nil=>rfl
 | cons e es ih=>
  simp only [map_cons,sum_cons,Function.comp_apply,filter_cons,ih]
  split
  · simp only [length_cons]
    omega
  · omega

lemma length_exchange{a b:List String}(ha:a.Nodup)(hb:b.Nodup):
  a.length+(b.filter fun x=>x∉a).length=b.length+(a.filter fun x=>x∉b).length:=by
 have key:∀x y:List String,x.length=(x.filter fun k=>k∈y).length+(x.filter fun k=>k∉y).length:=by
  intro x y
  have:=length_eq_length_filter_add (l:=x) (fun k=>decide (k∈y))
  simpa using this
 have hperm:(a.filter fun k=>k∈b).Perm (b.filter fun k=>k∈a):=by
  apply (perm_ext_iff_of_nodup (ha.filter _) (hb.filter _)).mpr
  intro k
  simp only [mem_filter,decide_eq_true_eq]
  tauto
 have h1:=key a b
 have h2:=key b a
 have h3:=hperm.length_eq
 omega

lemma SlotLedger.phase{taken released settled:List String}
  (h:SlotLedger taken released settled a)(hadv:Advances a b)(ha:Invariant a)(hb:Invariant b):
  SlotLedger (taken++arrivals slotIds a b) (released++departures slotIds a b)
   (settled++departures liveIds a b) b:=by
 have hn:(arrivals slotIds a b).Nodup:=(keysWhere_nodup _ _).filter _
 have hd:(departures slotIds a b).Nodup:=(keysWhere_nodup _ _).filter _
 have hl:(departures liveIds a b).Nodup:=(keysWhere_nodup _ _).filter _
 obtain ⟨t1,t2⟩:=crossing_append h.taken_nodup h.taken_rank hadv hn (arrivals_slot_cross hadv)
 obtain ⟨r1,r2⟩:=crossing_append h.released_nodup h.released_rank hadv hd
  (departures_slot_cross hadv)
 obtain ⟨s1,s2⟩:=crossing_append h.settled_nodup h.settled_rank hadv hl
  (departures_live_cross hadv)
 refine ⟨t1,r1,s1,t2,r2,s2,?_,?_,?_,?_⟩
 · intro id hlo hhi
   rw [mem_append]
   by_cases hslot:2≤rank a id
   · exact Or.inl (h.occupying_taken id hslot ((hadv id).trans hhi))
   · refine Or.inr (mem_arrivals.mpr ⟨(mem_slotIds_iff b id).mpr ⟨hlo,hhi⟩,?_⟩)
     rw [mem_slotIds_iff]
     omega
 · intro id hid
   rw [mem_append] at hid ⊢
   rcases hid with hid|hid
   · exact Or.inl (h.released_taken id hid)
   · have:=(mem_slotIds_iff a id).mp (mem_departures.mp hid).1
     exact Or.inl (h.occupying_taken id this.1 this.2)
 · intro id hid hfour
   rw [mem_append,mem_append]
   rcases mem_append.mp hid with hid|hid
   · have h2:=h.taken_rank id hid
     by_cases hdone:4≤rank a id
     · exact ⟨Or.inl (h.settled_of_rank id hid hdone).1,Or.inl (h.settled_of_rank id hid hdone).2⟩
     · refine ⟨Or.inr (mem_departures.mpr ⟨?_,?_⟩),Or.inr (mem_departures.mpr ⟨?_,?_⟩)⟩
       · exact (mem_slotIds_iff a id).mpr ⟨h2,by omega⟩
       · rw [mem_slotIds_iff];omega
       · exact (mem_liveIds_iff a id).mpr ⟨by omega,by omega⟩
       · rw [mem_liveIds_iff];omega
   · have:=(mem_slotIds_iff b id).mp (mem_arrivals.mp hid).1
     omega
 · have hx:=length_exchange (a:=slotIds a) (b:=slotIds b) (keysWhere_nodup _ _)
    (keysWhere_nodup _ _)
   have h1:=slotIds_length ha
   have h2:=slotIds_length hb
   have h3:=h.balance
   rw [length_append,length_append]
   change _+(_+((slotIds a).filter fun x=>x∉slotIds b).length) =
    _+((slotIds b).filter fun x=>x∉slotIds a).length
   omega

lemma phaseLog_concat(f:Inner→Inner→List String)(past:Past)
  (tr:Transition Inner TimedCall Response):
  phaseLog f (past++[tr])=phaseLog f past ++
   f tr.before (midpoint tr.before tr.call)++f (midpoint tr.before tr.call) tr.after:=by
 simp [phaseLog]

lemma slotLedger_history(config:AdmissionTicketQueueConfig)(start:SystemTime)
  (calls:List TimedCall):
  let past:=history step (newAt config start) calls
  let s:=execute step (newAt config start) calls
  SlotLedger (slotTakenLog past) (slotReleasedLog past) (settlementLog past) s:=by
 refine (history_invariant step (P:=fun past s=>Invariant s ∧
  SlotLedger (slotTakenLog past) (slotReleasedLog past) (settlementLog past) s)
  ⟨newAt_invariant config start,?_⟩ ?_ calls).2
 · have hzero:∀id,rank (newAt config start) id≤0∨rank (newAt config start) id=4:=by
    intro id
    by_cases hn:HasNumber (newAt config start) id
    · exact Or.inr (rank_of_none rfl hn)
    · have hnone:(newAt config start).tickets.lookup id=none:=rfl
      simp [rank,hnone,hn]
   refine ⟨nodup_nil,nodup_nil,nodup_nil,by simp [slotTakenLog,phaseLog],
    by simp [slotReleasedLog,phaseLog],by simp [settlementLog,phaseLog],?_,
    by simp [slotReleasedLog,phaseLog],by simp [slotTakenLog,phaseLog],rfl⟩
   intro id hlo hhi
   rcases hzero id with h|h <;>omega
 · rintro past t c ⟨hinv,hled⟩
   obtain ⟨hm,hs',h1,h2⟩:=(step_effect hinv c).phases hinv
   refine ⟨hs',?_⟩
   have hled':=(hled.phase h1 hinv hm).phase h2 hm hs'
   simpa only [slotTakenLog,slotReleasedLog,settlementLog,phaseLog_concat,takeStep] using hled'

end GraphBlocks.TicketQueue
