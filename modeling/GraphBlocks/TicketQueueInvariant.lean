import GraphBlocks.TicketQueueModel

/-! The redundant structures of `Inner` are related by three predicates: `Dispatch` for the deques
and the slot counter, `Registry` for the two ticket maps, and `Fencing` for the tokens. -/
namespace GraphBlocks.TicketQueue
open FiniteMap RustStd List

/-- The number of concurrency slots a ticket holds. -/
def slot (t:AdmissionTicket) : ℕ := if t.state.isOccupying then 1 else 0

structure Dispatch (tickets:FMap String AdmissionTicket) (queued admitted:List String)
  (concurrent:ℕ) : Prop where
 queued_nodup:queued.Nodup
 admitted_nodup:admitted.Nodup
 mem_queued:∀id,id∈queued ↔ ∃t,tickets.lookup id=some t∧t.state=.queued
 mem_admitted:∀id,id∈admitted ↔ ∃t,tickets.lookup id=some t∧t.state=.admitted
 concurrent_eq:concurrent=countValues (fun t=>t.state.isOccupying) tickets

/-- `tickets` and `tickets_by_request` are inverse to each other, and ids are issued numbers. -/
structure Registry (tickets:FMap String AdmissionTicket)
  (byRequest:FMap (String×String) String) (nextTicketNumber:ℕ) : Prop where
 key_eq:∀id t,tickets.lookup id=some t→t.ticketId=id
 request_iff:∀key id,byRequest.lookup key=some id ↔
  ∃t,tickets.lookup id=some t∧(t.requestId,t.owner)=key
 number_lt:∀id t,tickets.lookup id=some t → ∃n<nextTicketNumber,id=ticketIdOf n

structure Fencing (tickets:FMap String AdmissionTicket) (nextFencingToken:ℕ) : Prop where
 running_token:∀id t,tickets.lookup id=some t→t.state=.running→t.fencingToken.isSome
 token_lt:∀id t k,tickets.lookup id=some t→t.fencingToken=some k→k<nextFencingToken
 token_unique:∀id id' t t' k,tickets.lookup id=some t→tickets.lookup id'=some t' →
  t.fencingToken=some k→t'.fencingToken=some k→id=id'

structure Invariant (s:Inner) : Prop where
 dispatch:Dispatch s.tickets s.queued s.admitted s.concurrent
 registry:Registry s.tickets s.ticketsByRequest s.nextTicketNumber
 fencing:Fencing s.tickets s.nextFencingToken
 concurrent_le:s.concurrent≤ s.config.maxConcurrent
 pending_le:s.queued.length≤ s.config.maxPending
 rate_le:s.rateWindowUsed≤ s.config.rateLimit

/-- Two records of one ticket differ only in its progress. -/
def SameIdentity (t u:AdmissionTicket) : Prop :=
 u.ticketId=t.ticketId∧u.requestId=t.requestId∧u.owner=t.owner

lemma newAt_invariant(config:AdmissionTicketQueueConfig)(now:SystemTime):
  Invariant (newAt config now):=by
 refine ⟨⟨nodup_nil,nodup_nil,?_,?_,rfl⟩,⟨?_,?_,?_⟩,⟨?_,?_,?_⟩,?_,?_,?_⟩
 all_goals simp [newAt]

section
variable {tickets:FMap String AdmissionTicket} {queued admitted queued' admitted':List String}
variable {concurrent concurrent':ℕ} {id:String} {t u:AdmissionTicket}

lemma Dispatch.update(h:Dispatch tickets queued admitted concurrent)
  (hid:tickets.lookup id=some t)(hc:concurrent'+slot t=concurrent+slot u)(hqn:queued'.Nodup)
  (han:admitted'.Nodup)(hq:∀j,j∈queued'↔if j=id then u.state=.queued else j∈queued)
  (ha:∀j,j∈admitted'↔if j=id then u.state=.admitted else j∈admitted):
  Dispatch (tickets.insert id u) queued' admitted' concurrent':=by
 refine ⟨hqn,han,?_,?_,?_⟩
 · intro j
   rw [hq,lookup_insert_eq]
   by_cases hj:j=id
   · simp [hj]
   · simp [hj,h.mem_queued]
 · intro j
   rw [ha,lookup_insert_eq]
   by_cases hj:j=id
   · simp [hj]
   · simp [hj,h.mem_admitted]
 · have hs:=sumValues_insert_bound slot tickets id t u hid
   have he:concurrent=sumValues slot tickets:=h.concurrent_eq
   change concurrent'=sumValues slot (tickets.insert id u)
   omega

lemma Registry.update{byRequest:FMap (String×String) String}{n:ℕ}
  (h:Registry tickets byRequest n)(hid:tickets.lookup id=some t)
  (hsame:SameIdentity t u):Registry (tickets.insert id u) byRequest n:=by
 obtain ⟨hk,hr,ho⟩:=hsame
 refine ⟨?_,?_,?_⟩
 · intro j v hv
   rw [lookup_insert_eq] at hv
   split at hv
   · next hj=>cases hv;rw [hk,h.key_eq id t hid,hj]
   · exact h.key_eq j v hv
 · intro key j
   rw [h.request_iff,lookup_insert_eq]
   by_cases hj:j=id
   · subst hj
     simp [hid,hr,ho]
   · simp [hj]
 · intro j v hv
   rw [lookup_insert_eq] at hv
   split at hv
   · next hj=>exact hj▸h.number_lt id t hid
   · exact h.number_lt j v hv

lemma Fencing.update{n n':ℕ}(h:Fencing tickets n)(hid:tickets.lookup id=some t)
  (hrun:u.state=.running→u.fencingToken.isSome)(hn:n≤n')
  (htok:u.fencingToken=t.fencingToken∨(u.fencingToken=some n∧n<n')):
  Fencing (tickets.insert id u) n':=by
 have fresh:∀k,u.fencingToken=some k→t.fencingToken=some k∨k=n∧n<n':=by
  intro k hk
  rcases htok with he|⟨he,hlt⟩
  · exact Or.inl (he▸hk)
  · exact Or.inr ⟨by simpa [he] using hk.symm,hlt⟩
 refine ⟨?_,?_,?_⟩
 · intro j v hv hs
   rw [lookup_insert_eq] at hv
   split at hv
   · cases hv;exact hrun hs
   · exact h.running_token j v hv hs
 · intro j v k hv hk
   rw [lookup_insert_eq] at hv
   split at hv
   · cases hv
     rcases fresh k hk with ho|⟨rfl,hlt⟩
     · exact lt_of_lt_of_le (h.token_lt id t k hid ho) hn
     · exact hlt
   · exact lt_of_lt_of_le (h.token_lt j v k hv hk) hn
 · intro i j v w k hv hw hvk hwk
   rw [lookup_insert_eq] at hv hw
   -- a fresh token is above every stored one, so it can only meet itself
   split at hv <;>split at hw
   · next hi hj=>rw [hi,hj]
   · next hi hj=>
     cases hv
     rcases fresh k hvk with ho|⟨rfl,-⟩
     · exact hi▸h.token_unique id j t w k hid hw ho hwk
     · exact absurd (h.token_lt j w _ hw hwk) (lt_irrefl _)
   · next hi hj=>
     cases hw
     rcases fresh k hwk with ho|⟨rfl,-⟩
     · exact hj▸h.token_unique i id v t k hv hid hvk ho
     · exact absurd (h.token_lt i v _ hv hvk) (lt_irrefl _)
   · exact h.token_unique i j v w k hv hw hvk hwk
end

variable {s:Inner}

lemma resetRateWindow_invariant(h:Invariant s)(now:SystemTime):
  Invariant (resetRateWindow s now):=by
 unfold resetRateWindow
 split
 · exact ⟨h.dispatch,h.registry,h.fencing,h.concurrent_le,h.pending_le,Nat.zero_le _⟩
 · exact h

lemma expire_identity(now:SystemTime)(t:AdmissionTicket):SameIdentity t (expire now t):=by
 unfold expire
 split <;>exact ⟨rfl,rfl,rfl⟩

lemma expire_fencingToken(now:SystemTime)(t:AdmissionTicket):
  (expire now t).fencingToken=t.fencingToken:=by
 unfold expire
 split <;>rfl

lemma expire_expiresAt(now:SystemTime)(t:AdmissionTicket):(expire now t).expiresAt=t.expiresAt:=by
 unfold expire
 split <;>rfl

lemma expire_eq_self{now:SystemTime}{t:AdmissionTicket}
  (h:(expire now t).state.isTerminal=false):expire now t=t:=by
 unfold expire at h ⊢
 split
 · next he=>simp [he,AdmissionTicketState.isTerminal] at h
 · rfl

lemma expire_slot(now:SystemTime)(t:AdmissionTicket):
  slot (expire now t)+(if expires now t&&t.state.isOccupying then 1 else 0)=slot t:=by
 unfold expire slot
 have hx:AdmissionTicketState.expired.isOccupying=false:=rfl
 by_cases he:expires now t=true
 · simp [he,hx]
 · simp [he]

lemma releasedCapacity_add(tickets:FMap String AdmissionTicket)(now:SystemTime):
  sumValues slot (mapValues (expire now) tickets)+releasedCapacity tickets now =
   sumValues slot tickets:=by
 rw [sumValues_mapValues,releasedCapacity,countValues,←sumValues_add]
 exact sumValues_congr _ _ _ (fun _ t _=>expire_slot now t)

lemma releasedCapacity_le(h:Invariant s)(now:SystemTime):
  releasedCapacity s.tickets now≤ s.concurrent:=by
 have hr:=releasedCapacity_add s.tickets now
 have he:s.concurrent=sumValues slot s.tickets:=h.dispatch.concurrent_eq
 omega

lemma lookup_expireTickets(s:Inner)(now:SystemTime)(id:String)(u:AdmissionTicket):
  (expireTickets s now).tickets.lookup id=some u ↔
   ∃t,s.tickets.lookup id=some t∧expire now t=u:=by
 simp [expireTickets,lookup_mapValues]

lemma stateIs_iff(tickets:FMap String AdmissionTicket)(state:AdmissionTicketState)
  (id:String):stateIs tickets state id=true ↔ ∃t,tickets.lookup id=some t∧t.state=state:=by
 unfold stateIs
 cases tickets.lookup id <;>simp

lemma swept_registry(h:Invariant s)(now:SystemTime):
  Registry (expireTickets s now).tickets s.ticketsByRequest s.nextTicketNumber:=by
 refine ⟨?_,?_,?_⟩
 · intro id u hu
   obtain ⟨t,ht,rfl⟩:=(lookup_expireTickets s now id u).mp hu
   rw [(expire_identity now t).1]
   exact h.registry.key_eq id t ht
 · intro key id
   rw [h.registry.request_iff]
   constructor
   · rintro ⟨t,ht,hk⟩
     refine ⟨expire now t,(lookup_expireTickets s now id _).mpr ⟨t,ht,rfl⟩,?_⟩
     obtain ⟨-,hr,ho⟩:=expire_identity now t
     rw [hr,ho]
     exact hk
   · rintro ⟨u,hu,hk⟩
     obtain ⟨t,ht,rfl⟩:=(lookup_expireTickets s now id u).mp hu
     obtain ⟨-,hr,ho⟩:=expire_identity now t
     rw [hr,ho] at hk
     exact ⟨t,ht,hk⟩
 · intro id u hu
   obtain ⟨t,ht,rfl⟩:=(lookup_expireTickets s now id u).mp hu
   exact h.registry.number_lt id t ht

lemma swept_fencing(h:Invariant s)(now:SystemTime):
  Fencing (expireTickets s now).tickets s.nextFencingToken:=by
 refine ⟨?_,?_,?_⟩
 · intro id u hu hs
   obtain ⟨t,ht,rfl⟩:=(lookup_expireTickets s now id u).mp hu
   have he:expire now t=t:=expire_eq_self (by rw [hs];rfl)
   rw [he] at hs ⊢
   exact h.fencing.running_token id t ht hs
 · intro id u k hu hk
   obtain ⟨t,ht,rfl⟩:=(lookup_expireTickets s now id u).mp hu
   rw [expire_fencingToken] at hk
   exact h.fencing.token_lt id t k ht hk
 · intro i j u v k hu hv huk hvk
   obtain ⟨t,ht,rfl⟩:=(lookup_expireTickets s now i u).mp hu
   obtain ⟨w,hw,rfl⟩:=(lookup_expireTickets s now j v).mp hv
   rw [expire_fencingToken] at huk hvk
   exact h.fencing.token_unique i j t w k ht hw huk hvk

lemma mem_filter_stateIs(now:SystemTime)(deque:List String)(state:AdmissionTicketState)
  (live:state.isTerminal=false)
  (hmem:∀id,id∈deque ↔ ∃t,s.tickets.lookup id=some t∧t.state=state)(id:String):
  id∈deque.filter (stateIs (expireTickets s now).tickets state) ↔
   ∃u,(expireTickets s now).tickets.lookup id=some u∧u.state=state:=by
 rw [mem_filter,stateIs_iff,hmem]
 constructor
 · exact fun h=>h.2
 · rintro ⟨u,hu,hs⟩
   refine ⟨?_,u,hu,hs⟩
   obtain ⟨t,ht,rfl⟩:=(lookup_expireTickets s now id u).mp hu
   have he:expire now t=t:=expire_eq_self (by rw [hs];exact live)
   exact ⟨t,ht,he▸hs⟩

lemma expireTickets_invariant(h:Invariant s)(now:SystemTime):
  Invariant (removeTerminalFromDispatchQueues (expireTickets s now)):=by
 have hadd:=releasedCapacity_add s.tickets now
 have hconc:s.concurrent=sumValues slot s.tickets:=h.dispatch.concurrent_eq
 have hdispatch:Dispatch (expireTickets s now).tickets
   (s.queued.filter (stateIs (expireTickets s now).tickets .queued))
   (s.admitted.filter (stateIs (expireTickets s now).tickets .admitted))
   (s.concurrent-releasedCapacity s.tickets now):=by
  refine ⟨h.dispatch.queued_nodup.filter _,h.dispatch.admitted_nodup.filter _,?_,?_,?_⟩
  · exact mem_filter_stateIs now s.queued .queued rfl h.dispatch.mem_queued
  · exact mem_filter_stateIs now s.admitted .admitted rfl h.dispatch.mem_admitted
  · change s.concurrent-releasedCapacity s.tickets now =
     sumValues slot (mapValues (expire now) s.tickets)
    omega
 refine ⟨hdispatch,swept_registry h now,swept_fencing h now,?_,?_,h.rate_le⟩
 · exact (Nat.sub_le _ _).trans h.concurrent_le
 · exact (length_filter_le _ _).trans h.pending_le

lemma pruneTicket_invariant(h:Invariant s)(id:String)
  (hterm:∀t,s.tickets.lookup id=some t→t.state.isTerminal=true):Invariant (pruneTicket s id):=by
 unfold pruneTicket
 cases hid:s.tickets.lookup id with
 | none=>exact h
 | some t=>
  have hstate:=hterm t hid
  have hkey:s.ticketsByRequest.lookup (t.requestId,t.owner)=some id:=
   (h.registry.request_iff _ id).mpr ⟨t,hid,rfl⟩
  simp only [hkey,↓reduceIte]
  have live:∀j u,u.state.isTerminal=false →
    (s.tickets.lookup j=some u↔(s.tickets.erase id).lookup j=some u):=by
   intro j u hu
   rw [lookup_erase_eq]
   split
   · next hj=>
     subst hj
     simp only [hid,Option.some.injEq,reduceCtorEq,iff_false]
     rintro rfl
     simp [hstate] at hu
   · rfl
  refine ⟨⟨h.dispatch.queued_nodup,h.dispatch.admitted_nodup,?_,?_,?_⟩,⟨?_,?_,?_⟩,
   ⟨?_,?_,?_⟩,h.concurrent_le,h.pending_le,h.rate_le⟩
  · intro j
    rw [h.dispatch.mem_queued]
    exact exists_congr fun u=>and_congr_left fun hu=>live j u (by rw [hu];rfl)
  · intro j
    rw [h.dispatch.mem_admitted]
    exact exists_congr fun u=>and_congr_left fun hu=>live j u (by rw [hu];rfl)
  · have he:=sumValues_erase slot s.tickets id t hid
    have hc:s.concurrent=sumValues slot s.tickets:=h.dispatch.concurrent_eq
    have hz:slot t=0:=by
     unfold slot
     cases hs:t.state <;>simp_all [AdmissionTicketState.isTerminal,
      AdmissionTicketState.isOccupying]
    change s.concurrent=sumValues slot (s.tickets.erase id)
    omega
  · intro j u hu
    rw [lookup_erase_eq] at hu
    split at hu
    · cases hu
    · exact h.registry.key_eq j u hu
  · intro key j
    rw [lookup_erase_eq,lookup_erase_eq]
    by_cases hj:j=id
    · subst hj
      by_cases hk:key=(t.requestId,t.owner)
      · simp [hk]
      · simp only [hk,↓reduceIte,reduceCtorEq,false_and,exists_false,iff_false]
        intro hl
        obtain ⟨u,hu,he⟩:=(h.registry.request_iff key j).mp hl
        rw [hid] at hu
        cases hu
        exact hk he.symm
    · rw [if_neg hj,←h.registry.request_iff]
      by_cases hk:key=(t.requestId,t.owner)
      · subst hk
        simp [hkey,Ne.symm hj]
      · simp [hk]
  · intro j u hu
    rw [lookup_erase_eq] at hu
    split at hu
    · cases hu
    · exact h.registry.number_lt j u hu
  · intro j u hu
    rw [lookup_erase_eq] at hu
    split at hu
    · cases hu
    · exact h.fencing.running_token j u hu
  · intro j u k hu
    rw [lookup_erase_eq] at hu
    split at hu
    · cases hu
    · exact h.fencing.token_lt j u k hu
  · intro i j u v k hu hv
    rw [lookup_erase_eq] at hu hv
    split at hu <;>split at hv
    · cases hu
    · cases hu
    · cases hv
    · exact h.fencing.token_unique i j u v k hu hv

end GraphBlocks.TicketQueue
