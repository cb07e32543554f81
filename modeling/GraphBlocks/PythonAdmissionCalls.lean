import GraphBlocks.PythonAdmissionPhases

namespace GraphBlocks.PythonAdmission
open RustStd RaisingMethods List

variable {now:ℕ} {nowMs:ℤ} {q s s':AdmissionTicketQueue} {id:String}
 {t t':AdmissionTicket} {issued issued':List String}

/-- An admission error that leaves only the maintenance due at `now` behind. -/
def Fails (now:ℕ) (q:AdmissionTicketQueue) (e:Raised) (s:AdmissionTicketQueue) : Prop :=
 (∃error,e=.admission error)∧Tidied now q s

/-- A queue after calls that have issued these ids. -/
structure Advances (q s:AdmissionTicketQueue) (issued:List String) : Prop where
 consistent:Consistent s
 fields:s.toQueueFields=q.toQueueFields
 fences:Fences q s
 pending:s.pending.Sublist (q.pending++issued)
 issued_eq:issued=(List.range' q.nextTicket issued.length).map (ticketIdOf q.limiterId)
 nextTicket:s.nextTicket=q.nextTicket+issued.length

lemma Carried.advances(h:Carried now q s)(hs:Consistent s):Advances q s []:=by
 refine ⟨hs,h.fields,h.fences,?_,rfl,h.nextTicket⟩
 rw [append_nil]
 exact h.pending

lemma Tidied.advances(h:Tidied now q s)(hq:Consistent q):Advances q s []:=
 (h.carried hq).advances (h.consistent hq)

lemma Advances.trans(h:Advances q s issued)(h':Advances s s' issued'):
  Advances q s' (issued++issued'):=by
 refine ⟨h'.consistent,h'.fields.trans h.fields,h.fences.trans h'.fences,?_,?_,?_⟩
 · rw [←append_assoc]
   exact h'.pending.trans (h.pending.append_right issued')
 · rw [length_append,←range'_append_1,map_append,←h.issued_eq,←h.nextTicket,
    ← h.fields,←h'.issued_eq]
 · rw [h'.nextTicket,h.nextTicket,length_append,Nat.add_assoc]

lemma Advances.tidied(h:Advances q s issued)(hs:Tidied now s s'):Advances q s' issued:=by
 have hadvances:=h.trans (hs.advances h.consistent)
 rwa [append_nil] at hadvances

lemma Advances.after(h:Advances s s' issued)(hq:Consistent q)(hs:Tidied now q s):
  Advances q s' issued:=
 (hs.advances hq).trans h

lemma advances_moved(known:q.tickets.get? id=some t){pending:List String}{active:Finset String}
  (hpending:pending.Sublist q.pending)(htoken:t'.fencingToken=t.fencingToken)
  (hc:Consistent (q.moved id t' pending active q.windowUsed q.nextFencingToken)):
  Advances q (q.moved id t' pending active q.windowUsed q.nextFencingToken) []:=by
 refine ⟨hc,rfl,fences_moved known (.inl ⟨htoken,rfl⟩),?_,rfl,rfl⟩
 rw [append_nil]
 exact hpending

lemma ends_check{α:Type}{x:Except AdmissionError α}{Q:α→AdmissionTicketQueue→Prop}
  (hs:Tidied now q s)(h:∀a,x=.ok a→Q a s):Ends (accept x) s Q (Fails now q):=
 ends_accept.mpr ⟨h,fun e _=>⟨⟨e,rfl⟩,hs⟩⟩

lemma ends_passed{α:Type}{x:Except AdmissionError α}{Q:α→AdmissionTicketQueue→Prop}
  {E:Raised→AdmissionTicketQueue→Prop}{a:α}(hx:x=.ok a)(h:Q a s):Ends (accept x) s Q E:=by
 subst hx
 exact (ends_pure a).mpr h

lemma ends_refusal{α:Type}{error:AdmissionError}{Q:α→AdmissionTicketQueue→Prop}
  (hs:Tidied now q s):Ends (throw (.admission error):QueueMethod α) s Q (Fails now q):=
 (ends_throw _).mpr ⟨⟨error,rfl⟩,hs⟩

lemma ends_getTicket{Q:AdmissionTicket→AdmissionTicketQueue→Prop}(hs:Tidied now q s)
  (h:∀t,s.tickets.get? id=some t→Q t s):Ends (getTicket id) s Q (Fails now q):=by
 simp only [getTicket,ends_bind]
 refine ends_check hs fun key hkey=>?_
 obtain ⟨-,rfl⟩:=nonEmptyString_ok.mp hkey
 rw [ends_get]
 cases hget:s.tickets.get? key with
 | none=>exact ends_refusal hs
 | some t=>exact (ends_pure t).mpr (h t hget)

lemma ends_expireLocked{k:ℕ}{roomy:Prop}(hq:Consistent q)(hnow:Within now)
  (hroom:roomy→Versions (k+1) q){Q:List AdmissionTicket→AdmissionTicketQueue→Prop}
  (h:∀expired s,Tidied now q s→(roomy→Versions k s)→NotDue now s→Fits now 0 s →
   Q expired s):Ends (expireLocked now) q Q (Fails now q):=
 (expireLocked_ends hq hnow .refl hroom).weaken
  (fun expired s hs=>h expired s hs.1 hs.2.1 hs.2.2.1 hs.2.2.2) fun _ _ he=>⟨he.1,he.2.1⟩

/-- The clock reading that every call checks first. -/
lemma ends_now{Q:ℕ→AdmissionTicketQueue→Prop}(h:Within nowMs.toNat→Q nowMs.toNat q):
  Ends (accept (nonNegativeInteger "admission queue" "now_ms" nowMs)) q Q (Fails nowMs.toNat q):=by
 refine ends_check .refl fun now hnow=>?_
 obtain ⟨rfl,hwithin⟩:=nonNegativeInteger_ok.mp hnow
 exact h hwithin

lemma expire_ends(hq:Consistent q):
  Ends (expire nowMs) q (fun _ s=>Advances q s []) (Fails nowMs.toNat q):=by
 simp only [expire,ends_bind,ends_modify,ends_pure]
 refine ends_now fun hwithin=>?_
 refine ends_expireLocked (k:=0) hq hwithin False.elim fun _ s hs _ _ _=>?_
 exact (pruned_tidied (k:=0) hq hs False.elim).1.advances hq

lemma promote_ends(hq:Consistent q):
  Ends (promote nowMs) q (fun _ s=>Advances q s []) (Fails nowMs.toNat q):=by
 simp only [promote,ends_bind,ends_modify,ends_pure]
 refine ends_now fun hwithin=>?_
 refine ends_expireLocked (k:=0) hq hwithin False.elim fun _ s hs _ _ _=>?_
 refine (promoteLocked_ends (k:=0) hq hs False.elim).weaken ?_ fun _ _ he=>⟨he.1,he.2.1⟩
 rintro _ s' ⟨hs',-,-⟩
 exact (pruned_tidied (k:=0) hq hs' False.elim).1.advances hq

lemma Consistent.start(h:Consistent q)(known:q.tickets.get? id=some t)
  (hadmitted:t.state=.admitted){stateVersion:ℕ}
  (hrunning:t'.toTicketFields = { t.toTicketFields with
   state:=.running,stateVersion:=stateVersion,startedAtMs:=some now }):
  Consistent (q.moved id t' q.pending q.active q.windowUsed q.nextFencingToken):=by
 have hstate:t'.state=.running:=by rw [hrunning]
 have hmem:id∈q.active:=(h.active_iff id).mpr ⟨t,known,.inl hadmitted⟩
 have hnot:id∉q.pending:=h.notMem_pending known (by simp [hadmitted])
 refine h.move known (by rw [hrunning])
  (by rw [TicketFields.requestKey,TicketFields.requestKey,hrunning]) h.pending_nodup le_rfl ?_ ?_
  h.active_card h.windowUsed_le (.inl ⟨by rw [hrunning],rfl⟩)
 · intro other
   split
   · next heq=>simp [heq,hnot,hstate]
   · rfl
 · intro other
   split
   · next heq=>simp [heq,hmem,hstate]
   · rfl

lemma markRunning_ends(hq:Consistent q)(ticketId:String)(fencingToken:ℤ):
  Ends (markRunning ticketId fencingToken nowMs) q (fun _ s=>Advances q s [])
   (Fails nowMs.toNat q):=by
 simp only [markRunning,ends_bind]
 refine ends_check .refl fun id _=>?_
 refine ends_check .refl fun token _=>?_
 refine ends_now fun hwithin=>?_
 refine ends_getTicket .refl fun _ _=>?_
 refine ends_check .refl fun _ _=>?_
 refine ends_expireLocked (k:=0) hq hwithin False.elim fun _ s hs _ _ _=>?_
 refine ends_getTicket hs fun ticket known=>?_
 refine ends_check hs fun _ _=>?_
 split
 · exact (ends_pure _).mpr (hs.advances hq)
 split
 · simp only [ends_bind]
   exact ends_refusal hs
 · next hstate=>
   simp only [ends_bind,ends_modify,ends_pure]
   refine ends_check hs fun stateVersion _=>?_
   refine ends_check hs fun running hnew=>?_
   have hrunning:=AdmissionTicket.new_ok.mp hnew
   have hc:=(hs.consistent hq).start known (not_not.mp hstate) hrunning
   have hadvances:=advances_moved known (List.Sublist.refl _) (by rw [hrunning]) hc
   exact (hadvances.tidied (pruned_tidied (k:=0) hc .refl False.elim).1).after hq hs

lemma room_finish{k extra:ℕ}(hq:Consistent q)(known:q.tickets.get? id=some t)
  (hunits:t'.units=t.units)(hversions:Versions k q)(htokens:Tokens 0 q)(hfits:Fits now extra q):
  Versions k (q.moved id t' (q.pending.erase id) (q.active.erase id) q.windowUsed
    q.nextFencingToken) ∧
   Tokens 0 (q.moved id t' (q.pending.erase id) (q.active.erase id) q.windowUsed
    q.nextFencingToken) ∧
   Fits now extra (q.moved id t' (q.pending.erase id) (q.active.erase id) q.windowUsed
    q.nextFencingToken):=by
 refine ⟨?_,?_,?_⟩
 · intro other u hmem hu
   have hmem':other∈q.pending.erase id:=hmem
   rw [hq.pending_nodup.mem_erase_iff] at hmem'
   rw [get?_moved,if_neg hmem'.1] at hu
   exact hversions other u hmem'.2 hu
 · have hlength:(q.pending.erase id).length≤q.pending.length:=length_erase_le
   unfold Tokens at *
   change q.nextFencingToken+(q.pending.erase id).length+0≤_
   omega
 · rcases hfits with hfits|hfits
   · left
     have hle:q.unitsOf (q.pending.erase id)≤q.unitsOf q.pending:=unitsOf_sublist erase_sublist
     change q.windowUsed+AdmissionTicketQueue.unitsOf _ (q.pending.erase id)+extra≤q.rateLimit
     rw [unitsOf_moved_of_units known hunits]
     omega
   · exact .inr hfits

lemma complete_ends(hq:Consistent q)(hversions:Versions 2 q)(htokens:Tokens 0 q)
  (ticketId:String)(fencingToken:ℤ)(state:AdmissionTicketState):
  Ends (complete ticketId fencingToken state nowMs) q (fun _ s=>Advances q s [])
   (Fails nowMs.toNat q):=by
 simp only [complete,ends_bind]
 refine ends_check .refl fun id _=>?_
 refine ends_check .refl fun token _=>?_
 refine ends_now fun hwithin=>?_
 refine ends_check .refl fun _ hstate=>?_
 refine ends_getTicket .refl fun _ _=>?_
 refine ends_check .refl fun _ _=>?_
 refine ends_expireLocked (k:=1) hq hwithin (fun _:True=>hversions)
  fun _ s hs hroom _ hfits=>?_
 refine ends_getTicket hs fun ticket known=>?_
 refine ends_check hs fun _ _=>?_
 split
 · simp only [ends_bind]
   exact ends_refusal hs
 · next hlive=>
   simp only [ends_bind,ends_modify,ends_pure]
   refine ends_check hs fun stateVersion _=>?_
   refine ends_check hs fun terminal hnew=>?_
   have hterminal:=AdmissionTicket.new_ok.mp hnew
   have hcs:=hs.consistent hq
   have hended:terminal.state.isTerminal=true:=by
    rw [hterminal]
    have hstate':=ensure_ok.mp hstate
    cases state <;>first | rfl | cases hstate'
   have hqueued:ticket.state ≠ .queued:=by
    intro hqueued
    exact hlive (by simp [hqueued])
   have hpending:s.pending.erase id=s.pending:=erase_of_not_mem (hcs.notMem_pending known hqueued)
   have hc:=hcs.finish known (by rw [hterminal])
    (by rw [TicketFields.requestKey,TicketFields.requestKey,hterminal]) (by rw [hterminal]) hended
   have hadvances:=advances_moved known erase_sublist (by rw [hterminal]) hc
   have hmoved:(s.withTicket id terminal).discardActive id =
     s.moved id terminal (s.pending.erase id) (s.active.erase id) s.windowUsed
      s.nextFencingToken:=by
    rw [hpending]
    rfl
   have hunits:terminal.units=ticket.units:=by rw [hterminal]
   obtain ⟨hversions',htokens',hfits'⟩:=room_finish hcs known hunits (hroom trivial)
    (hs.tokens htokens) hfits
   rw [hmoved]
   refine (promoteLocked_ends (k:=0) hc .refl fun _:True=>hversions').weaken ?_ ?_
   · rintro _ s₁ ⟨hs₁,-,-⟩
     exact (hadvances.tidied (pruned_tidied (k:=0) hc hs₁ False.elim).1).after hq hs
   · rintro _ _ ⟨-,-,hnone⟩
     exact absurd ⟨trivial,htokens',hfits'⟩ hnone

lemma cancelLive_ends(hq:Consistent q)(known:q.tickets.get? id=some t)(hwithin:Within now)
  (hbegun:t.startedAtMs.getD t.issuedAtMs≤now)(hbefore:now<t.expiresAtMs)(hversions:Versions 2 q)
  (htokens:Tokens 0 q)(hfits:Fits now 0 q):
  Ends (cancelLive id t .cancelled now) q (fun _ s=>Advances q s []) (Fails now q):=by
 simp only [cancelLive,ends_bind]
 refine ends_check .refl fun stateVersion hincremented=>?_
 obtain ⟨hversion,rfl⟩:=incrementAdmissionCounter_ok.mp hincremented
 rw [ends_leave hq known]
 have hrecord:(t.ended .cancelled now).Wellformed:=
  t.wellformed.ended hversion rfl hwithin hbegun (fun h=>nomatch h) fun _=>hbefore
 obtain ⟨t',hnew,hended⟩:=hrecord.new
 simp only [ends_bind,ends_modify,ends_pure]
 refine ends_passed hnew ?_
 have hc:=hq.finish known (by rw [hended];rfl)
  (by rw [TicketFields.requestKey,TicketFields.requestKey,hended];rfl) (by rw [hended];rfl)
  (by rw [hended];rfl)
 have hunits:t'.units=t.units:=by
  rw [hended]
  rfl
 have hadvances:=advances_moved known erase_sublist (by rw [hended];rfl) hc
 obtain ⟨hversions',htokens',hfits'⟩:=room_finish hq known hunits hversions htokens hfits
 refine (reindex_ends (k:=1) hc .refl fun _:True=>hversions').weaken ?_ ?_
 · rintro _ s₁ ⟨hs₁,hroom₁,hfits₁,-⟩
   have hc₁:=hs₁.consistent hc
   refine (promoteLocked_ends (k:=0) hc₁ .refl hroom₁).weaken ?_ ?_
   · rintro _ s₂ ⟨hs₂,-,-⟩
     exact (hadvances.tidied hs₁).tidied (pruned_tidied (k:=0) hc₁ hs₂ False.elim).1
   · rintro _ _ ⟨-,-,hnone⟩
     exact absurd ⟨trivial,hs₁.tokens htokens',hfits₁⟩ hnone
 · rintro _ _ ⟨-,-,hnone⟩
   exact absurd ⟨trivial,hfits'⟩ hnone

/-- A live ticket that the call would end is ended with the state and at a time that its record
admits. -/
def Cancellable (now:ℕ) (q:AdmissionTicketQueue) (ticketId:String)
  (state:AdmissionTicketState) (fencingToken:Option ℤ) : Prop :=
 ∀t,q.tickets.get? ticketId=some t→t.state.isTerminal=false→t.issuedAtMs≤now→now<t.expiresAtMs →
  (t.state=.running → ∃token:ℕ,fencingToken=some token∧t.fencingToken=some token) →
  state ≠ .expired ∧ ∀started,t.startedAtMs=some started→started≤now

variable {state:AdmissionTicketState}

lemma cancelLocked_ends(hq:Consistent q)(hwithin:Within now)(hversions:Versions 3 q)
  (htokens:Tokens 0 q){fencingToken:Option ℕ}
  (hcancellable:Cancellable now q id state (fencingToken.map Nat.cast))
  (hstate:state=.cancelled∨state=.expired):
  Ends (cancelLocked id now state fencingToken) q (fun _ s=>Advances q s [])
   (Fails now q):=by
 simp only [cancelLocked,ends_bind]
 refine ends_getTicket .refl fun first hfirst=>?_
 refine ends_check .refl fun _ hissued=>?_
 refine ends_expireLocked (k:=2) hq hwithin (fun _:True=>hversions)
  fun _ s hs hroom hnotDue hfits=>?_
 refine ends_getTicket hs fun ticket known=>?_
 split
 · simp only [ends_bind,ends_modify,ends_pure]
   exact (pruned_tidied (k:=0) hq hs False.elim).1.advances hq
 next hlive=>
 rw [Bool.not_eq_true] at hlive
 obtain ⟨t,ht,hlater⟩:=(hs.carried hq).ticket id ticket known
 rw [hfirst] at ht
 cases ht
 have hissued':first.issuedAtMs≤now:=by simpa [validateMutationTime] using ensure_ok.mp hissued
 have hbefore:now<ticket.expiresAtMs:=hnotDue id ticket known hlive
 -- the cancellation itself, once the token of a running ticket is known
 have hcancel:(first.state=.running→∃token:ℕ,
   fencingToken=some token∧first.fencingToken=some token) →
   Ends (cancelLive id ticket state now) s (fun _ s=>Advances q s []) (Fails now q):=by
  intro htoken
  obtain ⟨hexpired,hstarted⟩:=hcancellable first hfirst (hlater.live hlive) hissued'
   (hlater.expiresAtMs▸hbefore) fun hrunning=>by
    obtain ⟨token,hgiven,hheld⟩:=htoken hrunning
    exact ⟨token,by rw [hgiven];rfl,hheld⟩
  obtain rfl:=hstate.resolve_right hexpired
  have hbegun:ticket.startedAtMs.getD ticket.issuedAtMs≤now:=by
   rw [hlater.startedAtMs,hlater.issuedAtMs]
   cases hstart:first.startedAtMs with
   | none=>exact hissued'
   | some started=>exact hstarted started hstart
  refine (cancelLive_ends (hs.consistent hq) known hwithin hbegun hbefore (hroom trivial)
   (hs.tokens htokens) hfits).weaken ?_ ?_
  · exact fun _ _ h=>h.after hq hs
  · exact fun _ _ h=>⟨h.1,hs.trans h.2⟩
 have hrunning:=hlater.running hlive
 split
 · next hrun=>
   cases fencingToken with
   | none=>
    simp only [ends_bind]
    exact ends_refusal hs
   | some token=>
    simp only [ends_bind]
    refine ends_check hs fun _ hfence=>hcancel fun _=>⟨token,rfl,?_⟩
    rw [←hlater.token hrun]
    simpa [validateFencing] using ensure_ok.mp hfence
 · next hrun=>
   apply hcancel
   intro hfirstRun
   exact absurd (hrunning.mpr hfirstRun) hrun

lemma cancel_ends(hq:Consistent q)(hversions:Versions 3 q)(htokens:Tokens 0 q){ticketId:String}
  {fencingToken:Option ℤ}(hcancellable:Cancellable nowMs.toNat q ticketId state fencingToken):
  Ends (cancel ticketId nowMs state fencingToken) q (fun _ s=>Advances q s [])
   (Fails nowMs.toNat q):=by
 simp only [cancel,ends_bind]
 refine ends_check .refl fun id hid=>?_
 obtain ⟨-,rfl⟩:=nonEmptyString_ok.mp hid
 refine ends_now fun hwithin=>?_
 refine ends_check .refl fun _ hstate=>?_
 have hended:state=.cancelled∨state=.expired:=by simpa using ensure_ok.mp hstate
 cases fencingToken with
 | none=>
  simp only [ends_bind,ends_pure]
  exact cancelLocked_ends hq hwithin hversions htokens hcancellable hended
 | some token=>
  simp only [ends_bind,ends_map]
  refine ends_check .refl fun parsed hparsed=>?_
  obtain ⟨rfl,-⟩:=positiveInteger_ok.mp hparsed
  exact cancelLocked_ends hq hwithin hversions htokens hcancellable hended

end GraphBlocks.PythonAdmission
