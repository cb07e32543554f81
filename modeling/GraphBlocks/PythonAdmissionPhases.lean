import GraphBlocks.PythonAdmissionMaintenance

namespace GraphBlocks.PythonAdmission
open PythonStd RaisingMethods List

variable {now k:ℕ} {q s:AdmissionTicketQueue} {id:String} {t t':AdmissionTicket} {roomy:Prop}

/-- The exceptions that leave nothing but maintenance behind. -/
def Stops (now:ℕ) (q:AdmissionTicketQueue) (room:Prop) (e:Raised) (s:AdmissionTicketQueue) : Prop :=
 (∃error,e=.admission error)∧Tidied now q s∧¬room

variable {E:Raised→AdmissionTicketQueue→Prop}

lemma ends_accept{α:Type}{x:Except AdmissionError α}{Q:α→AdmissionTicketQueue→Prop}:
  Ends (accept x) s Q E↔(∀a,x=.ok a→Q a s)∧∀e,x=.error e→E (.admission e) s:=
 ends_raising _ x

lemma ends_ticketAt(known:s.tickets.get? id=some t){Q:AdmissionTicket→AdmissionTicketQueue→Prop}:
  Ends (ticketAt id) s Q E↔Q t s:=by
 simp only [ticketAt,ends_bind,ends_get,known,ends_pure]

variable {n:ℕ}

lemma ends_hint{β:Type}{start:ℕ}(hstart:s.windowStartMs=some start)
  {f:Option ℕ→QueueMethod β}{Q:β→AdmissionTicketQueue→Prop}:
  Ends (if s.rateLimit<n then (some <$> retryAfter now) >>= f else pure none >>= f) s Q E ↔
   Ends (f (if s.rateLimit<n then some (start+s.windowMs-now) else none)) s Q E:=by
 split
 · simp only [ends_map,retryAfter,ends_bind,ends_get,hstart,ends_pure]
 · simp only [ends_bind,ends_pure]

/-- The bound that every retry hint within the contract gives. -/
def HintsWithin (now:ℕ) (s:AdmissionTicketQueue) (ids:List String) : Prop :=
 s.rateLimit<s.windowUsed+s.unitsOf ids →
  ∀start,s.windowStartMs=some start→start+s.windowMs≤now+maxAdmissionInteger

/-- The versions of the tickets `ids` can be raised `k` times. -/
def VersionsOf (ids : List String) (k : ℕ) (s : AdmissionTicketQueue) : Prop :=
 ∀ id t, id ∈ ids → s.tickets.get? id = some t → t.stateVersion + k ≤ maxAdmissionInteger

/-- A ticket at its place has used one version, the others have theirs as before. -/
lemma VersionsOf.placed {front rest : List String} (hnodup : (front ++ id :: rest).Nodup)
  (known : s.tickets.get? id = some t) (hversion : t'.stateVersion = t.stateVersion + 1)
  (hfront : VersionsOf front k s) (hback : VersionsOf (id :: rest) (k + 1) s) :
  VersionsOf (front ++ [id]) k (s.withTicket id t') ∧
   VersionsOf rest (k + 1) (s.withTicket id t') := by
 refine ⟨?_, ?_⟩
 · intro other u hother hu
   rw [AdmissionTicketQueue.withTicket, Dict.get?_set] at hu
   split at hu
   · have hlast:=hback id t mem_cons_self known
     cases hu
     omega
   · next hne =>
     rw [mem_append, mem_singleton] at hother
     exact hfront other u (hother.resolve_right hne) hu
 · intro other u hother hu
   have hne:other ≠ id:=by
    rintro rfl
    exact (nodup_cons.mp (nodup_append.mp hnodup).2.1).1 hother
   rw [AdmissionTicketQueue.withTicket, Dict.get?_set, if_neg hne] at hu
   exact hback other u (mem_cons_of_mem _ hother) hu

/-- While the units fit, every retry hint is within the contract. -/
lemma Fits.hint {extra units start : ℕ} (hfits : Fits now extra s)
  (hunits : units ≤ s.windowUsed + s.unitsOf s.pending + extra)
  (hstart : s.windowStartMs = some start)
  (hn : (if s.rateLimit < units then some (start + s.windowMs - now) else none) = some n) :
  Within n := by
 split at hn
 · cases hn
   unfold Within
   rcases hfits with hle | hend
   · omega
   · have hend':=hend start hstart
     omega
 · cases hn

/-- With room the constructor accepts the record of a ticket at its place. -/
lemma placed_accepted {front rest : List String} {start : ℕ} (hc : Consistent s)
  (hfits : Fits now 0 s) (place : s.pending = front ++ id :: rest)
  (known : s.tickets.get? id = some t) (hqueued : t.state = .queued)
  (hversion : t.stateVersion < maxAdmissionInteger) (hstart : s.windowStartMs = some start)
  (e : AdmissionError) :
  AdmissionTicket.new (t.placed (front.length + 1) (s.retryHint now front t.units)) ≠ .error e := by
 have hlength:(front ++ id :: rest).length ≤ s.maxPending:=place ▸ hc.pending_length
 have hmax:=(positiveInteger_of_check s.accepted).2.2.1
 have hpending:s.unitsOf s.pending = s.unitsOf front + (t.units + s.unitsOf rest):=by
  rw [place, unitsOf_append, unitsOf_cons known]
 have hretry:∀ n, s.retryHint now front t.units = some n → Within n:=by
  intro n hn
  rw [AdmissionTicketQueue.retryHint, hstart] at hn
  exact hfits.hint (by omega) hstart hn
 have hplace:Within (front.length + 1):=by
  rw [length_append, length_cons] at hlength
  unfold Within at *
  omega
 obtain ⟨t', ht', -⟩ :=
  (t.wellformed.placed hqueued hversion (Nat.succ_pos front.length) hplace hretry).new
 rw [ht']
 intro h
 cases h

lemma reindexLoop_ends (hq : Consistent q) (front ids : List String) {start : ℕ}
  (hs : Tidied now q s) (place : s.pending = front ++ ids)
  (hstart : s.windowStartMs = some start) (hhints : HintsWithin now s front)
  (hroom : roomy → VersionsOf front k s ∧ VersionsOf ids (k + 1) s) :
  Ends (reindexLoop now (front.length+1) (s.windowUsed+s.unitsOf front) ids) s
   (fun _ s'=>Tidied now q s'∧(roomy→Versions k s')∧Fits now 0 s'∧s'.pending=s.pending)
   (Stops now q (roomy∧Fits now 0 q)):=by
 induction ids generalizing s front with
 | nil=>
  rw [append_nil] at place
  rw [reindexLoop,ends_pure]
  refine ⟨hs,fun hroomy id t hmem=>(hroom hroomy).1 id t (place▸hmem),?_,rfl⟩
  by_cases hover:s.rateLimit<s.windowUsed+s.unitsOf front
  · exact .inr (hhints hover)
  · left
    rw [place]
    omega
 | cons id rest ih=>
  have hc:=hs.consistent hq
  have hmem:id∈s.pending:=by
   rw [place]
   simp
  obtain ⟨t,known,hqueued⟩:=(hc.pending_iff id).mp hmem
  -- the hint that the loop computes for this ticket
  have hhint:(if s.rateLimit<s.windowUsed+s.unitsOf front+t.units then
    some (start+s.windowMs-now) else none)=s.retryHint now front t.units:=by
   rw [AdmissionTicketQueue.retryHint,hstart]
   rfl
  have hnext:s.unitsOf (front++[id])=s.unitsOf front+t.units:=by
   rw [unitsOf_append,unitsOf_cons known]
   rfl
  have hwithin:(∀n,s.retryHint now front t.units=some n→Within n) →
    HintsWithin now s (front++[id]):=by
   intro hall hover start' hstart'
   rw [hstart] at hstart'
   cases hstart'
   rw [hnext,←Nat.add_assoc] at hover
   have hn:=hall (start+s.windowMs-now) (by rw [←hhint,if_pos hover])
   unfold Within at hn
   omega
  have hplace:s.pending=(front++[id])++rest:=by rw [place,append_assoc];rfl
  have hposition:(front++[id]).length+1=front.length+1+1:=by simp
  rw [reindexLoop]
  simp only [ends_bind,ends_ticketAt known,ends_get]
  rw [ends_hint hstart,hhint]
  split
  · next hchanged=>
    simp only [ends_bind,ends_accept,incrementAdmissionCounter_ok,ends_modify]
    refine ⟨?_,?_⟩
    · rintro _ ⟨hversion,rfl⟩
      refine ⟨?_,?_⟩
      · intro t' ht'
        have hplaced:t'.toTicketFields=t.placed (front.length+1) (s.retryHint now front t.units):=
         AdmissionTicket.new_ok.mp ht'
        have hmove:Tidied now q (s.withTicket id t'):=hs.tail (.reindex known place hplaced)
        have hunits:t'.units=t.units:=by rw [hplaced];rfl
        have hsame:∀ids,(s.withTicket id t').unitsOf ids=s.unitsOf ids:=by
         intro ids
         have hmoved:(s.moved id t' s.pending s.active s.windowUsed
           s.nextFencingToken).unitsOf ids=s.unitsOf ids:=
          unitsOf_moved_of_units known hunits ids
         exact hmoved
        have hused:(s.withTicket id t').windowUsed + (s.withTicket id t').unitsOf (front++[id]) =
           s.windowUsed+s.unitsOf front+t.units:=by
         rw [hsame,hnext,←Nat.add_assoc]
         rfl
        have hhints':HintsWithin now (s.withTicket id t') (front++[id]):=by
         have hbound:=hwithin fun n hn=>t'.wellformed.retryAfterMs n (by rw [hplaced];exact hn)
         intro hover
         rw [hsame] at hover
         exact hbound hover
        have hroom':=fun hroomy=>
         VersionsOf.placed (place▸hc.pending_nodup) known (by rw [hplaced];rfl)
          (hroom hroomy).1 (hroom hroomy).2
        have hloop:=ih (front++[id]) hmove (hplace:(s.withTicket id t').pending=_) hstart hhints'
         hroom'
        rw [hposition,hused] at hloop
        exact hloop
      · intro e he
        refine ⟨⟨e,rfl⟩,hs,?_⟩
        rintro ⟨-,hfits⟩
        exact placed_accepted hc (hs.fits hq hfits) place known hqueued hversion hstart e he
    · intro e he
      refine ⟨⟨e,rfl⟩,hs,?_⟩
      rintro ⟨hroomy,-⟩
      have hversion:=(hroom hroomy).2 id t mem_cons_self known
      have hok:incrementAdmissionCounter "state version" t.stateVersion =
        .ok (t.stateVersion+1):=incrementAdmissionCounter_ok.mpr ⟨by omega,rfl⟩
      rw [hok] at he
      cases he
  · next hsame=>
    rw [not_or,not_ne_iff,not_ne_iff] at hsame
    have hhints':=hwithin fun n hn=>t.wellformed.retryAfterMs n (hsame.2.trans hn)
    have hloop:=ih (front++[id]) hs hplace hstart hhints' (by
     intro hroomy
     obtain ⟨hfront,hback⟩:=hroom hroomy
     refine ⟨?_,fun other u hother=>hback other u (mem_cons_of_mem _ hother)⟩
     intro other u hother hu
     rw [mem_append,mem_singleton] at hother
     rcases hother with hother|rfl
     · exact hfront other u hother hu
     · have hlast:=hback other u mem_cons_self hu
       omega)
    rw [hposition,hnext,←Nat.add_assoc] at hloop
    simpa only [ends_bind,ends_pure] using hloop

lemma refreshed_started(now:ℕ)(s:AdmissionTicketQueue):
  ∃start,(s.refreshed now).windowStartMs=some start:=by
 unfold AdmissionTicketQueue.refreshed
 split
 · exact ⟨now,rfl⟩
 · next hkept=>
   cases hwindow:s.windowStartMs with
   | none=>simp [hwindow] at hkept
   | some start=>exact ⟨start,rfl⟩

lemma reindex_ends(hq:Consistent q)(hs:Tidied now q s)(hroom:roomy→Versions (k+1) s):
  Ends (reindex now) s
   (fun _ s'=>Tidied now q s'∧(roomy→Versions k s')∧Fits now 0 s'∧s'.pending=s.pending)
   (Stops now q (roomy∧Fits now 0 q)):=by
 have hmove:Tidied now q (s.refreshed now):=hs.tail (.refresh s)
 have hc:=hmove.consistent hq
 obtain ⟨-,htickets,-,hpending,-⟩:=refreshed_eq now s
 obtain ⟨start,hstart⟩:=refreshed_started now s
 simp only [reindex,ends_bind,ends_modify,ends_get]
 rw [←hpending]
 refine reindexLoop_ends hq [] (s.refreshed now).pending hmove rfl hstart ?_ ?_
 · intro hover
   have hle:=hc.windowUsed_le
   simp only [AdmissionTicketQueue.unitsOf,map_nil,sum_nil] at hover
   omega
 · intro hroomy
   refine ⟨fun id t hmem=>absurd hmem not_mem_nil,?_⟩
   intro id t hmem ht
   rw [hpending] at hmem
   rw [htickets] at ht
   exact hroom hroomy id t hmem ht

lemma promoteLoop_ends(hq:Consistent q)(ids:List String)(hs:Tidied now q s)
  (place:s.pending=ids)(hroom:roomy→Versions (k+1) s):
  Ends (promoteLoop now ids) s
   (fun _ s'=>Tidied now q s'∧(roomy→Versions (k+1) s'))
   (Stops now q (roomy∧Tokens 0 q)):=by
 induction ids generalizing s with
 | nil=>
  rw [promoteLoop,ends_pure]
  exact ⟨hs,hroom⟩
 | cons id rest ih=>
  have hc:=hs.consistent hq
  have hmem:id∈s.pending:=by
   rw [place]
   simp
  obtain ⟨t,known,hqueued⟩:=(hc.pending_iff id).mp hmem
  rw [promoteLoop]
  simp only [ends_bind,ends_get]
  split
  · rw [ends_pure]
    exact ⟨hs,hroom⟩
  · next hslot=>
    simp only [ends_bind,ends_ticketAt known]
    split
    · rw [ends_pure]
      exact ⟨hs,hroom⟩
    · next hissued=>
      split
      · rw [ends_pure]
        exact ⟨hs,hroom⟩
      · next hunits=>
        simp only [ends_bind,ends_accept,incrementAdmissionCounter_ok,ends_modify,ends_pure]
        refine ⟨?_,?_⟩
        · rintro _ ⟨hversion,rfl⟩
          refine ⟨?_,?_⟩
          · rintro _ ⟨htoken,rfl⟩
            refine ⟨?_,?_⟩
            · intro t' ht'
              have hpromoted:t'.toTicketFields=t.promoted s.nextFencingToken:=
               AdmissionTicket.new_ok.mp ht'
              have hmove:Tidied now q (s.moved id t' rest (insert id s.active)
                (s.windowUsed+t.units) (s.nextFencingToken+1)):=
               hs.tail (.promote known place (by omega) (by omega) (by omega) hpromoted)
              have hroom':roomy→Versions (k+1) (s.moved id t' rest (insert id s.active)
                (s.windowUsed+t.units) (s.nextFencingToken+1)):=by
               intro hroomy other u hother hu
               have hnodup:(id::rest).Nodup:=place▸hc.pending_nodup
               have hne:other≠id:=by
                rintro rfl
                exact (nodup_cons.mp hnodup).1 hother
               rw [get?_moved,if_neg hne] at hu
               exact hroom hroomy other u (place▸mem_cons_of_mem _ hother) hu
              have htail:s.pending.tail=rest:=by
               rw [place]
               rfl
              have hloop:=ih hmove rfl hroom'
              simp only [htail]
              exact hloop
            · intro e he
              exfalso
              obtain ⟨t',ht',-⟩:=(t.wellformed.promoted hqueued hversion
               hc.nextFencingToken_pos htoken.le).new
              have hnew:AdmissionTicket.new (t.promoted s.nextFencingToken)=.error e:=he
              rw [ht'] at hnew
              cases hnew
          · intro e he
            refine ⟨⟨e,rfl⟩,hs,?_⟩
            rintro ⟨-,htokens⟩
            have htokens':=hs.tokens htokens
            rw [Tokens,place,length_cons] at htokens'
            have hok:incrementAdmissionCounter "fencing token" s.nextFencingToken =
              .ok (s.nextFencingToken+1):=
             incrementAdmissionCounter_ok.mpr ⟨by omega,rfl⟩
            rw [hok] at he
            cases he
        · intro e he
          refine ⟨⟨e,rfl⟩,hs,?_⟩
          rintro ⟨hroomy,-⟩
          have hversion:=hroom hroomy id t hmem known
          have hok:incrementAdmissionCounter "state version" t.stateVersion =
            .ok (t.stateVersion+1):=incrementAdmissionCounter_ok.mpr ⟨by omega,rfl⟩
          rw [hok] at he
          cases he

lemma Versions.refreshed(h:Versions n s):Versions n (s.refreshed now):=by
 obtain ⟨-,htickets,-,hpending,-⟩:=refreshed_eq now s
 intro id t hmem ht
 rw [hpending] at hmem
 rw [htickets] at ht
 exact h id t hmem ht

lemma promoteLocked_ends(hq:Consistent q)(hs:Tidied now q s)(hroom:roomy→Versions (k+1) s):
  Ends (promoteLocked now) s
   (fun _ s'=>Tidied now q s'∧(roomy→Versions k s')∧Fits now 0 s')
   (Stops now q (roomy∧Tokens 0 q∧Fits now 0 q)):=by
 simp only [promoteLocked,ends_bind,ends_modify,ends_get,ends_pure]
 have hmove:Tidied now q (s.refreshed now):=hs.tail (.refresh s)
 refine (promoteLoop_ends hq (s.refreshed now).pending hmove rfl
  fun hroomy=>(hroom hroomy).refreshed).weaken ?_ ?_
 · rintro promoted s' ⟨hs',hroom'⟩
   exact (reindex_ends hq hs' hroom').weaken (fun _ _ h=>⟨h.1,h.2.1,h.2.2.1⟩) fun e _ h=>
    ⟨h.1,h.2.1,fun hall=>h.2.2 ⟨hall.1,hall.2.2⟩⟩
 · exact fun e _ h=>⟨h.1,h.2.1,fun hall=>h.2.2 ⟨hall.1,hall.2.1⟩⟩

lemma Versions.evicted(h:Versions n s)(known:s.tickets.get? id=some t)
  (ended:t.state.isTerminal=true):Versions n (s.evicted id):=by
 obtain ⟨-,hpending,-⟩:=evicted_eq known ended
 intro other u hmem hu
 rw [hpending] at hmem
 rw [get?_evicted known ended] at hu
 split at hu
 · cases hu
 · exact h other u hmem hu

def Kept (q:AdmissionTicketQueue) (t:AdmissionTicket) : Prop :=
 q.tickets.get? t.ticketId=some t∧t.state.isTerminal=true

lemma mem_terminal(hs:Consistent s)(u:AdmissionTicket):
  u∈s.tickets.values.filter (fun t=>t.state.isTerminal)↔Kept s u:=by
 rw [mem_filter,Dict.mem_values_iff,Kept]
 constructor
 · rintro ⟨⟨id,hu⟩,hend⟩
   exact ⟨(hs.ownId id u hu).symm▸hu,hend⟩
 · rintro ⟨hu,hend⟩
   exact ⟨⟨u.ticketId,hu⟩,hend⟩

lemma values_nodup(hs:Consistent s):s.tickets.values.Nodup:=by
 have hids:s.tickets.values.map (fun t=>t.ticketId)=s.tickets.items.map Prod.fst:=by
  rw [Dict.values,map_map]
  apply map_congr_left
  rintro ⟨id,t⟩ hitem
  exact hs.ownId id t ((Dict.get?_eq_some_iff _ _ _).mpr hitem)
 exact List.Nodup.of_map _ (hids▸s.tickets.nodup)

lemma kept_evicted(hk:Kept s t)(u:AdmissionTicket):Kept (s.evicted t.ticketId) u↔Kept s u∧u≠t:=by
 rw [Kept,get?_evicted hk.1 hk.2,Kept]
 constructor
 · rintro ⟨hu,hend⟩
   split at hu
   · cases hu
   · next hne=>exact ⟨⟨hu,hend⟩,fun heq=>hne (heq▸rfl)⟩
 · rintro ⟨⟨hu,hend⟩,hne⟩
   rw [if_neg]
   · exact ⟨hu,hend⟩
   · intro hid
     rw [hid,hk.1] at hu
     exact hne (Option.some.inj hu).symm

lemma evict_overflow(hq:Consistent q)(xs ys:List AdmissionTicket)(hs:Tidied now q s)
  (hnodup:(xs++ys).Nodup)(hkept:∀u,u∈xs++ys↔Kept s u)(hsorted:(xs++ys).Pairwise retentionOrder)
  (hmany:xs≠[]→s.maxTerminalTickets≤ys.length)(hroom:roomy→Versions k s):
  Tidied now q (xs.foldl (fun q t=>q.evicted t.ticketId) s) ∧
   (roomy→Versions k (xs.foldl (fun q t=>q.evicted t.ticketId) s)):=by
 induction xs generalizing s with
 | nil=>exact ⟨hs,hroom⟩
 | cons t xs ih=>
  have hc:=hs.consistent hq
  have hk:Kept s t:=(hkept t).mp (by simp)
  rw [cons_append,nodup_cons] at hnodup
  rw [cons_append,pairwise_cons] at hsorted
  have hsurplus:Surplus s t:=by
   refine ⟨?_,?_⟩
   · have hperm:(s.tickets.values.filter fun u=>u.state.isTerminal).Perm
       (t::(xs++ys)):=by
      refine (perm_ext_iff_of_nodup ((values_nodup hc).filter _)
       (nodup_cons.mpr hnodup)).mpr fun u=>?_
      rw [mem_terminal hc,←hkept,cons_append]
     have hle:=hmany (cons_ne_nil _ _)
     rw [hperm.length_eq,length_cons,length_append]
     omega
   · intro id u hu hend
     have hown:u∈t::xs++ys:=(hkept u).mpr ⟨(hc.ownId id u hu).symm▸hu,hend⟩
     rw [cons_append,mem_cons] at hown
     rcases hown with rfl|hown
     · exact le_refl _
     · exact hsorted.1 u hown
  have hmove:Tidied now q (s.evicted t.ticketId):=hs.tail (.evict hk.1 hk.2 (.inr hsurplus))
  refine ih hmove hnodup.2 ?_ hsorted.2 ?_ fun hroomy=>(hroom hroomy).evicted hk.1 hk.2
  · intro u
    rw [kept_evicted hk,←hkept,cons_append,mem_cons]
    constructor
    · intro hu
      exact ⟨.inr hu,fun heq=>hnodup.1 (heq▸hu)⟩
    · rintro ⟨rfl|hu,hne⟩
      · exact absurd rfl hne
      · exact hu
  · intro _
    rw [(evicted_eq hk.1 hk.2).1]
    exact hmany (cons_ne_nil _ _)

lemma evict_expired(xs:List AdmissionTicket)(hs:Tidied now q s)
  (hown:∀u∈xs,∀v,s.tickets.get? u.ticketId=some v→v=u)(hroom:roomy→Versions k s):
  Tidied now q (xs.foldl (AdmissionTicketQueue.evictRetained now) s) ∧
   (roomy→Versions k (xs.foldl (AdmissionTicketQueue.evictRetained now) s)) ∧
   (xs.foldl (AdmissionTicketQueue.evictRetained now) s).toQueueFields=s.toQueueFields ∧
   ∀id u,(xs.foldl (AdmissionTicketQueue.evictRetained now) s).tickets.get? id=some u →
    s.tickets.get? id=some u:=by
 induction xs generalizing s with
 | nil=>exact ⟨hs,hroom,rfl,fun _ _ hu=>hu⟩
 | cons t xs ih=>
  have hrest:=fun u hu=>hown u (mem_cons_of_mem t hu)
  rw [foldl_cons,AdmissionTicketQueue.evictRetained]
  split
  · next hdue=>
    cases hknown:s.tickets.get? t.ticketId with
    | none=>
     have hsame:s.evicted t.ticketId=s:=by rw [AdmissionTicketQueue.evicted,hknown]
     rw [hsame]
     exact ih hs hrest hroom
    | some v=>
     obtain rfl:=hown t mem_cons_self v hknown
     have hend:v.state.isTerminal=true:=by
      rw [AdmissionTicketQueue.terminalRetentionExpired,Bool.and_eq_true] at hdue
      exact hdue.1
     have hstill:∀id u,(s.evicted v.ticketId).tickets.get? id=some u→s.tickets.get? id=some u:=by
      intro id u hu
      rw [get?_evicted hknown hend] at hu
      split at hu
      · cases hu
      · exact hu
     obtain ⟨h1,h2,h3,h4⟩:=ih (hs.tail (.evict hknown hend (.inl hdue)))
      (fun u hu w hw=>hrest u hu w (hstill _ w hw))
      fun hroomy=>(hroom hroomy).evicted hknown hend
     exact ⟨h1,h2,h3.trans (evicted_eq hknown hend).1,fun id u hu=>hstill id u (h4 id u hu)⟩
  · exact ih hs hrest hroom

lemma retentionOrder_total(a b:AdmissionTicket):retentionOrder a b∨retentionOrder b a:=
 le_total _ _

lemma retentionOrder_trans{a b c:AdmissionTicket}(h:retentionOrder a b)
  (h':retentionOrder b c):retentionOrder a c:=
 le_trans h h'

instance : Std.Total retentionOrder := ⟨retentionOrder_total⟩

instance : IsTrans AdmissionTicket retentionOrder := ⟨fun _ _ _=>retentionOrder_trans⟩

lemma pruned_tidied(hq:Consistent q)(hs:Tidied now q s)(hroom:roomy→Versions k s):
  Tidied now q (s.pruned now)∧(roomy→Versions k (s.pruned now)):=by
 have hc:=hs.consistent hq
 have hperm:s.terminalTickets.Perm (s.tickets.values.filter fun t=>t.state.isTerminal):=
  perm_insertionSort retentionOrder _
 have hterminal:∀u,u∈s.terminalTickets↔Kept s u:=fun u=>by rw [hperm.mem_iff,mem_terminal hc]
 have hnodup:s.terminalTickets.Nodup:=hperm.nodup_iff.mpr ((values_nodup hc).filter _)
 have hsorted:s.terminalTickets.Pairwise retentionOrder:=pairwise_insertionSort retentionOrder _
 obtain ⟨htidied,hversions,hfields,hstill⟩:=evict_expired s.terminalTickets hs (by
  intro u hu v hv
  rw [((hterminal u).mp hu).1] at hv
  exact (Option.some.inj hv).symm) hroom
 rw [AdmissionTicketQueue.pruned]
 -- the tickets that are kept, split where the overflow ends
 generalize s.terminalTickets.foldl (AdmissionTicketQueue.evictRetained now) s=s' at *
 have hretained:∀u,u∈s.terminalTickets.filter (fun t=>
   (s'.tickets.get? t.ticketId).isSome)↔Kept s' u:=by
  intro u
  rw [mem_filter,hterminal,Option.isSome_iff_exists]
  constructor
  · rintro ⟨hk,v,hv⟩
    have heq:=hstill _ v hv
    rw [hk.1] at heq
    cases heq
    exact ⟨hv,hk.2⟩
  · intro hk
    exact ⟨⟨hstill _ u hk.1,hk.2⟩,u,hk.1⟩
 generalize hlist:s.terminalTickets.filter
  (fun t=>(s'.tickets.get? t.ticketId).isSome)=retained at *
 have hsublist:retained.Sublist s.terminalTickets:=hlist▸filter_sublist
 refine evict_overflow hq (retained.take (retained.length-s'.maxTerminalTickets))
  (retained.drop (retained.length-s'.maxTerminalTickets)) htidied ?_ ?_ ?_ ?_ hversions
 · rw [take_append_drop]
   exact hnodup.sublist hsublist
 · intro u
   rw [take_append_drop]
   exact hretained u
 · rw [take_append_drop]
   exact hsorted.sublist hsublist
 · intro hne
   rw [length_drop]
   have hpos:retained.length-s'.maxTerminalTickets≠0:=by
    intro hzero
    rw [hzero,take_zero] at hne
    exact hne rfl
   omega

lemma ends_leave{β:Type}(hc:Consistent s)(known:s.tickets.get? id=some t)
  {f:PUnit→QueueMethod β}{Q:β→AdmissionTicketQueue→Prop}:
  Ends (if t.state=.queued then removePending id >>= f
    else modify (fun q=>q.discardActive id) >>= f) s Q E ↔
   Ends (f ⟨⟩) { s with pending:=s.pending.erase id,active:=s.active.erase id } Q E:=by
 split
 · next hqueued=>
   have hmem:=hc.mem_pending known hqueued
   have hactive:s.active.erase id=s.active:=
    Finset.erase_eq_of_notMem (hc.notMem_active known (by simp [hqueued]))
   rw [hactive]
   simp only [removePending,ends_bind,ends_get,if_pos hmem,ends_modify]
 · next hqueued=>
   have hpending:s.pending.erase id=s.pending:=erase_of_not_mem (hc.notMem_pending known hqueued)
   rw [hpending]
   simp only [ends_bind,ends_modify,AdmissionTicketQueue.discardActive]

lemma expireLoop_ends(hq:Consistent q)(hnow:Within now)
  (items:List (String×AdmissionTicket))(hs:Tidied now q s)
  (hcurrent:∀item∈items,s.tickets.get? item.1=some item.2)
  (hnodup:(items.map Prod.fst).Nodup)
  (hothers:∀id t,s.tickets.get? id=some t→t.state.isTerminal=false →
   t.expiresAtMs≤now→(id,t)∈items)(hroom:roomy→Versions k s):
  Ends (expireLoop now items) s
   (fun _ s'=>Tidied now q s'∧(roomy→Versions k s')∧NotDue now s')
   (Stops now q False):=by
 induction items generalizing s with
 | nil=>
  rw [expireLoop,ends_pure]
  refine ⟨hs,hroom,fun id t ht hlive=>?_⟩
  by_contra hdue
  exact absurd (hothers id t ht hlive (by omega)) not_mem_nil
 | cons item rest ih=>
  obtain ⟨id,t⟩:=item
  have known:s.tickets.get? id=some t:=hcurrent (id,t) mem_cons_self
  have hc:=hs.consistent hq
  rw [map_cons,nodup_cons] at hnodup
  rw [expireLoop]
  split
  · next hskip=>
    apply ih hs (fun item hitem=>hcurrent item (mem_cons_of_mem _ hitem)) hnodup.2 _ hroom
    intro other u hu hlive hdue
    rcases mem_cons.mp (hothers other u hu hlive hdue) with heq|hmem
    · cases heq
      rcases hskip with hend|hlater
      · rw [hlive] at hend
        cases hend
      · omega
    · exact hmem
  · next hdue=>
    rw [not_or,Bool.not_eq_true,not_lt] at hdue
    obtain ⟨hlive,hdue⟩:=hdue
    simp only [ends_bind,ends_accept,incrementAdmissionCounter_ok]
    refine ⟨?_,fun e _=>⟨⟨e,rfl⟩,hs,fun h=>h⟩⟩
    rintro _ ⟨hversion,rfl⟩
    rw [ends_leave hc known]
    simp only [ends_accept,ends_modify,ends_bind,ends_pure]
    have hbegun:t.startedAtMs.getD t.issuedAtMs≤now:=by
     have hordered:=t.wellformed.ordered
     cases hstarted:t.startedAtMs with
     | none=>
      change t.issuedAtMs≤now
      omega
     | some started=>
      have hstart:=(t.wellformed.started started hstarted).2
      change started≤now
      omega
    have hwell:(t.ended .expired now).Wellformed:=
     t.wellformed.ended hversion rfl hnow hbegun (fun _=>hdue) fun h=>absurd rfl h
    obtain ⟨t',ht',hended⟩:=hwell.new
    have hnew:AdmissionTicket.new (t.ended .expired now)=.ok t':=ht'
    refine ⟨?_,?_⟩
    · intro u hu
      obtain rfl:t'=u:=by
       rw [show AdmissionTicket.new (t.ended .expired now)=.ok u from hu] at hnew
       cases hnew
       rfl
      have hmove:Tidied now q (s.moved id t' (s.pending.erase id) (s.active.erase id)
        s.windowUsed s.nextFencingToken):=hs.tail (.expire known hlive hdue hended)
      have hother:∀other u,other≠id →
        ((s.moved id t' (s.pending.erase id) (s.active.erase id) s.windowUsed
         s.nextFencingToken).tickets.get? other=some u↔s.tickets.get? other=some u):=by
       intro other u hne
       rw [get?_moved,if_neg hne]
      refine (ih hmove ?_ hnodup.2 ?_ ?_).weaken (fun _ _ h=>h) fun _ _ h=>h
      · intro item hitem
        have hne:item.1≠id:=by
         rintro rfl
         exact hnodup.1 (mem_map.mpr ⟨item,hitem,rfl⟩)
        exact (hother item.1 item.2 hne).mpr (hcurrent item (mem_cons_of_mem _ hitem))
      · intro other u hu hlive' hdue'
        by_cases hne:other=id
        · subst hne
          rw [get?_moved,if_pos rfl] at hu
          cases hu
          rw [hended] at hlive'
          cases hlive'
        · rcases mem_cons.mp (hothers other u ((hother other u hne).mp hu) hlive' hdue') with
           heq | hmem
          · cases heq
            exact absurd rfl hne
          · exact hmem
      · intro hroomy other u hmem hu
        have hmem':other∈s.pending.erase id:=hmem
        rw [hc.pending_nodup.mem_erase_iff] at hmem'
        exact hroom hroomy other u hmem'.2 ((hother other u hmem'.1).mp hu)
    · intro e he
      rw [show AdmissionTicket.new (t.ended .expired now)=.error e from he] at hnew
      cases hnew

lemma expireLocked_ends(hq:Consistent q)(hnow:Within now)(hs:Tidied now q s)
  (hroom:roomy→Versions (k+1) s):
  Ends (expireLocked now) s
   (fun _ s'=>Tidied now q s'∧(roomy→Versions k s')∧NotDue now s'∧Fits now 0 s')
   (Stops now q False):=by
 have hitems:∀id t,s.tickets.get? id=some t↔(id,t)∈s.tickets.items:=
  fun id t=>Dict.get?_eq_some_iff _ _ _
 simp only [expireLocked,ends_bind,ends_get,ends_modify,ends_pure]
 refine (expireLoop_ends hq hnow s.tickets.items hs
  (fun item hitem=>(hitems item.1 item.2).mpr hitem) s.tickets.nodup
  (fun id t ht _ _=>(hitems id t).mp ht) hroom).weaken ?_ fun _ _ h=>h
 rintro expired s₁ ⟨hs₁,hroom₁,hnotDue⟩
 refine (reindex_ends (Tidied.consistent hs₁ hq) .refl hroom₁).weaken ?_ ?_
 · rintro _ s₂ ⟨hs₂,hroom₂,hfits,-⟩
   have hc₁:=Tidied.consistent hs₁ hq
   have hc₂:=Tidied.consistent hs₂ hc₁
   obtain ⟨hprune,hroom₃⟩:=pruned_tidied hc₂ .refl hroom₂
   exact ⟨(hs₁.trans hs₂).trans hprune,hroom₃,
    hnotDue.carried (Tidied.carried (hs₂.trans hprune) hc₁),hprune.fits hc₂ hfits⟩
 · rintro e s₂ ⟨hadmission,hs₂,-⟩
   exact ⟨hadmission,hs₁.trans hs₂,fun h=>h⟩

end GraphBlocks.PythonAdmission
