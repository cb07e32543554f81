import GraphBlocks.ApplicationProtocol

namespace GraphBlocks.ApplicationProtocol
open RustStd ApplicationProtocolLog List Option

variable {events more:List ApplicationProtocolEvent}

def Denotes (events:List ApplicationProtocolEvent) (cursor:String) (position:ℕ) : Prop :=
 eventIndexForCursor events cursor=some position

variable {i j:ℕ}

lemma before_of_lt(order:events.Pairwise Before)(hij:i<j)(hj:j<events.length):
  Before events[i] events[j]:=
 pairwise_iff_getElem.mp order i j _ hj hij

lemma events_nodup(order:events.Pairwise Before):events.Nodup:=by
 refine order.imp ?_
 intro a b before same
 exact before.ids (congrArg (fun event=>event.metadata.eventId) same)

variable {cursor:String}

section
variable (order:events.Pairwise Before) (hi:i<events.length)
include order hi

lemma cursor_index(h:events[i].metadata.cursor=some cursor):
  events.findIdx? (fun event=>event.metadata.cursor==some cursor)=some i:=by
 rw [List.findIdx?_eq_some_iff_getElem]
 refine ⟨hi,by simp [h],?_⟩
 intro j hj
 simp only [beq_iff_eq]
 intro same
 exact (before_of_lt order hj hi).cursors cursor same h

lemma sequence_index:
  events.findIdx? (fun event=>
   toString event.metadata.sequence==toString events[i].metadata.sequence)=some i:=by
 rw [List.findIdx?_eq_some_iff_getElem]
 refine ⟨hi,by simp,?_⟩
 intro j hj
 simp only [beq_iff_eq]
 intro same
 have sequences:=(before_of_lt order hj hi).sequences
 have equal:=toString_nat_injective same
 omega

lemma denotes_of_cursor(h:events[i].metadata.cursor=some cursor):Denotes events cursor i:=by
 rw [Denotes,eventIndexForCursor,cursor_index order hi h]
 rfl

lemma denotes_cases:
  Denotes events (eventCursor events[i]) i ∨
   ∃j,∃hj : j<events.length,j≠i∧Denotes events (eventCursor events[i]) j ∧
    events[i].metadata.cursor=none ∧
    events[j].metadata.cursor=some (eventCursor events[i]):=by
 cases hcursor:events[i].metadata.cursor with
 | some cursor=>
  have self:eventCursor events[i]=cursor:=by simp [eventCursor,hcursor]
  rw [self]
  exact .inl (denotes_of_cursor order hi hcursor)
 | none=>
  have self:eventCursor events[i]=toString events[i].metadata.sequence:=by
   simp [eventCursor,hcursor]
  cases hfound:events.findIdx? fun event=>
    event.metadata.cursor==some (eventCursor events[i]) with
  | none=>
   left
   rw [Denotes,eventIndexForCursor,hfound,self,none_or]
   exact sequence_index order hi
  | some j=>
   obtain ⟨hj,carries,-⟩:=List.findIdx?_eq_some_iff_getElem.mp hfound
   have carries:events[j].metadata.cursor=some (eventCursor events[i]):=by simpa using carries
   right
   refine ⟨j,hj,?_,denotes_of_cursor order hj carries,rfl,carries⟩
   rintro rfl
   rw [hcursor] at carries
   cases carries

end

lemma denotes_carried(h:Denotes events cursor i):
  ∃hi : i<events.length,events[i].metadata.cursor=some cursor ∨
   (toString events[i].metadata.sequence=cursor ∧
    ∀event∈events,event.metadata.cursor≠some cursor):=by
 rw [Denotes,eventIndexForCursor,or_eq_some_iff] at h
 rcases h with h|⟨absent,h⟩
 · obtain ⟨hi,carries,-⟩:=List.findIdx?_eq_some_iff_getElem.mp h
   exact ⟨hi,.inl (by simpa using carries)⟩
 · obtain ⟨hi,same,-⟩:=List.findIdx?_eq_some_iff_getElem.mp h
   refine ⟨hi,.inr ⟨by simpa using same,?_⟩⟩
   intro event hevent
   have none:=List.findIdx?_eq_none_iff.mp absent event hevent
   simpa using none

lemma denotes_exists(order:events.Pairwise Before)(hi:i<events.length):
  ∃j,Denotes events (eventCursor events[i]) j∧j<events.length:=by
 rcases denotes_cases order hi with h|⟨j,hj,-,h,-⟩
 · exact ⟨i,h,hi⟩
 · exact ⟨j,h,hj⟩

lemma eventsAfter_of_denotes(h:Denotes events cursor i):
  eventsAfter events (some cursor)=events.drop (i+1):=by
 rw [Denotes] at h
 simp [eventsAfter,h]

variable {σ:Type} {retained:ℕ} {replayed:List ApplicationProtocolEvent} {live:Option String}
 {status:Option σ} {log:ApplicationProtocolLog} {limit:ℕ}

lemma attached_replay(h:log.attachToRunWithOptionalStatus (some cursor) limit retained status =
   .attached replayed live):
  ∃j,Denotes log.events cursor j∧replayed=(log.events.drop (j+1)).take limit ∧
   live=log.events.getLast?.map eventCursor:=by
 unfold attachToRunWithOptionalStatus at h
 split at h
 · next events hreplay=>
   cases h
   simp only [replayAfterRetained] at hreplay
   split at hreplay
   · next j hj=>
     split at hreplay
     · next within=>
       cases hreplay
       refine ⟨j,hj,?_,rfl⟩
       rw [drop_drop]
       congr 2
       omega
     · cases hreplay
   · cases hreplay
 · cases h

lemma drop_eq_drop(nodup:events.Nodup)(hi:i<events.length)(h:events[i]?=events[j]?):i=j:=by
 rw [List.getElem?_eq_getElem hi] at h
 obtain ⟨hj,same⟩:=List.getElem?_eq_some_iff.mp h.symm
 exact (nodup.getElem_inj_iff.mp same).symm

/--
The replay and what follows the live cursor are what follows the event of the
requested cursor: exactly when that cursor denotes its event and the live
cursor denotes the event at which the replay stops.
-/
lemma replay_meets_live(order:(events++more).Pairwise Before){k:ℕ}
  (hi:i<events.length)(requested:Denotes events (eventCursor events[i]) j){live:String}
  (lived:Denotes (events++more) live k):
  (events.drop (j+1)).take limit++(events++more).drop (k+1)=(events++more).drop (i+1) ↔
   j=i∧k=i+min limit (events.length-(i+1)):=by
 have orderEvents:events.Pairwise Before:=(pairwise_append.mp order).1
 obtain ⟨hk,kcarried⟩:=denotes_carried lived
 constructor
 · intro h
   have lengths:=congrArg List.length h
   simp only [length_append,length_take,length_drop] at lengths hk
   have hjlt:j<events.length:=(denotes_carried requested).1
   have same:j=i:=by
    by_contra other
    by_cases empty:limit=0∨events.length≤j+1
    · -- nothing is replayed, so the live cursor denotes the requested event itself
      have hki:k=i:=by rcases empty with rfl|full <;>omega
      subst hki
      rcases denotes_cases orderEvents hi with self|⟨j',hj',-,-,uncarried,carried⟩
      · exact other (some.inj (requested.symm.trans self))
      · rw [getElem_append_left hi] at kcarried
        rcases kcarried with carries|⟨sequence,absent⟩
        · rw [uncarried] at carries
          cases carries
        · have self:eventCursor events[k]=live:=by
           rw [←sequence]
           simp [eventCursor,uncarried]
          rw [self] at carried
          exact absent _ (mem_append_left _ (getElem_mem hj')) carried
    · -- the first replayed event is the one after the requested event
      push Not at empty
      have heads:=congrArg (fun l=>l[0]?) h
      rw [List.getElem?_append_left (by
       simp only [length_take,length_drop]
       omega)] at heads
      simp only [List.getElem?_take,List.getElem?_drop] at heads
      rw [if_pos (by omega),Nat.add_zero,Nat.add_zero,
       ← List.getElem?_append_left (by omega:j+1<events.length)] at heads
      have positions:=drop_eq_drop (events_nodup order)
       (by rw [length_append];omega) heads
      omega
   subst same
   refine ⟨rfl,?_⟩
   omega
 · rintro ⟨rfl,rfl⟩
   have grown:(events++more).drop (j+1)=events.drop (j+1)++more:=drop_append_of_le_length (by omega)
   have rest:(events++more).drop (j+min limit (events.length-(j+1))+1) =
     ((events++more).drop (j+1)).drop (min limit (events.length-(j+1))):=by
    rw [drop_drop]
    congr 1
    omega
   have replayed:(events.drop (j+1)).take limit =
     ((events++more).drop (j+1)).take (min limit (events.length-(j+1))):=by
    rw [grown,take_append_of_le_length (by rw [length_drop];omega),←length_drop,←take_eq_take_min]
   rw [rest,replayed,take_append_drop]

variable {position:ℕ} {event:ApplicationProtocolEvent}

/-- The cursor of an event leads back to it: the sequence of an event without a cursor is no
event's cursor. -/
def LeadsBack (events : List ApplicationProtocolEvent) (event : ApplicationProtocolEvent) : Prop :=
 event.metadata.cursor = none →
  ∀ other ∈ events, other.metadata.cursor ≠ some (toString event.metadata.sequence)

/-- The replay stops at the last event of the log, whose cursor leads back to it in the later
log, or at an earlier event that carries the sequence of the last one as its cursor. -/
def MeetsLive (log later : List ApplicationProtocolEvent) (position limit : ℕ) : Prop :=
 (∃ event, log[position]? = some event ∧ LeadsBack log event) ∧
  ∃ last, log.getLast? = some last ∧
   if log.length - (position + 1) ≤ limit then LeadsBack later last
   else last.metadata.cursor = none ∧ ∃ stop, later[position + limit]? = some stop ∧
    stop.metadata.cursor = some (toString last.metadata.sequence)

lemma leadsBack_iff (order : events.Pairwise Before) (hi : i < events.length) :
  Denotes events (eventCursor events[i]) i ↔ LeadsBack events events[i] := by
 constructor
 · intro h hnone other hother
   have self:eventCursor events[i]=toString events[i].metadata.sequence:=by
    simp [eventCursor,hnone]
   obtain ⟨_,carries|⟨-,none⟩⟩:=denotes_carried h
   · rw [hnone] at carries
     cases carries
   · rw [←self]
     exact none other hother
 · intro h
   rcases denotes_cases order hi with self|⟨j,hj,-,-,hnone,carries⟩
   · exact self
   · refine absurd ?_ (h hnone events[j] (getElem_mem hj))
     rw [carries]
     simp [eventCursor,hnone]

lemma denotes_other (order : events.Pairwise Before) (hi : i < events.length)
  (hj : j < events.length) (hij : j ≠ i) : Denotes events (eventCursor events[i]) j ↔
   events[i].metadata.cursor = none ∧
    events[j].metadata.cursor = some (toString events[i].metadata.sequence) := by
 constructor
 · intro h
   rcases denotes_cases order hi with self|⟨k,_,-,other,hnone,carries⟩
   · exact absurd (some.inj (h.symm.trans self)) hij
   · obtain rfl:=some.inj (h.symm.trans other)
     refine ⟨hnone,?_⟩
     rw [carries]
     simp [eventCursor,hnone]
 · rintro ⟨hnone,carries⟩
   refine denotes_of_cursor order hj ?_
   rw [carries]
   simp [eventCursor,hnone]

/-- When the replay and what follows the live cursor are what follows the requested event. -/
lemma attached_iff {later : ApplicationProtocolLog} (order : later.events.Pairwise Before)
  (grown : log.events <+: later.events)
  (hevent : log.events[position]? = some event)
  (attached : log.attachToRunWithOptionalStatus (some (eventCursor event)) limit retained status =
   .attached replayed live) :
  replayed ++ eventsAfter later.events live = later.events.drop (position + 1) ↔
   MeetsLive log.events later.events position limit := by
 obtain ⟨more,hmore⟩:=grown
 obtain ⟨hposition,rfl⟩:=List.getElem?_eq_some_iff.mp hevent
 obtain ⟨j,requested,rfl,rfl⟩:=attached_replay attached
 rw [←hmore] at order ⊢
 have orderLog:log.events.Pairwise Before:=(pairwise_append.mp order).1
 have hlast:log.events.length-1<log.events.length:=by omega
 have last:log.events.getLast?=some log.events[log.events.length-1]:=by
  rw [List.getLast?_eq_getElem?,List.getElem?_eq_getElem hlast]
 have hlater:log.events.length-1<(log.events++more).length:=by
  rw [length_append]
  omega
 have hkept:(log.events++more)[log.events.length-1]=log.events[log.events.length-1]:=
  getElem_append_left hlast
 obtain ⟨k,lived,-⟩:=denotes_exists order hlater
 rw [hkept] at lived
 rw [last,map_some,eventsAfter_of_denotes lived,replay_meets_live order hposition requested lived]
 have back:j=position ↔ LeadsBack log.events log.events[position]:=by
  rw [←leadsBack_iff orderLog hposition]
  exact ⟨fun h=>h ▸ requested,fun h=>some.inj (requested.symm.trans h)⟩
 have stops:∀stop,k=stop ↔
   Denotes (log.events++more) (eventCursor (log.events++more)[log.events.length-1]) stop:=by
  intro stop
  rw [hkept]
  exact ⟨fun h=>h ▸ lived,fun h=>some.inj (lived.symm.trans h)⟩
 rw [back,stops]
 simp only [MeetsLive,hevent,last,some.injEq,exists_eq_left']
 refine and_congr_right fun _=>?_
 split
 · have stop:position+min limit (log.events.length-(position+1))=log.events.length-1:=by omega
   rw [stop,leadsBack_iff order hlater,hkept]
 · have hstop:position+limit<(log.events++more).length:=by omega
   rw [Nat.min_eq_left (by omega),denotes_other order hlater hstop (by omega),hkept,
    List.getElem?_eq_getElem hstop]
   simp only [some.injEq,exists_eq_left']

/-- With cursors of their own, the replay must reach the last event. -/
lemma attached_iff_of_cursors {later : ApplicationProtocolLog}
  (order : later.events.Pairwise Before) (grown : log.events <+: later.events)
  (carried : ∀ event ∈ log.events, ∃ cursor, event.metadata.cursor = some cursor)
  (hevent : log.events[position]? = some event)
  (attached : log.attachToRunWithOptionalStatus (some (eventCursor event)) limit retained status =
   .attached replayed live) :
  replayed ++ eventsAfter later.events live = later.events.drop (position + 1) ↔
   log.events.length - (position + 1) ≤ limit := by
 rw [attached_iff order grown hevent attached]
 obtain ⟨hposition,-⟩:=List.getElem?_eq_some_iff.mp hevent
 have hlast:log.events.length-1<log.events.length:=by omega
 have last:log.events.getLast?=some log.events[log.events.length-1]:=by
  rw [List.getLast?_eq_getElem?,List.getElem?_eq_getElem hlast]
 obtain ⟨own,hown⟩:=carried event (List.mem_of_getElem? hevent)
 obtain ⟨lastOwn,hlastOwn⟩:=carried _ (getElem_mem hlast)
 simp [MeetsLive,LeadsBack,hevent,last,hown,hlastOwn]

/-- The pages of a client that asks on from the last event it got. -/
def page (log:ApplicationProtocolLog) (limit:ℕ) : ℕ→List ApplicationProtocolEvent
 | 0=>log.replayAfter none limit
 | n+1=>
  match (page log limit n).getLast? with
  | none=>[]
  | some last=>log.replayAfter (some (eventCursor last)) limit

def Enumerates (log:ApplicationProtocolLog) (limit:ℕ) : Prop :=
 ∃count,(List.range count).flatMap (page log limit)=log.events∧page log limit count=[]

def PageEnd (log:ApplicationProtocolLog) (limit position:ℕ) : Prop :=
 position<log.events.length∧(position+1=log.events.length∨limit ∣ position+1)

def Resumes (events:List ApplicationProtocolEvent) (position:ℕ) : Prop :=
 ∀event,events[position]?=some event→if isBlank (eventCursor event) then position+1=events.length
  else Denotes events (eventCursor event) position

section
variable {log:ApplicationProtocolLog} {limit:ℕ}

lemma page_zero:page log limit 0=log.events.take limit:=by simp [page,replayAfter,eventsAfter]

lemma page_slice(log:ApplicationProtocolLog)(limit n:ℕ):
  page log limit n=[] ∨ ∃start,page log limit n=(log.events.drop start).take limit:=by
 cases n with
 | zero=>exact .inr ⟨0,by rw [page_zero,drop_zero]⟩
 | succ n=>
  rw [page]
  split
  · exact .inl rfl
  · next last _=>
    unfold replayAfter
    split
    · exact .inl rfl
    · exact .inr ⟨_,rfl⟩

lemma page_after_empty{n:ℕ}(h:page log limit n=[]){m:ℕ}(hm:n≤ m):page log limit m=[]:=by
 induction m, hm using Nat.le_induction with
 | base=>exact h
 | succ m hm ih=>rw [page,ih,List.getLast?_nil]

/-- Every page is the next part of the log. -/
def InStep (log:ApplicationProtocolLog) (limit:ℕ) : Prop :=
 ∀n,page log limit n=(log.events.drop (n*limit)).take limit

lemma flatMap_pages{count:ℕ}(h:∀n<count,page log limit n=(log.events.drop (n*limit)).take limit):
  (List.range count).flatMap (page log limit)=log.events.take (count*limit):=by
 induction count with
 | zero=>simp
 | succ count ih=>
  rw [range_succ,flatMap_append,ih fun n hn=>h n (by omega),
   flatMap_singleton,h count (by omega),Nat.succ_mul,take_add]

lemma enumerates_of_inStep(positive:0<limit)(h:InStep log limit):Enumerates log limit:=by
 have covered:log.events.length≤log.events.length*limit:=Nat.le_mul_of_pos_right _ positive
 refine ⟨log.events.length,?_,?_⟩
 · rw [flatMap_pages fun n _=>h n,take_of_length_le covered]
 · rw [h,drop_of_length_le covered,take_nil]

lemma pages_from(log:ApplicationProtocolLog)(limit n:ℕ){count:ℕ}(hn:n<count):
  ∃rest,(List.range count).flatMap (page log limit) =
    (List.range n).flatMap (page log limit)++(page log limit n++rest) ∧
   (page log limit n=[]→ rest=[]):=by
 obtain ⟨r,rfl⟩:∃r,count=n+(r+1):=⟨count-(n+1),by omega⟩
 refine ⟨((List.range r).map fun m=>n+(m+1)).flatMap (page log limit),?_,?_⟩
 · rw [range_add,flatMap_append,range_succ_eq_map,map_cons,flatMap_cons,List.map_map]
   rfl
 · intro empty
   rw [flatMap_eq_nil_iff]
   intro m hm
   obtain ⟨k,-,rfl⟩:=List.mem_map.mp hm
   exact page_after_empty empty (by omega)

lemma inStep_of_enumerates(nodup:log.events.Nodup)(h:Enumerates log limit):InStep log limit:=by
 obtain ⟨count,whole,ended⟩:=h
 intro n
 induction n using Nat.strong_induction_on with
 | _ n ih=>
  have earlier:=flatMap_pages ih
  by_cases hn:n<count
  · -- the page is the next part of the whole
    obtain ⟨rest,split,onlyEmpty⟩:=pages_from log limit n hn
    rw [whole,earlier] at split
    have next:log.events.drop (n*limit)=page log limit n++rest:=by
     have same:log.events.take (n*limit)++log.events.drop (n*limit) =
       log.events.take (n*limit)++(page log limit n++rest):=by
      rw [take_append_drop,←split]
     exact append_cancel_left same
    by_cases empty:page log limit n=[]
    · rw [next,empty,onlyEmpty empty,append_nil,take_nil]
    · rcases page_slice log limit n with none|⟨start,slice⟩
      · exact absurd none empty
      · have heads:=congrArg (fun l=>l[0]?) next
        have nonempty:0<(page log limit n).length:=length_pos_of_ne_nil empty
        rw [List.getElem?_append_left nonempty,slice] at heads
        rw [slice,length_take,length_drop] at nonempty
        simp only [List.getElem?_take,List.getElem?_drop,Nat.add_zero] at heads
        rw [if_pos (by omega)] at heads
        have position:=drop_eq_drop nodup (by omega) heads.symm
        rw [slice,position]
  · -- no page is left, and nothing of the log
    have hpage:page log limit n=[]:=page_after_empty ended (by omega)
    have all:=flatMap_pages fun m (hm:m<count)=>ih m (by omega)
    have covered:log.events.length≤count*limit:=by
     rw [whole] at all
     have lengths:=congrArg List.length all
     rw [length_take] at lengths
     omega
    have monotone:count*limit≤n*limit:=Nat.mul_le_mul_right limit (by omega)
    rw [hpage,drop_of_length_le (by omega),take_nil]

lemma last_of_part(events:List ApplicationProtocolEvent){n:ℕ}(positive:0<limit)
  (within:n*limit<events.length):
  ((events.drop (n*limit)).take limit).getLast?=events[min ((n+1)*limit) events.length-1]?:=by
 have hnext:(n+1)*limit=n*limit+limit:=Nat.succ_mul n limit
 rw [List.getLast?_eq_getElem?,length_take,length_drop,List.getElem?_take,
  if_pos (by omega),List.getElem?_drop]
 congr 1
 omega

lemma pageEnd_position(positive:0<limit)(h:PageEnd log limit position):
  (position/limit)*limit<log.events.length ∧
   min ((position/limit+1)*limit) log.events.length-1=position:=by
 obtain ⟨hlt,hend⟩:=h
 have hdiv:=Nat.div_add_mod position limit
 have hmod:=Nat.mod_lt position positive
 have hcomm:limit*(position/limit)=(position/limit)*limit:=Nat.mul_comm _ _
 have hnext:(position/limit+1)*limit=(position/limit)*limit+limit:=Nat.succ_mul _ _
 refine ⟨by omega,?_⟩
 rcases hend with hlast|hfull
 · omega
 · obtain ⟨q,hq⟩:=hfull
   have hless:position/limit<q:=by
    have hproduct:limit*(position/limit)<limit*q:=by omega
    exact Nat.lt_of_mul_lt_mul_left hproduct
   have hmul:(position/limit+1)*limit≤q*limit:=Nat.mul_le_mul_right limit hless
   have hq':q*limit=limit*q:=Nat.mul_comm _ _
   omega

attribute [local irreducible] isBlank in
lemma inStep_iff(order:log.events.Pairwise Before)(positive:0<limit):
  InStep log limit ↔ ∀position,PageEnd log limit position→Resumes log.events position:=by
 constructor
 · intro inStep position pageEnd event hevent
   obtain ⟨within,hposition⟩:=pageEnd_position positive pageEnd
   have hnext:=inStep (position/limit+1)
   rw [page,inStep,last_of_part log.events positive within,hposition,hevent] at hnext
   simp only [replayAfter,any_some] at hnext
   have hlt:=pageEnd.1
   split
   · next blank=>
     rw [if_pos blank] at hnext
     have lengths:=congrArg List.length hnext
     simp only [length_nil,length_take,length_drop] at lengths
     omega
   · next nonblank=>
     obtain ⟨hlt',same⟩:=List.getElem?_eq_some_iff.mp hevent
     obtain ⟨j,denoted,hj⟩:=denotes_exists order hlt
     rw [same] at denoted
     rw [if_neg nonblank,eventsAfter_of_denotes denoted] at hnext
     have hjp:j=position:=by
      by_cases last:position+1=log.events.length
      · have lengths:=congrArg List.length hnext
        simp only [length_take,length_drop] at lengths
        omega
      · have heads:=congrArg (fun l=>l[0]?) hnext
        simp only [List.getElem?_take,if_pos positive,List.getElem?_drop,Nat.add_zero] at heads
        have:=drop_eq_drop (events_nodup order) (by omega) heads.symm
        omega
     rw [←hjp]
     exact denoted
 · intro resumes n
   induction n with
   | zero=>rw [page_zero,Nat.zero_mul,drop_zero]
   | succ n ih=>
    have hnext:(n+1)*limit=n*limit+limit:=Nat.succ_mul n limit
    rw [page,ih]
    by_cases within:n*limit<log.events.length
    · rw [last_of_part log.events positive within]
      have hposition:min ((n+1)*limit) log.events.length-1<log.events.length:=by omega
      rw [List.getElem?_eq_getElem hposition]
      have pageEnd:PageEnd log limit (min ((n+1)*limit) log.events.length-1):=by
       refine ⟨hposition,?_⟩
       by_cases full:(n+1)*limit≤log.events.length
       · right
         rw [Nat.min_eq_left full,Nat.sub_add_cancel (by omega)]
         exact Nat.dvd_mul_left limit (n+1)
       · left
         omega
      have leads:=resumes _ pageEnd _ (List.getElem?_eq_getElem hposition)
      simp only [replayAfter,any_some]
      split at leads
      · next blank=>rw [if_pos blank,drop_of_length_le (by omega),take_nil]
      · next nonblank=>
        rw [if_neg nonblank,eventsAfter_of_denotes leads,Nat.sub_add_cancel (by omega)]
        by_cases full:(n+1)*limit≤log.events.length
        · rw [Nat.min_eq_left full]
        · rw [drop_of_length_le (by omega),drop_of_length_le (by omega)]
    · rw [drop_of_length_le (by omega),drop_of_length_le (by omega),take_nil,List.getLast?_nil]

lemma enumerates_iff(order:log.events.Pairwise Before):
  Enumerates log limit↔(log.events=[]∨0<limit) ∧
   ∀position,PageEnd log limit position→Resumes log.events position:=by
 by_cases positive:0<limit
 · rw [←inStep_iff order positive]
   constructor
   · intro h
     exact ⟨.inr positive,inStep_of_enumerates (events_nodup order) h⟩
   · intro h
     exact enumerates_of_inStep positive h.2
 · obtain rfl:limit=0:=by omega
   have pages (n:ℕ):page log 0 n=[]:=by
    rcases page_slice log 0 n with h|⟨start,h⟩
    · exact h
    · rw [h,take_zero]
   constructor
   · rintro ⟨count,whole,-⟩
     have empty:log.events=[]:=by
      rw [←whole,flatMap_eq_nil_iff]
      intro n _
      exact pages n
     refine ⟨.inl empty,?_⟩
     intro position pageEnd
     rw [PageEnd,empty] at pageEnd
     exact absurd pageEnd.1 (Nat.not_lt_zero _)
   · rintro ⟨empty|absurd',-⟩
     · exact ⟨0,by simp [empty],pages 0⟩
     · omega

attribute [local irreducible] isBlank in
lemma enumerates_iff_of_cursors(order:log.events.Pairwise Before)
  (carried:∀event∈log.events,∃cursor,event.metadata.cursor=some cursor ∧
   isBlank cursor=false):Enumerates log limit↔log.events=[]∨0<limit:=by
 rw [enumerates_iff order]
 refine and_iff_left ?_
 rintro position ⟨hposition,-⟩ event hevent
 obtain ⟨-,rfl⟩:=List.getElem?_eq_some_iff.mp hevent
 obtain ⟨cursor,hcursor,unblank⟩:=carried _ (getElem_mem hposition)
 have self:eventCursor log.events[position]=cursor:=by simp [eventCursor,hcursor]
 rw [self,unblank]
 exact denotes_of_cursor order hposition hcursor
end

end GraphBlocks.ApplicationProtocol
