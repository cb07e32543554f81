import GraphBlocks.DurableSource

namespace GraphBlocks.DurableSource
open Std RustStd SourceEvents MachineRuns OrderedMap InMemoryDurableSource List Option
open ToolTerminals (invalidIdentity)

def Earlier (a b:SourceEvent) : Prop := compareCursor a.cursor b.cursor=.lt

lemma Earlier.trans{a b c:SourceEvent}(hab:Earlier a b)(hbc:Earlier b c):Earlier a c:=
 TransCmp.lt_trans hab hbc

lemma Earlier.irrefl(a:SourceEvent):¬Earlier a a:=by
 intro h
 have hself:compareCursor a.cursor a.cursor=.eq:=ReflCmp.compare_self
 rw [Earlier,hself] at h
 cases h

lemma sorted_sortByCursor(events:List SourceEvent):
  (sortByCursor events).Pairwise fun a b=>(compareCursor a.cursor b.cursor).isLE=true:=by
 have htotal:Std.Total fun a b:SourceEvent=>
   (compareCursor a.cursor b.cursor).isLE=true:=by
  constructor
  intro a b
  have hswap:compareCursor b.cursor a.cursor=(compareCursor a.cursor b.cursor).swap:=
   OrientedCmp.eq_swap
  rw [hswap]
  cases compareCursor a.cursor b.cursor <;>simp
 have htrans:IsTrans SourceEvent fun a b=>(compareCursor a.cursor b.cursor).isLE=true:=
  ⟨fun _ _ _ hab hbc=>TransCmp.isLE_trans hab hbc⟩
 exact pairwise_insertionSort _ events

/-- The loop of `new` after some of the sorted events. -/
structure Normalized (seen:List SourceEvent)
  (normalized:List SourceEvent×Option SourceCursor) : Prop where
 subset:∀event∈normalized.1,event∈seen
 strict:normalized.1.Pairwise Earlier
 complete:normalized.2=none → ∀event∈seen,event∈normalized.1

variable {event:SourceEvent}

lemma Normalized.event_added{seen:List SourceEvent}
  {normalized:List SourceEvent×Option SourceCursor}(h:Normalized seen normalized)
  (hle:∀earlier∈seen,(compareCursor earlier.cursor event.cursor).isLE=true):
  Normalized (seen++[event]) (normalizeEvent normalized event):=by
 obtain ⟨events,conflict⟩:=normalized
 obtain ⟨hsubset,hstrict,hcomplete⟩:=h
 have happend:(∀earlier∈events,Earlier earlier event) →
   Normalized (seen++[event]) (events++[event],conflict):=by
  intro hbefore
  refine ⟨?_,?_,?_⟩
  · intro e he
    rcases mem_append.mp he with he|he
    · exact mem_append_left _ (hsubset e he)
    · exact mem_append_right _ he
  · refine pairwise_append.mpr ⟨hstrict,pairwise_singleton _ _,?_⟩
    intro a ha b hb
    obtain rfl:=mem_singleton.mp hb
    exact hbefore a ha
  · intro hnone e he
    rcases mem_append.mp he with he|he
    · exact mem_append_left _ (hcomplete hnone e he)
    · exact mem_append_right _ he
 unfold normalizeEvent
 cases hlast:events.getLast? with
 | none=>
  obtain rfl:=List.getLast?_eq_none_iff.mp hlast
  exact happend (by simp)
 | some previous=>
  have hprevious:previous∈events:=mem_of_getLast? hlast
  simp only
  split
  · next hcursor=>
    refine ⟨fun e he=>mem_append_left _ (hsubset e he),hstrict,?_⟩
    intro hnone e he
    simp only at hnone
    split at hnone
    · cases hnone
    · next hsame=>
      rcases mem_append.mp he with he|he
      · exact hcomplete hnone e he
      · obtain rfl:=mem_singleton.mp he
        have heq:previous=e:=by
         by_contra hne
         exact hsame ⟨hne,hnone⟩
        exact heq▸hprevious
  · next hcursor=>
    apply happend
    have hlt:Earlier previous event:=by
     have hle:=hle previous (hsubset previous hprevious)
     unfold Earlier
     cases hcompare:compareCursor previous.cursor event.cursor with
     | lt=>rfl
     | eq=>exact absurd (LawfulEqCmp.eq_of_compare hcompare) hcursor
     | gt=>rw [hcompare] at hle;cases hle
    obtain ⟨before,rfl⟩:=List.getLast?_eq_some_iff.mp hlast
    intro earlier hearlier
    rcases mem_append.mp hearlier with hearlier|hearlier
    · exact ((pairwise_append.mp hstrict).2.2 earlier hearlier previous
       mem_cons_self).trans hlt
    · exact (mem_singleton.mp hearlier)▸hlt

lemma normalized_normalizeEvents(events:List SourceEvent):
  Normalized (sortByCursor events) (normalizeEvents events):=by
 have h:∀seen:List SourceEvent,
   (seen.Pairwise fun a b=>(compareCursor a.cursor b.cursor).isLE=true) →
    Normalized seen (seen.foldl normalizeEvent ([],none)):=by
  intro seen
  induction seen using List.reverseRecOn with
  | nil=>
   intro _
   exact ⟨fun _ h=>h,.nil,fun _ _ h=>h⟩
  | append_singleton seen event ih=>
   intro hsorted
   obtain ⟨hseen,-,hle⟩:=pairwise_append.mp hsorted
   rw [foldl_concat]
   exact (ih hseen).event_added fun earlier hearlier=>
    hle earlier hearlier event (mem_singleton.mpr rfl)
 exact h _ (sorted_sortByCursor events)

lemma strict_new(guarantee:DeliveryGuarantee)(events:List SourceEvent):
  (new guarantee events).events.Pairwise Earlier:=
 (normalized_normalizeEvents events).strict

variable {guarantee:DeliveryGuarantee} {events:List SourceEvent}

lemma mem_new(h:(new guarantee events).conflictingCursor=none)(event:SourceEvent):
  event∈(new guarantee events).events↔event∈events:=by
 have hn:=normalized_normalizeEvents events
 constructor
 · intro he
   exact (sortByCursor_perm events).mem_iff.mp (hn.subset event he)
 · intro he
   exact hn.complete h event ((sortByCursor_perm events).mem_iff.mpr he)

/-- A state of the source that starts as `source`. -/
structure Serves (source s:InMemoryDurableSource) : Prop where
 guarantee:s.guarantee=source.guarantee
 events:s.events=source.events
 knownStreams:s.knownStreams=source.knownStreams
 knownPartitions:s.knownPartitions=source.knownPartitions
 knownCursors:s.knownCursors=source.knownCursors
 conflictingCursor:s.conflictingCursor=source.conflictingCursor

variable {source s:InMemoryDurableSource}

lemma Serves.refl(source:InMemoryDurableSource):Serves source source:=⟨rfl,rfl,rfl,rfl,rfl,rfl⟩

lemma Serves.poll(h:Serves source s)(cursor:Option SourceCursor)(demand:ℕ):
  Serves source (s.poll cursor demand).2:=by
 unfold InMemoryDurableSource.poll
 split
 · exact h
 · exact ⟨h.guarantee,h.events,h.knownStreams,h.knownPartitions,h.knownCursors,h.conflictingCursor⟩

lemma Serves.commit(h:Serves source s)(cursor:SourceCursor):Serves source (s.commit cursor).2:=by
 unfold InMemoryDurableSource.commit
 split
 · exact h
 · exact ⟨h.guarantee,h.events,h.knownStreams,h.knownPartitions,h.knownCursors,h.conflictingCursor⟩

lemma Serves.step(h:Serves source s)(call:Call):Serves source (step s call).2:=by
 cases call with
 | poll cursor demand=>exact h.poll cursor demand
 | commit cursor=>exact h.commit cursor
 | pause=>exact ⟨h.1,h.2,h.3,h.4,h.5,h.6⟩
 | resume=>exact ⟨h.1,h.2,h.3,h.4,h.5,h.6⟩

lemma serves_run(source:InMemoryDurableSource)(calls:List Call):
  Serves source (execute DurableSource.step source calls):=
 execute_invariant DurableSource.step (Serves.refl source) (fun _ call h=>h.step call) calls

def inPartition (key:String×ℕ) (event:SourceEvent) : Bool := event.cursor.partitionKey=key

def above (committed:Option SourceCursor) (event:SourceEvent) : Bool :=
 committed.all fun cursor=>cursor.offset<event.cursor.offset

variable {demand:ℕ}

lemma pollEvents_ok{cursor:Option SourceCursor}(h:s.pollEvents cursor demand=.ok events):
  s.paused=false∧events=(s.events.filter (s.isPending cursor)).take demand:=by
 unfold pollEvents at h
 obtain ⟨_,hpaused,h⟩:=bind_ok.mp h
 obtain ⟨_,-,h⟩:=bind_ok.mp h
 obtain ⟨_,-,h⟩:=bind_ok.mp h
 refine ⟨?_,(Except.ok.inj h).symm⟩
 have:=ensure_ok.mp hpaused
 simpa using this

variable {batch:SourceBatch}

lemma events_of_new
  {watermark:Option Watermark}(h:SourceBatch.new guarantee events watermark demand=.ok batch):
  batch.events=events:=by
 unfold SourceBatch.new at h
 iterate 3 obtain ⟨-,-,h⟩:=bind_ok.mp h
 rw [←Except.ok.inj h]

lemma poll_ok{cursor:Option SourceCursor}(h:(s.poll cursor demand).1=.ok batch):
  s.paused=false∧batch.events=(s.events.filter (s.isPending cursor)).take demand:=by
 unfold InMemoryDurableSource.poll at h
 split at h
 · cases h
 · next events hevents=>
   obtain ⟨hpaused,rfl⟩:=pollEvents_ok hevents
   exact ⟨hpaused,events_of_new h⟩

def Keyed (s:InMemoryDurableSource) : Prop :=
 ∀(key:String×ℕ) (cursor:SourceCursor),s.committedCursors[key]?=some cursor→cursor.partitionKey=key

lemma Keyed.commit(h:Keyed s)(cursor:SourceCursor):Keyed (s.commit cursor).2:=by
 unfold InMemoryDurableSource.commit
 split
 · exact h
 · intro key c hc
   simp only [lookup_insert] at hc
   split at hc
   · next hkey=>rw [←some.inj hc,hkey]
   · exact h key c hc

lemma Keyed.step(h:Keyed s)(call:Call):Keyed (step s call).2:=by
 cases call with
 | poll cursor demand=>
  change Keyed (s.poll cursor demand).2
  unfold InMemoryDurableSource.poll
  split <;>exact h
 | commit cursor=>exact h.commit cursor
 | pause=>exact h
 | resume=>exact h

lemma keyed_new(guarantee:DeliveryGuarantee)(events:List SourceEvent):
  Keyed (new guarantee events):=by
 intro key cursor h
 simp [new] at h

lemma keyed_run(h:Keyed source)(calls:List Call):Keyed (execute DurableSource.step source calls):=
 execute_invariant DurableSource.step h (fun _ call h=>h.step call) calls

lemma compare_gt_iff{a b:SourceCursor}(h:a.partitionKey=b.partitionKey):
  (compareCursor a b == .gt)=decide (b.offset<a.offset):=by
 rw [SourceCursor.compare_of_partitionKey h,Bool.eq_iff_iff,beq_iff_eq,decide_eq_true_eq,
  Nat.compare_eq_gt]

lemma isPending_none(h:Keyed s)(event:SourceEvent):
  s.isPending none event=above s.committedCursors[event.cursor.partitionKey]? event:=by
 unfold isPending above replayCursor
 cases hc:s.committedCursors[event.cursor.partitionKey]? with
 | none=>rfl
 | some cursor=>exact compare_gt_iff (h _ _ hc).symm

lemma poll_none_prefix(h:Keyed s)(hpoll:(s.poll none demand).1=.ok batch)(key:String×ℕ):
  batch.events.filter (inPartition key) <+:
   s.events.filter fun event=>
    inPartition key event&&above s.committedCursors[key]? event:=by
 obtain ⟨-,hbatch⟩:=poll_ok hpoll
 have hfilter:s.events.filter (fun event=>
   inPartition key event&&above s.committedCursors[key]? event) =
    (s.events.filter (s.isPending none)).filter (inPartition key):=by
  rw [List.filter_filter]
  apply filter_congr
  intro event _
  rw [isPending_none h]
  cases hkey:inPartition key event with
  | false=>simp
  | true=>
   have heq:event.cursor.partitionKey=key:=of_decide_eq_true hkey
   rw [heq]
 rw [hfilter,hbatch]
 exact ( take_prefix demand _).filter _

variable {cursor:SourceCursor}

lemma checkCommit_ok{u:Unit}(h:s.checkCommit cursor=.ok u):
  ∀current,s.committedCursors[cursor.partitionKey]?=some current →
   compareCursor cursor current ≠ .lt:=by
 unfold checkCommit at h
 obtain ⟨_,-,h⟩:=bind_ok.mp h
 obtain ⟨_,-,h⟩:=bind_ok.mp h
 obtain ⟨_,hstale,-⟩:=bind_ok.mp h
 intro current hcurrent
 rw [checkStale,hcurrent] at hstale
 exact bne_iff_ne.mp (ensure_ok.mp hstale)

variable {key:String×ℕ}

lemma committed_step(hkeyed:Keyed s)(call:Call)(h:s.committedCursors[key]?=some cursor):
  ∃moved,(step s call).2.committedCursors[key]?=some moved∧cursor.offset≤ moved.offset:=by
 cases call with
 | poll replay demand=>
  refine ⟨cursor,?_,Nat.le_refl _⟩
  change (s.poll replay demand).2.committedCursors[key]?=some cursor
  unfold InMemoryDurableSource.poll
  split <;>exact h
 | commit committed=>
  change ∃moved,(s.commit committed).2.committedCursors[key]?=some moved∧_
  unfold InMemoryDurableSource.commit
  split
  · exact ⟨cursor,h,Nat.le_refl _⟩
  · next hcheck=>
    simp only [lookup_insert]
    split
    · next hkey=>
      subst hkey
      have hnot:=checkCommit_ok hcheck cursor h
      rw [SourceCursor.compare_of_partitionKey (hkeyed _ _ h).symm,ne_eq,Nat.compare_eq_lt,
       Nat.not_lt] at hnot
      exact ⟨committed,rfl,hnot⟩
    · exact ⟨cursor,h,Nat.le_refl _⟩
 | pause=>exact ⟨cursor,h,Nat.le_refl _⟩
 | resume=>exact ⟨cursor,h,Nat.le_refl _⟩

def ValidStreams (events:List SourceEvent) : Prop :=
 ∀event∈events,invalidIdentity event.cursor.stream=false

lemma validateEvents_ok:
  (events.forM fun event=>validateSourceCursor event.cursor)=.ok () ↔ ValidStreams events:=by
 induction events with
 | nil=>exact ⟨fun _ e he=>absurd he not_mem_nil,fun _=>rfl⟩
 | cons event events ih=>
  have hevent:validateSourceCursor event.cursor=.ok () ↔
    invalidIdentity event.cursor.stream=false:=by
   simp [validateSourceCursor]
  constructor
  · intro hok
    obtain ⟨_,hhead,htail⟩:=bind_ok.mp hok
    intro e he
    rcases mem_cons.mp he with rfl|he
    · exact hevent.mp hhead
    · exact ih.mp htail e he
  · intro h
    have htail:=ih.mpr fun e he=>h e (mem_cons_of_mem _ he)
    exact bind_ok.mpr ⟨(),hevent.mpr (h event mem_cons_self),htail⟩

lemma batch_of_valid
  (hvalid:ValidStreams events)(watermark:Option Watermark)(hlength:events.length≤demand):
  SourceBatch.new guarantee events watermark demand =
   if demand=0 then .error .invalidDemand else .ok ⟨guarantee,events,watermark⟩:=by
 unfold SourceBatch.new
 by_cases hdemand:demand=0
 · subst hdemand
   rfl
 · have hensure:ensure (demand != 0) DurableError.invalidDemand=.ok ():=
    ensure_ok.mpr (by simpa using hdemand)
   have hdecide:ensure (decide (events.length≤demand))
     (DurableError.demandExceeded demand events.length)=.ok ():=
    ensure_ok.mpr (by simpa using hlength)
   simp only [hensure,validateEvents_ok.mpr hvalid,hdecide,ok_bind,if_neg hdemand]
   rfl

lemma poll_error(hvalid:ValidStreams s.events){cursor:Option SourceCursor}{error:DurableError}
  (h:(s.poll cursor demand).1=.error error):(s.poll cursor demand).2=s:=by
 unfold InMemoryDurableSource.poll at h ⊢
 split
 · rfl
 · next events hevents=>
   simp only [hevents] at h
   obtain ⟨-,hbatch⟩:=pollEvents_ok hevents
   have hsub:ValidStreams events:=by
    intro event he
    rw [hbatch] at he
    exact hvalid event (mem_filter.mp (mem_of_mem_take he)).1
   have hlength:events.length≤demand:=by
    rw [hbatch]
    exact length_take_le _ _
   rw [batch_of_valid hsub _ hlength] at h
   split at h
   · next hzero=>
     obtain rfl:events=[]:=eq_nil_of_length_eq_zero (by omega)
     have hsame:s.nextWatermark (batchWatermark [])=s.emittedWatermarkUnixMs:=by
      cases hw:s.emittedWatermarkUnixMs <;>simp [nextWatermark,batchWatermark,hw]
     simp only [hsame]
   · cases h

lemma commit_error{error:DurableError}
  (h:(s.commit cursor).1=.error error):(s.commit cursor).2=s:=by
 unfold InMemoryDurableSource.commit at h ⊢
 split
 · rfl
 · next hcheck=>
   rw [hcheck] at h
   cases h

def lastIn (key:String×ℕ) (events:List SourceEvent) : Option SourceCursor :=
 ((events.filter (inPartition key)).getLast?).map SourceEvent.cursor

lemma lastIn_append(key:String×ℕ)(xs ys:List SourceEvent):
  lastIn key (xs++ys)=(lastIn key ys).or (lastIn key xs):=by
 unfold lastIn
 rw [filter_append,List.getLast?_append]
 cases (ys.filter (inPartition key)).getLast? <;>simp

lemma lastIn_eq_some(h:lastIn key events=some cursor):
  ∃event∈events,event.cursor=cursor∧cursor.partitionKey=key:=by
 obtain ⟨event,hlast,rfl⟩:=map_eq_some_iff.mp h
 obtain ⟨hmem,hkey⟩:=mem_filter.mp (mem_of_getLast? hlast)
 exact ⟨event,hmem,rfl,of_decide_eq_true hkey⟩

lemma lastIn_cons(key:String×ℕ)(event:SourceEvent)(events:List SourceEvent):
  lastIn key (event::events)=(lastIn key events).or
    (if event.cursor.partitionKey=key then some event.cursor else none):=by
 rw [←singleton_append,lastIn_append]
 congr 1
 by_cases hkey:event.cursor.partitionKey=key <;>simp [lastIn,inPartition,hkey]

lemma lastIn_eq_none:lastIn key events=none ↔ ∀event∈events,event.cursor.partitionKey≠key:=by
 unfold lastIn
 simp [inPartition]

lemma mem_lastCursors:cursor∈lastCursors events↔lastIn cursor.partitionKey events=some cursor:=by
 induction events with
 | nil=>simp [lastCursors,lastIn]
 | cons event events ih=>
  rw [lastCursors,lastIn_cons]
  split
  · next hlater=>
    rw [ih]
    cases hlast:lastIn cursor.partitionKey events with
    | some last=>simp
    | none=>
     rw [lastIn_eq_none] at hlast
     have hne:event.cursor.partitionKey≠cursor.partitionKey:=by
      intro heq
      obtain ⟨later,hmem,hkey⟩:=List.any_eq_true.mp hlater
      exact hlast later hmem ((of_decide_eq_true hkey).trans heq)
     simp [hne]
  · next hlater=>
    have hnone:lastIn event.cursor.partitionKey events=none:=by
     rw [lastIn_eq_none]
     intro later hmem heq
     exact hlater (List.any_eq_true.mpr ⟨later,hmem,decide_eq_true heq⟩)
    rw [mem_cons,ih]
    by_cases heq:event.cursor.partitionKey=cursor.partitionKey
    · rw [←heq,hnone]
      simp [eq_comm]
    · have hne:cursor≠event.cursor:=fun h=>heq (h▸rfl)
      simp [heq,hne]

lemma pairwise_lastCursors(events:List SourceEvent):
  (lastCursors events).Pairwise fun a b=>a.partitionKey≠b.partitionKey:=by
 induction events with
 | nil=>exact .nil
 | cons event events ih=>
  rw [lastCursors]
  split
  · exact ih
  · next hlater=>
    refine pairwise_cons.mpr ⟨?_,ih⟩
    intro cursor hcursor heq
    obtain ⟨later,hmem,rfl,-⟩:=lastIn_eq_some (mem_lastCursors.mp hcursor)
    exact hlater (List.any_eq_true.mpr ⟨later,hmem,decide_eq_true heq.symm⟩)

/-- A state of a new source without conflicts whose streams are valid. -/
structure Sound (guarantee:DeliveryGuarantee) (events:List SourceEvent)
  (s:InMemoryDurableSource) : Prop where
 serves:Serves (new guarantee events) s
 keyed:Keyed s
 agreed:(new guarantee events).conflictingCursor=none
 valid:ValidStreams (new guarantee events).events

variable {guarantee:DeliveryGuarantee} {events:List SourceEvent}

lemma Sound.commit(h:Sound guarantee events s)(cursor:SourceCursor):
  Sound guarantee events (s.commit cursor).2:=
 ⟨h.serves.commit cursor,h.keyed.commit cursor,h.agreed,h.valid⟩

lemma Sound.commit_ok(h:Sound guarantee events s)(hmem:event∈(new guarantee events).events)
  (hfresh:∀current,s.committedCursors[event.cursor.partitionKey]?=some current →
   compareCursor event.cursor current ≠ .lt):
  (s.commit event.cursor).2 =
   { s with committedCursors :=
      s.committedCursors.insert event.cursor.partitionKey event.cursor }:=by
 have hconflict:s.checkConflict=.ok ():=by simp [checkConflict,h.serves.conflictingCursor,h.agreed]
 have hstream:validateSourceCursor event.cursor=.ok ():=by
  simp [validateSourceCursor,h.valid event hmem]
 have hknown:event.cursor.stream∈s.knownStreams:=by
  rw [h.serves.knownStreams]
  exact List.mem_map.mpr ⟨event,hmem,rfl⟩
 have hpart:event.cursor.partitionKey∈s.knownPartitions:=by
  rw [h.serves.knownPartitions]
  exact List.mem_map.mpr ⟨event,hmem,rfl⟩
 have hcursor:event.cursor∈s.knownCursors:=by
  rw [h.serves.knownCursors]
  exact List.mem_map.mpr ⟨event,hmem,rfl⟩
 have hpartition:s.validateCursorPartition event.cursor=.ok ():=by
  simp [validateCursorPartition,hstream,ensure,hknown,hpart,ok_bind]
 have hvalidate:s.validateCursor event.cursor=.ok ():=by
  simp [validateCursor,hpartition,ensure,hcursor,ok_bind]
 have hstale:s.checkStale event.cursor=.ok ():=by
  unfold checkStale
  cases hc:s.committedCursors[event.cursor.partitionKey]? with
  | none=>rfl
  | some current=>exact ensure_ok.mpr (bne_iff_ne.mpr (hfresh current hc))
 have hcheck:s.checkCommit event.cursor=.ok ():=by
  simp only [checkCommit,hconflict,hpartition,hstale,hvalidate,ok_bind]
 simp [InMemoryDurableSource.commit,hcheck]

lemma paused_commitAll(cursors:List SourceCursor)(s:InMemoryDurableSource):
  (commitAll s cursors).paused=s.paused:=by
 induction cursors generalizing s with
 | nil=>rfl
 | cons cursor cursors ih=>
  change (commitAll (s.commit cursor).2 cursors).paused=s.paused
  rw [ih]
  unfold InMemoryDurableSource.commit
  split <;>rfl

lemma Sound.commitAll(cursors:List SourceCursor)(h:Sound guarantee events s)
  (hkeys:cursors.Pairwise fun a b=>a.partitionKey≠b.partitionKey)
  (hknown:∀cursor∈cursors,∃event∈(new guarantee events).events,event.cursor=cursor)
  (hfresh:∀cursor∈cursors,∀current,s.committedCursors[cursor.partitionKey]?=some current →
    compareCursor cursor current ≠ .lt):
  Sound guarantee events (commitAll s cursors) ∧
   (∀cursor∈cursors,(commitAll s cursors).committedCursors[cursor.partitionKey]?=some cursor) ∧
   ∀key : String×ℕ,(∀cursor∈cursors,cursor.partitionKey≠key) →
    (commitAll s cursors).committedCursors[key]?=s.committedCursors[key]?:=by
 induction cursors generalizing s with
 | nil=>exact ⟨h,by simp,fun _ _=>rfl⟩
 | cons cursor cursors ih=>
  obtain ⟨hhead,htail⟩:=pairwise_cons.mp hkeys
  obtain ⟨event,hmem,rfl⟩:=hknown cursor mem_cons_self
  have hcommit:=h.commit_ok hmem (hfresh event.cursor mem_cons_self)
  have hlookup:∀key:String×ℕ,(s.commit event.cursor).2.committedCursors[key]? =
    if event.cursor.partitionKey=key then some event.cursor
    else s.committedCursors[key]? := by
   intro key
   rw [hcommit]
   exact lookup_insert _ _ _ _
  obtain ⟨hsound,hmoved,hkept⟩:=ih (h.commit event.cursor) htail
   (fun c hc=>hknown c (mem_cons_of_mem _ hc))
   (fun c hc current hcurrent=>by
    rw [hlookup,if_neg (hhead c hc)] at hcurrent
    exact hfresh c (mem_cons_of_mem _ hc) current hcurrent)
  refine ⟨hsound,?_,?_⟩
  · intro c hc
    rcases mem_cons.mp hc with rfl|hc
    · change (DurableSource.commitAll (s.commit event.cursor).2
       cursors).committedCursors[event.cursor.partitionKey]?=some event.cursor
      rw [hkept _ (fun c hc=>Ne.symm (hhead c hc)),hlookup,if_pos rfl]
    · exact hmoved c hc
  · intro key hkey
    change (DurableSource.commitAll (s.commit event.cursor).2 cursors).committedCursors[key]?=_
    rw [hkept key (fun c hc=>hkey c (mem_cons_of_mem _ hc)),hlookup,if_neg (hkey _ mem_cons_self)]

structure Delivering (guarantee:DeliveryGuarantee) (events:List SourceEvent) (c:Consumer)
  (n:ℕ) : Prop where
 sound:Sound guarantee events c.source
 delivered:c.delivered=(new guarantee events).events.take n
 committed:∀key : String×ℕ,c.source.committedCursors[key]? =
  lastIn key ((new guarantee events).events.take n)

variable {c:Consumer} {n:ℕ}

lemma earlier_split(guarantee:DeliveryGuarantee)(events:List SourceEvent)(n:ℕ)
  {a b:SourceEvent}(ha:a∈(new guarantee events).events.take n)
  (hb:b∈(new guarantee events).events.drop n):Earlier a b:=by
 have hstrict:=strict_new guarantee events
 rw [←take_append_drop n (new guarantee events).events] at hstrict
 exact (pairwise_append.mp hstrict).2.2 a ha b hb

lemma le_lastIn{l:List SourceEvent}(hstrict:l.Pairwise Earlier)(hlast:lastIn key l=some cursor)
  (hmem:event∈l)(hkey:event.cursor.partitionKey=key):event.cursor.offset≤cursor.offset:=by
 obtain ⟨last,hget,rfl⟩:=map_eq_some_iff.mp hlast
 obtain ⟨-,hlastKey⟩:=mem_filter.mp (mem_of_getLast? hget)
 have hlastKey:last.cursor.partitionKey=key:=of_decide_eq_true hlastKey
 have hin:event∈l.filter (inPartition key):=mem_filter.mpr ⟨hmem,decide_eq_true hkey⟩
 have hsorted:(l.filter (inPartition key)).Pairwise Earlier:=hstrict.filter _
 obtain ⟨before,hbefore⟩:=List.getLast?_eq_some_iff.mp hget
 rw [hbefore] at hin hsorted
 rcases mem_append.mp hin with hin|hin
 · have hearlier:Earlier event last:=(pairwise_append.mp hsorted).2.2 event hin last mem_cons_self
   rw [Earlier,SourceCursor.compare_of_partitionKey (hkey.trans hlastKey.symm),
    Nat.compare_eq_lt] at hearlier
   exact hearlier.le
 · rw [mem_singleton.mp hin]

lemma Delivering.pending(h:Delivering guarantee events c n):
  c.source.events.filter (c.source.isPending none)=(new guarantee events).events.drop n:=by
 have hstrict:=strict_new guarantee events
 rw [h.sound.serves.events]
 conv_lhs=>rw [←take_append_drop n (new guarantee events).events]
 rw [filter_append]
 have htaken:((new guarantee events).events.take n).filter (c.source.isPending none)=[]:=by
  apply filter_eq_nil_iff.mpr
  intro event hevent hpending
  rw [isPending_none h.sound.keyed,h.committed] at hpending
  cases hlast:lastIn event.cursor.partitionKey ((new guarantee events).events.take n) with
  | none=>exact lastIn_eq_none.mp hlast event hevent rfl
  | some cursor=>
   have hle:=le_lastIn (hstrict.sublist (take_sublist _ _)) hlast hevent rfl
   rw [hlast] at hpending
   have hlt:cursor.offset<event.cursor.offset:=of_decide_eq_true hpending
   omega
 have hrest:((new guarantee events).events.drop n).filter (c.source.isPending none) =
   (new guarantee events).events.drop n:=by
  apply filter_eq_self.mpr
  intro event hevent
  rw [isPending_none h.sound.keyed,h.committed]
  cases hlast:lastIn event.cursor.partitionKey ((new guarantee events).events.take n) with
  | none=>rfl
  | some cursor=>
   obtain ⟨last,hmem,rfl,hkey⟩:=lastIn_eq_some hlast
   have hearlier:=earlier_split guarantee events n hmem hevent
   rw [Earlier,SourceCursor.compare_of_partitionKey hkey,Nat.compare_eq_lt] at hearlier
   exact decide_eq_true hearlier
 rw [htaken,hrest,nil_append]

lemma Delivering.poll(h:Delivering guarantee events c n)(demand:ℕ):
  Delivering guarantee events (consumerStep c (.poll demand))
    (n+if c.source.paused then 0 else demand) ∧
   (consumerStep c (.poll demand)).source.paused=c.source.paused:=by
 cases hpaused:c.source.paused with
 | true=>
  have hpoll:c.source.poll none demand=(.error .sourcePaused,c.source):=by
   simp [InMemoryDurableSource.poll,pollEvents,hpaused,ensure,error_bind]
  simp only [consumerStep,hpoll]
  exact ⟨h,hpaused⟩
 | false=>
  have hconflict:c.source.checkConflict=.ok ():=by
   simp [checkConflict,h.sound.serves.conflictingCursor,h.sound.agreed]
  have hevents:c.source.pollEvents none demand =
    .ok (((new guarantee events).events.drop n).take demand):=by
   simp [pollEvents,hpaused,ensure,hconflict,ok_bind,h.pending]
  have hvalid:ValidStreams (((new guarantee events).events.drop n).take demand):=by
   intro event hevent
   exact h.sound.valid event (mem_of_mem_drop (mem_of_mem_take hevent))
  have hserves:=h.sound.serves.poll none demand
  simp only [consumerStep,InMemoryDurableSource.poll,hevents] at hserves ⊢
  rw [batch_of_valid hvalid _ (length_take_le _ _)]
  by_cases hzero:demand=0
  · subst hzero
    rw [if_pos rfl]
    exact ⟨⟨⟨hserves,h.sound.keyed,h.sound.agreed,h.sound.valid⟩,h.delivered,h.committed⟩,hpaused⟩
  · rw [if_neg hzero]
    have hbatch:∀cursor∈lastCursors (((new guarantee events).events.drop n).take demand),
      ∃event∈(new guarantee events).events.drop n,event.cursor=cursor:=by
     intro cursor hcursor
     obtain ⟨event,hmem,rfl,-⟩:=lastIn_eq_some (mem_lastCursors.mp hcursor)
     exact ⟨event,mem_of_mem_take hmem,rfl⟩
    have hpolled:Sound guarantee events _:=⟨hserves,h.sound.keyed,h.sound.agreed,h.sound.valid⟩
    obtain ⟨hsound,hmoved,hkept⟩:=Sound.commitAll
     (lastCursors (((new guarantee events).events.drop n).take demand)) hpolled
     (pairwise_lastCursors _)
     (fun cursor hcursor=>by
      obtain ⟨event,hmem,rfl⟩:=hbatch cursor hcursor
      exact ⟨event,mem_of_mem_drop hmem,rfl⟩)
     (fun cursor hcursor current hcurrent=>by
      obtain ⟨event,hmem,rfl⟩:=hbatch cursor hcursor
      have hlast:=(h.committed _).symm.trans hcurrent
      obtain ⟨last,hlastMem,rfl,hkey⟩:=lastIn_eq_some hlast
      have hearlier:=earlier_split guarantee events n hlastMem hmem
      exact fun hlt=>Earlier.irrefl last (Earlier.trans hearlier hlt))
    refine ⟨⟨hsound,?_,?_⟩,(paused_commitAll _ _).trans hpaused⟩
    · simp only [h.delivered,take_add,Bool.false_eq_true,↓reduceIte]
    · intro key
      simp only [take_add,Bool.false_eq_true,↓reduceIte]
      rw [lastIn_append]
      cases hlast:lastIn key (((new guarantee events).events.drop n).take demand) with
      | some cursor=>
       obtain ⟨-,-,-,hkey⟩:=lastIn_eq_some hlast
       subst hkey
       exact hmoved cursor (mem_lastCursors.mpr hlast)
      | none=>
       rw [none_or]
       refine (hkept key ?_).trans (h.committed key)
       intro cursor hcursor hkey
       have hsome:=mem_lastCursors.mp hcursor
       rw [hkey,hlast] at hsome
       cases hsome

lemma delivering_steps(h:Delivering guarantee events c n)(steps:List ConsumerStep):
  (steps.foldl consumerStep c).delivered =
   (new guarantee events).events.take (n+demanded c.source.paused steps):=by
 induction steps generalizing c n with
 | nil=>exact h.delivered
 | cons consumed steps ih=>
  rw [foldl_cons]
  cases consumed with
  | poll demand=>
   obtain ⟨hnext,hpaused⟩:=h.poll demand
   rw [ih hnext,hpaused,demanded,Nat.add_assoc]
  | replay cursor demand=>
   have hserves:=h.sound.serves.poll (some cursor) demand
   have hsame:((c.source.poll (some cursor) demand).2.committedCursors=c.source.committedCursors) ∧
      (c.source.poll (some cursor) demand).2.paused=c.source.paused:=by
    unfold InMemoryDurableSource.poll
    split <;>exact ⟨rfl,rfl⟩
   have hnext:Delivering guarantee events (consumerStep c (.replay cursor demand)) n:=by
    refine ⟨⟨hserves,?_,h.sound.agreed,h.sound.valid⟩,h.delivered,?_⟩
    · intro key committed hcommitted
      exact h.sound.keyed key committed (hsame.1▸hcommitted)
    · intro key
      rw [←h.committed key,←hsame.1]
      rfl
   rw [ih hnext,demanded]
   exact congrArg (fun paused=>(new guarantee events).events.take (n+demanded paused steps))
    hsame.2
  | pause=>
   have hserves:=h.sound.serves.step .pause
   exact ih ⟨⟨hserves,h.sound.keyed,h.sound.agreed,h.sound.valid⟩,h.delivered,h.committed⟩
  | resume=>
   have hserves:=h.sound.serves.step .resume
   exact ih ⟨⟨hserves,h.sound.keyed,h.sound.agreed,h.sound.valid⟩,h.delivered,h.committed⟩

/-- Polls, commits and consumers of a source never skip an event or move it back, and errors
change nothing. -/
structure NeverSkips (guarantee:DeliveryGuarantee) (events:List SourceEvent) : Prop where
 ordered:(new guarantee events).events.Pairwise Earlier
 members:∀event,event∈(new guarantee events).events↔event∈events
 poll:∀(calls:List Call) (demand:ℕ) (batch:SourceBatch),
  ((execute step (new guarantee events) calls).poll none demand).1=.ok batch →
   ∀key : String×ℕ,batch.events.filter (inPartition key) <+:
    (new guarantee events).events.filter fun event=>inPartition key event &&
     above (execute step (new guarantee events) calls).committedCursors[key]? event
 forward:∀(calls:List Call) (call:Call) (key:String×ℕ) (cursor:SourceCursor),
  (execute step (new guarantee events) calls).committedCursors[key]?=some cursor →
   ∃moved,(execute step (new guarantee events) (calls++[call])).committedCursors[key]? =
    some moved∧cursor.offset≤ moved.offset
 consumer:∀steps : List ConsumerStep,(consume (new guarantee events) steps).delivered =
  (new guarantee events).events.take (demanded false steps)
 pollError:∀(calls:List Call) (cursor:Option SourceCursor) (demand:ℕ)
  (error:DurableError),
  ((execute step (new guarantee events) calls).poll cursor demand).1=.error error →
   ((execute step (new guarantee events) calls).poll cursor demand).2 =
    execute step (new guarantee events) calls
 commitError:∀(calls:List Call) (cursor:SourceCursor) (error:DurableError),
  ((execute step (new guarantee events) calls).commit cursor).1=.error error →
   ((execute step (new guarantee events) calls).commit cursor).2 =
    execute step (new guarantee events) calls

lemma neverSkips_of_valid(hagreed:(new guarantee events).conflictingCursor=none)
  (hvalid:∀event∈events,invalidIdentity event.cursor.stream=false):
  NeverSkips guarantee events:=by
 have hstreams:ValidStreams (new guarantee events).events:=by
  intro event hevent
  exact hvalid event ((mem_new hagreed event).mp hevent)
 have hkeyed:=fun calls=>keyed_run (keyed_new guarantee events) calls
 have hserves:=fun calls=>serves_run (new guarantee events) calls
 refine ⟨strict_new guarantee events,mem_new hagreed,?_,?_,?_,?_,?_⟩
 · intro calls demand batch hpoll key
   have hpre:= poll_none_prefix (hkeyed calls) hpoll key
   rw [(hserves calls).events] at hpre
   exact hpre
 · intro calls call key cursor h
   rw [execute_concat]
   exact committed_step (hkeyed calls) call h
 · intro steps
   have hstart:Delivering guarantee events ⟨new guarantee events,[]⟩ 0:=
    ⟨⟨Serves.refl _,keyed_new _ _,hagreed,hstreams⟩,rfl,fun key=>by simp [new,lastIn]⟩
   have hrun:=delivering_steps hstart steps
   rw [Nat.zero_add] at hrun
   exact hrun
 · intro calls cursor demand error h
   refine poll_error ?_ h
   rw [(hserves calls).events]
   exact hstreams
 · intro calls cursor error h
   exact commit_error h

lemma consume_invalid(hmem:event∈(new guarantee events).events)
  (hinvalid:invalidIdentity event.cursor.stream=true):
  (consume (new guarantee events) [.poll (new guarantee events).events.length]).delivered=[]:=by
 have hpoll:∀batch,((new guarantee events).poll none
   (new guarantee events).events.length).1 ≠ .ok batch:=by
  intro batch hok
  unfold InMemoryDurableSource.poll at hok
  split at hok
  · cases hok
  · next taken htaken=>
    have hall:(new guarantee events).events.filter ((new guarantee events).isPending none) =
      (new guarantee events).events:=by
     apply filter_eq_self.mpr
     intro e _
     rw [isPending_none (keyed_new guarantee events)]
     simp [new,above]
    obtain ⟨-,rfl⟩:=pollEvents_ok htaken
    rw [hall,take_length] at hok
    unfold SourceBatch.new at hok
    obtain ⟨_,-,hok⟩:=bind_ok.mp hok
    obtain ⟨_,hstreams,-⟩:=bind_ok.mp hok
    have hvalid:=validateEvents_ok.mp hstreams event hmem
    rw [hinvalid] at hvalid
    cases hvalid
 rcases h:(new guarantee events).poll none (new guarantee events).events.length with ⟨out,source⟩
 cases out with
 | error _=>simp [consume,consumerStep,h]
 | ok batch=>exact absurd (congrArg Prod.fst h) (hpoll batch)

/-- A source without conflicts keeps its promises exactly when all its streams are valid. -/
theorem source_never_skips_iff (guarantee : DeliveryGuarantee) (events : List SourceEvent)
  (hagreed : (new guarantee events).conflictingCursor=none) :
  NeverSkips guarantee events ↔ ∀event∈events,invalidIdentity event.cursor.stream=false := by
 constructor
 · intro h event hevent
   by_contra hinvalid
   rw [Bool.not_eq_false] at hinvalid
   have hmem:=(h.members event).mpr hevent
   have hnothing:=consume_invalid hmem hinvalid
   rw [h.consumer] at hnothing
   simp only [demanded,Bool.false_eq_true,↓reduceIte,Nat.add_zero,take_length]
    at hnothing
   rw [hnothing] at hmem
   cases hmem
 · exact neverSkips_of_valid hagreed

def blankStream : SourceEvent := ⟨⟨" ",0,0⟩,.null,some 5⟩

/-- The poll that finds the blank stream fails after it has moved the emitted watermark. -/
theorem blank_stream_moves_watermark : (new .atLeastOnce [blankStream]).conflictingCursor=none ∧
   ¬NeverSkips .atLeastOnce [blankStream] := by
 constructor
 · rfl
 · intro h
   have herror:((execute step (new .atLeastOnce [blankStream]) []).poll none 1).1 =
     .error (.invalidSourceCursor "stream"):=by decide
   have hstate:=congrArg InMemoryDurableSource.emittedWatermarkUnixMs
    (h.pollError [] none 1 _ herror)
   have hmoved:((execute step (new .atLeastOnce [blankStream]) []).poll none
     1).2.emittedWatermarkUnixMs=some 5:=by decide
   rw [hmoved] at hstate
   cases hstate

/-- Three events of two partitions of a valid stream. -/
def ordersEvents : List SourceEvent :=
 [⟨⟨"orders", 1, 3⟩, .null, some 7⟩, ⟨⟨"orders", 0, 11⟩, .null, none⟩,
  ⟨⟨"orders", 0, 10⟩, .null, some 5⟩]

theorem orders_never_skip : NeverSkips .atLeastOnce ordersEvents :=
 (source_never_skips_iff .atLeastOnce ordersEvents (by decide +kernel)).mpr (by decide)

end GraphBlocks.DurableSource
