import GraphBlocks.CallbackQueueRows

namespace GraphBlocks.CallbackDeliveries
open Json OrderedMap RustStd CanonicalJson ApplicationProtocol Usage List
open SqliteApplicationProtocolLog (asU64_intToken asObject_toObject)
open SqliteCallbackDeliveryQueue

inductive QueueCall where
 | upsert (delivery:CallbackDelivery) (sized:delivery.Sized)
 | claim (now claimLease limit:ℕ)
 | complete (claim:ClaimedCallbackDelivery) (delivery:CallbackDelivery)
   (sized:delivery.Sized) (completedAt:ℕ)
 | recover (now:ℕ)
 | cancel (subscriptionId reason:String)

inductive QueueResponse where
 | done
 | claims (claims:List ClaimedCallbackDelivery)
 | count (n:ℕ)

section
variable {d:StringDisplay} (reader:JsonReader d)

def perform (queue:SqliteCallbackDeliveryQueue) :
  QueueCall→Outcome (QueueResponse×SqliteCallbackDeliveryQueue)
 | .upsert delivery _=>(queue.upsertDelivery reader delivery).map fun q=>(.done,q)
 | .claim now claimLease limit=>
  (queue.claimDueDeliveries reader now claimLease limit).map fun r=>(.claims r.1,r.2)
 | .complete claim delivery _ completedAt=>
  (queue.completeClaimedDelivery d claim delivery completedAt).map fun q=>(.done,q)
 | .recover now=>(queue.recoverInFlightDeliveries reader now).map fun r=>(.count r.1,r.2)
 | .cancel subscriptionId reason=>
  (queue.cancelPendingForSubscription reader subscriptionId reason).map fun r=>(.count r.1,r.2)

/-- A transaction that fails is rolled back. -/
def queueStep (queue:SqliteCallbackDeliveryQueue) (call:QueueCall) :
  Outcome QueueResponse×SqliteCallbackDeliveryQueue :=
 match perform reader queue call with
 | .ok (response,queue)=>(.ok response,queue)
 | .error e=>(.error e,queue)
end

def grantsIn (id:String) : Outcome QueueResponse→List ClaimedCallbackDelivery
 | .ok (.claims claims)=>claims.filter fun claim=>claim.delivery.deliveryId==id
 | _=>[]

/-- A successful `complete_claimed_delivery`. -/
def Completes (id:String) (generation:ℕ) (call:QueueCall) (response:Outcome QueueResponse) : Prop :=
 (∃claim delivery sized completedAt,call=.complete claim delivery sized completedAt ∧
  delivery.deliveryId=id∧claim.claimGeneration=generation)∧response=.ok .done

inductive Moves (id:String) : QueueCall→Outcome QueueResponse→Option Entry→Option Entry→Prop
 | stays {call:QueueCall} {response:Outcome QueueResponse} {entry:Option Entry}
   (ungranted:grantsIn id response=[])
   (incomplete:∀generation,¬Completes id generation call response) :
   Moves id call response entry entry
 | inserted {delivery:CallbackDelivery} {sized:delivery.Sized}
   (deliveryId:delivery.deliveryId=id) (status:delivery.status ≠ .delivering) :
   Moves id (.upsert delivery sized) (.ok .done) none (some ⟨delivery,0,none⟩)
 | redriven {delivery:CallbackDelivery} {sized:delivery.Sized} {entry:Entry}
   (deliveryId:delivery.deliveryId=id) (redrive:validRedrive entry.delivery delivery=true)
   (attempt:entry.delivery.attempt≤delivery.attempt) :
   Moves id (.upsert delivery sized) (.ok .done) (some entry)
    (some ⟨delivery,entry.generation,none⟩)
 | granted {now claimLease limit:ℕ} {response:Outcome QueueResponse} {entry:Entry}
   (status:entry.delivery.status=.pending) (lease:0<claimLease)
   (claims:grantsIn id response=[⟨claimed entry.delivery,entry.generation+1,now,now+claimLease⟩]) :
   Moves id (.claim now claimLease limit) response (some entry)
    (some ⟨claimed entry.delivery,entry.generation+1,some (now,now+claimLease)⟩)
 | completed {claim:ClaimedCallbackDelivery} {delivery:CallbackDelivery}
   {sized:delivery.Sized} {completedAt:ℕ} {entry:Entry}
   (deliveryId:delivery.deliveryId=id) (claimId:claim.delivery.deliveryId=id)
   (fenced:entry.delivery.status=.delivering∧entry.generation=claim.claimGeneration ∧
    entry.interval=some (claim.claimStartedAtUnixMs,claim.claimExpiresAtUnixMs))
   (inTime:claim.claimStartedAtUnixMs≤completedAt∧completedAt<claim.claimExpiresAtUnixMs)
   (status:delivery.status ≠ .delivering)
   (metadata:sameMetadata delivery claim.delivery=true)
   (attempt:claim.delivery.attempt≤delivery.attempt) :
   Moves id (.complete claim delivery sized completedAt) (.ok .done) (some entry)
    (some ⟨delivery,entry.generation,none⟩)
 | released {now:ℕ} {response:Outcome QueueResponse} {entry:Entry} {start expiry:ℕ}
   (counted:∃n,response=.ok (.count n)) (status:entry.delivery.status=.delivering)
   (interval:entry.interval=some (start,expiry)) (lapsed:expiry≤now) :
   Moves id (.recover now) response (some entry)
    (some ⟨recovered now entry.delivery,entry.generation,none⟩)
 | withdrawn {subscriptionId reason:String} {response:Outcome QueueResponse} {entry:Entry}
   (counted:∃n,response=.ok (.count n)) (status:entry.delivery.status=.pending) :
   Moves id (.cancel subscriptionId reason) response (some entry)
    (some ⟨cancelled reason entry.delivery,entry.generation,none⟩)

section
variable {d:StringDisplay} {reader:JsonReader d} {queue queue':SqliteCallbackDeliveryQueue}
 {delivery:CallbackDelivery} {response:QueueResponse}

structure Performed (reader:JsonReader d) (queue:SqliteCallbackDeliveryQueue) (call:QueueCall)
  (response:QueueResponse) (queue':SqliteCallbackDeliveryQueue) : Prop where
 sound:Sound d queue'
 moves:∀id,Moves id call (.ok response) (entryAt reader queue id) (entryAt reader queue' id)

variable {id:String} {claims:List ClaimedCallbackDelivery}
 {call:QueueCall} {items:List (CallbackDelivery×ℕ)}

lemma not_completes_of_claims{generation:ℕ}:¬Completes id generation call (.ok (.claims claims)):=
 fun h=>by cases h.2

variable {entry:Entry}

lemma performed_insert (hsound:Sound d queue) (hwell:entry.WellFormed delivery.deliveryId)
  (hmoves:Moves delivery.deliveryId call (.ok response)
   (entryAt reader queue delivery.deliveryId) (some entry))
  (hothers:∀id,delivery.deliveryId≠id→ grantsIn id (.ok response)=[] ∧
   ∀generation,¬Completes id generation call (.ok response)) :
  Performed reader queue call response
   (queue.insert delivery.deliveryId (rowOf d entry)) where
 sound:=hsound.insert hwell
 moves:=by
  intro id
  rw [entryAt_insert hwell]
  by_cases hid:delivery.deliveryId=id
  · subst hid
    rw [if_pos rfl]
    exact hmoves
  · rw [if_neg hid]
    exact .stays (hothers id hid).1 (hothers id hid).2

lemma performed_same(hsound:Sound d queue)(hquiet:∀id,grantsIn id (.ok response)=[] ∧
   ∀generation,¬Completes id generation call (.ok response)):
  Performed reader queue call response queue:=
 ⟨hsound,fun id=>.stays (hquiet id).1 (hquiet id).2⟩

lemma upsert_quiet(id:String){sized:delivery.Sized}:grantsIn id (.ok .done)=[] ∧
   ∀generation,¬Completes id generation (.upsert delivery sized) (.ok .done):=by
 refine ⟨rfl,?_⟩
 rintro generation ⟨⟨claim,other,hsized,completedAt,hcall,-⟩,-⟩
 cases hcall

variable {existing:CallbackDelivery}

lemma upsertExisting_ok(h:queue.upsertExisting (d:=d) existing delivery=.ok queue'):
  delivery=existing∧queue'=queue ∨
  validRedrive existing delivery=true∧existing.attempt≤delivery.attempt ∧
   ∃set row,transitionColumns d delivery=.ok set∧queue[delivery.deliveryId]?=some row ∧
    queue'=queue.insert delivery.deliveryId (set row):=by
 unfold upsertExisting at h
 split at h
 · next hsame=>exact .inl ⟨hsame,(Except.ok.inj h).symm⟩
 · simp only [bind_ok,ensure_ok] at h
   obtain ⟨-,-,-,hclaimed,-,hunclaimed,-,hmetadata,set,hset,h⟩:=h
   obtain ⟨row,hrow,-,hqueue⟩:=updateOne_ok h
   have hredrive:validRedrive existing delivery=true:=by
    cases hcase:validRedrive existing delivery with
    | true=>rfl
    | false=>
     -- neither a pending nor a claimed delivery can be overwritten
     rw [hcase] at hclaimed hunclaimed
     cases hstatus:existing.status == .delivering <;>simp_all
   have hattempt:existing.attempt≤delivery.attempt:=by
    simp only [Bool.not_eq_true',Bool.or_eq_false_iff,decide_eq_false_iff_not,Nat.not_lt]
     at hmetadata
    exact hmetadata.2
   exact .inr ⟨hredrive,hattempt,set,row,hset,hrow,hqueue⟩

lemma validRedrive_status(h:validRedrive existing delivery=true):
  existing.status=.deadLettered∧delivery.status=.pending ∧
   existing.redriveCount<delivery.redriveCount∧sameMetadata delivery existing=true:=by
 simp only [validRedrive,Bool.and_eq_true,beq_iff_eq,decide_eq_true_eq] at h
 exact ⟨h.1.1.1,h.1.1.2,h.1.2,h.2⟩

lemma unclaimed_wellFormed (hvalid:validateCallbackDelivery delivery=.ok ()) (hsized:delivery.Sized)
  (hrange:(delivery.sequence:ℤ) ≤ i64Max) (hstatus:delivery.status ≠ .delivering) (generation:ℕ) :
  Entry.WellFormed delivery.deliveryId ⟨delivery,generation,none⟩ where
 deliveryId:=rfl
 valid:=hvalid
 sized:=hsized
 inRange:=hrange
 claimed:=by simpa using hstatus
 nonempty:=fun _ _ h=>by cases h

lemma upsert_performed(hsound:Sound d queue)(hsized:delivery.Sized)
  (h:queue.upsertDelivery reader delivery=.ok queue'):
  Performed reader queue (.upsert delivery hsized) .done queue':=by
 simp only [upsertDelivery,bind_ok] at h
 obtain ⟨⟨⟩,hvalid,h⟩:=h
 cases hrow:queue[delivery.deliveryId]? with
 | some row=>
  obtain ⟨entry,hwell,rfl⟩:=hsound _ _ hrow
  rw [hrow] at h
  simp only at h
  rw [rowOf,deliveryFromText_toText hwell.valid hwell.sized,ok_bind] at h
  rcases upsertExisting_ok h with ⟨-,rfl⟩|⟨hredrive,hattempt,set,row,hset,hrow',rfl⟩
  · exact performed_same hsound fun id=>upsert_quiet id
  · rw [hrow] at hrow'
    cases hrow'
    obtain ⟨-,hpending,-⟩:=validRedrive_status hredrive
    have hunclaimed:delivery.status ≠ .delivering:=by rw [hpending];decide
    rw [transitionColumns_ok hset rfl]
    apply performed_insert hsound (unclaimed_wellFormed hvalid hsized
     (transitionColumns_inRange hset) hunclaimed _) _
     fun id _=>upsert_quiet id
    rw [entryAt_of_row hrow hwell]
    exact .redriven rfl hredrive hattempt
 | none=>
  rw [hrow] at h
  simp only [insertNew,bind_ok,ensure_ok] at h
  obtain ⟨-,hstatus,set,hset,h⟩:=h
  cases h
  have hunclaimed:delivery.status ≠ .delivering:=by simpa using hstatus
  rw [transitionColumns_ok hset rfl]
  apply performed_insert hsound (unclaimed_wellFormed hvalid hsized
    (transitionColumns_inRange hset) hunclaimed _) _
   fun id _=>upsert_quiet id
  rw [entryAt_none hrow]
  exact .inserted rfl hunclaimed

/-- What the checks of a completion say. -/
structure Completable (claim:ClaimedCallbackDelivery) (delivery:CallbackDelivery)
  (completedAt:ℕ) : Prop where
 valid:validateCallbackDelivery delivery=.ok ()
 inTime:claim.claimStartedAtUnixMs≤completedAt∧completedAt<claim.claimExpiresAtUnixMs
 status:delivery.status ≠ .delivering
 deliveryId:delivery.deliveryId=claim.delivery.deliveryId
 metadata:sameMetadata delivery claim.delivery=true
 attempt:claim.delivery.attempt≤delivery.attempt

variable {claim:ClaimedCallbackDelivery}

lemma completionChecks_ok{completedAt:ℕ}{u:Unit}
  (h:completionChecks claim delivery completedAt=.ok u):
  Completable claim delivery completedAt:=by
 simp only [completionChecks,bind_ok,ensure_ok,Bool.not_eq_true',
  decide_eq_false_iff_not,Bool.or_eq_false_iff,Nat.not_lt,Nat.not_le] at h
 obtain ⟨⟨⟩,hvalid,-,-,-,hstarted,-,hlive,⟨⟨⟨⟨-,hstatus⟩,hid⟩,hmetadata⟩,-⟩,hattempt⟩:=h
 exact ⟨hvalid,⟨hstarted,hlive⟩,by simpa using hstatus,by simpa using hid,
  by simpa using hmetadata,hattempt⟩

lemma complete_performed{completedAt:ℕ}(hsound:Sound d queue)(hsized:delivery.Sized)
  (h:queue.completeClaimedDelivery d claim delivery completedAt=.ok queue'):
  Performed reader queue (.complete claim delivery hsized completedAt) .done queue':=by
 simp only [completeClaimedDelivery,bind_ok] at h
 obtain ⟨⟨⟩,hchecks,set,hset,generation,hgeneration,start,hstart,expiry,hexpiry,h⟩:=h
 have hcompletable:=completionChecks_ok hchecks
 obtain ⟨row,hrow,hcondition,rfl⟩:=updateOne_ok h
 obtain ⟨entry,hwell,rfl⟩:=hsound _ _ hrow
 rw [(u64ToI64_ok hgeneration).1,(u64ToI64_ok hstart).1,(u64ToI64_ok hexpiry).1] at hcondition
 simp only [Bool.and_eq_true,beq_iff_eq,rowOf,Int.natCast_inj] at hcondition
 obtain ⟨⟨⟨hdelivering,hsame⟩,hstarted⟩,hexpires⟩:=hcondition
 have hinterval:entry.interval=some (claim.claimStartedAtUnixMs,claim.claimExpiresAtUnixMs):=by
  cases hcase:entry.interval with
  | none=>
   rw [hcase] at hstarted
   cases hstarted
  | some interval=>
   rw [hcase,Option.map_some,Option.some.injEq,Int.natCast_inj] at hstarted hexpires
   rw [←hstarted,←hexpires]
 rw [transitionColumns_ok hset rfl]
 apply performed_insert hsound
  (unclaimed_wellFormed hcompletable.valid hsized (transitionColumns_inRange hset)
   hcompletable.status _)
 · rw [entryAt_of_row hrow hwell]
   exact .completed rfl hcompletable.deliveryId.symm
    ⟨statusAsStr_injective hdelivering,hsame,hinterval⟩ hcompletable.inTime
    hcompletable.status hcompletable.metadata hcompletable.attempt
 · intro id hid
   refine ⟨rfl,?_⟩
   rintro generation ⟨⟨other,done,hsized',completedAt',hcall,howner,-⟩,-⟩
   cases hcall
   exact hid howner

section
variable {α:Type} {condition:DeliveryRow→Bool} {read:Entry→α} {key:α→String}
 {next:α→Entry} {items:List α} {call:QueueCall}

lemma performed_overwrite (hsound:Sound d queue) (hread:ReadOf d queue condition read key items)
  (hnext:∀a∈items,(next a).WellFormed (key a))
  (hmoves:∀entry:Entry,entry.WellFormed (key (read entry))→ read entry∈items →
   queue[key (read entry)]?=some (rowOf d entry)→condition (rowOf d entry)=true →
   Moves (key (read entry)) call (.ok response) (some entry) (some (next (read entry))))
  (hothers:∀id,id∉items.map key→ grantsIn id (.ok response)=[] ∧
   ∀generation,¬Completes id generation call (.ok response)) :
  Performed reader queue call response (overwrite d key next items queue) where
 sound:=hsound.overwrite hnext
 moves:=by
  intro id
  by_cases hid:id∈items.map key
  · obtain ⟨a,ha,rfl⟩:=mem_map.mp hid
    obtain ⟨entry,hwell,rfl,hrow,hcondition⟩:=hread.entry a ha
    rw [entryAt_of_row hrow hwell,entryAt_of_row (overwrite_item hread.nodup ha) (hnext _ ha)]
    exact hmoves entry hwell ha hrow hcondition
  · rw [entryAt,entryAt,overwrite_other hid]
    exact .stays (hothers id hid).1 (hothers id hid).2
end

def withGeneration (entry:Entry) : CallbackDelivery×ℕ := (entry.delivery,entry.generation)

lemma selected_readOf{condition:DeliveryRow→Bool}
  (hsound:Sound d queue){selected:List (String×DeliveryRow)}
  (hsub:selected.Sublist (queue.select condition))
  (h:collect (readWithGeneration reader) selected=.ok items):
  ReadOf d queue condition withGeneration (fun item=>item.1.deliveryId) items:=
 collect_readOf hsound (fun _ _ hwell=>readWithGeneration_rowOf hwell)
  (fun _ _ hwell=>hwell.deliveryId) hsub h

variable {now:ℕ}

lemma recoverOne_ok{generation:ℕ}{row:DeliveryRow}
  (hrow:queue[delivery.deliveryId]?=some row)(hgeneration:row.claimGeneration=generation)
  (h:queue.recoverOne d (recovered now delivery) generation=.ok queue'):
  queue'=queue.insert delivery.deliveryId
   (rowOf d ⟨recovered now delivery,generation,none⟩):=by
 simp only [recoverOne,bind_ok] at h
 obtain ⟨set,hset,column,-,h⟩:=h
 obtain ⟨row',hrow',-,rfl⟩:=updateOne_ok h
 have hsame:row=row':=Option.some.inj (hrow.symm.trans hrow')
 subst hsame
 rw [transitionColumns_ok hset hgeneration]
 rfl

lemma recoverAll_cons(d:StringDisplay)(now:ℕ)(item:CallbackDelivery×ℕ)
  (rest:List (CallbackDelivery×ℕ))(queue:SqliteCallbackDeliveryQueue):
  recoverAll d now (item::rest) queue =
   queue.recoverOne d (recovered now item.1) item.2 >>= recoverAll d now rest:=rfl

lemma isLapsed_rowOf(h:isLapsed now (rowOf d entry)=true):entry.delivery.status=.delivering ∧
   ∃start expiry,entry.interval=some (start,expiry)∧expiry≤now:=by
 simp only [isLapsed,rowOf,Bool.and_eq_true,beq_iff_eq] at h
 refine ⟨statusAsStr_injective h.1,?_⟩
 cases hinterval:entry.interval with
 | none=>
  rw [hinterval] at h
  cases h.2
 | some interval=>
  rw [hinterval] at h
  exact ⟨interval.1,interval.2,rfl,by simpa using h.2⟩

lemma recover_performed{count:ℕ}(hsound:Sound d queue)
  (h:queue.recoverInFlightDeliveries reader now=.ok (count,queue')):
  Performed reader queue (.recover now) (.count count) queue':=by
 simp only [recoverInFlightDeliveries,bind_ok] at h
 obtain ⟨nowColumn,hnow,items,hitems,after,hafter,h⟩:=h
 cases h
 obtain ⟨rfl,hrange⟩:=u64ToI64_ok hnow
 have hread:=selected_readOf hsound (List.Sublist.refl _) hitems
 have hqueue:queue'=overwrite d (fun item:CallbackDelivery×ℕ=>item.1.deliveryId)
   (fun item=>⟨recovered now item.1,item.2,none⟩) items queue:=by
  refine overwrite_of_rounds (fun q item=>q.recoverOne d (recovered now item.1) item.2)
   (recoverAll d now) (fun _=>rfl) ?_ (fun item row=>row.claimGeneration=item.2) ?_
   hread.nodup ?_ hafter
  · exact recoverAll_cons d now
  · intro item q q' row hrow hgeneration hone
    exact recoverOne_ok hrow hgeneration hone
  · intro item hitem
    obtain ⟨entry,-,rfl,hrow,-⟩:=hread.entry item hitem
    exact ⟨rowOf d entry,hrow,rfl⟩
 rw [hqueue]
 apply performed_overwrite hsound hread
 · intro item hitem
   obtain ⟨entry,hwell,rfl,-,hlapsed⟩:=hread.entry item hitem
   obtain ⟨hstatus,start,expiry,hinterval,hpast⟩:=isLapsed_rowOf hlapsed
   have hpositive:=hwell.nonempty start expiry hinterval
   exact unclaimed_wellFormed (recovered_valid hwell.valid hstatus (by omega))
    (recovered_sized hwell.sized hrange) hwell.inRange nofun _
 · intro entry hwell _ _ hlapsed
   obtain ⟨hstatus,start,expiry,hinterval,hpast⟩:=isLapsed_rowOf hlapsed
   exact .released ⟨_,rfl⟩ hstatus hinterval hpast
 · intro id hid
   refine ⟨rfl,?_⟩
   rintro generation ⟨-,hresponse⟩
   cases hresponse

def generationAt (queue:SqliteCallbackDeliveryQueue) (id:String) : ℕ :=
 ((queue[id]?.map DeliveryRow.claimGeneration).getD 0).toNat

lemma generationAt_eq(h:queue[id]?=some (rowOf d entry)): generationAt queue id=entry.generation:=by
 rw [generationAt,h]
 rfl

lemma cancelOne_ok{reason:String}(hrow:queue[entry.delivery.deliveryId]?=some (rowOf d entry))
  (hunclaimed:entry.interval=none)
  (h:queue.cancelOne d (cancelled reason entry.delivery)=.ok queue'):
  queue'=queue.insert entry.delivery.deliveryId
   (rowOf d ⟨cancelled reason entry.delivery,entry.generation,none⟩):=by
 simp only [cancelOne,bind_ok] at h
 obtain ⟨nextRetry,hretry,sequence,hsequence,h⟩:=h
 obtain ⟨row,hrow',-,rfl⟩:=updateOne_ok h
 have hsame:rowOf d entry=row:=Option.some.inj (hrow.symm.trans hrow')
 subst hsame
 rw [optionalU64ToI64_ok hretry,(u64ToI64_ok hsequence).1]
 simp only [rowOf,hunclaimed]
 rfl

lemma cancel_performed{subscriptionId reason:String}{count:ℕ}(hsound:Sound d queue)
  (h:queue.cancelPendingForSubscription reader subscriptionId reason=.ok (count,queue')):
  Performed reader queue (.cancel subscriptionId reason) (.count count) queue':=by
 simp only [cancelPendingForSubscription,bind_ok,ensure_ok] at h
 obtain ⟨-,-,-,hreason,pending,hpending,after,hafter,h⟩:=h
 cases h
 have hall:ReadOf d queue (fun row=>row.status==callbackDeliveryStatusAsStr .pending)
   Entry.delivery CallbackDelivery.deliveryId pending:=
  collect_readOf hsound (fun _ _ hwell=>deliveryFromRowValue_rowOf hwell)
   (fun _ _ hwell=>hwell.deliveryId) (List.Sublist.refl _) hpending
 have hread:ReadOf d queue (fun row=>row.status==callbackDeliveryStatusAsStr .pending)
   Entry.delivery CallbackDelivery.deliveryId
   (pending.filter fun delivery=>delivery.subscriptionId==subscriptionId):=
  ⟨hall.nodup.sublist (filter_sublist.map _),fun a ha=>hall.entry a (mem_of_mem_filter ha)⟩
 have hpendingEntry:∀entry:Entry,((rowOf d entry).status ==
   callbackDeliveryStatusAsStr .pending)=true→entry.delivery.status=.pending:=by
  intro entry hstatus
  exact statusAsStr_injective (beq_iff_eq.mp hstatus)
 have hunclaimed:∀{id:String} {entry:Entry},entry.WellFormed id →
   entry.delivery.status=.pending→entry.interval=none:=by
  intro id entry hwell hstatus
  cases hinterval:entry.interval with
  | none=>rfl
  | some interval=>
   have hdelivering:=hwell.claimed.mp (by rw [hinterval];rfl)
   rw [hstatus] at hdelivering
   cases hdelivering
 have hqueue:queue'=overwrite d CallbackDelivery.deliveryId
   (fun delivery=>⟨cancelled reason delivery,generationAt queue delivery.deliveryId,none⟩)
   (pending.filter fun delivery=>delivery.subscriptionId==subscriptionId) queue:=by
  apply overwrite_of_rounds (fun q delivery=>q.cancelOne d (cancelled reason delivery))
   (cancelAll d reason) (fun _=>rfl) (fun _ _ _=>rfl)
   (fun delivery row=>∃entry:Entry,entry.delivery=delivery∧entry.interval=none ∧
    row=rowOf d entry∧generationAt queue delivery.deliveryId=entry.generation) _
   hread.nodup _ hafter
  · rintro delivery q q' row hrow ⟨entry,rfl,hnone,rfl,hgeneration⟩ hone
    rw [hgeneration]
    exact cancelOne_ok hrow hnone hone
  · intro delivery hdelivery
    obtain ⟨entry,hwell,rfl,hrow,hstatus⟩:=hread.entry delivery hdelivery
    exact ⟨rowOf d entry,hrow,entry,rfl,hunclaimed hwell (hpendingEntry entry hstatus),rfl,
     generationAt_eq hrow⟩
 rw [hqueue]
 apply performed_overwrite hsound hread
 · intro delivery hdelivery
   obtain ⟨entry,hwell,rfl,-,hstatus⟩:=hread.entry delivery hdelivery
   exact unclaimed_wellFormed (cancelled_valid hwell.valid (by simpa using hreason)
    (hpendingEntry entry hstatus)) (cancelled_sized hwell.sized reason) hwell.inRange
    nofun _
 · intro entry hwell _ hrow hstatus
   rw [generationAt_eq hrow]
   exact .withdrawn ⟨_,rfl⟩ (hpendingEntry entry hstatus)
 · intro id hid
   refine ⟨rfl,?_⟩
   rintro generation ⟨-,hresponse⟩
   cases hresponse

def claimOf (now expiresAt:ℕ) (item:CallbackDelivery×ℕ) : ClaimedCallbackDelivery :=
 ⟨claimed item.1,item.2+1,now,expiresAt⟩

def claimedEntry (now expiresAt:ℕ) (item:CallbackDelivery×ℕ) : Entry :=
 ⟨claimed item.1,item.2+1,some (now,expiresAt)⟩

variable {expiresAt:ℕ}

lemma claimOne_ok(hrow:queue[entry.delivery.deliveryId]?=some (rowOf d entry))
  (h:queue.claimOne d now expiresAt entry.delivery entry.generation=.ok (claim,queue')):
  claim=claimOf now expiresAt (withGeneration entry)∧queue'=queue.insert entry.delivery.deliveryId
    (rowOf d (claimedEntry now expiresAt (withGeneration entry))):=by
 simp only [claimOne,bind_ok] at h
 obtain ⟨generation,hgeneration,generationColumn,hcolumn,start,hstart,expiry,hexpiry,
  previous,-,after,hafter,h⟩:=h
 cases h
 obtain ⟨row,hrow',-,rfl⟩:=updateOne_ok hafter
 have hsame:rowOf d entry=row:=Option.some.inj (hrow.symm.trans hrow')
 subst hsame
 have hnext:generation=entry.generation+1:=by
  cases hchecked:checkedSucc entry.generation with
  | none=>
   rw [hchecked] at hgeneration
   cases hgeneration
  | some n=>
   rw [hchecked] at hgeneration
   cases hgeneration
   exact checkedSucc_eq_some hchecked
 subst hnext
 rw [(u64ToI64_ok hcolumn).1,(u64ToI64_ok hstart).1,(u64ToI64_ok hexpiry).1]
 exact ⟨rfl,rfl⟩

lemma claimAll_ok(hnodup:(items.map fun item=>item.1.deliveryId).Nodup)
  (hrows:∀item∈items,∃entry:Entry,withGeneration entry=item ∧
   queue[item.1.deliveryId]?=some (rowOf d entry))
  (h:claimAll d now expiresAt items queue=.ok (claims,queue')):
  claims=items.map (claimOf now expiresAt) ∧
   queue'=overwrite d (fun item:CallbackDelivery×ℕ=>item.1.deliveryId)
    (claimedEntry now expiresAt) items queue:=by
 induction items generalizing queue claims with
 | nil=>
  cases h
  exact ⟨rfl,rfl⟩
 | cons item rest ih=>
  rw [map_cons,nodup_cons] at hnodup
  obtain ⟨entry,rfl,hrow⟩:=hrows item mem_cons_self
  simp only [claimAll,withGeneration,bind_ok] at h
  obtain ⟨⟨claim,middle⟩,hone,⟨others,last⟩,hrest,h⟩:=h
  cases h
  obtain ⟨rfl,rfl⟩:=claimOne_ok hrow hone
  have hrows':∀other∈rest,∃found:Entry,withGeneration found=other ∧
    (queue.insert entry.delivery.deliveryId (rowOf d (claimedEntry now expiresAt
     (withGeneration entry))))[other.1.deliveryId]?=some (rowOf d found):=by
   intro other hother
   have hne:entry.delivery.deliveryId≠other.1.deliveryId:=
    fun heq=>hnodup.1 (mem_map.mpr ⟨other,hother,heq.symm⟩)
   rw [lookup_insert_ne _ _ hne]
   exact hrows other (mem_cons_of_mem _ hother)
  obtain ⟨rfl,rfl⟩:=ih hnodup.2 hrows' hrest
  exact ⟨rfl,rfl⟩

lemma grantsIn_claims
  (hnodup:(items.map fun item=>item.1.deliveryId).Nodup){item:CallbackDelivery×ℕ}(h:item∈items):
  grantsIn item.1.deliveryId (.ok (.claims (items.map (claimOf now expiresAt)))) =
   [claimOf now expiresAt item]:=by
 rw [grantsIn]
 induction items with
 | nil=>cases h
 | cons first rest ih=>
  rw [map_cons,nodup_cons] at hnodup
  rcases mem_cons.mp h with rfl|h
  · have hnone:(rest.map (claimOf now expiresAt)).filter
      (fun claim=>claim.delivery.deliveryId==item.1.deliveryId)=[]:=by
     rw [filter_eq_nil_iff]
     intro claim hclaim heq
     obtain ⟨other,hother,rfl⟩:=mem_map.mp hclaim
     exact hnodup.1 (mem_map.mpr ⟨other,hother,beq_iff_eq.mp heq⟩)
    have hself:((claimOf now expiresAt item).delivery.deliveryId==item.1.deliveryId)=true:=
     beq_self_eq_true item.1.deliveryId
    rw [map_cons,filter_cons,if_pos hself,hnone]
  · have hne:¬((claimOf now expiresAt first).delivery.deliveryId==item.1.deliveryId)=true:=by
     intro heq
     exact hnodup.1 (mem_map.mpr ⟨item,h,(beq_iff_eq.mp heq).symm⟩)
    rw [map_cons,filter_cons,if_neg hne,ih hnodup.2 h]

lemma grantsIn_unclaimed(h:id∉items.map fun item=>item.1.deliveryId):
  grantsIn id (.ok (.claims (items.map (claimOf now expiresAt))))=[]:=by
 rw [grantsIn,filter_eq_nil_iff]
 intro claim hclaim heq
 obtain ⟨item,hitem,rfl⟩:=mem_map.mp hclaim
 exact h (mem_map.mpr ⟨item,hitem,beq_iff_eq.mp heq⟩)

lemma isDue_rowOf{now:ℤ}(h:isDue now (rowOf d entry)=true):entry.delivery.status=.pending:=by
 simp only [isDue,rowOf,Bool.and_eq_true,beq_iff_eq] at h
 exact statusAsStr_injective h.1

lemma claim_performed{claimLease limit:ℕ}(hsound:Sound d queue)
  (h:queue.claimDueDeliveries reader now claimLease limit=.ok (claims,queue')):
  Performed reader queue (.claim now claimLease limit) (.claims claims) queue':=by
 unfold claimDueDeliveries at h
 split at h
 · cases h
   exact performed_same hsound fun id=>⟨rfl,fun _=>not_completes_of_claims⟩
 · simp only [bind_ok,ensure_ok] at h
   obtain ⟨-,hlease,expiresAt,hexpires,nowColumn,-,limitColumn,-,items,hitems,h⟩:=h
   have hpositive:0<claimLease:=by
    have hne:claimLease≠0:=by simpa using hlease
    omega
   have hexpiry:expiresAt=now+claimLease:=by
    cases hchecked:checkedAdd now claimLease with
    | none=>
     rw [hchecked] at hexpires
     cases hexpires
    | some n=>
     rw [hchecked] at hexpires
     cases hexpires
     exact checkedAdd_eq_some hchecked
   subst hexpiry
   have hread:=selected_readOf hsound (take_sublist _ _) hitems
   obtain ⟨rfl,rfl⟩:=claimAll_ok hread.nodup (fun item hitem=>by
    obtain ⟨entry,-,hsame,hrow,-⟩:=hread.entry item hitem
    exact ⟨entry,hsame,hrow⟩) h
   apply performed_overwrite hsound hread
   · intro item hitem
     obtain ⟨entry,hwell,rfl,-,hdue⟩:=hread.entry item hitem
     have hpending:=isDue_rowOf hdue
     exact
      { deliveryId:=rfl
        valid:=claimed_valid hwell.valid hpending
        sized:=claimed_sized hwell.sized
        inRange:=hwell.inRange
        claimed:=⟨fun _=>rfl,fun _=>rfl⟩
        nonempty:=by
         intro start expiry hinterval
         cases hinterval
         omega }
   · intro entry hwell hitem _ hdue
     exact .granted (isDue_rowOf hdue) hpositive (grantsIn_claims hread.nodup hitem)
   · intro id hid
     exact ⟨grantsIn_unclaimed hid,fun _=>not_completes_of_claims⟩

lemma perform_performed(hsound:Sound d queue)(h:perform reader queue call=.ok (response,queue')):
  Performed reader queue call response queue':=by
 have hmap:∀{α β:Type} {x:Outcome α} {f:α→β} {b:β},x.map f=.ok b→∃a,x=.ok a∧f a=b:=by
  intro α β x f b hx
  cases x with
  | error e=>cases hx
  | ok a=>exact ⟨a,rfl,Except.ok.inj hx⟩
 cases call with
 | upsert delivery sized=>
  obtain ⟨after,hafter,heq⟩:=hmap h
  cases heq
  exact upsert_performed hsound sized hafter
 | claim now claimLease limit=>
  obtain ⟨after,hafter,heq⟩:=hmap h
  cases heq
  exact claim_performed hsound hafter
 | complete claim delivery sized completedAt=>
  obtain ⟨after,hafter,heq⟩:=hmap h
  cases heq
  exact complete_performed hsound sized hafter
 | recover now=>
  obtain ⟨after,hafter,heq⟩:=hmap h
  cases heq
  exact recover_performed hsound hafter
 | cancel subscriptionId reason=>
  obtain ⟨after,hafter,heq⟩:=hmap h
  cases heq
  exact cancel_performed hsound hafter

lemma queueStep_moves(hsound:Sound d queue)(call:QueueCall):
  Sound d (queueStep reader queue call).2∧∀id,Moves id call (queueStep reader queue call).1
   (entryAt reader queue id) (entryAt reader (queueStep reader queue call).2 id):=by
 unfold queueStep
 cases h:perform reader queue call with
 | error e=>
  refine ⟨hsound,fun id=>.stays rfl ?_⟩
  rintro generation ⟨-,hresponse⟩
  cases hresponse
 | ok result=>
  have hperformed:Performed reader queue call result.1 result.2:=perform_performed hsound h
  exact ⟨hperformed.sound,hperformed.moves⟩
end

end GraphBlocks.CallbackDeliveries
