import GraphBlocks.CallbackClaimFencing
import GraphBlocks.CallbackDeadLetters

namespace GraphBlocks.CallbackDeliveries
open Json OrderedMap RustStd StoredJson CanonicalJson ApplicationProtocol Usage
open MachineRuns List Option
open SqliteApplicationProtocolLog (asU64_intToken asObject_toObject)
open SqliteCallbackDeliveryQueue SqliteCallbackDeadLetterStore

def letterOf (delivery:CallbackDelivery) (attempts:ℕ) (lastError:Option String)
  (deadLetteredAt:ℕ) : CallbackDeadLetter where
 originalDeliveryId:=delivery.deliveryId
 subscriptionId:=delivery.subscriptionId
 eventId:=delivery.eventId
 runId:=delivery.runId
 sequence:=delivery.sequence
 cursor:=delivery.cursor
 idempotencyKey:=delivery.idempotencyKey
 failurePolicy:=delivery.failurePolicy
 attemptHistory:=List.range' 1 attempts
 lastError
 deadLetteredAtUnixMs:=deadLetteredAt
 redriveCount:=delivery.redriveCount

/-- What makes the dead letter of a delivery one that the store takes and reads back. -/
structure Fileable (delivery:CallbackDelivery) (attempts:ℕ) (lastError:Option String)
  (deadLetteredAt:ℕ) : Prop where
 identity:refuseBlank "callback_delivery" (identityFields delivery)=.ok ()
 sized:delivery.Sized
 attempted:0<attempts
 attemptsSized:attempts<u32Limit
 reason:missingText lastError=false
 timed:deadLetteredAt≠0
 timeSized:deadLetteredAt<u64Limit

section
variable {d:StringDisplay} {reader:JsonReader d} {delivery:CallbackDelivery} {attempts:ℕ}
 {lastError:Option String} {deadLetteredAt:ℕ}

lemma refuseBlank_ok_iff(owner:String)(fields:List (String×String)):
  refuseBlank owner fields=.ok () ↔ ∀field∈fields,isBlank field.2=false:=by
 induction fields with
 | nil=>simp [refuseBlank]
 | cons field fields ih=>
  simp only [refuseBlank,bind_ok,ensure_ok,ih,exists_const,forall_mem_cons,Bool.not_eq_true']

lemma consecutiveFromOne_range'(n:ℕ):consecutiveFromOne (List.range' 1 n)=true:=by
 rw [consecutiveFromOne,List.all_eq_true]
 rintro ⟨attempt,index⟩ hmem
 obtain ⟨hbound,hattempt⟩:=List.getElem?_eq_some_iff.mp (mem_zipIdx_iff_getElem?.mp hmem)
 simp only [getElem_range',Nat.one_mul] at hattempt
 simp only [beq_iff_eq]
 omega

lemma letterOf_valid(h:Fileable delivery attempts lastError deadLetteredAt):
  validateCallbackDeadLetter (letterOf delivery attempts lastError deadLetteredAt)=.ok ():=by
 have hidentity:refuseBlank "callback_dead_letter"
   [("original_delivery_id",delivery.deliveryId),("subscription_id",delivery.subscriptionId),
    ("event_id",delivery.eventId),("run_id",delivery.runId),("cursor",delivery.cursor),
    ("idempotency_key",delivery.idempotencyKey)]=.ok ():=by
  have hblank:=(refuseBlank_ok_iff _ _).mp h.identity
  rw [refuseBlank_ok_iff]
  simpa [identityFields] using hblank
 have hattempted:(List.range' 1 attempts).isEmpty=false:=by
  have hpositive:=h.attempted
  rw [isEmpty_eq_false_iff,←length_pos_iff,length_range']
  exact hpositive
 simp only [validateCallbackDeadLetter,letterOf,hidentity,hattempted,
  consecutiveFromOne_range',h.reason,ok_bind,ensure,Bool.not_false]
 simp [h.timed,ok_bind]

lemma deadLetterKeys_nodup(letter:CallbackDeadLetter):
  ((deadLetterMembers letter).map Prod.fst).Nodup:=by
 simp only [deadLetterMembers,map_cons,map_nil]
 decide

variable {letter:CallbackDeadLetter}

lemma storedMember_deadLetterToValue{field:String}{value:Value}
  (h:(field,value)∈deadLetterMembers letter):
  storedMember (deadLetterToValue letter) field=some value:=by
 rw [storedMember,deadLetterToValue,asObject_toObject,bind_some]
 exact (lookup_ofList_nodup (deadLetterKeys_nodup letter) field value).mpr h

lemma attemptFromValue_u64Value{attempt:ℕ}(h:attempt<u32Limit):
  attemptFromValue (u64Value attempt)=.ok attempt:=by
 have hwide:attempt<u64Limit:=h.trans (by decide)
 rw [attemptFromValue,u64Value,asU64_intToken hwide,filter_some,decide_eq_true h]
 rfl

lemma collect_attempts{history:List ℕ}(h:∀attempt∈history,attempt<u32Limit):
  collect attemptFromValue (history.map u64Value)=.ok history:=by
 rw [collect_ok,forall₂_map_left_iff,forall₂_same]
 exact fun attempt hmem=>attemptFromValue_u64Value (h attempt hmem)

/-- The integers of a dead letter are the machine integers of the source. -/
structure CallbackDeadLetter.Sized (letter:CallbackDeadLetter) : Prop where
 sequence:letter.sequence<u64Limit
 attempts:∀attempt∈letter.attemptHistory,attempt<u32Limit
 deadLetteredAt:letter.deadLetteredAtUnixMs<u64Limit
 redriveCount:letter.redriveCount<u32Limit

lemma readDeadLetter_deadLetterToValue(sized:letter.Sized):
  readDeadLetter (deadLetterToValue letter)=.ok letter:=by
 have member:∀{field:String} {value:Value},(field,value)∈deadLetterMembers letter →
   storedMember (deadLetterToValue letter) field=some value:=
  storedMember_deadLetterToValue
 have deliveryId:callbackRequiredString (deadLetterToValue letter) "original_delivery_id" =
   .ok letter.originalDeliveryId:=
  requiredString_ok (member (by simp [deadLetterMembers]))
 have subscriptionId:callbackRequiredString (deadLetterToValue letter) "subscription_id" =
   .ok letter.subscriptionId:=
  requiredString_ok (member (by simp [deadLetterMembers]))
 have eventId:callbackRequiredString (deadLetterToValue letter) "event_id"=.ok letter.eventId:=
  requiredString_ok (member (by simp [deadLetterMembers]))
 have runId:callbackRequiredString (deadLetterToValue letter) "run_id"=.ok letter.runId:=
  requiredString_ok (member (by simp [deadLetterMembers]))
 have sequence:callbackRequiredU64 (deadLetterToValue letter) "sequence"=.ok letter.sequence:=
  requiredU64_ok (member (by simp [deadLetterMembers])) sized.sequence
 have cursor:callbackRequiredString (deadLetterToValue letter) "cursor"=.ok letter.cursor:=
  requiredString_ok (member (by simp [deadLetterMembers]))
 have idempotencyKey:callbackRequiredString (deadLetterToValue letter) "idempotency_key" =
   .ok letter.idempotencyKey:=
  requiredString_ok (member (by simp [deadLetterMembers]))
 have policy:callbackRequiredString (deadLetterToValue letter) "failure_policy" =
   .ok (callbackFailurePolicyAsStr letter.failurePolicy):=
  requiredString_ok (member (by simp [deadLetterMembers]))
 have lastError:callbackOptionalString (deadLetterToValue letter) "last_error" =
   .ok letter.lastError:=
  optionalString_ok (member (by simp [deadLetterMembers]))
 have deadLetteredAt:callbackRequiredU64 (deadLetterToValue letter)
   "dead_lettered_at_unix_ms"=.ok letter.deadLetteredAtUnixMs:=
  requiredU64_ok (member (by simp [deadLetterMembers])) sized.deadLetteredAt
 have redriveCount:callbackRequiredU64 (deadLetterToValue letter) "redrive_count" =
   .ok letter.redriveCount:=
  requiredU64_ok (member (by simp [deadLetterMembers])) (sized.redriveCount.trans (by decide))
 have history:(storedMember (deadLetterToValue letter) "attempt_history").bind asArray =
   some (letter.attemptHistory.map u64Value):=by
  have hmember:storedMember (deadLetterToValue letter) "attempt_history" =
    some (.array (letter.attemptHistory.map u64Value)):=
   member (by simp [deadLetterMembers])
  rw [hmember]
  rfl
 simp only [readDeadLetter,history,okOr,collect_attempts sized.attempts,deliveryId,
  subscriptionId,eventId,runId,sequence,cursor,idempotencyKey,policy,
  failurePolicyFromStr_asStr,lastError,deadLetteredAt,redriveCount,ok_bind,
  decide_eq_true sized.redriveCount,ensure,if_true]

lemma deadLetterToValue_writable(letter:CallbackDeadLetter):Writable (deadLetterToValue letter):=by
 have hobject:AllNumbers IsNumberToken (deadLetterToValue letter) ∧
   height (deadLetterToValue letter)≤2:=by
  apply toObject_writable
  intro key value hvalue
  have hmember:=(lookup_ofList_nodup (deadLetterKeys_nodup letter) key value).mp hvalue
  have hall:∀e∈deadLetterMembers letter,AllNumbers IsNumberToken e.2∧height e.2+1≤2:=by
   have hflat:∀{v:Value},Flat v→AllNumbers IsNumberToken v∧height v+1≤2:=by
    intro v hv
    exact ⟨hv.numbers,by rw [hv.height];decide⟩
   have harray:AllNumbers IsNumberToken (.array (letter.attemptHistory.map u64Value)) ∧
     height (.array (letter.attemptHistory.map u64Value))+1≤2:=by
    have hitems:heightItems (letter.attemptHistory.map u64Value)≤1:=by
     rw [heightItems_le_iff,List.forall_mem_map]
     exact fun n _=>by rw [(flat_u64Value n).height]
    rw [AllNumbers,height,allNumbersItems_iff,List.forall_mem_map]
    exact ⟨fun n _=>(flat_u64Value n).numbers,Nat.succ_le_succ hitems⟩
   simp only [deadLetterMembers,forall_mem_cons,not_mem_nil,false_imp_iff,implies_true,and_true]
   exact ⟨hflat (flat_string _),hflat (flat_string _),hflat (flat_string _),
    hflat (flat_string _),hflat (flat_u64Value _),hflat (flat_string _),
    hflat (flat_string _),hflat (flat_string _),harray,hflat (flat_textOrNull _),
    hflat (flat_u64Value _),hflat (flat_u64Value _)⟩
  exact hall _ hmember
 -- the object stays closed: unification would compute its members
 generalize deadLetterToValue letter=value at hobject
 exact ⟨hobject.1,hobject.2.trans (by decide)⟩

lemma deadLetterFromText_toText(valid:validateCallbackDeadLetter letter=.ok ())
  (sized:letter.Sized):
  deadLetterFromText reader (toText d (deadLetterToValue letter))=.ok letter:=by
 rw [deadLetterFromText,fromStr_toText queueErrors reader (deadLetterToValue_writable letter),
  ok_bind,deadLetterFromValue,readDeadLetter_deadLetterToValue sized,ok_bind,valid]
 rfl

lemma letterOf_sized (h:Fileable delivery attempts lastError deadLetteredAt) :
  (letterOf delivery attempts lastError deadLetteredAt).Sized where
 sequence:=h.sized.sequence
 attempts:=by
  intro attempt hmem
  rw [letterOf,mem_range'_1] at hmem
  have hbound:=h.attemptsSized
  omega
 deadLetteredAt:=h.timeSized
 redriveCount:=h.sized.redriveCount

def letterText (d:StringDisplay) (delivery:CallbackDelivery) (attempts:ℕ)
  (lastError:Option String) (deadLetteredAt:ℕ) : String :=
 toText d (deadLetterToValue (letterOf delivery attempts lastError deadLetteredAt))

lemma deadLetterFromText_letterText(h:Fileable delivery attempts lastError deadLetteredAt):
  deadLetterFromText reader (letterText d delivery attempts lastError deadLetteredAt) =
   .ok (letterOf delivery attempts lastError deadLetteredAt):=
 deadLetterFromText_toText (letterOf_valid h) (letterOf_sized h)

section
variable {store:SqliteCallbackDeadLetterStore} {stored:ℕ} {storedError:Option String} {storedAt:ℕ}

lemma fileable_of_dead{id:String}{entry:Entry}(hwell:entry.WellFormed id)
  (hdead:entry.delivery.status=.deadLettered)(htimed:deadLetteredAt≠0)
  (hsized:deadLetteredAt<u64Limit):
  Fileable entry.delivery entry.delivery.attempt entry.delivery.lastError deadLetteredAt:=by
 obtain ⟨hidentity,hchecked⟩:=(validate_iff _).mp hwell.valid
 exact
  { identity:=hidentity
    sized:=hwell.sized
    attempted:=Nat.pos_of_ne_zero hchecked.attempt
    attemptsSized:=hwell.sized.attempt
    reason:=hchecked.reason (by rw [hdead];rfl)
    timed:=htimed
    timeSized:=hsized }

lemma fromDelivery_dead(hvalid:validateCallbackDelivery delivery=.ok ())
  (hdead:delivery.status=.deadLettered)(htimed:deadLetteredAt≠0):
  CallbackDeadLetter.fromDelivery delivery deadLetteredAt =
   .ok (letterOf delivery delivery.attempt delivery.lastError deadLetteredAt):=by
 simp only [CallbackDeadLetter.fromDelivery,hdead,hvalid,beq_self_eq_true,ensure,ok_bind]
 simp [htimed,ok_bind,letterOf]

lemma fromDelivery_ok(h:CallbackDeadLetter.fromDelivery delivery deadLetteredAt=.ok letter):
  delivery.status=.deadLettered∧deadLetteredAt≠0:=by
 simp only [CallbackDeadLetter.fromDelivery,bind_ok,ensure_ok,beq_iff_eq,bne_iff_ne] at h
 obtain ⟨-,hdead,-,-,-,htimed,-⟩:=h
 exact ⟨hdead,htimed⟩

lemma immutableConflict_letterOf:
  callbackDeadLetterImmutableConflict (letterOf delivery stored storedError storedAt)
    (letterOf delivery attempts lastError deadLetteredAt) =
   if storedError=lastError then
    if storedAt=deadLetteredAt then none else some "dead_lettered_at_unix_ms"
   else some "last_error":=by
 simp only [callbackDeadLetterImmutableConflict,letterOf,beq_self_eq_true,Bool.not_true,
  List.find?_cons]
 by_cases herror:storedError=lastError
 · rw [if_pos herror,beq_iff_eq.mpr herror]
   by_cases htime:storedAt=deadLetteredAt
   · rw [if_pos htime,beq_iff_eq.mpr htime]
     rfl
   · rw [if_neg htime,beq_false_of_ne htime]
     rfl
 · rw [if_neg herror,beq_false_of_ne herror]
   rfl

section
variable (h:Fileable delivery attempts lastError deadLetteredAt)
include h

lemma insert_first(hnone:store[delivery.deliveryId]?=none):
  store.insertDeadLetter reader (letterOf delivery attempts lastError deadLetteredAt) =
   .ok (store.insert delivery.deliveryId
    (letterText d delivery attempts lastError deadLetteredAt)):=by
 rw [insertDeadLetter,letterOf_valid h,ok_bind]
 simp only [letterOf,hnone]
 rfl

lemma insert_again
  (hstored:store[delivery.deliveryId]?=some (letterText d delivery stored lastError deadLetteredAt))
  (hfiled:Fileable delivery stored lastError deadLetteredAt)(hle:stored≤attempts):
  store.insertDeadLetter reader (letterOf delivery attempts lastError deadLetteredAt) =
   .ok (store.insert delivery.deliveryId
    (letterText d delivery attempts lastError deadLetteredAt)):=by
 have hreplaceable:replaceable (letterOf delivery stored lastError deadLetteredAt)
   (letterOf delivery attempts lastError deadLetteredAt)=.ok ():=by
  simp only [replaceable,immutableConflict_letterOf,if_true,map_none,refuse,ok_bind]
  simp only [letterOf,length_range',Nat.lt_irrefl,decide_false,Bool.false_or]
  rw [decide_eq_false (Nat.not_lt.mpr hle)]
  rfl
 rw [insertDeadLetter,letterOf_valid h,ok_bind]
 have hlookup:store[(letterOf delivery attempts lastError deadLetteredAt).originalDeliveryId]? =
   some (letterText d delivery stored lastError deadLetteredAt):=hstored
 simp only [hlookup,deadLetterFromText_letterText hfiled,ok_bind,hreplaceable]
 rfl

lemma insert_conflict
  (hstored:store[delivery.deliveryId]?=some (letterText d delivery stored storedError storedAt))
  (hfiled:Fileable delivery stored storedError storedAt)
  (hchanged:¬(storedError=lastError∧storedAt=deadLetteredAt)):
  ∃e,store.insertDeadLetter reader (letterOf delivery attempts lastError deadLetteredAt) =
   .error e:=by
 have hconflict:∃field,callbackDeadLetterImmutableConflict
   (letterOf delivery stored storedError storedAt)
   (letterOf delivery attempts lastError deadLetteredAt)=some field:=by
  rw [immutableConflict_letterOf]
  by_cases herror:storedError=lastError
  · rw [if_pos herror,if_neg fun htime=>hchanged ⟨herror,htime⟩]
    exact ⟨_,rfl⟩
  · rw [if_neg herror]
    exact ⟨_,rfl⟩
 obtain ⟨field,hfield⟩:=hconflict
 have hlookup:store[(letterOf delivery attempts lastError deadLetteredAt).originalDeliveryId]? =
   some (letterText d delivery stored storedError storedAt):=hstored
 rw [insertDeadLetter,letterOf_valid h,ok_bind]
 simp only [hlookup,deadLetterFromText_letterText hfiled,ok_bind,replaceable,hfield,map_some]
 exact ⟨_,rfl⟩

end

lemma getDeadLetter_letterText(hfiled:Fileable delivery stored storedError storedAt)
  (hstored:store[delivery.deliveryId]?=some (letterText d delivery stored storedError storedAt)):
  store.getDeadLetter reader delivery.deliveryId =
   .ok (some (letterOf delivery stored storedError storedAt)):=by
 simp only [getDeadLetter,hstored,deadLetterFromText_letterText hfiled,ok_bind]
 simp only [letterOf,beq_self_eq_true,ensure,if_true,ok_bind]

def redriven (delivery:CallbackDelivery) (attempts:ℕ) (lastError:Option String)
  (operator reason:String) : CallbackDelivery :=
 { delivery with
   attempt:=attempts+1
   status:=.pending
   nextRetryAtUnixMs:=none
   deliveredAtUnixMs:=none
   acknowledgedAtUnixMs:=none
   lastError
   redriveCount:=delivery.redriveCount+1
   lastRedriveOperator:=some operator
   lastRedriveReason:=some reason }

variable {operator reason:String} {redrivenAt:ℕ}

lemma getLast?_range'_one{n:ℕ}(h:0<n):(List.range' 1 n).getLast?=some n:=by
 obtain ⟨m,rfl⟩:∃m,n=m+1:=⟨n-1,by omega⟩
 rw [range'_1_concat,List.getLast?_concat,Nat.add_comm]

lemma redriveDelivery_letterOf(hattempted:0<stored)(hoperator:isBlank operator=false)
  (hreason:isBlank reason=false)(htimed:storedAt≠0)(hafter:storedAt≤redrivenAt)
  (hattempts:stored+1<u32Limit)(hcount:delivery.redriveCount+1<u32Limit):
  redriveDelivery (letterOf delivery stored storedError storedAt) operator reason redrivenAt =
   .ok (redriven delivery stored storedError operator reason):=by
 have hpositive:(redrivenAt != 0)=true:=by
  rw [bne_iff_ne]
  omega
 have hordered:¬redrivenAt<storedAt:=Nat.not_lt.mpr hafter
 have hnext:checkedSucc32 stored=some (stored+1):=if_pos hattempts
 have hredrives:checkedSucc32 delivery.redriveCount=some (delivery.redriveCount+1):=if_pos hcount
 simp only [redriveDelivery,letterOf,hoperator,hreason,hpositive,hordered,
  getLast?_range'_one hattempted,getD_some,hnext,hredrives,decide_false,Bool.not_false,
  ensure,okOr,ok_bind,if_true,redriven]

lemma redriven_fileable (h:Fileable delivery stored storedError storedAt)
  (hattempts:stored+1<u32Limit) (hcount:delivery.redriveCount+1<u32Limit) :
  Fileable (redriven delivery stored storedError operator reason) (stored+1) storedError
   storedAt where
 identity:=h.identity
 sized:=
  { sequence:=h.sized.sequence
    attempt:=hattempts
    nextRetry:=fun t ht=>by cases ht
    deliveredAt:=fun t ht=>by cases ht
    acknowledgedAt:=fun t ht=>by cases ht
    redriveCount:=hcount }
 attempted:=Nat.succ_pos _
 attemptsSized:=hattempts
 reason:=h.reason
 timed:=h.timed
 timeSized:=h.timeSized

lemma redriveDeadLetter_letterText(h:Fileable delivery stored storedError storedAt)
  (hstored:store[delivery.deliveryId]?=some (letterText d delivery stored storedError storedAt))
  (hoperator:isBlank operator=false)(hreason:isBlank reason=false)(hafter:storedAt≤redrivenAt)
  (hattempts:stored+1<u32Limit)(hcount:delivery.redriveCount+1<u32Limit):
  store.redriveDeadLetter reader delivery.deliveryId operator reason redrivenAt =
   .ok (redriven delivery stored storedError operator reason,
    store.insert delivery.deliveryId (letterText d
     (redriven delivery stored storedError operator reason) (stored+1) storedError
     storedAt)):=by
 have hletter:({ letterOf delivery stored storedError storedAt with
   redriveCount:=(redriven delivery stored storedError operator reason).redriveCount
   attemptHistory:=(letterOf delivery stored storedError storedAt).attemptHistory ++
    [(redriven delivery stored storedError operator reason).attempt] }:CallbackDeadLetter) =
   letterOf (redriven delivery stored storedError operator reason) (stored+1) storedError
    storedAt:=by
  simp [letterOf,redriven,range'_1_concat,Nat.add_comm]
 have hfileable:Fileable (redriven delivery stored storedError operator reason) (stored+1)
   storedError storedAt:=redriven_fileable h hattempts hcount
 simp only [redriveDeadLetter,hstored,okOr,ok_bind,deadLetterFromText_letterText h,
  redriveDelivery_letterOf h.attempted hoperator hreason h.timed hafter hattempts hcount,
  hletter,letterOf_valid hfileable]
 simp only [letterOf,beq_self_eq_true,ensure,if_true,ok_bind]
 rfl

lemma redriveDeadLetter_ok{result:CallbackDelivery×SqliteCallbackDeadLetterStore}
  (h:Fileable delivery stored storedError storedAt)
  (hstored:store[delivery.deliveryId]?=some (letterText d delivery stored storedError storedAt))
  (hresult:store.redriveDeadLetter reader delivery.deliveryId operator reason redrivenAt =
   .ok result):
  isBlank operator=false∧isBlank reason=false∧storedAt≤redrivenAt:=by
 simp only [redriveDeadLetter,hstored,okOr,ok_bind,deadLetterFromText_letterText h,
  redriveDelivery,bind_ok,ensure_ok,Bool.not_eq_true',decide_eq_false_iff_not,
  Nat.not_lt] at hresult
 obtain ⟨-,-,-,⟨-,hoperator,-,hreason,-,-,-,hafter,-⟩,-⟩:=hresult
 exact ⟨hoperator,hreason,hafter⟩

lemma redriven_valid(hidentity:refuseBlank "callback_delivery" (identityFields delivery)=.ok ())
  (hoperator:isBlank operator=false)(hreason:isBlank reason=false):
  validateCallbackDelivery (redriven delivery stored storedError operator reason)=.ok ():=
 (validate_iff _).mpr ⟨hidentity,
  { attempt:=Nat.succ_ne_zero _
    terminal:=nofun
    retry:=nofun
    undelivered:=fun _=>rfl
    unacknowledged:=fun _=>rfl
    delivered:=nofun
    acknowledged:=nofun
    ordered:=fun _ _ hs=>by cases hs
    redriven:=fun _=>by simp [redriveAuditMissing,missingText,redriven,hoperator,hreason]
    fresh:=fun hs=>absurd hs (Nat.succ_ne_zero _)
    reason:=nofun }⟩
end

lemma upsert_redriven{queue:SqliteCallbackDeliveryQueue}{entry:Entry}
  (hwell:entry.WellFormed delivery.deliveryId)
  (hrow:queue[delivery.deliveryId]?=some (rowOf d entry))
  (hvalid:validateCallbackDelivery delivery=.ok ())
  (hredrive:validRedrive entry.delivery delivery=true)(hretry:delivery.nextRetryAtUnixMs=none)
  (hattempt:entry.delivery.attempt≤delivery.attempt):
  queue.upsertDelivery reader delivery =
   .ok (queue.insert delivery.deliveryId (rowOf d ⟨delivery,entry.generation,none⟩)):=by
 obtain ⟨hdead,hpending,hcount,hmetadata⟩:=validRedrive_status hredrive
 have hne:delivery≠entry.delivery:=by
  intro hsame
  rw [hsame,hdead] at hpending
  cases hpending
 have hsequence:(delivery.sequence:ℤ) ≤ i64Max:=by
  rw [((sameMetadata_iff _ _).mp hmetadata).2.2.2.1]
  exact hwell.inRange
 obtain ⟨set,hset⟩:∃set,transitionColumns d delivery=.ok set:=by
  simp only [transitionColumns,hretry,optionalCallbackU64ToI64,transposed,ok_bind,
   callbackU64ToI64,if_pos hsequence]
  exact ⟨_,rfl⟩
 have hexisting:queue.upsertExisting (d:=d) entry.delivery delivery =
   .ok (queue.insert delivery.deliveryId (rowOf d ⟨delivery,entry.generation,none⟩)):=by
  rw [upsertExisting,if_neg hne]
  simp only [hredrive,hmetadata,Bool.not_true,Bool.and_false,Bool.false_and,Bool.not_false,
   Bool.false_or,decide_eq_false (Nat.not_lt.mpr hattempt),ensure,if_true,ok_bind,hset,
   updateOne,hrow]
  have hstatus:((rowOf d entry).status==callbackDeliveryStatusAsStr entry.delivery.status) =
    true:=beq_self_eq_true (callbackDeliveryStatusAsStr entry.delivery.status)
  rw [if_pos hstatus,transitionColumns_ok hset rfl]
 rw [upsertDelivery,hvalid,ok_bind]
 simp only [hrow]
 rw [rowOf,deliveryFromText_toText hwell.valid hwell.sized,ok_bind,hexisting]

/-- What a delivery carries along from its scheduling or its last redrive on. -/
structure Carried (delivery delivery':CallbackDelivery) : Prop where
 deliveryId:delivery'.deliveryId=delivery.deliveryId
 metadata:sameMetadata delivery' delivery=true
 redriveCount:delivery'.redriveCount=delivery.redriveCount
 attempt:delivery.attempt≤delivery'.attempt

variable {delivery':CallbackDelivery}

lemma Carried.of_status(h:letterOf delivery' 0 none 0=letterOf delivery 0 none 0)
  (hattempt:delivery.attempt≤delivery'.attempt):Carried delivery delivery':=by
 simp only [letterOf,CallbackDeadLetter.mk.injEq] at h
 obtain ⟨hid,hsubscription,hevent,hrun,hsequence,hcursor,hkey,hpolicy,-,-,-,hcount⟩:=h
 exact ⟨hid,(sameMetadata_iff _ _).mpr ⟨hsubscription,hevent,hrun,hsequence,hcursor,hkey,
  hpolicy⟩,hcount,hattempt⟩

lemma Carried.letterOf_eq(h:Carried delivery delivery')(attempts:ℕ)
  (lastError:Option String)(deadLetteredAt:ℕ):
  letterOf delivery' attempts lastError deadLetteredAt =
   letterOf delivery attempts lastError deadLetteredAt:=by
 obtain ⟨hsubscription,hevent,hrun,hsequence,hcursor,hkey,hpolicy⟩:=
  (sameMetadata_iff _ _).mp h.metadata
 simp only [letterOf,h.deliveryId,hsubscription,hevent,hrun,hsequence,hcursor,hkey,hpolicy,
  h.redriveCount]

lemma Carried.fileable(h:Carried delivery delivery')(hsized:delivery'.Sized)
  (hfiled:Fileable delivery attempts lastError deadLetteredAt):
  Fileable delivery' attempts lastError deadLetteredAt:=by
 obtain ⟨hsubscription,hevent,hrun,-,hcursor,hkey,-⟩:=(sameMetadata_iff _ _).mp h.metadata
 have hfields:identityFields delivery'=identityFields delivery:=by
  simp only [identityFields,h.deliveryId,hsubscription,hevent,hrun,hcursor,hkey]
 exact { hfiled with identity:=hfields▸hfiled.identity,sized:=hsized }

lemma finishedWith_carried(status:CallbackDeliveryStatus)(error:String):
  Carried delivery (finishedWith delivery status error):=
 .of_status rfl (Nat.le_refl _)

lemma finishedWith_sized(h:delivery.Sized)(status:CallbackDeliveryStatus)(error:String):
  (finishedWith delivery status error).Sized:=
 { h with nextRetry:=fun t ht=>by cases ht }

lemma checkedSucc32_eq_some{n m:ℕ}(h:checkedSucc32 n=some m):m=n+1∧m<u32Limit:=by
 unfold checkedSucc32 at h
 split at h
 · next hlt=>
   cases h
   exact ⟨rfl,hlt⟩
 · cases h

lemma checkedAdd_lt{a b c:ℕ}(h:checkedAdd a b=some c):c<u64Limit:=by
 unfold checkedAdd at h
 split at h
 · next hlt=>
   cases h
   exact hlt
 · cases h

lemma retryOrFinish_carried(policy:CallbackRetryPolicy)(h:delivery.Sized)(now:ℕ)
  (retryAfterMs:Option ℕ)(error:String):
  Carried delivery (retryOrFinish policy delivery now retryAfterMs error) ∧
   (retryOrFinish policy delivery now retryAfterMs error).Sized:=by
 unfold retryOrFinish
 split
 · exact ⟨finishedWith_carried _ _,finishedWith_sized h _ _⟩
 split
 · exact ⟨finishedWith_carried _ _,finishedWith_sized h _ _⟩
 split
 · exact ⟨finishedWith_carried _ _,finishedWith_sized h _ _⟩
 next nextAttempt hnext=>
  obtain ⟨rfl,hbound⟩:=checkedSucc32_eq_some hnext
  simp only
  split
  · exact ⟨finishedWith_carried _ _,finishedWith_sized h _ _⟩
  · next nextRetry hretry=>
    refine ⟨.of_status rfl (Nat.le_succ _),{ h with attempt:=hbound,nextRetry := ?_ }⟩
    intro t ht
    cases ht
    exact checkedAdd_lt hretry

lemma recordResponse_carried(policy:CallbackRetryPolicy)(h:delivery.Sized)
  (response:CallbackDeliveryResponse){now:ℕ}(hnow:now<u64Limit):
  Carried delivery (recordResponse policy delivery response now) ∧
   (recordResponse policy delivery response now).Sized:=by
 have hfinished:∀(status:CallbackDeliveryStatus) (error:String),
   Carried delivery (finishedWith delivery status error) ∧
    (finishedWith delivery status error).Sized:=
  fun status error=>⟨finishedWith_carried _ _,finishedWith_sized h _ _⟩
 unfold recordResponse
 split
 · exact ⟨.of_status rfl (Nat.le_refl _),h⟩
 cases response with
 | success=>
  refine ⟨.of_status rfl (Nat.le_refl _),
   { h with deliveredAt := ?_,nextRetry:=fun t ht=>nomatch ht }⟩
  intro t ht
  cases ht
  exact hnow
 | duplicateAlreadyProcessed=>
  refine ⟨.of_status rfl (Nat.le_refl _),
   { h with acknowledgedAt := ?_,nextRetry:=fun t ht=>nomatch ht }⟩
  intro t ht
  cases ht
  exact hnow
 | targetGone=>exact hfinished _ _
 | rateLimited retryAfterMs=>exact retryOrFinish_carried policy h now retryAfterMs _
 | serverError status=>exact retryOrFinish_carried policy h now none _
 | clientError status=>exact hfinished _ _
end

end GraphBlocks.CallbackDeliveries
