import GraphBlocks.CallbackQueueModel

namespace GraphBlocks.CallbackDeliveries
open Std Json OrderedMap RustStd StoredJson CanonicalJson ApplicationProtocol Usage List Option
open SqliteApplicationProtocolLog (asU64_intToken asObject_toObject)
open SqliteCallbackDeliveryQueue

section
variable {value:Value} {field:String}

lemma statusFromStr_asStr(status:CallbackDeliveryStatus):
  callbackDeliveryStatusFromStr (callbackDeliveryStatusAsStr status)=.ok status:=by
 cases status <;>rfl

lemma statusAsStr_injective{a b:CallbackDeliveryStatus}
  (h:callbackDeliveryStatusAsStr a=callbackDeliveryStatusAsStr b):a=b:=by
 have hb:=statusFromStr_asStr b
 rw [←h,statusFromStr_asStr] at hb
 exact Except.ok.inj hb

lemma failurePolicyFromStr_asStr(policy:CallbackFailurePolicy):
  callbackFailurePolicyFromStr (callbackFailurePolicyAsStr policy)=.ok policy:=by
 cases policy <;>rfl

lemma requiredString_ok{text:String}(h:storedMember value field=some (.string text)):
  callbackRequiredString value field=.ok text:=by
 rw [callbackRequiredString,h]
 rfl

lemma optionalString_ok{text:Option String}(h:storedMember value field=some (textOrNull text)):
  callbackOptionalString value field=.ok text:=by
 rw [callbackOptionalString,h]
 cases text <;>rfl

lemma requiredU64_ok{n:ℕ}(h:storedMember value field=some (u64Value n))
  (hn:n<u64Limit):callbackRequiredU64 value field=.ok n:=by
 rw [callbackRequiredU64,h,bind_some,u64Value,asU64_intToken hn]
 rfl

lemma requiredU32_ok{n:ℕ}(h:storedMember value field=some (u64Value n))
  (hn:n<u32Limit):callbackRequiredU32 value field=.ok n:=by
 have hwide:n<u64Limit:=hn.trans (by decide)
 rw [callbackRequiredU32,requiredU64_ok h hwide,ok_bind,decide_eq_true hn]
 rfl

lemma optionalU64_ok{n:Option ℕ}(h:storedMember value field=some (u64OrNull n))
  (hn:∀t∈n,t<u64Limit):callbackOptionalU64 value field=.ok n:=by
 rw [callbackOptionalU64,h]
 cases n with
 | none=>rfl
 | some t=>
  have hread:asU64 (u64Value t)=some t:=asU64_intToken (hn t rfl)
  simp only [u64OrNull,u64Value] at hread ⊢
  rw [hread]
  rfl
end

section
variable {d:StringDisplay} {reader:JsonReader d} {delivery:CallbackDelivery}

lemma deliveryKeys_nodup(delivery:CallbackDelivery):
  ((deliveryMembers delivery).map Prod.fst).Nodup:=by
 simp only [deliveryMembers,map_cons,map_nil]
 decide

lemma storedMember_deliveryToValue{field:String}{value:Value}
  (h:(field,value)∈deliveryMembers delivery):
  storedMember (deliveryToValue delivery) field=some value:=by
 rw [storedMember,deliveryToValue,asObject_toObject,bind_some]
 exact (lookup_ofList_nodup (deliveryKeys_nodup delivery) field value).mpr h

lemma readDelivery_deliveryToValue(sized:delivery.Sized):
  readDelivery (deliveryToValue delivery)=.ok delivery:=by
 have member:∀{field:String} {value:Value},(field,value)∈deliveryMembers delivery →
   storedMember (deliveryToValue delivery) field=some value:=
  storedMember_deliveryToValue
 have deliveryId:callbackRequiredString (deliveryToValue delivery) "delivery_id" =
   .ok delivery.deliveryId:=
  requiredString_ok (member (by simp [deliveryMembers]))
 have subscriptionId:callbackRequiredString (deliveryToValue delivery) "subscription_id" =
   .ok delivery.subscriptionId:=
  requiredString_ok (member (by simp [deliveryMembers]))
 have eventId:callbackRequiredString (deliveryToValue delivery) "event_id"=.ok delivery.eventId:=
  requiredString_ok (member (by simp [deliveryMembers]))
 have runId:callbackRequiredString (deliveryToValue delivery) "run_id"=.ok delivery.runId:=
  requiredString_ok (member (by simp [deliveryMembers]))
 have cursor:callbackRequiredString (deliveryToValue delivery) "cursor"=.ok delivery.cursor:=
  requiredString_ok (member (by simp [deliveryMembers]))
 have idempotencyKey:callbackRequiredString (deliveryToValue delivery) "idempotency_key" =
   .ok delivery.idempotencyKey:=
  requiredString_ok (member (by simp [deliveryMembers]))
 have policy:callbackRequiredString (deliveryToValue delivery) "failure_policy" =
   .ok (callbackFailurePolicyAsStr delivery.failurePolicy):=
  requiredString_ok (member (by simp [deliveryMembers]))
 have status:callbackRequiredString (deliveryToValue delivery) "status" =
   .ok (callbackDeliveryStatusAsStr delivery.status):=
  requiredString_ok (member (by simp [deliveryMembers]))
 have sequence:callbackRequiredU64 (deliveryToValue delivery) "sequence"=.ok delivery.sequence:=
  requiredU64_ok (member (by simp [deliveryMembers])) sized.sequence
 have attempt:callbackRequiredU32 (deliveryToValue delivery) "attempt"=.ok delivery.attempt:=
  requiredU32_ok (member (by simp [deliveryMembers])) sized.attempt
 have redriveCount:callbackRequiredU32 (deliveryToValue delivery) "redrive_count" =
   .ok delivery.redriveCount:=
  requiredU32_ok (member (by simp [deliveryMembers])) sized.redriveCount
 have nextRetry:callbackOptionalU64 (deliveryToValue delivery) "next_retry_at_unix_ms" =
   .ok delivery.nextRetryAtUnixMs:=
  optionalU64_ok (member (by simp [deliveryMembers])) sized.nextRetry
 have deliveredAt:callbackOptionalU64 (deliveryToValue delivery) "delivered_at_unix_ms" =
   .ok delivery.deliveredAtUnixMs:=
  optionalU64_ok (member (by simp [deliveryMembers])) sized.deliveredAt
 have acknowledgedAt:callbackOptionalU64 (deliveryToValue delivery) "acknowledged_at_unix_ms" =
   .ok delivery.acknowledgedAtUnixMs:=
  optionalU64_ok (member (by simp [deliveryMembers])) sized.acknowledgedAt
 have lastError:callbackOptionalString (deliveryToValue delivery) "last_error" =
   .ok delivery.lastError:=
  optionalString_ok (member (by simp [deliveryMembers]))
 have operator:callbackOptionalString (deliveryToValue delivery) "last_redrive_operator" =
   .ok delivery.lastRedriveOperator:=
  optionalString_ok (member (by simp [deliveryMembers]))
 have reason:callbackOptionalString (deliveryToValue delivery) "last_redrive_reason" =
   .ok delivery.lastRedriveReason:=
  optionalString_ok (member (by simp [deliveryMembers]))
 simp only [readDelivery,deliveryId,subscriptionId,eventId,runId,sequence,cursor,attempt,
  idempotencyKey,policy,failurePolicyFromStr_asStr,status,statusFromStr_asStr,nextRetry,
  deliveredAt,acknowledgedAt,lastError,redriveCount,operator,reason,ok_bind]

/-- A value without parts whose number, if it is one, is well formed. -/
structure Flat (value:Value) : Prop where
 numbers:AllNumbers IsNumberToken value
 height:height value=0

lemma flat_string(s:String):Flat (.string s):=⟨trivial,rfl⟩

lemma flat_u64Value(n:ℕ):Flat (u64Value n):=⟨isNumberToken_intToken n,rfl⟩

lemma flat_u64OrNull(n:Option ℕ):Flat (u64OrNull n):=by
 cases n with
 | none=>exact ⟨trivial,rfl⟩
 | some n=>exact flat_u64Value n

lemma flat_textOrNull(s:Option String):Flat (textOrNull s):=by cases s <;>exact ⟨trivial,rfl⟩

lemma deliveryMembers_flat(delivery:CallbackDelivery):∀e∈deliveryMembers delivery,Flat e.2:=by
 simp only [deliveryMembers,forall_mem_cons,flat_string,flat_u64Value,flat_u64OrNull,
  flat_textOrNull,not_mem_nil,false_imp_iff,implies_true,and_self]

lemma ofList_writable{members:List (String×Value)}(hnodup:(members.map Prod.fst).Nodup)
  (hflat:∀e∈members,Flat e.2):Writable (toObject (ExtTreeMap.ofList members)):=by
 have hobject:AllNumbers IsNumberToken (toObject (ExtTreeMap.ofList members)) ∧
   height (toObject (ExtTreeMap.ofList members))≤1:=by
  apply toObject_writable
  intro key value hvalue
  have hmember:=hflat _ ((lookup_ofList_nodup hnodup key value).mp hvalue)
  exact ⟨hmember.numbers,(congrArg (·+1) hmember.height).le⟩
 exact ⟨hobject.1,hobject.2.trans (by decide)⟩

lemma deliveryToValue_writable(delivery:CallbackDelivery):Writable (deliveryToValue delivery):=
 ofList_writable (deliveryKeys_nodup delivery) (deliveryMembers_flat delivery)

lemma deliveryFromText_toText(valid:validateCallbackDelivery delivery=.ok ())
  (sized:delivery.Sized):
  deliveryFromText reader (toText d (deliveryToValue delivery))=.ok delivery:=by
 rw [deliveryFromText,fromStr_toText queueErrors reader (deliveryToValue_writable delivery),
  ok_bind,deliveryFromValue,readDelivery_deliveryToValue sized,ok_bind,valid]
 rfl
end

/-- A delivery with the generation of its last claim and the interval of a claim it is under. -/
structure Entry where
 delivery:CallbackDelivery
 generation:ℕ
 interval:Option (ℕ×ℕ)

def toColumn : Option ℕ→Option ℤ
 | none=>none
 | some n=>some (n:ℤ)

def rowOf (d:StringDisplay) (entry:Entry) : DeliveryRow where
 status:=callbackDeliveryStatusAsStr entry.delivery.status
 nextRetryAtUnixMs:=toColumn entry.delivery.nextRetryAtUnixMs
 sequence:=entry.delivery.sequence
 deliveryJson:=toText d (deliveryToValue entry.delivery)
 claimGeneration:=entry.generation
 claimStartedAtUnixMs:=entry.interval.map fun interval=>(interval.1:ℤ)
 claimExpiresAtUnixMs:=entry.interval.map fun interval=>(interval.2:ℤ)

structure Entry.WellFormed (id:String) (entry:Entry) : Prop where
 deliveryId:entry.delivery.deliveryId=id
 valid:validateCallbackDelivery entry.delivery=.ok ()
 sized:entry.delivery.Sized
 inRange:(entry.delivery.sequence:ℤ) ≤ i64Max
 claimed:entry.interval.isSome=true↔entry.delivery.status=.delivering
 nonempty:∀start expiry,entry.interval=some (start,expiry)→start<expiry

def Sound (d:StringDisplay) (queue:SqliteCallbackDeliveryQueue) : Prop :=
 ∀(id:String) row,queue[id]?=some row → ∃entry : Entry,entry.WellFormed id∧row=rowOf d entry

section
variable {d:StringDisplay} {reader:JsonReader d} {queue:SqliteCallbackDeliveryQueue}
 {id:String} {entry:Entry}

lemma i64ToU64_cast(n:ℕ)(label:String):callbackI64ToU64 n label=.ok n:=by
 rw [callbackI64ToU64,if_pos (Int.natCast_nonneg n),Int.toNat_natCast]

lemma optionalI64ToU64_cast(n:Option ℕ)(label:String):
  optionalCallbackI64ToU64 (toColumn n) label=.ok n:=by
 cases n with
 | none=>rfl
 | some n=>
  rw [optionalCallbackI64ToU64,toColumn,transposed,i64ToU64_cast]
  rfl

lemma u64ToI64_ok{n:ℕ}{label:String}{column:ℤ}
  (h:callbackU64ToI64 n label=.ok column):column=n∧(n:ℤ) ≤ i64Max:=by
 unfold callbackU64ToI64 at h
 split at h
 · next hle=>exact ⟨(Except.ok.inj h).symm,hle⟩
 · cases h

lemma optionalU64ToI64_ok{n:Option ℕ}{label:String}{column:Option ℤ}
  (h:optionalCallbackU64ToI64 n label=.ok column):column=toColumn n:=by
 cases n with
 | none=>exact (Except.ok.inj h).symm
 | some n=>
  rw [optionalCallbackU64ToI64,transposed] at h
  cases hcolumn:callbackU64ToI64 n label with
  | error e=>
   rw [hcolumn] at h
   cases h
  | ok value=>
   rw [hcolumn] at h
   cases h
   rw [(u64ToI64_ok hcolumn).1]
   rfl

lemma deliveryFromRowValue_rowOf(h:entry.WellFormed id):
  deliveryFromRowValue reader id (rowOf d entry)=.ok entry.delivery:=by
 unfold deliveryFromRowValue
 rw [rowOf,deliveryFromText_toText h.valid h.sized,ok_bind,h.deliveryId,beq_self_eq_true]
 simp only [ensure,statusFromStr_asStr,optionalI64ToU64_cast,i64ToU64_cast,ok_bind,beq_self_eq_true]
 rfl

lemma readWithGeneration_rowOf(h:entry.WellFormed id):
  readWithGeneration reader (id,rowOf d entry)=.ok (entry.delivery,entry.generation):=by
 unfold readWithGeneration
 rw [deliveryFromRowValue_rowOf h,ok_bind,rowOf,i64ToU64_cast]
 rfl

def entryOfRow (reader:JsonReader d) (id:String) (row:DeliveryRow) : Option Entry :=
 match deliveryFromRowValue reader id row with
 | .error _=>none
 | .ok delivery=>some ⟨delivery,row.claimGeneration.toNat,row.claimStartedAtUnixMs.bind fun start=>
    row.claimExpiresAtUnixMs.map fun expiry=>(start.toNat,expiry.toNat)⟩

def entryAt (reader:JsonReader d) (queue:SqliteCallbackDeliveryQueue) (id:String) : Option Entry :=
 queue[id]?.bind (entryOfRow reader id)

lemma entryOfRow_rowOf(h:entry.WellFormed id):entryOfRow reader id (rowOf d entry)=some entry:=by
 rw [entryOfRow,deliveryFromRowValue_rowOf h]
 obtain ⟨delivery,generation,interval⟩:=entry
 cases interval <;>simp [rowOf]

lemma entryAt_of_row(h:queue[id]?=some (rowOf d entry))(hwell:entry.WellFormed id):
  entryAt reader queue id=some entry:=by
 rw [entryAt,h,bind_some,entryOfRow_rowOf hwell]

lemma entryAt_none(h:queue[id]?=none):entryAt reader queue id=none:=by
 rw [entryAt,h]
 rfl

lemma Sound.row_of_entry(h:Sound d queue)(hentry:entryAt reader queue id=some entry):
  entry.WellFormed id∧queue[id]?=some (rowOf d entry):=by
 cases hrow:queue[id]? with
 | none=>
  rw [entryAt_none hrow] at hentry
  cases hentry
 | some row=>
  obtain ⟨found,hwell,rfl⟩:=h id row hrow
  rw [entryAt_of_row hrow hwell] at hentry
  cases hentry
  exact ⟨hwell,rfl⟩

lemma Sound.insert(h:Sound d queue)(hwell:entry.WellFormed id):
  Sound d (queue.insert id (rowOf d entry)):=by
 intro other row hrow
 rw [lookup_insert] at hrow
 by_cases hid:id=other
 · rw [if_pos hid] at hrow
   cases hrow
   exact ⟨entry,hid▸hwell,rfl⟩
 · rw [if_neg hid] at hrow
   exact h other row hrow

lemma entryAt_insert(hwell:entry.WellFormed id)(other:String):
  entryAt reader (queue.insert id (rowOf d entry)) other =
   if id=other then some entry else entryAt reader queue other:=by
 by_cases hid:id=other
 · subst hid
   rw [if_pos rfl]
   exact entryAt_of_row (lookup_insert_self _ _ _) hwell
 · rw [if_neg hid,entryAt,entryAt,lookup_insert_ne _ _ hid]
end

section
variable {d:StringDisplay} {reader:JsonReader d} {queue queue':SqliteCallbackDeliveryQueue}
 {id:String} {entry:Entry} {delivery:CallbackDelivery}
 {condition:DeliveryRow→Bool} {set:DeliveryRow→DeliveryRow}

lemma updateOne_ok{message:String}(h:queue.updateOne id condition set message=.ok queue'):
  ∃row,queue[id]?=some row∧condition row=true∧queue'=queue.insert id (set row):=by
 unfold updateOne at h
 split at h
 · cases h
 · next row hrow=>
   split at h
   · next hcondition=>exact ⟨row,hrow,hcondition,(Except.ok.inj h).symm⟩
   · cases h

lemma transitionColumns_ok(h:transitionColumns d delivery=.ok set){row:DeliveryRow}{generation:ℕ}
  (hgeneration:row.claimGeneration=generation):set row=rowOf d ⟨delivery,generation,none⟩:=by
 simp only [transitionColumns,bind_ok] at h
 obtain ⟨nextRetry,hretry,sequence,hsequence,h⟩:=h
 rw [←Except.ok.inj h,optionalU64ToI64_ok hretry,(u64ToI64_ok hsequence).1,rowOf]
 simp only [hgeneration,map_none]

lemma transitionColumns_inRange(h:transitionColumns d delivery=.ok set):
  (delivery.sequence:ℤ) ≤ i64Max:=by
 simp only [transitionColumns,bind_ok] at h
 obtain ⟨nextRetry,-,sequence,hsequence,-⟩:=h
 exact (u64ToI64_ok hsequence).2

/-- What is left of a row when the same keys are written one after the other. -/
def overwrite (d:StringDisplay) {α:Type} (key:α→String) (next:α→Entry) :
  List α→SqliteCallbackDeliveryQueue→SqliteCallbackDeliveryQueue
 | [], queue=>queue
 | a::rest, queue=>overwrite d key next rest (queue.insert (key a) (rowOf d (next a)))

section
variable {α:Type} {key:α→String} {next:α→Entry} {items:List α}

lemma overwrite_other(h:id∉items.map key):(overwrite d key next items queue)[id]?=queue[id]?:=by
 induction items generalizing queue with
 | nil=>rfl
 | cons a rest ih=>
  rw [map_cons,mem_cons,not_or] at h
  rw [overwrite,ih h.2,lookup_insert_ne _ _ (Ne.symm h.1)]

lemma overwrite_item(hnodup:(items.map key).Nodup){a:α}(ha:a∈items):
  (overwrite d key next items queue)[key a]?=some (rowOf d (next a)):=by
 induction items generalizing queue with
 | nil=>cases ha
 | cons b rest ih=>
  rw [map_cons,nodup_cons] at hnodup
  rcases mem_cons.mp ha with rfl|ha
  · rw [overwrite,overwrite_other hnodup.1,lookup_insert_self]
  · exact ih hnodup.2 ha

lemma overwrite_of_rounds(one:SqliteCallbackDeliveryQueue→α→Outcome SqliteCallbackDeliveryQueue)
  (all:List α→SqliteCallbackDeliveryQueue→Outcome SqliteCallbackDeliveryQueue)
  (hnil:∀q,all [] q=.ok q)
  (hcons:∀a rest q,all (a::rest) q=one q a >>= all rest)
  (present:α→DeliveryRow→Prop)
  (hone:∀a q q' row,q[key a]?=some row→present a row→ one q a=.ok q' →
   q'=q.insert (key a) (rowOf d (next a)))
  (hnodup:(items.map key).Nodup)
  (hrows:∀a∈items,∃row,queue[key a]?=some row∧present a row)
  (h:all items queue=.ok queue'):queue'=overwrite d key next items queue:=by
 induction items generalizing queue with
 | nil=>
  rw [hnil] at h
  exact (Except.ok.inj h).symm
 | cons a rest ih=>
  rw [map_cons,nodup_cons] at hnodup
  rw [hcons,bind_ok] at h
  obtain ⟨middle,hmiddle,h⟩:=h
  obtain ⟨row,hrow,hpresent⟩:=hrows a mem_cons_self
  have hinsert:=hone a queue middle row hrow hpresent hmiddle
  subst hinsert
  apply ih hnodup.2 _ h
  intro b hb
  have hne:key a≠key b:=fun heq=>hnodup.1 (heq▸List.mem_map_of_mem hb)
  rw [lookup_insert_ne _ _ hne]
  exact hrows b (mem_cons_of_mem _ hb)

lemma Sound.overwrite(h:Sound d queue)(hnext:∀a∈items,(next a).WellFormed (key a)):
  Sound d (overwrite d key next items queue):=by
 induction items generalizing queue with
 | nil=>exact h
 | cons a rest ih=>
  apply ih (h.insert (hnext a mem_cons_self))
  exact fun b hb=>hnext b (mem_cons_of_mem _ hb)
end

lemma select_mem{item:String×DeliveryRow}(h:item∈queue.select condition):
  queue[item.1]?=some item.2∧condition item.2=true:=by
 rw [select,(perm_insertionSort _ _).mem_iff,mem_filter] at h
 exact ⟨ExtTreeMap.mem_toList_iff_getElem?_eq_some.mp h.1,h.2⟩

lemma select_nodup(condition:DeliveryRow→Bool):((queue.select condition).map Prod.fst).Nodup:=by
 have hperm:=(perm_insertionSort dueOrder
  (queue.toList.filter fun entry=>condition entry.2)).map Prod.fst
 rw [select,hperm.nodup_iff]
 exact (nodup_keys_toList queue).sublist (filter_sublist.map _)

lemma select_insert_empty{row:DeliveryRow}(h:condition row=true):
  SqliteCallbackDeliveryQueue.select (ExtTreeMap.insert ∅ id row) condition=[(id,row)]:=by
 have hperm:((∅:SqliteCallbackDeliveryQueue).insert id row).toList.Perm [(id,row)]:=
  toList_insert_perm _ ExtTreeMap.getElem?_empty
 rw [SqliteCallbackDeliveryQueue.select,perm_singleton.mp hperm,filter_cons,if_pos h]
 rfl

structure ReadOf {α:Type} (d:StringDisplay) (queue:SqliteCallbackDeliveryQueue)
  (condition:DeliveryRow→Bool) (read:Entry→α) (key:α→String) (items:List α) :
  Prop where
 nodup:(items.map key).Nodup
 entry:∀a∈items,∃entry : Entry,entry.WellFormed (key a)∧read entry=a ∧
  queue[key a]?=some (rowOf d entry)∧condition (rowOf d entry)=true

lemma collect_readOf{α:Type}{get:String×DeliveryRow→Outcome α}{read:Entry→α}{key:α→String}
  (hsound:Sound d queue)
  (hget:∀id entry,Entry.WellFormed id entry→ get (id,rowOf d entry)=.ok (read entry))
  (hkey:∀id entry,Entry.WellFormed id entry→key (read entry)=id)
  {selected:List (String×DeliveryRow)}(hsub:selected.Sublist (queue.select condition))
  {items:List α}(h:collect get selected=.ok items):ReadOf d queue condition read key items:=by
 have hrows:∀item∈selected,∃entry:Entry,entry.WellFormed item.1 ∧
   item.2=rowOf d entry∧queue[item.1]?=some item.2∧condition item.2=true:=by
  intro item hitem
  obtain ⟨hrow,hcondition⟩:=select_mem (hsub.subset hitem)
  obtain ⟨entry,hwell,hentry⟩:=hsound item.1 item.2 hrow
  exact ⟨entry,hwell,hentry,hrow,hcondition⟩
 have hpairs:=collect_ok.mp h
 have hkeys:items.map key=selected.map Prod.fst:=by
  clear h hsub
  induction hpairs with
  | nil=>rfl
  | @cons item a rest _ hread _ ih=>
   obtain ⟨entry,hwell,hentry,-⟩:=hrows item mem_cons_self
   have hsame:get item=.ok (read entry):=by rw [←hget item.1 entry hwell,←hentry]
   rw [hsame] at hread
   cases hread
   rw [map_cons,map_cons,hkey item.1 entry hwell,
    ih fun item hitem=>hrows item (mem_cons_of_mem _ hitem)]
 refine ⟨hkeys▸(select_nodup condition).sublist (hsub.map _),?_⟩
 intro a ha
 obtain ⟨item,hitem,hread⟩:=collect_source h ha
 obtain ⟨entry,hwell,hentry,hrow,hcondition⟩:=hrows item hitem
 have hsame:get item=.ok (read entry):=by rw [←hget item.1 entry hwell,←hentry]
 rw [hsame] at hread
 cases hread
 rw [hkey item.1 entry hwell]
 exact ⟨entry,hwell,rfl,hentry▸hrow,hentry▸hcondition⟩
end
def identityFields (delivery:CallbackDelivery) : List (String×String) :=
 [("delivery_id",delivery.deliveryId),("subscription_id",delivery.subscriptionId),
  ("event_id",delivery.eventId),("run_id",delivery.runId),("cursor",delivery.cursor),
  ("idempotency_key",delivery.idempotencyKey)]

/-- What the checks of a delivery come down to, apart from the texts that identify it. -/
structure Checked (delivery:CallbackDelivery) : Prop where
 attempt:delivery.attempt≠0
 terminal:callbackDeliveryStatusIsTerminal delivery.status=true→delivery.nextRetryAtUnixMs=none
 retry:delivery.nextRetryAtUnixMs≠some 0
 undelivered:delivery.status.blocksOrderedDelivery=true→delivery.deliveredAtUnixMs=none
 unacknowledged:delivery.status.blocksOrderedDelivery=true→delivery.acknowledgedAtUnixMs=none
 delivered:delivery.status=.delivered →
  delivery.deliveredAtUnixMs≠none∧delivery.deliveredAtUnixMs≠some 0
 acknowledged:delivery.status=.acknowledged →
  delivery.acknowledgedAtUnixMs≠none∧delivery.acknowledgedAtUnixMs≠some 0
 ordered:∀deliveredAt acknowledgedAt,delivery.deliveredAtUnixMs=some deliveredAt →
  delivery.acknowledgedAtUnixMs=some acknowledgedAt→deliveredAt≤acknowledgedAt
 redriven:0<delivery.redriveCount → redriveAuditMissing delivery=false
 fresh:delivery.redriveCount=0→delivery.lastRedriveOperator=none∧delivery.lastRedriveReason=none
 reason:needsErrorReason delivery.status=true→missingText delivery.lastError=false

lemma and_eq_false_iff_imp{a b:Bool}:(a&&b)=false↔(a=true→b=false):=by cases a <;>simp

lemma validate_iff(delivery:CallbackDelivery):validateCallbackDelivery delivery=.ok () ↔
   refuseBlank "callback_delivery" (identityFields delivery)=.ok ()∧Checked delivery:=by
 simp only [validateCallbackDelivery,bind_ok,ensure_ok,exists_const,and_eq_false_iff_imp,
  isSome_eq_false_iff,isNone_eq_false_iff,bne_iff_ne,beq_iff_eq,
  beq_eq_false_iff_ne,decide_eq_true_eq,Bool.or_eq_false_iff,Bool.not_eq_true',
  Option.any_eq_false,isNone_iff_eq_none]
 constructor
 · rintro ⟨⟨⟩,hblank,hattempt,hterminal,hretry,hundelivered,hunacknowledged,hdelivered,
    hdeliveredAt,hacknowledged,hacknowledgedAt,hordered,hredriven,hfresh,hreason⟩
   refine ⟨hblank,hattempt,hterminal,hretry,hundelivered,hunacknowledged,?_,?_,?_,
    hredriven,hfresh,hreason⟩
   · exact fun hs=>⟨isSome_iff_ne_none.mp (hdelivered hs),hdeliveredAt hs⟩
   · exact fun hs=>⟨isSome_iff_ne_none.mp (hacknowledged hs),hacknowledgedAt hs⟩
   · intro deliveredAt acknowledgedAt hd ha
     simpa [ha] using hordered deliveredAt hd
 · rintro ⟨hblank,h⟩
   refine ⟨(),hblank,h.attempt,h.terminal,h.retry,h.undelivered,h.unacknowledged,
    fun hs=>isSome_iff_ne_none.mpr (h.delivered hs).1,fun hs=>(h.delivered hs).2,
    fun hs=>isSome_iff_ne_none.mpr (h.acknowledged hs).1,
    fun hs=>(h.acknowledged hs).2,?_,h.redriven,h.fresh,h.reason⟩
   intro deliveredAt hd
   cases ha:delivery.acknowledgedAtUnixMs with
   | none=>simp
   | some acknowledgedAt=>simpa using h.ordered deliveredAt acknowledgedAt hd ha

def claimed (delivery:CallbackDelivery) : CallbackDelivery :=
 { delivery with status:=.delivering,nextRetryAtUnixMs:=none }

section
variable {delivery:CallbackDelivery}

section
variable (h:validateCallbackDelivery delivery=.ok ())
include h

lemma claimed_valid
  (hstatus:delivery.status=.pending):validateCallbackDelivery (claimed delivery)=.ok ():=by
 obtain ⟨hblank,hchecked⟩:=(validate_iff delivery).mp h
 have hopen:delivery.status.blocksOrderedDelivery=true:=by rw [hstatus];rfl
 exact (validate_iff _).mpr ⟨hblank,
  { attempt:=hchecked.attempt
    terminal:=fun _=>rfl
    retry:=by simp [claimed]
    undelivered:=fun _=>hchecked.undelivered hopen
    unacknowledged:=fun _=>hchecked.unacknowledged hopen
    delivered:=nofun
    acknowledged:=nofun
    ordered:=hchecked.ordered
    redriven:=hchecked.redriven
    fresh:=hchecked.fresh
    reason:=nofun }⟩

lemma recovered_valid(hstatus:delivery.status=.delivering){now:ℕ}(hnow:now≠0):
  validateCallbackDelivery (recovered now delivery)=.ok ():=by
 obtain ⟨hblank,hchecked⟩:=(validate_iff delivery).mp h
 have hopen:delivery.status.blocksOrderedDelivery=true:=by rw [hstatus];rfl
 exact (validate_iff _).mpr ⟨hblank,
  { attempt:=hchecked.attempt
    terminal:=nofun
    retry:=by simpa [recovered] using hnow
    undelivered:=fun _=>hchecked.undelivered hopen
    unacknowledged:=fun _=>hchecked.unacknowledged hopen
    delivered:=nofun
    acknowledged:=nofun
    ordered:=hchecked.ordered
    redriven:=hchecked.redriven
    fresh:=hchecked.fresh
    reason:=nofun }⟩

lemma cancelled_valid{reason:String}(hreason:isBlank reason=false):
  delivery.status=.pending→validateCallbackDelivery (cancelled reason delivery)=.ok ():=by
 intro hstatus
 obtain ⟨hblank,hchecked⟩:=(validate_iff delivery).mp h
 have hopen:delivery.status.blocksOrderedDelivery=true:=by rw [hstatus];rfl
 exact (validate_iff _).mpr ⟨hblank,
  { attempt:=hchecked.attempt
    terminal:=fun _=>rfl
    retry:=by simp [cancelled]
    undelivered:=nofun
    unacknowledged:=nofun
    delivered:=nofun
    acknowledged:=nofun
    ordered:=hchecked.ordered
    redriven:=hchecked.redriven
    fresh:=hchecked.fresh
    reason:=fun _=>hreason }⟩

end

lemma claimed_sized(h:delivery.Sized):(claimed delivery).Sized:=
 { h with nextRetry:=fun t ht=>by cases ht }

lemma cancelled_sized(h:delivery.Sized)(reason:String):(cancelled reason delivery).Sized:=
 { h with nextRetry:=fun t ht=>by cases ht }

lemma recovered_sized(h:delivery.Sized){now:ℕ}(hnow:(now:ℤ) ≤ i64Max):
  (recovered now delivery).Sized:=
 { h with
   nextRetry:=by
    intro t ht
    cases ht
    unfold i64Max at hnow
    unfold u64Limit
    omega }
end

end GraphBlocks.CallbackDeliveries
