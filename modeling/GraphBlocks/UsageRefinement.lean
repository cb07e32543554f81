import GraphBlocks.SerdeInstance
import GraphBlocks.UsageLedgerWrites
import GraphBlocks.UsageStorage

namespace GraphBlocks.UsageLedger
open Json CanonicalJson RustStd Usage StoredJson Sql MachineRuns List Option

variable {d:StringDisplay}

def rowOf (d:StringDisplay) (sequence:ℤ) (record:UsageRecord) : UsageRow where
 recordId:=record.recordId
 source:=record.source.asStr
 confidence:=record.confidence.asStr
 amountsJson:=usageAmountsJson d record.amounts
 occurredAtUnixMs:=record.occurredAtUnixMs
 runId:=record.runId
 attemptId:=record.attemptId
 providerResponseId:=record.providerResponseId
 pricingRef:=record.pricingRef
 quotaWindowId:=record.quotaWindowId
 executionScope:=record.executionScope
 reconciliationOf:=record.reconciliationOf
 metadataJson:=stringMapJson d record.metadata
 sequence

def rowsFrom (d:StringDisplay) : ℤ→List UsageRecord→List UsageRow
 | _, []=>[]
 | n, record::records=>rowOf d n record::rowsFrom d (n+1) records

/-- A record that passes validation and fits the integer columns. -/
structure Storable (record:UsageRecord) : Prop where
 valid:validateUsageRecord record=.ok ()
 amounts:AmountsFit record.amounts
 time:(record.occurredAtUnixMs:ℤ) ≤ i64Max

lemma rowsFrom_length(n:ℤ)(R:List UsageRecord):(rowsFrom d n R).length=R.length:=by
 induction R generalizing n with
 | nil=>rfl
 | cons r R ih=>simp [rowsFrom,ih]

lemma rowsFrom_concat(n:ℤ)(R:List UsageRecord)(r:UsageRecord):
  rowsFrom d n (R++[r])=rowsFrom d n R++[rowOf d (n+R.length) r]:=by
 induction R generalizing n with
 | nil=>simp [rowsFrom]
 | cons a R ih=>
  simp only [cons_append,rowsFrom,ih,length_cons]
  congr 4
  omega

lemma rowsFrom_numbered(n:ℤ)(R:List UsageRecord):Numbered UsageRow.sequence n (rowsFrom d n R):=by
 induction R generalizing n with
 | nil=>trivial
 | cons r R ih=>exact ⟨rfl,ih (n+1)⟩

lemma mem_rowsFrom{n:ℤ}{R:List UsageRecord}{row:UsageRow}
  (h:row∈rowsFrom d n R):∃r∈R,∃k,n≤k∧k<n+R.length∧row=rowOf d k r:=by
 induction R generalizing n with
 | nil=>simp [rowsFrom] at h
 | cons r R ih=>
  rw [length_cons]
  rcases mem_cons.mp h with rfl|h
  · exact ⟨r,mem_cons_self,n,by omega,by omega,rfl⟩
  · obtain ⟨r',hr',k,hlow,hhigh,rfl⟩:=ih h
    exact ⟨r',mem_cons_of_mem _ hr',k,by omega,by omega,rfl⟩

section
variable (reader:JsonReader d)

lemma usageAmountsFromJson_json{amounts:List UsageAmount}(h:AmountsFit amounts):
  usageAmountsFromJson reader (usageAmountsJson d amounts)=.ok amounts:=by
 rw [usageAmountsFromJson,usageAmountsJson,
  fromStr_toText usageStorageErrors reader (amountsValue_writable amounts)]
 exact amountsFromValue_amountsValue usageStorageErrors "" h

lemma stringMapFromJson_json(m:StringMap String):
  stringMapFromJson reader (stringMapJson d m)=.ok m:=by
 have hw:=stringMapValue_writable m
 rw [stringMapFromJson,stringMapJson,
  fromStr_toText usageStorageErrors reader ⟨hw.1,hw.2.trans (by decide)⟩]
 exact stringMapFromValue_stringMapValue usageStorageErrors _ m

lemma usageRecordFromStorage_rowOf{r:UsageRecord}(h:Storable r)(n:ℤ):
  usageRecordFromStorage reader (rowOf d n r).toStoredUsageRecord=.ok r:=by
 have hsource:usageSourceFromStorage r.source.asStr=.ok r.source:=by
  rw [usageSourceFromStorage,UsageSource.fromStr_asStr]
 have hconfidence:usageConfidenceFromStorage r.confidence.asStr=.ok r.confidence:=by
  rw [usageConfidenceFromStorage,UsageConfidence.fromStr_asStr]
 have htime:usageI64ToU64 (r.occurredAtUnixMs:ℤ) "usage occurred_at"=.ok r.occurredAtUnixMs:=by
  simp [usageI64ToU64]
 have hvalid:=h.valid
 simp only [usageRecordFromStorage,rowOf,hsource,hconfidence,
  usageAmountsFromJson_json reader h.amounts,htime,stringMapFromJson_json reader,ok_bind]
 rw [hvalid,ok_bind]
 rfl

variable {R:List UsageRecord} {p:UsageRecord→Bool} {q:UsageRow→Bool}

lemma queryRecord_rows(hR:∀r∈R,Storable r)(hq:∀n r,q (rowOf d n r)=p r)(n:ℤ):
  queryRecord reader ((rowsFrom d n R).filter q)=.ok (R.find? p):=by
 induction R generalizing n with
 | nil=>rfl
 | cons r R ih=>
  have hrest:=ih (fun r' hr'=>hR r' (mem_cons_of_mem _ hr')) (n+1)
  rw [rowsFrom,filter_cons,List.find?_cons,hq]
  cases hp:p r with
  | false=>exact hrest
  | true=>
   have hread:=usageRecordFromStorage_rowOf reader (hR r mem_cons_self) n
   simp only [↓reduceIte,queryRecord,List.head?_cons,hread]
   rfl

lemma readRecords_rows(hR:∀r∈R,Storable r)(hq:∀n r,q (rowOf d n r)=p r)(n:ℤ):
  readRecords reader ((rowsFrom d n R).filter q)=.ok (R.filter p):=by
 induction R generalizing n with
 | nil=>rfl
 | cons r R ih=>
  have hrest:=ih (fun r' hr'=>hR r' (mem_cons_of_mem _ hr')) (n+1)
  rw [rowsFrom,filter_cons,filter_cons,hq]
  cases hp:p r with
  | false=>exact hrest
  | true=>
   have hread:=usageRecordFromStorage_rowOf reader (hR r mem_cons_self) n
   simp only [↓reduceIte,readRecords,hread,hrest]
   rfl
end

lemma attempt_condition(a b:Option String):
  holds (either (both (isNull a) (isNull b)) (equals a b))=(a==b):=by
 cases a <;>cases b <;>simp [Bool.beq_eq_decide_eq]

section
variable (reader:JsonReader d) {R:List UsageRecord} (hR:∀r∈R,Storable r)
include hR

lemma sqliteUsageRecord_eq(recordId:String):
  sqliteUsageRecord reader ⟨rowsFrom d 1 R⟩ recordId=.ok (findRecord R recordId):=by
 apply queryRecord_rows reader hR
 intro n r
 simp only [holds_equals,isSome_some,Bool.true_and,Option.some.injEq]
 rfl

lemma sqliteUsageReconciliationFor_eq(sourceRecordId:String):
  sqliteUsageReconciliationFor reader ⟨rowsFrom d 1 R⟩ sourceRecordId =
   .ok (findReconciliation R sourceRecordId):=by
 rw [sqliteUsageReconciliationFor,(rowsFrom_numbered 1 R).orderBy_filter]
 apply queryRecord_rows reader hR
 intro n r
 cases h:r.reconciliationOf <;>simp [rowOf,h,Bool.beq_eq_decide_eq]

lemma sqliteUsageProviderDuplicate_eq(key:DedupeKey):
  sqliteUsageProviderDuplicate reader ⟨rowsFrom d 1 R⟩ key.1 key.2=.ok (findResponse R key):=by
 rw [sqliteUsageProviderDuplicate,(rowsFrom_numbered 1 R).orderBy_filter]
 apply queryRecord_rows reader hR
 intro n r
 rw [holds_both,holds_both,attempt_condition]
 cases hrec:r.reconciliationOf <;>cases hprovider:r.providerResponseId <;>
  simp [rowOf,hasResponse,dedupeResponse,hrec,hprovider,Bool.beq_eq_decide_eq]

lemma sqliteUsageRecordsForRun_eq(runId:String):
  sqliteUsageRecordsForRun reader ⟨rowsFrom d 1 R⟩ runId=.ok (runRecords R runId):=by
 rw [sqliteUsageRecordsForRun,(rowsFrom_numbered 1 R).orderBy_filter]
 apply readRecords_rows reader hR
 intro n r
 cases h:r.runId <;>simp [rowOf,h,Bool.beq_eq_decide_eq]

lemma sqliteGet_eq(recordId:String):
  sqliteGet reader ⟨rowsFrom d 1 R⟩ recordId=foundRecord R recordId:=by
 rw [sqliteGet,sqliteUsageRecord_eq reader hR,foundRecord]
 cases findRecord R recordId <;>rfl

lemma sqliteCheckReconciliation_eq(record:UsageRecord):
  sqliteCheckReconciliation reader ⟨rowsFrom d 1 R⟩ record=reconciliationDecision R record:=by
 unfold sqliteCheckReconciliation reconciliationDecision
 cases record.reconciliationOf with
 | none=>rfl
 | some src=>
  simp only [sqliteUsageRecord_eq reader hR,sqliteUsageReconciliationFor_eq reader hR]
  unfold foundRecord
  cases findRecord R src <;>rfl

lemma sqliteProviderDuplicate_eq(record:UsageRecord):
  sqliteProviderDuplicate reader ⟨rowsFrom d 1 R⟩ record=responseDecision R record:=by
 unfold sqliteProviderDuplicate responseDecision
 cases dedupeResponse record with
 | none=>rfl
 | some p=>
  have hquery:=sqliteUsageProviderDuplicate_eq reader hR (p,record.attemptId)
  simp only at hquery
  simp only [hquery]
  rfl

lemma sqliteValidateTotals_eq(record:UsageRecord):
  sqliteValidateTotals reader ⟨rowsFrom d 1 R⟩ record=totalsDecision R record:=by
 unfold sqliteValidateTotals totalsDecision
 cases record.runId with
 | none=>rfl
 | some runId=>
  simp only [sqliteUsageRecordsForRun_eq reader hR]
  rfl

lemma sqliteAppendDecision_eq(record:UsageRecord):
  sqliteAppendDecision reader ⟨rowsFrom d 1 R⟩ record=decision R record:=by
 unfold sqliteAppendDecision decision
 simp only [sqliteUsageRecord_eq reader hR,sqliteCheckReconciliation_eq reader hR,
  sqliteProviderDuplicate_eq reader hR,sqliteValidateTotals_eq reader hR]
 rfl
end

section
variable {R:List UsageRecord} {record:UsageRecord}

lemma not_rowsClash(h:Accepted R record){r:UsageRecord}(hr:r∈R){k n:ℤ}
  (hk:k≠n):rowsClash (rowOf d n record) (rowOf d k r)=false:=by
 have hid:=findRecord_none.mp h.fresh r hr
 have hresponse:record.reconciliationOf.isNone=true→ r.reconciliationOf.isNone=true →
   record.providerResponseId.isSome=true →
   record.providerResponseId=r.providerResponseId→ r.attemptId≠record.attemptId:=by
  intro hrec hrec' hsome hsame hattempt
  obtain ⟨p,hprovider⟩:=isSome_iff_exists.mp hsome
  have hp:dedupeResponse record=some p:=by rw [dedupeResponse,if_pos hrec,hprovider]
  have hp':dedupeResponse r=some p:=by rw [dedupeResponse,if_pos hrec',←hsame,hprovider]
  have hkey:hasResponse (p,record.attemptId) record=true:=by simp [hasResponse,hp]
  have hnone:=List.find?_eq_none.mp (h.unanswered hkey) r hr
  simp [hasResponse,hp',hattempt] at hnone
 have hreconciliation:record.reconciliationOf.isSome=true →
   record.reconciliationOf≠r.reconciliationOf:=by
  intro hsome hsame
  obtain ⟨src,hsrc⟩:=isSome_iff_exists.mp hsome
  have hsrc':r.reconciliationOf=some src:=hsame▸hsrc
  obtain ⟨-,-,-,-,hnone⟩:=reconciliationDecision_ok hsrc h.reconciliation
  have:=List.find?_eq_none.mp hnone r hr
  simp [hsrc'] at this
 simp only [rowsClash,dedupedWithAttempt,dedupedWithoutAttempt,holds_both,holds_equals,
  holds_isNull,holds_isNotNull,Bool.or_eq_false_iff,rowOf]
 refine ⟨⟨⟨⟨?_,?_⟩,?_⟩,?_⟩,?_⟩
 · simpa using Ne.symm hk
 · simpa using Ne.symm hid
 · grind
 · grind [isNone_iff_eq_none]
 · grind

lemma sqliteStore_eq(h:Accepted R record)(htime:(record.occurredAtUnixMs:ℤ) ≤ i64Max)
  (hroom:(R.length:ℤ)+1 ≤ i64Max):
  sqliteStore (d:=d) ⟨rowsFrom d 1 R⟩ record=.ok ⟨rowsFrom d 1 (R++[record])⟩:=by
 have hnext:nextOf UsageRow.sequence (rowsFrom d 1 R)=R.length+1:=by
  rw [(rowsFrom_numbered 1 R).nextOf_eq,rowsFrom_length]
 have hrow:usageRowParams d ((R.length:ℤ)+1) record=.ok (rowOf d ((R.length:ℤ)+1) record):=by
  rw [usageRowParams,usageU64ToI64,if_pos htime]
  rfl
 have hclash:(rowsFrom d 1 R).any (rowsClash (rowOf d ((R.length:ℤ)+1) record))=false:=by
  rw [List.any_eq_false]
  intro row hrow
  obtain ⟨r,hr,k,hlow,hhigh,rfl⟩:=mem_rowsFrom hrow
  rw [not_rowsClash h hr (by omega)]
  simp
 have hsequence:nextUsageSequence ⟨rowsFrom d 1 R⟩=.ok ((R.length:ℤ)+1):=by
  rw [nextUsageSequence]
  simp only [hnext,hroom,↓reduceIte]
 have hinsert:insertUsageRow ⟨rowsFrom d 1 R⟩ (rowOf d ((R.length:ℤ)+1) record) =
   .ok ⟨rowsFrom d 1 (R++[record])⟩:=by
  rw [insertUsageRow,rowsFrom_concat]
  simp only [hclash,Bool.false_eq_true,↓reduceIte,Int.add_comm]
 rw [sqliteStore,hsequence]
 change (usageRowParams d _ record >>= _)=_
 rw [hrow]
 exact hinsert
end

/-- The values of the source's types: timestamps of the claim, amounts of type `i64`. -/
def Call.Fits : Call→Prop
 | .append record=>AmountsFit record.amounts∧(record.occurredAtUnixMs:ℤ) ≤ i64Max
 | .reconcile _ amounts occurredAtUnixMs _=>AmountsFit amounts∧(occurredAtUnixMs:ℤ) ≤ i64Max
 | .get _ | .recordsForRun _ | .totalsForRun _=>True

/-- The table holds the records of the in-memory ledger. -/
structure Mirrors (d:StringDisplay) (s:InMemoryUsageLedger) (ledger:SqliteUsageLedger) : Prop where
 kept:WellKept s
 storable:∀r∈orderedRecords s,Storable r
 rows:ledger.usageRecords=rowsFrom d 1 (orderedRecords s)

section
variable (reader:JsonReader d) {s:InMemoryUsageLedger} {ledger:SqliteUsageLedger}

lemma append_mirrors(h:Mirrors d s ledger){record:UsageRecord}
  (hamounts:AmountsFit record.amounts)(htime:(record.occurredAtUnixMs:ℤ) ≤ i64Max)
  (hroom:((orderedRecords (append s record).2).length:ℤ) ≤ i64Max):
  (sqliteAppend reader ledger record).1=(append s record).1 ∧
   Mirrors d (append s record).2 (sqliteAppend reader ledger record).2:=by
 obtain ⟨rows⟩:=ledger
 obtain rfl:rows=_:=h.rows
 have hdecision:=sqliteAppendDecision_eq reader h.storable record
 have hmemory:=appendDecision_eq h.kept.indexed h.kept.kept.ids record
 have happended:=append_appended h.kept record
 unfold sqliteAppend
 rw [hdecision]
 unfold append at happended hroom ⊢
 rw [hmemory] at happended hroom ⊢
 cases hd:decision (orderedRecords s) record with
 | error e=>exact ⟨rfl,h⟩
 | ok answer=>
  cases answer with
  | some existing=>exact ⟨rfl,h⟩
  | none=>
   rw [hd] at happended hroom
   cases decision_ok_iff.mp hd with
   | stored accepted=>
    have hrecords:=orderedRecords_store h.kept.indexed accepted.fresh h.kept.listed
    simp only [hrecords,length_append,length_singleton] at hroom
    have hstore:=sqliteStore_eq (d:=d) accepted htime (by omega)
    simp only [hstore]
    refine ⟨trivial,happended.wellKept h.kept,?_,?_⟩
    · simp only [hrecords]
      intro r hr
      rcases mem_append.mp hr with hr|hr
      · exact h.storable r hr
      · rw [mem_singleton] at hr
        exact hr▸⟨accepted.valid,hamounts,htime⟩
    · simp only [hrecords]

lemma get_mirrors(h:Mirrors d s ledger)(recordId:String):
  sqliteGet reader ledger recordId=get s recordId:=by
 obtain ⟨rows⟩:=ledger
 obtain rfl:rows=_:=h.rows
 rw [sqliteGet_eq reader h.storable,get_eq h.kept.indexed]

lemma recordsForRun_mirrors(h:Mirrors d s ledger)(runId:String):
  sqliteUsageRecordsForRun reader ledger runId=.ok (recordsForRun s runId):=by
 obtain ⟨rows⟩:=ledger
 obtain rfl:rows=_:=h.rows
 exact sqliteUsageRecordsForRun_eq reader h.storable runId

lemma step_mirrors(h:Mirrors d s ledger){call:Call}(hfits:call.Fits)
  (hroom:((orderedRecords (step s call).2).length:ℤ) ≤ i64Max):
  (sqliteStep reader ledger call).1=(step s call).1 ∧
   Mirrors d (step s call).2 (sqliteStep reader ledger call).2:=by
 cases call with
 | append record=>
  simp only [step] at hroom
  simp only [sqliteStep,step]
  obtain ⟨hanswer,hmirrors⟩:=append_mirrors reader h hfits.1 hfits.2 hroom
  exact ⟨by rw [hanswer],hmirrors⟩
 | reconcile source amounts time id=>
  have hget:=get_mirrors reader h source
  simp only [step,reconcile] at hroom
  simp only [sqliteStep,sqliteReconcile,step,reconcile,hget]
  cases hrequest:reconcileRequest (get s source) source amounts time id with
  | error e=>exact ⟨rfl,h⟩
  | ok record=>
   rw [hrequest] at hroom
   obtain ⟨o,-,-,rfl⟩:=(reconcileRequest_ok h.kept.indexed).mp hrequest
   obtain ⟨hanswer,hmirrors⟩:=append_mirrors reader h (by exact hfits.1) (by exact hfits.2) hroom
   exact ⟨by rw [hanswer],hmirrors⟩
 | get id=>exact ⟨by rw [sqliteStep,get_mirrors reader h];rfl,h⟩
 | recordsForRun runId=>
  refine ⟨?_,h⟩
  rw [sqliteStep,recordsForRun_mirrors reader h]
  rfl
 | totalsForRun runId=>
  refine ⟨?_,h⟩
  rw [sqliteStep,sqliteTotalsForRun,recordsForRun_mirrors reader h]
  rfl
end

/-- A `Vec<String>` takes 24 bytes for each string and at most `isize::MAX` bytes. -/
def vecStringCapacity : ℕ := (2^63-1)/24

lemma orderedRecords_length(s:InMemoryUsageLedger):
  (orderedRecords s).length≤ s.order.length:=length_filterMap_le _ _

lemma length_execute_le{s:InMemoryUsageLedger}(h:WellKept s)(calls:List Call):
  (orderedRecords s).length≤(orderedRecords (execute step s calls)).length:=by
 obtain ⟨added,hadded⟩:=(execute_grown h calls).extended
 rw [hadded,length_append]
 omega

lemma mirrors_new : Mirrors d .new .openInMemory where
 kept:=wellKept_new
 storable r hr:=by simp [orderedRecords,InMemoryUsageLedger.new] at hr
 rows:=rfl

lemma run_mirrors(reader:JsonReader d){calls:List Call}(hfits:∀c∈calls,c.Fits)
  (hroom:((orderedRecords (execute step .new calls)).length:ℤ) ≤ i64Max):
  (history (sqliteStep reader) .openInMemory calls).map Transition.response =
   (history step .new calls).map Transition.response ∧
  Mirrors d (execute step .new calls) (execute (sqliteStep reader) .openInMemory calls):=by
 induction calls using List.reverseRecOn with
 | nil=>exact ⟨rfl,mirrors_new⟩
 | append_singleton calls c ih=>
  have hk:=execute_wellKept calls
  have hgrow:=length_execute_le hk [c]
  rw [execute_concat] at hroom
  simp only [execute_cons,execute_nil] at hgrow
  obtain ⟨hresponses,hmirrors⟩:=ih (fun c' hc'=>hfits c' (mem_append_left _ hc'))
   (by omega)
  obtain ⟨hanswer,hnext⟩:=step_mirrors reader hmirrors (hfits c (by simp)) hroom
  rw [history_concat,history_concat,map_append,map_append,hresponses,execute_concat,execute_concat]
  exact ⟨congrArg (fun answer=>_++[answer]) hanswer,hnext⟩

/-- Both ledgers give the same results at every step, errors included. -/
theorem usage_ledgers_agree (reader : JsonReader d) (calls : List Call) (hfits : ∀c∈calls,c.Fits)
  (hvec : (execute step .new calls).order.length≤vecStringCapacity) :
  (history (sqliteStep reader) .openInMemory calls).map Transition.response =
   (history step .new calls).map Transition.response := by
 have hlength:=orderedRecords_length (execute step .new calls)
 have hcapacity:(vecStringCapacity:ℤ) ≤ i64Max:=by decide
 exact (run_mirrors reader hfits (by omega)).1

def attemptUsage (recordId:String) (attemptId:Option String) : UsageRecord :=
 { UsageRecord.new recordId .providerReported .providerExact [⟨"tokens",5,"token",∅⟩] 1 with
   runId:=some "run-1"
   attemptId
   providerResponseId:=some "r1" }

/-- One response with and without an attempt, a reconciliation, a replay and a conflict. -/
def mixedCalls : List Call :=
 [.append (attemptUsage "u1" none),.append (attemptUsage "u2" (some "t1")),
  .append (attemptUsage "u3" none),
  .reconcile "u2" [⟨"tokens",7,"token",∅⟩] 2 none,.append (attemptUsage "u1" none),
  .reconcile "u2" [⟨"tokens",8,"token",∅⟩] 3 (some "u4"),.totalsForRun "run-1"]

theorem mixedCalls_agree :
  (history (sqliteStep (compactReader serdeDisplay)) .openInMemory mixedCalls).map
   Transition.response=(history step .new mixedCalls).map Transition.response := by
 apply usage_ledgers_agree
 · intro c hc
   simp only [mixedCalls,mem_cons,not_mem_nil,or_false] at hc
   rcases hc with rfl|rfl|rfl|rfl|rfl|rfl|rfl <;>
    simp [Call.Fits,AmountsFit,attemptUsage,UsageRecord.new,i64Min,i64Max]
 · have hlength:(execute step .new mixedCalls).order.length=3:=by decide +kernel
   rw [hlength]
   decide

end GraphBlocks.UsageLedger
