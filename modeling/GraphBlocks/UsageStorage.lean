import GraphBlocks.SqlRows
import GraphBlocks.StoredJson
import GraphBlocks.UsageLedgerModel

/-! `SqliteUsageLedger` of the runtime core. The table `usage_records` is a list of rows; a
transaction that is dropped leaves it as it was. -/
namespace GraphBlocks.UsageLedger
open Json CanonicalJson RustStd Usage StoredJson Sql

def usageStorageErrors : StorageErrors UsageLedgerError where
 json message:=.storage (.json message)
 malformed message:=.storage (.malformed message)
 member _ key:=.storage (.notAString key)

def UsageSource.asStr : UsageSource→String
 | .providerReported=>"provider_reported"
 | .runtimeMeasured=>"runtime_measured"
 | .tokenizerEstimated=>"tokenizer_estimated"
 | .pricingEstimated=>"pricing_estimated"
 | .reconciled=>"reconciled"

def UsageSource.fromStr (source:String) : Option UsageSource :=
 if source = "provider_reported" then some .providerReported
 else if source = "runtime_measured" then some .runtimeMeasured
 else if source = "tokenizer_estimated" then some .tokenizerEstimated
 else if source = "pricing_estimated" then some .pricingEstimated
 else if source = "reconciled" then some .reconciled
 else none

def UsageConfidence.asStr : UsageConfidence→String
 | .exact=>"exact"
 | .providerExact=>"provider_exact"
 | .estimated=>"estimated"
 | .unknown=>"unknown"

def UsageConfidence.fromStr (confidence:String) : Option UsageConfidence :=
 if confidence = "exact" then some .exact
 else if confidence = "provider_exact" then some .providerExact
 else if confidence = "estimated" then some .estimated
 else if confidence = "unknown" then some .unknown
 else none

lemma UsageSource.fromStr_asStr(source:UsageSource):
  UsageSource.fromStr source.asStr=some source:=by
 cases source <;>rfl

lemma UsageConfidence.fromStr_asStr(confidence:UsageConfidence):
  UsageConfidence.fromStr confidence.asStr=some confidence:=by
 cases confidence <;>rfl

def usageU64ToI64 (value:ℕ) (label:String) : Except UsageLedgerError ℤ :=
 if (value:ℤ) ≤ i64Max then .ok value else .error (.storage (.exceedsIntegerRange label))

def usageI64ToU64 (value:ℤ) (label:String) : Except UsageLedgerError ℕ :=
 if 0≤value then .ok value.toNat else .error (.storage (.negative label))

/-- The columns of a row that are read back. -/
structure StoredUsageRecord where
 recordId:String
 source:String
 confidence:String
 amountsJson:String
 occurredAtUnixMs:ℤ
 runId:Option String
 attemptId:Option String
 providerResponseId:Option String
 pricingRef:Option String
 quotaWindowId:Option String
 executionScope:Option String
 reconciliationOf:Option String
 metadataJson:String

structure UsageRow extends StoredUsageRecord where
 sequence:ℤ

structure SqliteUsageLedger where
 usageRecords:List UsageRow

def SqliteUsageLedger.openInMemory : SqliteUsageLedger := ⟨[]⟩

section
variable {d:StringDisplay} (reader:JsonReader d)

def usageAmountsJson (d:StringDisplay) (amounts:List UsageAmount) : String :=
 toText d (amountsValue amounts)

def usageAmountsFromJson (value:String) : Except UsageLedgerError (List UsageAmount) := do
 let values ← fromStr usageStorageErrors reader value
 amountsFromValue usageStorageErrors "" values

def stringMapJson (d:StringDisplay) (value:StringMap String) : String :=
 toText d (stringMapValue value)

def stringMapFromJson (value:String) : Except UsageLedgerError (StringMap String) := do
 let value ← fromStr usageStorageErrors reader value
 stringMapFromValue usageStorageErrors "string map" value

def usageSourceFromStorage (source:String) : Except UsageLedgerError UsageSource :=
 match UsageSource.fromStr source with
 | some source=>.ok source
 | none=>.error (.storage (.unknownText "usage source" source))

def usageConfidenceFromStorage (confidence:String) : Except UsageLedgerError UsageConfidence :=
 match UsageConfidence.fromStr confidence with
 | some confidence=>.ok confidence
 | none=>.error (.storage (.unknownText "usage confidence" confidence))

def usageRecordFromStorage (stored:StoredUsageRecord) : Except UsageLedgerError UsageRecord := do
 let source ← usageSourceFromStorage stored.source
 let confidence ← usageConfidenceFromStorage stored.confidence
 let amounts ← usageAmountsFromJson reader stored.amountsJson
 let occurredAtUnixMs ← usageI64ToU64 stored.occurredAtUnixMs "usage occurred_at"
 let metadata ← stringMapFromJson reader stored.metadataJson
 let record : UsageRecord:=
  { recordId:=stored.recordId,source,confidence,amounts,occurredAtUnixMs,runId:=stored.runId
    attemptId:=stored.attemptId,providerResponseId:=stored.providerResponseId
    pricingRef:=stored.pricingRef,quotaWindowId:=stored.quotaWindowId
    executionScope:=stored.executionScope,reconciliationOf:=stored.reconciliationOf,metadata }
 validateUsageRecord record
 return record

variable (ledger:SqliteUsageLedger)

/-- `query_row(..).optional()?.map(usage_record_from_storage).transpose()`. -/
def queryRecord (rows:List UsageRow) : Except UsageLedgerError (Option UsageRecord) :=
 match rows.head? with
 | none=>.ok none
 | some row=>(usageRecordFromStorage reader row.toStoredUsageRecord).map some

def sqliteUsageRecord (recordId:String) : Except UsageLedgerError (Option UsageRecord) :=
 queryRecord reader (ledger.usageRecords.filter fun row=>
  holds (equals (some row.recordId) (some recordId)))

def sqliteUsageReconciliationFor (sourceRecordId:String) :
  Except UsageLedgerError (Option UsageRecord) :=
 queryRecord reader (orderBy UsageRow.sequence (ledger.usageRecords.filter fun row=>
  holds (equals row.reconciliationOf (some sourceRecordId))))

def sqliteUsageProviderDuplicate (providerResponseId:String) (attemptId:Option String) :
  Except UsageLedgerError (Option UsageRecord) :=
 queryRecord reader (orderBy UsageRow.sequence (ledger.usageRecords.filter fun row=>
  holds (both (both (equals row.providerResponseId (some providerResponseId))
   (either (both (isNull row.attemptId) (isNull attemptId)) (equals row.attemptId attemptId)))
   (isNull row.reconciliationOf))))

/-- The loop over the rows of a query. -/
def readRecords : List UsageRow→Except UsageLedgerError (List UsageRecord)
 | []=>.ok []
 | row::rows=>do
  let record ← usageRecordFromStorage reader row.toStoredUsageRecord
  let records ← readRecords rows
  return record::records

def sqliteUsageRecordsForRun (runId:String) : Except UsageLedgerError (List UsageRecord) :=
 readRecords reader (orderBy UsageRow.sequence (ledger.usageRecords.filter fun row=>
  holds (equals row.runId (some runId))))

def sqliteCheckReconciliation (record:UsageRecord) : Except UsageLedgerError Unit :=
 match record.reconciliationOf with
 | none=>.ok ()
 | some reconciliationOf=>do
  match ← sqliteUsageRecord reader ledger reconciliationOf with
  | none=>.error (.recordNotFound reconciliationOf)
  | some original=>
   validateUsageReconciliation record original
   let reconciliation ← sqliteUsageReconciliationFor reader ledger reconciliationOf
   ensure reconciliation.isNone (.recordConflict reconciliationOf)

def sqliteProviderDuplicate (record:UsageRecord) : Except UsageLedgerError (Option UsageRecord) :=
 match dedupeResponse record with
 | none=>.ok none
 | some providerResponseId=>do
  match ← sqliteUsageProviderDuplicate reader ledger providerResponseId record.attemptId with
  | none=>.ok none
  | some existing=>
   if usageProviderDuplicateConflict existing record then
    .error (.recordConflict providerResponseId)
   else .ok (some existing)

def sqliteValidateTotals (record:UsageRecord) : Except UsageLedgerError Unit :=
 match record.runId with
 | none=>.ok ()
 | some runId=>do
  let records ← sqliteUsageRecordsForRun reader ledger runId
  (usageTotals (records++[record])).map fun _=>()

/-- What `append` decides before it writes, as `appendDecision` does in memory. -/
def sqliteAppendDecision (record:UsageRecord) : Except UsageLedgerError (Option UsageRecord) := do
 validateUsageRecord record
 match ← sqliteUsageRecord reader ledger record.recordId with
 | some existing=>
  if existing=record then return some existing
  else .error (.recordConflict record.recordId)
 | none=>
  sqliteCheckReconciliation reader ledger record
  match ← sqliteProviderDuplicate reader ledger record with
  | some existing=>return some existing
  | none=>
   sqliteValidateTotals reader ledger record
   return none

/-- Past the last integer the sum is a float, which is not read as an `i64`. -/
def nextUsageSequence : Except UsageLedgerError ℤ :=
 if nextOf UsageRow.sequence ledger.usageRecords ≤ i64Max then
  .ok (nextOf UsageRow.sequence ledger.usageRecords)
 else .error (.storage .sequenceNotInteger)

/-- The parameters of the `INSERT`. -/
def usageRowParams (d:StringDisplay) (sequence:ℤ) (record:UsageRecord) :
  Except UsageLedgerError UsageRow := do
 let occurredAtUnixMs ← usageU64ToI64 record.occurredAtUnixMs "usage occurred_at"
 return { recordId:=record.recordId,source:=record.source.asStr,confidence:=record.confidence.asStr
          amountsJson:=usageAmountsJson d record.amounts,occurredAtUnixMs,runId:=record.runId
          attemptId:=record.attemptId,providerResponseId:=record.providerResponseId
          pricingRef:=record.pricingRef,quotaWindowId:=record.quotaWindowId
          executionScope:=record.executionScope,reconciliationOf:=record.reconciliationOf
          metadataJson:=stringMapJson d record.metadata,sequence }

def dedupedWithAttempt (row:UsageRow) : Bool :=
 holds (both (both (isNotNull row.providerResponseId) (isNotNull row.attemptId))
  (isNull row.reconciliationOf))

def dedupedWithoutAttempt (row:UsageRow) : Bool :=
 holds (both (both (isNotNull row.providerResponseId) (isNull row.attemptId))
  (isNull row.reconciliationOf))

/-- The primary key, the unique column and the unique partial indexes of the table. -/
def rowsClash (a b:UsageRow) : Bool :=
 a.sequence==b.sequence||a.recordId==b.recordId ||
 (dedupedWithAttempt a&&dedupedWithAttempt b &&
  holds (both (equals a.providerResponseId b.providerResponseId)
   (equals a.attemptId b.attemptId))) ||
 (dedupedWithoutAttempt a&&dedupedWithoutAttempt b &&
  holds (equals a.providerResponseId b.providerResponseId)) ||
 holds (equals a.reconciliationOf b.reconciliationOf)

def insertUsageRow (row:UsageRow) : Except UsageLedgerError SqliteUsageLedger :=
 if ledger.usageRecords.any (rowsClash row) then .error (.storage .uniqueConstraint)
 else .ok ⟨ledger.usageRecords++[row]⟩

def sqliteStore (record:UsageRecord) : Except UsageLedgerError SqliteUsageLedger := do
 let sequence ← nextUsageSequence ledger
 let row ← usageRowParams d sequence record
 insertUsageRow ledger row

def sqliteAppend (record:UsageRecord) : Except UsageLedgerError UsageRecord×SqliteUsageLedger :=
 match sqliteAppendDecision reader ledger record with
 | .error e=>(.error e,ledger)
 | .ok (some existing)=>(.ok existing,ledger)
 | .ok none=>
  match sqliteStore (d:=d) ledger record with
  | .error e=>(.error e,ledger)
  | .ok stored=>(.ok record,stored)

def sqliteGet (recordId:String) : Except UsageLedgerError UsageRecord := do
 match ← sqliteUsageRecord reader ledger recordId with
 | some record=>return record
 | none=>.error (.recordNotFound recordId)

def sqliteTotalsForRun (runId:String) : Except UsageLedgerError (List UsageAmount) := do
 let records ← sqliteUsageRecordsForRun reader ledger runId
 usageTotals records

def sqliteReconcile (sourceRecordId:String) (amounts:List UsageAmount) (occurredAtUnixMs:ℕ)
  (recordId:Option String) : Except UsageLedgerError UsageRecord×SqliteUsageLedger :=
 match reconcileRequest (sqliteGet reader ledger sourceRecordId) sourceRecordId amounts
   occurredAtUnixMs recordId with
 | .error e=>(.error e,ledger)
 | .ok record=>sqliteAppend reader ledger record

def sqliteStep : Call→Except UsageLedgerError Response×SqliteUsageLedger
 | .append record=>
  ((sqliteAppend reader ledger record).1.map .record,(sqliteAppend reader ledger record).2)
 | .reconcile sourceRecordId amounts occurredAtUnixMs recordId=>
  ((sqliteReconcile reader ledger sourceRecordId amounts occurredAtUnixMs recordId).1.map .record,
   (sqliteReconcile reader ledger sourceRecordId amounts occurredAtUnixMs recordId).2)
 | .get recordId=>((sqliteGet reader ledger recordId).map .record,ledger)
 | .recordsForRun runId=>((sqliteUsageRecordsForRun reader ledger runId).map .records,ledger)
 | .totalsForRun runId=>((sqliteTotalsForRun reader ledger runId).map .totals,ledger)
end

end GraphBlocks.UsageLedger
