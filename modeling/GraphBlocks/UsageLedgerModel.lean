import GraphBlocks.MachineRuns
import GraphBlocks.UsageAmounts

/-! `InMemoryUsageLedger` of the runtime core: an append-only list of usage records, deduplicated
by record id, by provider response and by reconciliation target. -/
namespace GraphBlocks.UsageLedger
open Std RustStd Usage

abbrev StringMap (α:Type) := ExtTreeMap String α

inductive UsageSource where
 | providerReported | runtimeMeasured | tokenizerEstimated | pricingEstimated | reconciled
deriving DecidableEq

inductive UsageConfidence where
 | exact | providerExact | estimated | unknown
deriving DecidableEq

structure UsageRecord where
 recordId:String
 source:UsageSource
 confidence:UsageConfidence
 amounts:List UsageAmount
 occurredAtUnixMs:ℕ
 runId:Option String
 attemptId:Option String
 providerResponseId:Option String
 pricingRef:Option String
 quotaWindowId:Option String
 executionScope:Option String
 reconciliationOf:Option String
 metadata:StringMap String
deriving DecidableEq

def UsageRecord.new (recordId:String) (source:UsageSource) (confidence:UsageConfidence)
  (amounts:List UsageAmount) (occurredAtUnixMs:ℕ) : UsageRecord where
 recordId
 source
 confidence
 amounts
 occurredAtUnixMs
 runId:=none
 attemptId:=none
 providerResponseId:=none
 pricingRef:=none
 quotaWindowId:=none
 executionScope:=none
 reconciliationOf:=none
 metadata:=∅

/-- What a `UsageLedgerError::Storage` message reports. -/
inductive StorageFailure where
 | missingDedupeRecord
 | sequenceNotInteger
 | uniqueConstraint
 | exceedsIntegerRange (label:String)
 | negative (label:String)
 | unknownText (label text:String)
 | malformed (message:String)
 | notAString (key:String)
 | json (message:String)
deriving DecidableEq

inductive UsageLedgerError where
 | recordNotFound (recordId:String)
 | recordConflict (recordId:String)
 | invalidRecord (message:String)
 | totalOverflow (kind unit:String) (dimensions:StringMap String)
 | storage (failure:StorageFailure)
deriving DecidableEq

def invalid (message:String) : Except UsageLedgerError Unit := .error (.invalidRecord message)

def optionalFields (record:UsageRecord) : List (String×Option String) :=
 [("run_id",record.runId),("attempt_id",record.attemptId),
  ("provider_response_id",record.providerResponseId),("pricing_ref",record.pricingRef),
  ("quota_window_id",record.quotaWindowId),("execution_scope",record.executionScope),
  ("reconciliation_of",record.reconciliationOf)]

def validateFields : List (String×Option String)→Except UsageLedgerError Unit
 | []=>.ok ()
 | (field,value)::rest=>
  if value.any isBlank then invalid ("usage " ++ field ++ " must not be empty")
  else validateFields rest

/-- The loop over dimensions and over metadata. -/
def validateEntries (label:String) : List (String×String)→Except UsageLedgerError Unit
 | []=>.ok ()
 | (key,value)::rest=>
  if isBlank key then invalid (label ++ " keys must not be empty")
  else if isBlank value then invalid (label ++ " values must not be empty")
  else validateEntries label rest

def validateAmounts : List UsageAmount→Except UsageLedgerError Unit
 | []=>.ok ()
 | amount::rest=>
  if amount.amount<0 then invalid "usage amount must be non-negative"
  else if isBlank amount.kind then invalid "usage amount kind must not be empty"
  else if isBlank amount.unit then invalid "usage amount unit must not be empty"
  else do
   validateEntries "usage amount dimension" amount.dimensions.toList
   validateAmounts rest

def validateUsageRecord (record:UsageRecord) : Except UsageLedgerError Unit := do
 ensure (!isBlank record.recordId) (.invalidRecord "usage record_id must not be empty")
 ensure (record.occurredAtUnixMs != 0)
  (.invalidRecord "usage occurred_at_unix_ms must be positive")
 validateFields (optionalFields record)
 ensure (!(record.source == .reconciled&&record.reconciliationOf.isNone))
  (.invalidRecord "reconciled usage records must identify reconciliation_of")
 ensure (!(record.source != .reconciled&&record.reconciliationOf.isSome))
  (.invalidRecord "usage reconciliation_of requires reconciled source")
 ensure (!record.amounts.isEmpty) (.invalidRecord "usage amounts must not be empty")
 validateAmounts record.amounts
 validateEntries "usage metadata" record.metadata.toList

def validateUsageReconciliation (record source:UsageRecord) : Except UsageLedgerError Unit := do
 ensure (!(source.source == .reconciled||source.reconciliationOf.isSome))
  (.recordConflict source.recordId)
 ensure (record.source == .reconciled&&record.confidence == .exact)
  (.invalidRecord "usage reconciliation must have reconciled source and exact confidence")
 ensure (record.runId==source.runId&&record.attemptId==source.attemptId &&
   record.providerResponseId==source.providerResponseId &&
   record.pricingRef==source.pricingRef&&record.quotaWindowId==source.quotaWindowId &&
   record.executionScope==source.executionScope&&decide (record.metadata=source.metadata))
  (.recordConflict source.recordId)
 ensure (decide (source.occurredAtUnixMs≤record.occurredAtUnixMs))
  (.invalidRecord "usage reconciliation occurred_at must not precede source usage")

/-- `usage_provider_duplicate_conflict`: every field but the record id is compared. -/
def usageProviderDuplicateConflict (existing incoming:UsageRecord) : Bool :=
 existing.source != incoming.source||existing.confidence != incoming.confidence ||
  decide (existing.amounts≠incoming.amounts) ||
  existing.occurredAtUnixMs != incoming.occurredAtUnixMs ||
  existing.runId != incoming.runId||existing.attemptId != incoming.attemptId ||
  existing.providerResponseId != incoming.providerResponseId ||
  existing.pricingRef != incoming.pricingRef ||
  existing.quotaWindowId != incoming.quotaWindowId ||
  existing.executionScope != incoming.executionScope ||
  existing.reconciliationOf != incoming.reconciliationOf ||
  decide (existing.metadata≠incoming.metadata)

def supersededRecordIds (records:List UsageRecord) : List String :=
 records.filterMap UsageRecord.reconciliationOf

def countedRecords (records:List UsageRecord) : List UsageRecord :=
 records.filter fun record=>decide (record.recordId∉supersededRecordIds records)

def totalOverflow (key:AmountKey) : UsageLedgerError :=
 .totalOverflow key.kind key.unit (ExtTreeMap.ofList key.dimensions)

def usageTotals (records:List UsageRecord) : Except UsageLedgerError (List UsageAmount) :=
 (accumulate totalOverflow checkedAddI64
  ((countedRecords records).flatMap fun record=>keyedAmounts record.amounts) ∅).map mapToAmounts

/-- The key of the dedupe map: provider response and attempt. -/
abbrev DedupeKey := String×Option String

def DedupeKey.texts (key:DedupeKey) : List String := key.1::key.2.toList

def DedupeKey.cmp : DedupeKey→DedupeKey→Ordering := compareOn DedupeKey.texts

lemma dedupeTexts_injective:Function.Injective DedupeKey.texts:=by
 rintro ⟨p,a⟩ ⟨q,b⟩ h
 cases a <;>cases b <;>simp_all [DedupeKey.texts]

instance : TransCmp DedupeKey.cmp := inferInstanceAs (TransCmp (compareOn DedupeKey.texts))

instance : LawfulEqCmp DedupeKey.cmp where
 compare_self {a}:=(ReflOrd.compare_self:compare a.texts a.texts=.eq)
 eq_of_compare {_ _} h:=dedupeTexts_injective (LawfulEqOrd.eq_of_compare h)

structure InMemoryUsageLedger where
 records:StringMap UsageRecord
 order:List String
 providerDedupe:ExtTreeMap DedupeKey String DedupeKey.cmp

def InMemoryUsageLedger.new : InMemoryUsageLedger := ⟨∅,[],∅⟩

variable (s:InMemoryUsageLedger)

def orderedRecords : List UsageRecord := s.order.filterMap fun id=>s.records[id]?

def recordsForRun (runId:String) : List UsageRecord :=
 (orderedRecords s).filter fun record=>record.runId==some runId

def totalsForRun (runId:String) : Except UsageLedgerError (List UsageAmount) :=
 usageTotals (recordsForRun s runId)

def reconciliationFor (sourceRecordId:String) : Option UsageRecord :=
 (orderedRecords s).find? fun record=>record.reconciliationOf==some sourceRecordId

def validateTotalsWith (record:UsageRecord) : Except UsageLedgerError Unit :=
 match record.runId with
 | none=>.ok ()
 | some runId=>(usageTotals (recordsForRun s runId++[record])).map fun _=>()

def get (recordId:String) : Except UsageLedgerError UsageRecord :=
 match s.records[recordId]? with
 | some record=>.ok record
 | none=>.error (.recordNotFound recordId)

def checkReconciliation (record:UsageRecord) : Except UsageLedgerError Unit :=
 match record.reconciliationOf with
 | none=>.ok ()
 | some reconciliationOf=>do
  let original ← get s reconciliationOf
  validateUsageReconciliation record original
  ensure (reconciliationFor s reconciliationOf).isNone (.recordConflict reconciliationOf)

def dedupeResponse (record:UsageRecord) : Option String :=
 if record.reconciliationOf.isNone then record.providerResponseId else none

def providerDuplicate (record:UsageRecord) : Except UsageLedgerError (Option UsageRecord) :=
 match dedupeResponse record with
 | none=>.ok none
 | some providerResponseId=>
  match s.providerDedupe[((providerResponseId,record.attemptId):DedupeKey)]? with
  | none=>.ok none
  | some existingId=>
   match s.records[existingId]? with
   | none=>.error (.storage .missingDedupeRecord)
   | some existing=>
    if usageProviderDuplicateConflict existing record then
     .error (.recordConflict providerResponseId)
    else .ok (some existing)

/-- What `append` decides: an existing record to return, or none if the record is new. -/
def appendDecision (record:UsageRecord) : Except UsageLedgerError (Option UsageRecord) := do
 validateUsageRecord record
 match s.records[record.recordId]? with
 | some existing=>
  if existing=record then return some existing
  else .error (.recordConflict record.recordId)
 | none=>
  checkReconciliation s record
  match ← providerDuplicate s record with
  | some existing=>return some existing
  | none=>
   validateTotalsWith s record
   return none

def store (record:UsageRecord) : InMemoryUsageLedger where
 records:=s.records.insert record.recordId record
 order:=s.order++[record.recordId]
 providerDedupe:=
  match dedupeResponse record with
  | some providerResponseId=>
   s.providerDedupe.insert (providerResponseId,record.attemptId) record.recordId
  | none=>s.providerDedupe

def append (record:UsageRecord) : Except UsageLedgerError UsageRecord×InMemoryUsageLedger :=
 match appendDecision s record with
 | .error e=>(.error e,s)
 | .ok (some existing)=>(.ok existing,s)
 | .ok none=>(.ok record,store s record)

/-- The record that `reconcile` appends. -/
def reconciledRecord (original:UsageRecord) (sourceRecordId:String)
  (amounts:List UsageAmount) (occurredAtUnixMs:ℕ) (recordId:Option String) :
  UsageRecord where
 recordId:=recordId.getD (sourceRecordId ++ ":reconciled")
 source:=.reconciled
 confidence:=.exact
 amounts
 occurredAtUnixMs
 runId:=original.runId
 attemptId:=original.attemptId
 providerResponseId:=original.providerResponseId
 pricingRef:=original.pricingRef
 quotaWindowId:=original.quotaWindowId
 executionScope:=original.executionScope
 reconciliationOf:=some original.recordId
 metadata:=original.metadata

def reconcileRequest (found:Except UsageLedgerError UsageRecord) (sourceRecordId:String)
  (amounts:List UsageAmount) (occurredAtUnixMs:ℕ) (recordId:Option String) :
  Except UsageLedgerError UsageRecord := do
 let original ← found
 ensure (decide (original.occurredAtUnixMs≤occurredAtUnixMs))
  (.invalidRecord "usage reconciliation occurred_at must not precede source usage")
 return reconciledRecord original sourceRecordId amounts occurredAtUnixMs recordId

def reconcile (sourceRecordId:String) (amounts:List UsageAmount) (occurredAtUnixMs:ℕ)
  (recordId:Option String) : Except UsageLedgerError UsageRecord×InMemoryUsageLedger :=
 match reconcileRequest (get s sourceRecordId) sourceRecordId amounts occurredAtUnixMs recordId with
 | .error e=>(.error e,s)
 | .ok record=>append s record

inductive Call where
 | append (record:UsageRecord)
 | reconcile (sourceRecordId:String) (amounts:List UsageAmount) (occurredAtUnixMs:ℕ)
   (recordId:Option String)
 | get (recordId:String)
 | recordsForRun (runId:String)
 | totalsForRun (runId:String)

inductive Response where
 | record (record:UsageRecord)
 | records (records:List UsageRecord)
 | totals (totals:List UsageAmount)
deriving DecidableEq

def step : Call→Except UsageLedgerError Response×InMemoryUsageLedger
 | .append record=>((append s record).1.map .record,(append s record).2)
 | .reconcile sourceRecordId amounts occurredAtUnixMs recordId=>
  ((reconcile s sourceRecordId amounts occurredAtUnixMs recordId).1.map .record,
   (reconcile s sourceRecordId amounts occurredAtUnixMs recordId).2)
 | .get recordId=>((get s recordId).map .record,s)
 | .recordsForRun runId=>(.ok (.records (recordsForRun s runId)),s)
 | .totalsForRun runId=>((totalsForRun s runId).map .totals,s)

end GraphBlocks.UsageLedger
