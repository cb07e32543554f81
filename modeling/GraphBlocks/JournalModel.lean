import GraphBlocks.JsonValue
import GraphBlocks.MachineRuns
import GraphBlocks.RustStd
import Mathlib.Data.List.Sort

/-! The in-memory `ExecutionJournal` and the `SqliteExecutionJournal` of the runtime core. -/
namespace GraphBlocks.Journal
open RustStd Json

structure JournalMetadata where
 causationId:Option String
 nodeId:Option String
 attemptId:Option String
 leaseEpoch:Option ℕ

def JournalMetadata.new : JournalMetadata := ⟨none,none,none,none⟩

structure JournalRecord where
 recordId:String
 runId:String
 runSequence:ℕ
 kind:String
 causationId:Option String
 nodeId:Option String
 attemptId:Option String
 leaseEpoch:Option ℕ
 payload:Option Value
 terminal:Bool

/-- What a `JournalError::Storage` message reports. -/
inductive StorageFailure where
 | exceedsIntegerRange (label:String)
 | negative (label:String)
 | sequenceNotInteger
 | uniqueConstraint
 | emptyField (field:String)
 | terminalFlag (flag:ℤ)
 | sequenceGap (expected found:ℕ)
 | recordIdMismatch (found expected:String)
 | followsTerminal (terminalKind:String)
 | json (message:String)

inductive JournalError where
 | appendAfterTerminal (terminalKind:String)
 | terminalAlreadyRecorded (terminalKind:String)
 | storage (failure:StorageFailure)

/-- `format!("{}:{run_sequence}", self.run_id)`. -/
def recordIdOf (runId:String) (runSequence:ℕ) : String := runId++(":" ++ toString runSequence)

def recordOf (runId:String) (runSequence:ℕ) (kind:String) (metadata:JournalMetadata)
  (payload:Option Value) (terminal:Bool) : JournalRecord where
 recordId:=recordIdOf runId runSequence
 runId
 runSequence
 kind
 causationId:=metadata.causationId
 nodeId:=metadata.nodeId
 attemptId:=metadata.attemptId
 leaseEpoch:=metadata.leaseEpoch
 payload
 terminal

structure ExecutionJournal where
 runId:String
 records:List JournalRecord
 terminalKind:Option String

def ExecutionJournal.new (runId:String) : ExecutionJournal := ⟨runId,[],none⟩

def ExecutionJournal.appendWithMetadata (j:ExecutionJournal) (kind:String)
  (metadata:JournalMetadata) (payload:Option Value) :
  Except JournalError JournalRecord×ExecutionJournal :=
 match j.terminalKind with
 | some terminalKind=>(.error (.appendAfterTerminal terminalKind),j)
 | none=>
  let record:=recordOf j.runId (j.records.length+1) kind metadata payload false
  (.ok record,{ j with records:=j.records++[record] })

/-- `if let Some(stored) = self.records.last_mut() { stored.terminal = true; }`. -/
def markLastTerminal (records:List JournalRecord) : List JournalRecord :=
 match records.getLast? with
 | some stored=>records.dropLast++[{ stored with terminal:=true }]
 | none=>records

def ExecutionJournal.appendTerminalWithMetadata (j:ExecutionJournal) (kind:String)
  (metadata:JournalMetadata) (payload:Option Value) :
  Except JournalError JournalRecord×ExecutionJournal :=
 match j.terminalKind with
 | some terminalKind=>(.error (.terminalAlreadyRecorded terminalKind),j)
 | none=>
  match j.appendWithMetadata kind metadata payload with
  | (.error e,k)=>(.error e,k)
  | (.ok record,k)=>
   let record:={ record with terminal:=true }
   (.ok record,
    { k with terminalKind:=some record.kind,records:=markLastTerminal k.records })

/-- A row of `journal_records`; integers of the table are signed 64-bit. -/
structure StoredJournalRecord where
 recordId:String
 runId:String
 runSequence:ℤ
 kind:String
 causationId:Option String
 nodeId:Option String
 attemptId:Option String
 leaseEpoch:Option ℤ
 payload:Option String
 terminal:ℤ

structure SqliteExecutionJournal where
 table:List StoredJournalRecord
 runId:String

/-- `serde_json::to_string` and `serde_json::from_str` on payloads. -/
structure PayloadCodec where
 toString:Value→Except String String
 fromStr:String→Except String Value

def i64Max : ℤ := 9223372036854775807

def journalU64ToI64 (value:ℕ) (label:String) : Except JournalError ℤ :=
 if (value:ℤ) ≤ i64Max then .ok value else .error (.storage (.exceedsIntegerRange label))

def journalI64ToU64 (value:ℤ) (label:String) : Except JournalError ℕ :=
 if 0≤value then .ok value.toNat else .error (.storage (.negative label))

def optionalJournalU64ToI64 (value:Option ℕ) (label:String) : Except JournalError (Option ℤ) :=
 match value with
 | none=>.ok none
 | some value=>(journalU64ToI64 value label).map some

def optionalJournalI64ToU64 (value:Option ℤ) (label:String) : Except JournalError (Option ℕ) :=
 match value with
 | none=>.ok none
 | some value=>(journalI64ToU64 value label).map some

section
variable (codec:PayloadCodec)

def optionalJournalJson (value:Option Value) : Except JournalError (Option String) :=
 match value with
 | none=>.ok none
 | some value=>
  match codec.toString value with
  | .ok text=>.ok (some text)
  | .error message=>.error (.storage (.json message))

def optionalParseJournalJson (value:Option String) : Except JournalError (Option Value) :=
 match value with
 | none=>.ok none
 | some text=>
  match codec.fromStr text with
  | .ok value=>.ok (some value)
  | .error message=>.error (.storage (.json message))

/-- The parameters of the `INSERT`, converted in the order of its columns. -/
def insertParams (record:JournalRecord) : Except JournalError StoredJournalRecord :=
 match journalU64ToI64 record.runSequence "journal sequence" with
 | .error e=>.error e
 | .ok runSequence=>
  match optionalJournalU64ToI64 record.leaseEpoch "lease epoch" with
  | .error e=>.error e
  | .ok leaseEpoch=>
   match optionalJournalJson codec record.payload with
   | .error e=>.error e
   | .ok payload=>
    .ok { recordId:=record.recordId,runId:=record.runId,runSequence,kind:=record.kind
          causationId:=record.causationId,nodeId:=record.nodeId,attemptId:=record.attemptId
          leaseEpoch,payload,terminal:=if record.terminal then 1 else 0 }

/-- `WHERE run_id = ?`. -/
def runRows (s:SqliteExecutionJournal) : List StoredJournalRecord :=
 s.table.filter fun row=>row.runId==s.runId

/-- `SELECT kind .. WHERE run_id = ? AND terminal = 1 ORDER BY run_sequence DESC LIMIT 1`. -/
def terminalKindRow (s:SqliteExecutionJournal) : Option String :=
 (((runRows s).filter fun row=>row.terminal==1).insertionSort
  (fun a b=>b.runSequence≤a.runSequence)).head?.map StoredJournalRecord.kind

def maxStep (acc:Option ℤ) (row:StoredJournalRecord) : Option ℤ :=
 match acc with
 | none=>some row.runSequence
 | some m=>some (max m row.runSequence)

/-- `MAX(run_sequence)`, null on no rows. -/
def maxSequence (rows:List StoredJournalRecord) : Option ℤ := rows.foldl maxStep none

/-- `COALESCE(MAX(run_sequence), 0) + 1`; past the last integer the sum is a float. -/
def nextSequence (s:SqliteExecutionJournal) : Except JournalError ℕ :=
 let next:=(maxSequence (runRows s)).getD 0+1
 if next ≤ i64Max then journalI64ToU64 next "journal sequence"
 else .error (.storage .sequenceNotInteger)

/-- The `INSERT` under `PRIMARY KEY (run_id, run_sequence)`. -/
def insertRow (s:SqliteExecutionJournal) (record:JournalRecord) (row:StoredJournalRecord) :
  Except JournalError JournalRecord×SqliteExecutionJournal :=
 if s.table.any fun r=>r.runId==row.runId&&r.runSequence==row.runSequence then
  (.error (.storage .uniqueConstraint),s)
 else (.ok record,{ s with table:=s.table++[row] })

def storeRecord (s:SqliteExecutionJournal) (record:JournalRecord) :
  Except JournalError JournalRecord×SqliteExecutionJournal :=
 match insertParams codec record with
 | .error e=>(.error e,s)
 | .ok row=>insertRow s record row

def insertRecord (s:SqliteExecutionJournal) (kind:String) (metadata:JournalMetadata)
  (payload:Option Value) (terminal:Bool) :
  Except JournalError JournalRecord×SqliteExecutionJournal :=
 match terminalKindRow s with
 | some terminalKind=>
  (.error (if terminal then .terminalAlreadyRecorded terminalKind
   else .appendAfterTerminal terminalKind),s)
 | none=>
  match nextSequence s with
  | .error e=>(.error e,s)
  | .ok runSequence=>
   storeRecord codec s (recordOf s.runId runSequence kind metadata payload terminal)

def requireText (field value:String) : Except JournalError Unit :=
 if isBlank value then .error (.storage (.emptyField field)) else .ok ()

def requireOptionalText (field:String) (value:Option String) : Except JournalError Unit :=
 match value with
 | some value=>requireText field value
 | none=>.ok ()

def terminalOfFlag (flag:ℤ) : Except JournalError Bool :=
 if flag=0 then .ok false
 else if flag=1 then .ok true
 else .error (.storage (.terminalFlag flag))

def recordFromStorage (stored:StoredJournalRecord) : Except JournalError JournalRecord := do
 requireText "record_id" stored.recordId
 requireText "run_id" stored.runId
 requireText "kind" stored.kind
 requireOptionalText "causation_id" stored.causationId
 requireOptionalText "node_id" stored.nodeId
 requireOptionalText "attempt_id" stored.attemptId
 let terminal ← terminalOfFlag stored.terminal
 let runSequence ← journalI64ToU64 stored.runSequence "journal sequence"
 let leaseEpoch ← optionalJournalI64ToU64 stored.leaseEpoch "lease epoch"
 let payload ← optionalParseJournalJson codec stored.payload
 return { recordId:=stored.recordId,runId:=stored.runId,runSequence,kind:=stored.kind
          causationId:=stored.causationId,nodeId:=stored.nodeId,attemptId:=stored.attemptId
          leaseEpoch,payload,terminal }

/-- The loop of `records`: next sequence number, terminal kind seen, records read. -/
def readRows : List StoredJournalRecord→ℕ→Option String→List JournalRecord →
  Except JournalError (List JournalRecord)
 | [], _, _, records=>.ok records
 | row::rows, expectedSequence, terminalKind, records=>
  match recordFromStorage codec row with
  | .error e=>.error e
  | .ok record=>
   if record.runSequence≠expectedSequence then
    .error (.storage (.sequenceGap expectedSequence record.runSequence))
   else if record.recordId≠recordIdOf record.runId record.runSequence then
    .error (.storage (.recordIdMismatch record.recordId
     (recordIdOf record.runId record.runSequence)))
   else match terminalKind with
    | some kind=>.error (.storage (.followsTerminal kind))
    | none=>
     readRows rows (expectedSequence+1) (if record.terminal then some record.kind else none)
      (records++[record])

def records (s:SqliteExecutionJournal) : Except JournalError (List JournalRecord) :=
 readRows codec ((runRows s).insertionSort fun a b=>a.runSequence≤b.runSequence) 1 none []

def terminalKind (s:SqliteExecutionJournal) : Except JournalError (Option String) :=
 (records codec s).map fun records=>(records.find? (·.terminal)).map JournalRecord.kind
end

inductive Call where
 | append (kind:String) (payload:Value)
 | appendWithMetadata (kind:String) (metadata:JournalMetadata) (payload:Option Value)
 | appendTerminal (kind:String) (payload:Value)
 | appendTerminalWithMetadata (kind:String) (metadata:JournalMetadata)
   (payload:Option Value)

def memoryStep (j:ExecutionJournal) : Call→Except JournalError JournalRecord×ExecutionJournal
 | .append kind payload=>j.appendWithMetadata kind .new (some payload)
 | .appendWithMetadata kind metadata payload=>j.appendWithMetadata kind metadata payload
 | .appendTerminal kind payload=>j.appendTerminalWithMetadata kind .new (some payload)
 | .appendTerminalWithMetadata kind metadata payload=>
  j.appendTerminalWithMetadata kind metadata payload

def sqliteStep (codec:PayloadCodec) (s:SqliteExecutionJournal) :
  Call→Except JournalError JournalRecord×SqliteExecutionJournal
 | .append kind payload=>insertRecord codec s kind .new (some payload) false
 | .appendWithMetadata kind metadata payload=>insertRecord codec s kind metadata payload false
 | .appendTerminal kind payload=>insertRecord codec s kind .new (some payload) true
 | .appendTerminalWithMetadata kind metadata payload=>
  insertRecord codec s kind metadata payload true

end GraphBlocks.Journal
