import GraphBlocks.ApplicationProtocolReplay
import GraphBlocks.SerdeInstance

/-! `SqliteApplicationProtocolLog` of the runtime core: one row for each event, keyed by its id
and unique by run and cursor. -/
namespace GraphBlocks.ApplicationProtocol
open Json OrderedMap RustStd StoredJson CanonicalJson MachineRuns Usage List Option
open ApplicationProtocolLog

def ApplicationProtocolEventKind.asStr : ApplicationProtocolEventKind→String
 | .runStarted=>"RunStarted"
 | .turnStarted=>"TurnStarted"
 | .contextReady=>"ContextReady"
 | .assistantDraftStarted=>"AssistantDraftStarted"
 | .assistantDraftDelta=>"AssistantDraftDelta"
 | .assistantCommitted=>"AssistantCommitted"
 | .assistantIncomplete=>"AssistantIncomplete"
 | .assistantRetracted=>"AssistantRetracted"
 | .toolStarted=>"ToolStarted"
 | .toolCompleted=>"ToolCompleted"
 | .toolCallApprovalRequested=>"ToolCallApprovalRequested"
 | .approvalRequested=>"ApprovalRequested"
 | .reviewRequested=>"ReviewRequested"
 | .budgetConstrained=>"BudgetConstrained"
 | .budgetExhausted=>"BudgetExhausted"
 | .budgetExtensionRequested=>"BudgetExtensionRequested"
 | .budgetExtensionGranted=>"BudgetExtensionGranted"
 | .policyDecisionRequired=>"PolicyDecisionRequired"
 | .executionDegraded=>"ExecutionDegraded"
 | .outputCutoff=>"OutputCutoff"
 | .filePatchPreview=>"FilePatchPreview"
 | .jobProgress=>"JobProgress"
 | .artifactReady=>"ArtifactReady"
 | .stateSnapshot=>"StateSnapshot"
 | .runCompleted=>"RunCompleted"
 | .runFailed=>"RunFailed"
 | .runCancelled=>"RunCancelled"
 | .runPolicyStopped=>"RunPolicyStopped"
 | .runExpired=>"RunExpired"
 | .asyncOperationStarted=>"AsyncOperationStarted"
 | .asyncOperationWaitingCallback=>"AsyncOperationWaitingCallback"
 | .asyncOperationPolling=>"AsyncOperationPolling"
 | .asyncOperationCompleted=>"AsyncOperationCompleted"
 | .asyncOperationFailed=>"AsyncOperationFailed"
 | .asyncOperationCancelled=>"AsyncOperationCancelled"
 | .asyncOperationExpired=>"AsyncOperationExpired"
 | .externalCallbackReceived=>"ExternalCallbackReceived"
 | .externalCallbackRejected=>"ExternalCallbackRejected"
 | .lateExternalCallbackReceived=>"LateExternalCallbackReceived"
 | .runResuming=>"RunResuming"
 | .runPausedBudget=>"RunPausedBudget"
 | .runPausedCallbackDelivery=>"RunPausedCallbackDelivery"
 | .runPausedPolicy=>"RunPausedPolicy"
 | .runPausedOperator=>"RunPausedOperator"

def applicationProtocolEventKindFromStr : String→Option ApplicationProtocolEventKind
 | "RunStarted"=>some .runStarted
 | "TurnStarted"=>some .turnStarted
 | "ContextReady"=>some .contextReady
 | "AssistantDraftStarted"=>some .assistantDraftStarted
 | "AssistantDraftDelta"=>some .assistantDraftDelta
 | "AssistantCommitted"=>some .assistantCommitted
 | "AssistantIncomplete"=>some .assistantIncomplete
 | "AssistantRetracted"=>some .assistantRetracted
 | "ToolStarted"=>some .toolStarted
 | "ToolCompleted"=>some .toolCompleted
 | "ToolCallApprovalRequested"=>some .toolCallApprovalRequested
 | "ApprovalRequested"=>some .approvalRequested
 | "ReviewRequested"=>some .reviewRequested
 | "BudgetConstrained"=>some .budgetConstrained
 | "BudgetExhausted"=>some .budgetExhausted
 | "BudgetExtensionRequested"=>some .budgetExtensionRequested
 | "BudgetExtensionGranted"=>some .budgetExtensionGranted
 | "PolicyDecisionRequired"=>some .policyDecisionRequired
 | "ExecutionDegraded"=>some .executionDegraded
 | "OutputCutoff"=>some .outputCutoff
 | "FilePatchPreview"=>some .filePatchPreview
 | "JobProgress"=>some .jobProgress
 | "ArtifactReady"=>some .artifactReady
 | "StateSnapshot"=>some .stateSnapshot
 | "RunCompleted"=>some .runCompleted
 | "RunFailed"=>some .runFailed
 | "RunCancelled"=>some .runCancelled
 | "RunPolicyStopped"=>some .runPolicyStopped
 | "RunExpired"=>some .runExpired
 | "AsyncOperationStarted"=>some .asyncOperationStarted
 | "AsyncOperationWaitingCallback"=>some .asyncOperationWaitingCallback
 | "AsyncOperationPolling"=>some .asyncOperationPolling
 | "AsyncOperationCompleted"=>some .asyncOperationCompleted
 | "AsyncOperationFailed"=>some .asyncOperationFailed
 | "AsyncOperationCancelled"=>some .asyncOperationCancelled
 | "AsyncOperationExpired"=>some .asyncOperationExpired
 | "ExternalCallbackReceived"=>some .externalCallbackReceived
 | "ExternalCallbackRejected"=>some .externalCallbackRejected
 | "LateExternalCallbackReceived"=>some .lateExternalCallbackReceived
 | "RunResuming"=>some .runResuming
 | "RunPausedBudget"=>some .runPausedBudget
 | "RunPausedCallbackDelivery"=>some .runPausedCallbackDelivery
 | "RunPausedPolicy"=>some .runPausedPolicy
 | "RunPausedOperator"=>some .runPausedOperator
 | _=>none

mutual

def invalidPayloadKeyPath : Value→String→Option String
 | .object members, field=>invalidKeyOfMembers members field
 | .array items, field=>invalidKeyOfItems items field
 | _, _=>none

def invalidKeyOfItems : List Value→String→Option String
 | [], _=>none
 | item::items, field=>(invalidPayloadKeyPath item field).or (invalidKeyOfItems items field)

def invalidKeyOfMembers : List (String×Value)→String→Option String
 | [], _=>none
 | (key,value)::members, field=>
  if isBlank key then some field
  else (invalidPayloadKeyPath value (field ++ "." ++ key)).or (invalidKeyOfMembers members field)
end

def isObject : Value→Bool
 | .object _=>true
 | _=>false

/-- `Option::ok_or_else`. -/
def okOr {ε α:Type} (value:Option α) (error:ε) : Except ε α :=
 match value with
 | some a=>.ok a
 | none=>.error error

def refuse {ε:Type} (error:Option ε) : Except ε Unit :=
 match error with
 | some error=>.error error
 | none=>.ok ()

def blankField (fields:List (String×Option String)) : Option ApplicationProtocolError :=
 (fields.find? fun field=>field.2.any isBlank).map fun field=>.emptyMetadataField field.1

def ApplicationProtocolEvent.new (kind:ApplicationProtocolEventKind)
  (metadata:ApplicationProtocolEventMetadata) (payload:Value) :
  Except ApplicationProtocolError ApplicationProtocolEvent := do
 ensure (!isBlank metadata.eventId) .emptyEventId
 refuse (blankField [("protocol_version",some metadata.protocolVersion),
  ("run_id",some metadata.runId),("release_id",some metadata.releaseId)])
 refuse (blankField [("turn_id",metadata.turnId),("operation_id",metadata.operationId),
  ("cursor",metadata.cursor)])
 ensure metadata.cursor.isSome (.emptyMetadataField "cursor")
 ensure (isObject payload) (.invalidPayload "payload")
 refuse ((invalidPayloadKeyPath payload "payload").map .invalidPayloadKey)
 .ok ⟨kind,metadata,payload⟩

def textOrNull : Option String→Value
 | none=>.null
 | some text=>.string text

def metadataMembers (metadata:ApplicationProtocolEventMetadata) : StringMap Value :=
 (((((((((∅:StringMap Value).insert "event_id" (.string metadata.eventId)).insert
  "protocol_version" (.string metadata.protocolVersion)).insert
  "run_id" (.string metadata.runId)).insert
  "release_id" (.string metadata.releaseId)).insert
  "turn_id" (textOrNull metadata.turnId)).insert
  "operation_id" (textOrNull metadata.operationId)).insert
  "sequence" (.number (intToken metadata.sequence))).insert
  "cursor" (textOrNull metadata.cursor)).insert
  "occurred_at_unix_ms" (.number (intToken metadata.occurredAtUnixMs))

def eventMembers (event:ApplicationProtocolEvent) : StringMap Value :=
 (((∅:StringMap Value).insert "kind" (.string event.kind.asStr)).insert
  "metadata" (toObject (metadataMembers event.metadata))).insert "payload" event.payload

def applicationProtocolEventToValue (event:ApplicationProtocolEvent) : Value :=
 toObject (eventMembers event)

abbrev Reading (α:Type) := Except ApplicationProtocolError α

def storedMalformed (what:String) : ApplicationProtocolError :=
 .storage (.malformed ("stored application protocol event " ++ what))

def asObject : Value→Option (StringMap Value)
 | .object members=>some (objectMap members)
 | _=>none

/-- A member that must be there and be read. -/
def requiredJson {α:Type} (get:Value→Option α) (requirement:String)
  (object:StringMap Value) (field:String) : Reading α :=
 okOr (object[field]?.bind get) (storedMalformed (field++requirement))

def requiredJsonObject (object:StringMap Value) (field:String) : Reading (StringMap Value) :=
 requiredJson asObject " must be a JSON object" object field

def requiredJsonString (object:StringMap Value) (field:String) : Reading String :=
 requiredJson asString " must be a string" object field

def requiredJsonU64 (object:StringMap Value) (field:String) : Reading ℕ :=
 requiredJson asU64 " must be an unsigned integer" object field

def optionalJsonString (object:StringMap Value) (field:String) : Reading (Option String) :=
 match object[field]? with
 | none | some .null=>.ok none
 | some (.string value)=>.ok (some value)
 | some _=>.error (storedMalformed ("optional field " ++ field ++ " must be a string or null"))

def kindFromText (text:String) : Reading ApplicationProtocolEventKind :=
 okOr (applicationProtocolEventKindFromStr text) (.storage (.unknownKind text))

def metadataFromObject (metadata:StringMap Value) : Reading ApplicationProtocolEventMetadata := do
 let eventId ← requiredJsonString metadata "event_id"
 let protocolVersion ← requiredJsonString metadata "protocol_version"
 let runId ← requiredJsonString metadata "run_id"
 let releaseId ← requiredJsonString metadata "release_id"
 let turnId ← optionalJsonString metadata "turn_id"
 let operationId ← optionalJsonString metadata "operation_id"
 let sequence ← requiredJsonU64 metadata "sequence"
 let cursor ← optionalJsonString metadata "cursor"
 let occurredAtUnixMs ← requiredJsonU64 metadata "occurred_at_unix_ms"
 .ok ⟨eventId,protocolVersion,runId,releaseId,turnId,operationId,sequence,cursor,occurredAtUnixMs⟩

def applicationProtocolEventFromValue (value:Value) : Reading ApplicationProtocolEvent := do
 let object ← okOr (asObject value) (storedMalformed "must be a JSON object")
 let kindText ← requiredJsonString object "kind"
 let kind ← kindFromText kindText
 let metadataObject ← requiredJsonObject object "metadata"
 let payload ← okOr object["payload"]? (storedMalformed "missing payload")
 let metadata ← metadataFromObject metadataObject
 ApplicationProtocolEvent.new kind metadata payload

structure EventRow where
 eventId:String
 runId:String
 sequence:ℤ
 cursor:String
 eventJson:String

lemma kindFromStr_asStr(kind:ApplicationProtocolEventKind):
  applicationProtocolEventKindFromStr kind.asStr=some kind:=by
 cases kind <;>rfl

def sqliteI64FromU64 (field:String) (value:ℕ) : Reading ℤ :=
 if (value:ℤ) ≤ i64Max then .ok value
 else .error (.storage (.exceedsIntegerRange field value))

def sqliteU64FromI64 (field:String) (value:ℤ) : Reading ℕ :=
 if 0≤value then .ok value.toNat else .error (.storage (.negative field value))

def logErrors : StorageErrors ApplicationProtocolError where
 json message:=.storage (.invalidJson message)
 malformed message:=.storage (.malformed message)
 member what key:=.storage (.malformed (what ++ " " ++ key))

/-- `ORDER BY sequence ASC, event_id ASC`. -/
def rowOrder (a b:EventRow) : Prop :=
 a.sequence<b.sequence∨(a.sequence=b.sequence∧a.eventId≤b.eventId)

instance : DecidableRel rowOrder := fun _ _=>inferInstanceAs (Decidable (_ ∨ _))

abbrev SqliteApplicationProtocolLog := List EventRow

namespace SqliteApplicationProtocolLog

section
variable {d:StringDisplay} (reader:JsonReader d)

/-- The event of a row, checked against its columns. -/
def eventOfRow (row:EventRow) : Reading ApplicationProtocolEvent := do
 let sequence ← sqliteU64FromI64 "sequence" row.sequence
 let value ← fromStr logErrors reader row.eventJson
 let event ← applicationProtocolEventFromValue value
 ensure (event.metadata.eventId==row.eventId&&event.metadata.runId==row.runId &&
   event.metadata.sequence==sequence&&event.metadata.cursor==some row.cursor)
  (.storage (.rowMismatch row.eventId))
 .ok event

def appendRow (log:ApplicationProtocolLog) (row:EventRow) : Reading ApplicationProtocolLog := do
 let event ← eventOfRow reader row
 let _ ← (log.append event).1
 .ok (log.append event).2

def loadRows (log:ApplicationProtocolLog) (rows:List EventRow) : Reading ApplicationProtocolLog :=
 rows.foldlM (appendRow reader) log

def rowsOfRun (rows:SqliteApplicationProtocolLog) (runId:String) : List EventRow :=
 (rows.filter fun row=>row.runId==runId).insertionSort rowOrder

def validateApplicationProtocolRunId (runId:String) : Reading Unit :=
 ensure (!isBlank runId) (.emptyMetadataField "run_id")

def toProtocolLogForRun (rows:SqliteApplicationProtocolLog) (runId:String) :
  Reading ApplicationProtocolLog := do
 validateApplicationProtocolRunId runId
 loadRows reader .new (rowsOfRun rows runId)

def insertRow (rows:SqliteApplicationProtocolLog) (row:EventRow) :
  Reading SqliteApplicationProtocolLog := do
 ensure (!rows.any fun other=>other.eventId==row.eventId) (.storage (.constraint "event_id"))
 ensure (!rows.any fun other=>other.runId==row.runId&&other.cursor==row.cursor)
  (.storage (.constraint "run_id, cursor"))
 .ok (rows++[row])

def requiredCursor (event:ApplicationProtocolEvent) : Reading String :=
 okOr event.metadata.cursor (.emptyMetadataField "cursor")

def rowOf (d:StringDisplay) (event:ApplicationProtocolEvent) (sequence:ℤ) (cursor:String) :
  EventRow where
 eventId:=event.metadata.eventId
 runId:=event.metadata.runId
 sequence
 cursor
 eventJson:=toText d (applicationProtocolEventToValue event)

/-- The transaction of an append: what it answers and the rows it commits. -/
def appendRows (rows:SqliteApplicationProtocolLog) (offered:ApplicationProtocolEvent) :
  Reading (Bool×SqliteApplicationProtocolLog) := do
 let event ← ApplicationProtocolEvent.new offered.kind offered.metadata offered.payload
 let cursor ← requiredCursor event
 let sequence ← sqliteI64FromU64 "sequence" event.metadata.sequence
 let log ← toProtocolLogForRun reader rows event.metadata.runId
 let appended ← (log.append event).1
 if appended then
  let rows ← insertRow rows (rowOf d event sequence cursor)
  .ok (true,rows)
 else .ok (false,rows)

def append (rows:SqliteApplicationProtocolLog) (event:ApplicationProtocolEvent) :
  Reading Bool×SqliteApplicationProtocolLog :=
 match appendRows reader rows event with
 | .ok (appended,rows)=>(.ok appended,rows)
 | .error error=>(.error error,rows)
end

end SqliteApplicationProtocolLog

lemma refuse_ok{ε:Type}{error:Option ε}{u:Unit}:refuse error=.ok u↔error=none:=by
 cases error <;>simp [refuse]

variable {event:ApplicationProtocolEvent} {metadata:ApplicationProtocolEventMetadata}

lemma new_ok{kind:ApplicationProtocolEventKind}
  {payload:Value}(h:ApplicationProtocolEvent.new kind metadata payload=.ok event):
  event=⟨kind,metadata,payload⟩∧∃cursor,metadata.cursor=some cursor∧isBlank cursor=false:=by
 simp only [ApplicationProtocolEvent.new,bind_ok,ensure_ok,refuse_ok] at h
 obtain ⟨-,-,-,-,-,optional,-,carried,-,-,-,-,h⟩:=h
 obtain ⟨cursor,hcursor⟩:=isSome_iff_exists.mp carried
 refine ⟨(Except.ok.inj h).symm,cursor,hcursor,?_⟩
 simp only [blankField,map_eq_none_iff,List.find?_eq_none,mem_cons] at optional
 have unblank:=optional ("cursor",metadata.cursor) (.inr (.inr (.inl rfl)))
 simpa [hcursor] using unblank

namespace SqliteApplicationProtocolLog

section
variable {d:StringDisplay} {reader:JsonReader d}

structure Holds (row:EventRow) (event:ApplicationProtocolEvent) : Prop where
 eventId:event.metadata.eventId=row.eventId
 runId:event.metadata.runId=row.runId
 sequence:(event.metadata.sequence:ℤ)=row.sequence
 cursor:event.metadata.cursor=some row.cursor
 unblank:isBlank row.cursor=false

lemma holds_of_eventOfRow{row:EventRow}(h:eventOfRow reader row=.ok event):Holds row event:=by
 simp only [eventOfRow,bind_ok,ensure_ok,Bool.and_eq_true,beq_iff_eq] at h
 obtain ⟨sequence,hsequence,value,-,read,hread,-,⟨⟨⟨hid,hrun⟩,hseq⟩,hcursor⟩,h⟩:=h
 cases h
 have unblank:isBlank row.cursor=false:=by
  simp only [applicationProtocolEventFromValue,bind_ok] at hread
  obtain ⟨object,-,text,-,kind,-,metadataObject,-,payload,-,metadata,-,hnew⟩:=hread
  obtain ⟨rfl,cursor,carried,unblank⟩:=new_ok hnew
  cases carried.symm.trans hcursor
  exact unblank
 have nonneg:0≤row.sequence∧sequence=row.sequence.toNat:=by
  unfold sqliteU64FromI64 at hsequence
  split at hsequence
  · next nonneg=>exact ⟨nonneg,(Except.ok.inj hsequence).symm⟩
  · cases hsequence
 exact ⟨hid,hrun,by omega,hcursor,unblank⟩

variable {log:ApplicationProtocolLog} {later:ApplicationProtocolLog}

lemma loadRows_events{rows:List EventRow}
  (consistent:Consistent log)(unique:(rows.map EventRow.eventId).Nodup)
  (apart:∀row∈rows,∀event∈log.events,event.metadata.eventId≠row.eventId)
  (h:loadRows reader log rows=.ok later):
  Consistent later∧∃events,later.events=log.events++events ∧
   collect (eventOfRow reader) rows=.ok events:=by
 induction rows generalizing log with
 | nil=>
  cases h
  exact ⟨consistent,[],(append_nil _).symm,rfl⟩
 | cons row rows ih=>
  rw [map_cons,nodup_cons] at unique
  rw [loadRows,foldlM_cons,bind_ok] at h
  obtain ⟨next,hnext,h⟩:=h
  simp only [appendRow,bind_ok] at hnext
  obtain ⟨event,hevent,answer,hanswer,hnext⟩:=hnext
  have holds:=holds_of_eventOfRow hevent
  rcases append_cases consistent event with 
   ⟨error,happend⟩ | ⟨known,-⟩ | ⟨grown,enters,happend⟩
  · rw [happend] at hanswer
    cases hanswer
  · -- no event of the log has the id of the row
    obtain ⟨member,-⟩:=consistent.known _ event known
    exact absurd holds.eventId (apart row mem_cons_self event member)
  · rw [happend] at hnext
    cases hnext
    have split:∀other∈grown.events,other∈log.events∨other=event:=by
     intro other hother
     rw [enters.events,mem_append,mem_singleton] at hother
     exact hother
    obtain ⟨kept,events,hevents,related⟩:=
     ih (enters.consistent consistent) unique.2 (by
      intro other hother earlier hearlier same
      rcases split earlier hearlier with hearlier|rfl
      · exact apart other (mem_cons_of_mem _ hother) earlier hearlier same
      · apply unique.1
        rw [←holds.eventId,same]
        exact List.mem_map_of_mem hother) h
    refine ⟨kept,event::events,?_,?_⟩
    · rw [hevents,enters.events,append_assoc]
      rfl
    · rw [collect,hevent,related]
      rfl

structure Stored (rows:SqliteApplicationProtocolLog) : Prop where
 unique:(rows.map EventRow.eventId).Nodup
 ascending:rows.Pairwise fun a b=>a.runId=b.runId→a.sequence<b.sequence

variable {rows:SqliteApplicationProtocolLog}

lemma Stored.rowsOfRun_eq(stored:Stored rows)(runId:String):
  rowsOfRun rows runId=rows.filter fun row=>row.runId==runId:=by
 apply List.Pairwise.insertionSort_eq
 rw [pairwise_filter]
 refine stored.ascending.imp ?_
 intro a b ascending ha hb
 rw [beq_iff_eq] at ha hb
 exact .inl (ascending (ha.trans hb.symm))

variable {runId:String}

lemma Stored.load(stored:Stored rows)(h:toProtocolLogForRun reader rows runId=.ok log):
  Consistent log∧collect (eventOfRow reader) (rows.filter fun row=>row.runId==runId) =
    .ok log.events:=by
 simp only [toProtocolLogForRun,bind_ok] at h
 obtain ⟨-,-,h⟩:=h
 rw [stored.rowsOfRun_eq] at h
 have unique:((rows.filter fun row=>row.runId==runId).map EventRow.eventId).Nodup:=
  stored.unique.sublist (filter_sublist.map _)
 obtain ⟨consistent,events,hevents,related⟩:=loadRows_events consistent_new unique
  (by simp [ApplicationProtocolLog.new]) h
 have all:log.events=events:=hevents
 rw [all]
 exact ⟨consistent,related⟩

lemma append_step(reader:JsonReader d)(rows:SqliteApplicationProtocolLog)
  (offered:ApplicationProtocolEvent):
  (append reader rows offered).2=rows∧(append reader rows offered).1 ≠ .ok true ∨
   ∃cursor log,(append reader rows offered) =
     (.ok true,rows++[rowOf d offered offered.metadata.sequence cursor]) ∧
    ApplicationProtocolEvent.new offered.kind offered.metadata offered.payload=.ok offered ∧
    offered.metadata.cursor=some cursor ∧
    (offered.metadata.sequence:ℤ) ≤ i64Max ∧
    (∀row∈rows,row.eventId≠offered.metadata.eventId) ∧
    toProtocolLogForRun reader rows offered.metadata.runId=.ok log ∧
    (log.append offered).1=.ok true:=by
 cases h:appendRows reader rows offered with
 | error error=>exact .inl (by simp [append,h])
 | ok answer=>
  obtain ⟨appended,later⟩:=answer
  have hstep:=h
  simp only [appendRows,bind_ok] at h
  obtain ⟨event,hnew,cursor,hcursor,sequence,hsequence,log,hlog,answered,happend,h⟩:=h
  obtain ⟨rfl,-⟩:=new_ok hnew
  cases answered with
  | false=>
   cases h
   exact .inl (by simp [append,hstep])
  | true=>
   simp only [if_true,bind_ok,insertRow,ensure_ok] at h
   obtain ⟨inserted,⟨-,fresh,-,-,hinserted⟩,h⟩:=h
   cases h
   cases hinserted
   have range:sequence=offered.metadata.sequence∧(offered.metadata.sequence:ℤ) ≤ i64Max:=by
    unfold sqliteI64FromU64 at hsequence
    split at hsequence
    · next within=>exact ⟨(Except.ok.inj hsequence).symm,within⟩
    · cases hsequence
   obtain ⟨rfl,within⟩:=range
   have carried:offered.metadata.cursor=some cursor:=by
    unfold requiredCursor okOr at hcursor
    split at hcursor
    · next text htext=>
      cases hcursor
      exact htext
    · cases hcursor
   refine .inr ⟨cursor,log,?_,hnew,carried,within,?_,hlog,happend⟩
   · simp [append,hstep]
   · intro row hrow same
     simp only [Bool.not_eq_true',List.any_eq_false,beq_iff_eq] at fresh
     exact fresh row hrow same

lemma append_stored(reader:JsonReader d)(rows:SqliteApplicationProtocolLog)
  (offered:ApplicationProtocolEvent)(stored:Stored rows):
  Stored (append reader rows offered).2:=by
 rcases append_step reader rows offered with ⟨same,-⟩ |
  ⟨cursor,log,grown,-,-,-,fresh,hlog,happend⟩
 · rw [same]
   exact stored
 · rw [grown]
   obtain ⟨consistent,related⟩:=stored.load hlog
   have enters:∃later,log.Enters offered later:=by
    rcases append_cases consistent offered with ⟨error,h⟩|⟨-,h⟩|⟨later,enters,-⟩
    · rw [h] at happend
      cases happend
    · rw [h] at happend
      cases happend
    · exact ⟨later,enters⟩
   obtain ⟨later,enters⟩:=enters
   constructor
   · rw [map_append,nodup_append]
     refine ⟨stored.unique,nodup_singleton _,?_⟩
     rintro a ha b hb rfl
     obtain ⟨row,hrow,rfl⟩:=List.mem_map.mp ha
     exact fresh row hrow (mem_singleton.mp hb)
   · rw [pairwise_append]
     refine ⟨stored.ascending,pairwise_singleton _ _,?_⟩
     intro row hrow last hlast sameRun
     rw [mem_singleton.mp hlast] at sameRun ⊢
     have selected:row∈rows.filter fun row=>row.runId==offered.metadata.runId:=
      mem_filter.mpr ⟨hrow,by simpa [rowOf] using sameRun⟩
     obtain ⟨event,hevent,held⟩:=collect_mem related selected
     have sequences:=(enters.before consistent hevent).sequences
     have stands:=(holds_of_eventOfRow held).sequence
     change row.sequence<(offered.metadata.sequence:ℤ)
     omega

def offeredRows (reader:JsonReader d) (offers:List ApplicationProtocolEvent) :
  SqliteApplicationProtocolLog :=
 execute (append reader) [] offers

lemma offeredRows_stored(reader:JsonReader d)(offers:List ApplicationProtocolEvent):
  Stored (offeredRows reader offers):=
 execute_invariant (append reader) ⟨nodup_nil,List.Pairwise.nil⟩ (append_stored reader)
  offers

lemma append_extends(reader:JsonReader d)(rows:SqliteApplicationProtocolLog)
  (offered:ApplicationProtocolEvent):rows <+: (append reader rows offered).2:=by
 rcases append_step reader rows offered with ⟨same,-⟩|⟨cursor,log,grown,-⟩
 · rw [same]
 · rw [grown]
   exact prefix_append _ _

lemma offeredRows_extends(reader:JsonReader d)(offers more:List ApplicationProtocolEvent):
  offeredRows reader offers <+: offeredRows reader (offers++more):=by
 rw [offeredRows,offeredRows,execute_append]
 refine execute_invariant (I:=fun later=>execute (append reader) [] offers <+: later)
  (append reader) (prefix_refl _) ?_ more
 intro later event grown
 exact grown.trans (append_extends reader later event)

lemma collect_extends{ε α β:Type}{f:α→Except ε β}{l m:List α}{bs cs:List β}
  (hl:collect f l=.ok bs)(hm:collect f (l++m)=.ok cs):bs <+: cs:=by
 induction l generalizing bs cs with
 | nil=>
  cases hl
  exact nil_prefix
 | cons a l ih=>
  simp only [cons_append,collect,bind_ok] at hl hm
  obtain ⟨b,hb,bs',hbs,hl⟩:=hl
  obtain ⟨c,hc,cs',hcs,hm⟩:=hm
  cases hb.symm.trans hc
  cases hl
  cases hm
  exact cons_prefix_cons.mpr ⟨rfl,ih hbs hcs⟩

lemma loaded_extends{offers more:List ApplicationProtocolEvent}
  (hlog:toProtocolLogForRun reader (offeredRows reader offers) runId=.ok log)
  (hlater:toProtocolLogForRun reader (offeredRows reader (offers++more)) runId=.ok later):
  log.events <+: later.events:=by
 have events:=((offeredRows_stored reader offers).load hlog).2
 have laterEvents:=((offeredRows_stored reader (offers++more)).load hlater).2
 obtain ⟨new,hnew⟩:=offeredRows_extends reader offers more
 rw [←hnew,filter_append] at laterEvents
 exact collect_extends events laterEvents

lemma loaded_cursors(stored:Stored rows)(h:toProtocolLogForRun reader rows runId=.ok log):
  ∀event∈log.events,∃cursor,event.metadata.cursor=some cursor∧isBlank cursor=false:=by
 intro event hevent
 obtain ⟨row,-,held⟩:=collect_source (stored.load h).2 hevent
 have holds:=holds_of_eventOfRow held
 exact ⟨row.cursor,holds.cursor,holds.unblank⟩
end

section
variable {d:StringDisplay} {reader:JsonReader d}

lemma requiredJson_ok{α:Type}{get:Value→Option α}{requirement:String}{object:StringMap Value}
  {field:String}{value:Value}{a:α}(h:object[field]?=some value)(hget:get value=some a):
  requiredJson get requirement object field=.ok a:=by
 rw [requiredJson,h,bind_some,hget]
 rfl

lemma optionalJsonString_ok{object:StringMap Value}{field:String}{text:Option String}
  (h:object[field]?=some (textOrNull text)):optionalJsonString object field=.ok text:=by
 rw [optionalJsonString,h]
 cases text <;>rfl

lemma asU64_intToken{n:ℕ}(h:n<u64Limit):asU64 (.number (intToken n))=some n:=
 parseU64_intToken h

lemma asObject_toObject(m:StringMap Value):asObject (toObject m)=some m:=
 congrArg some (objectMap_toList m)

lemma metadataFromObject_members
  (hsequence:metadata.sequence<u64Limit)(hoccurred:metadata.occurredAtUnixMs<u64Limit):
  metadataFromObject (metadataMembers metadata)=.ok metadata:=by
 have eventId:requiredJsonString (metadataMembers metadata) "event_id"=.ok metadata.eventId:=
  requiredJson_ok (by simp only [metadataMembers,lookup_insert];rfl) rfl
 have version:requiredJsonString (metadataMembers metadata) "protocol_version" =
   .ok metadata.protocolVersion:=
  requiredJson_ok (by simp only [metadataMembers,lookup_insert];rfl) rfl
 have runId:requiredJsonString (metadataMembers metadata) "run_id"=.ok metadata.runId:=
  requiredJson_ok (by simp only [metadataMembers,lookup_insert];rfl) rfl
 have releaseId:requiredJsonString (metadataMembers metadata) "release_id" =
   .ok metadata.releaseId:=
  requiredJson_ok (by simp only [metadataMembers,lookup_insert];rfl) rfl
 have turnId:optionalJsonString (metadataMembers metadata) "turn_id"=.ok metadata.turnId:=
  optionalJsonString_ok (by simp only [metadataMembers,lookup_insert];rfl)
 have operationId:optionalJsonString (metadataMembers metadata) "operation_id" =
   .ok metadata.operationId:=
  optionalJsonString_ok (by simp only [metadataMembers,lookup_insert];rfl)
 have sequence:requiredJsonU64 (metadataMembers metadata) "sequence"=.ok metadata.sequence:=
  requiredJson_ok (by simp only [metadataMembers,lookup_insert];rfl) (asU64_intToken hsequence)
 have cursor:optionalJsonString (metadataMembers metadata) "cursor"=.ok metadata.cursor:=
  optionalJsonString_ok (by simp only [metadataMembers,lookup_insert];rfl)
 have occurred:requiredJsonU64 (metadataMembers metadata) "occurred_at_unix_ms" =
   .ok metadata.occurredAtUnixMs:=
  requiredJson_ok (by simp only [metadataMembers,lookup_insert];rfl) (asU64_intToken hoccurred)
 simp only [metadataFromObject,eventId,version,runId,releaseId,turnId,operationId,sequence,
  cursor,occurred,ok_bind]

lemma fromValue_toValue
  (valid:ApplicationProtocolEvent.new event.kind event.metadata event.payload=.ok event)
  (hsequence:event.metadata.sequence<u64Limit)
  (hoccurred:event.metadata.occurredAtUnixMs<u64Limit):
  applicationProtocolEventFromValue (applicationProtocolEventToValue event)=.ok event:=by
 have kind:requiredJsonString (eventMembers event) "kind"=.ok event.kind.asStr:=
  requiredJson_ok (by simp only [eventMembers,lookup_insert];rfl) rfl
 have metadata:requiredJsonObject (eventMembers event) "metadata" =
   .ok (metadataMembers event.metadata):=
  requiredJson_ok (by simp only [eventMembers,lookup_insert];rfl) (asObject_toObject _)
 have payload:(eventMembers event)["payload"]?=some event.payload:=by
  simp only [eventMembers,lookup_insert]
  rfl
 simp only [applicationProtocolEventFromValue,applicationProtocolEventToValue,asObject_toObject,
  okOr,kind,kindFromText,kindFromStr_asStr,metadata,payload,
  metadataFromObject_members hsequence hoccurred,ok_bind,valid]

/-- The text of an event is read back as it was written, and its time is a `u64`. -/
structure ReadsBack (reader:JsonReader d) (event:ApplicationProtocolEvent) : Prop where
 text:reader.read (compact d (applicationProtocolEventToValue event)) =
  .ok (applicationProtocolEventToValue event)
 occurred:event.metadata.occurredAtUnixMs<u64Limit

lemma eventOfRow_rowOf{cursor:String}
  (valid:ApplicationProtocolEvent.new event.kind event.metadata event.payload=.ok event)
  (within:(event.metadata.sequence:ℤ) ≤ i64Max)(readsBack:ReadsBack reader event)
  (carried:event.metadata.cursor=some cursor):
  eventOfRow reader (rowOf d event event.metadata.sequence cursor)=.ok event:=by
 have hsequence:event.metadata.sequence<u64Limit:=by
  have bound:(event.metadata.sequence:ℤ)≤2^63-1:=within
  unfold u64Limit
  omega
 have text:fromStr logErrors reader (toText d (applicationProtocolEventToValue event)) =
   .ok (applicationProtocolEventToValue event):=by
  rw [fromStr,toText,String.toList_ofList,readsBack.text]
 have nonneg:sqliteU64FromI64 "sequence" (event.metadata.sequence:ℤ) =
   .ok event.metadata.sequence:=by
  simp [sqliteU64FromI64]
 simp only [eventOfRow,rowOf,nonneg,text,ok_bind,
  fromValue_toValue valid hsequence readsBack.occurred,carried,beq_self_eq_true,
  Bool.and_self,ensure,if_true]

/-- The events that a store has answered to have appended, in that order. -/
def appended (past:List (Transition SqliteApplicationProtocolLog ApplicationProtocolEvent
  (Reading Bool))) : List ApplicationProtocolEvent :=
 past.filterMap fun t=>if t.response=.ok true then some t.call else none

def ReadBack (reader:JsonReader d) (events:List ApplicationProtocolEvent)
  (rows:SqliteApplicationProtocolLog) : Prop :=
 Stored rows ∧ ∀runId,isBlank runId=false → ∃log,toProtocolLogForRun reader rows runId=.ok log ∧
   log.events=events.filter fun event=>event.metadata.runId==runId

lemma loadRows_concat(log:ApplicationProtocolLog)(rows:List EventRow)(row:EventRow):
  loadRows reader log (rows++[row]) =
   loadRows reader log rows >>= fun later=>appendRow reader later row:=by
 simp [loadRows,foldlM_append]

lemma append_readBack{events:List ApplicationProtocolEvent}
  {rows:SqliteApplicationProtocolLog}{offered:ApplicationProtocolEvent}
  (readsBack:ReadsBack reader offered)(readBack:ReadBack reader events rows):
  ReadBack reader
   (events++(if (append reader rows offered).1=.ok true then some offered else none).toList)
   (append reader rows offered).2:=by
 refine ⟨append_stored reader rows offered readBack.1,?_⟩
 intro runId named
 have stored:=append_stored reader rows offered readBack.1
 obtain ⟨log,hlog,hevents⟩:=readBack.2 runId named
 rcases append_step reader rows offered with ⟨same,refused⟩ |
  ⟨cursor,found,grown,valid,carried,within,-,hfound,happend⟩
 · rw [if_neg refused,same]
   exact ⟨log,hlog,by simpa using hevents⟩
 · rw [grown] at stored ⊢
   rw [if_pos rfl]
   change ∃log,toProtocolLogForRun reader (rows++[_]) runId=.ok log ∧
    log.events=(events++[offered]).filter _
   have load (rows:SqliteApplicationProtocolLog):toProtocolLogForRun reader rows runId =
     loadRows reader .new (rowsOfRun rows runId):=by
    simp only [toProtocolLogForRun,validateApplicationProtocolRunId,ensure,named,
     Bool.not_false,if_true,ok_bind]
   rw [load,stored.rowsOfRun_eq,filter_append,filter_append]
   rw [load,readBack.1.rowsOfRun_eq] at hlog
   by_cases hrun:offered.metadata.runId=runId
   · subst hrun
     have self:log=found:=by
      have both:=(load rows).symm.trans hfound
      rw [readBack.1.rowsOfRun_eq,hlog] at both
      exact Except.ok.inj both
     subst self
     have consistent:=(readBack.1.load hfound).1
     rcases append_cases consistent offered with ⟨error,h⟩|⟨-,h⟩|⟨later,enters,h⟩
     · rw [h] at happend
       cases happend
     · rw [h] at happend
       cases happend
     · refine ⟨later,?_,?_⟩
       · have last:([rowOf d offered offered.metadata.sequence cursor].filter
           fun row=>row.runId==offered.metadata.runId) =
            [rowOf d offered offered.metadata.sequence cursor]:=by
          simp [rowOf]
         rw [last,loadRows_concat,hlog,ok_bind,appendRow,
          eventOfRow_rowOf valid within readsBack carried,ok_bind,h]
         rfl
       · rw [enters.events,hevents]
         simp
   · have none:([rowOf d offered offered.metadata.sequence cursor].filter
       fun row=>row.runId==runId)=[]:=by
      simp [rowOf,hrun]
     rw [none,append_nil]
     exact ⟨log,hlog,by simp [hevents,hrun]⟩

attribute [local irreducible] append in
lemma history_readBack(reader:JsonReader d)(offers:List ApplicationProtocolEvent)
  (readsBack:∀event∈offers,ReadsBack reader event):
  ReadBack reader (appended (history (append reader) [] offers)) (offeredRows reader offers):=by
 refine history_invariant_of (P:=fun past rows=>ReadBack reader (appended past) rows)
  (G:=fun _ event=>ReadsBack reader event) (append reader) ?_ ?_ offers ?_
 · refine ⟨⟨nodup_nil,List.Pairwise.nil⟩,?_⟩
   intro runId named
   refine ⟨.new,?_,rfl⟩
   simp only [toProtocolLogForRun,validateApplicationProtocolRunId,ensure,named,
    Bool.not_false,if_true,ok_bind]
   rfl
 · intro past rows event reads kept
   rw [appended,filterMap_concat]
   simp only [takeStep]
   exact append_readBack reads kept
 · intro before event after split
   exact readsBack event (by simp [split])
end

end SqliteApplicationProtocolLog

open SqliteApplicationProtocolLog

def offeredLog (offers:List ApplicationProtocolEvent) : ApplicationProtocolLog :=
 ApplicationProtocolLog.new.appendAll offers

lemma offeredLog_consistent(offers:List ApplicationProtocolEvent):Consistent (offeredLog offers):=
 appendAll_consistent consistent_new offers

/--
When clients that attach miss nothing and when pages enumerate a log, for logs in
memory and for the runs of a store; and what the runs of a store are.
-/
theorem attaching_and_paging {d : StringDisplay} (reader : JsonReader d) {σ : Type} :
  (∀(offers more:List ApplicationProtocolEvent) (position limit retained:ℕ)
    (status:Option σ) (event:ApplicationProtocolEvent)
    (replayed:List ApplicationProtocolEvent) (live:Option String),
   (offeredLog offers).events[position]?=some event →
   (offeredLog offers).attachToRunWithOptionalStatus (some (eventCursor event)) limit retained
    status=.attached replayed live →
   (replayed++eventsAfter ((offeredLog offers).appendAll more).events live =
     ((offeredLog offers).appendAll more).events.drop (position+1) ↔
    MeetsLive (offeredLog offers).events ((offeredLog offers).appendAll more).events
     position limit)) ∧
   (∀(offers:List ApplicationProtocolEvent) (limit:ℕ),Enumerates (offeredLog offers) limit ↔
     ((offeredLog offers).events=[]∨0<limit) ∧
      ∀position,PageEnd (offeredLog offers) limit position →
       Resumes (offeredLog offers).events position) ∧
   (∀(offers more:List ApplicationProtocolEvent) (runId:String)
     (log later:ApplicationProtocolLog),
    toProtocolLogForRun reader (offeredRows reader offers) runId=.ok log →
    toProtocolLogForRun reader (offeredRows reader (offers++more)) runId=.ok later →
    (∀(position limit retained:ℕ) (status:Option σ) (event:ApplicationProtocolEvent)
      (replayed:List ApplicationProtocolEvent) (live:Option String),
     log.events[position]?=some event →
     log.attachToRunWithOptionalStatus (some (eventCursor event)) limit retained status =
      .attached replayed live →
     (replayed++eventsAfter later.events live=later.events.drop (position+1) ↔
      log.events.length-(position+1)≤limit)) ∧
    ∀limit:ℕ,Enumerates log limit↔log.events=[]∨0<limit) ∧
   ∀offers : List ApplicationProtocolEvent,(∀event∈offers,ReadsBack reader event) →
    ∀runId,isBlank runId=false → ∃log,
     toProtocolLogForRun reader (offeredRows reader offers) runId=.ok log ∧
      log.events=(appended (history (append reader) [] offers)).filter
       fun event=>event.metadata.runId==runId := by
 refine ⟨?_,?_,?_,?_⟩
 · intro offers more position limit retained status event replayed live hevent attached
   have consistent:=offeredLog_consistent offers
   exact attached_iff (appendAll_consistent consistent more).order
    (appendAll_extends consistent more) hevent attached
 · intro offers limit
   exact enumerates_iff (offeredLog_consistent offers).order
 · intro offers more runId log later hlog hlater
   have stored:=offeredRows_stored reader offers
   have storedLater:=offeredRows_stored reader (offers++more)
   have cursors:=loaded_cursors stored hlog
   constructor
   · intro position limit retained status event replayed live hevent attached
     refine attached_iff_of_cursors (storedLater.load hlater).1.order
      (loaded_extends hlog hlater) ?_ hevent attached
     intro other hother
     obtain ⟨cursor,hcursor,-⟩:=cursors other hother
     exact ⟨cursor,hcursor⟩
   · intro limit
     exact enumerates_iff_of_cursors (stored.load hlog).1.order cursors
 · intro offers readsBack
   exact (history_readBack reader offers readsBack).2

def progressEvent (n:ℕ) (cursor:String) : ApplicationProtocolEvent where
 kind:=.jobProgress
 metadata:=
  { eventId:=cursor,protocolVersion := "1",runId := "run",releaseId := "release",
    turnId:=none,operationId:=none,sequence:=n,cursor:=some cursor,
    occurredAtUnixMs:=1 }
 payload:=.object []

def progressEvents : List ApplicationProtocolEvent :=
 [progressEvent 1 "a",progressEvent 2 "b",progressEvent 3 "c"]

theorem whole_replay_misses_nothing : [progressEvent 2 "b",progressEvent 3 "c"] ++
    eventsAfter ((offeredLog progressEvents).appendAll [progressEvent 4 "d"]).events
     (some "c") =
   ((offeredLog progressEvents).appendAll [progressEvent 4 "d"]).events.drop (0+1) := by
 have iff:=(attaching_and_paging (compactReader serdeDisplay)).1 progressEvents
  [progressEvent 4 "d"] 0 2 3 (none:Option Unit) (progressEvent 1 "a")
  [progressEvent 2 "b",progressEvent 3 "c"] (some "c") (by decide +kernel) (by decide +kernel)
 have length:(offeredLog progressEvents).events.length=3:=by decide +kernel
 refine iff.mpr ⟨⟨progressEvent 1 "a",by decide +kernel,?_⟩,progressEvent 3 "c",
  by decide +kernel,?_⟩
 · intro h
   cases h
 · rw [length,if_pos (by decide)]
   intro h
   cases h

theorem truncated_attachment_skips_events :
  ¬ ∀(offers more:List ApplicationProtocolEvent) (position limit retained:ℕ)
    (event:ApplicationProtocolEvent) (replayed:List ApplicationProtocolEvent)
    (live:Option String),
   (offeredLog offers).events[position]?=some event →
   (offeredLog offers).attachToRun (some (eventCursor event)) limit retained =
    (.attached replayed live:AttachToRunReplay Unit) →
   replayed++eventsAfter ((offeredLog offers).appendAll more).events live =
    ((offeredLog offers).appendAll more).events.drop (position+1) := by
 intro h
 have gap:=h progressEvents [] 0 1 3 (progressEvent 1 "a") [progressEvent 2 "b"] (some "c")
  (by decide +kernel) (by decide +kernel)
 revert gap
 decide +kernel

end GraphBlocks.ApplicationProtocol
