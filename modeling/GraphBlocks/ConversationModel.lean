import GraphBlocks.MachineRuns
import GraphBlocks.StoredJson

/-! `InMemoryConversationStore` of the runtime core. -/
namespace GraphBlocks.Conversations
open Json RustStd StoredJson

inductive MessageRole where
 | system | developer | user | assistant | tool
deriving DecidableEq

inductive MessageStatus where
 | draft | committed | superseded | retracted
deriving DecidableEq

inductive AttachmentScope where
 | message | conversation | user | project | tenant
deriving DecidableEq

inductive TurnStatus where
 | created | contextBuilding | modelRunning | toolWaiting | approvalWaiting | finalizing
 | completed | failed | cancelled | policyStopped
deriving DecidableEq

inductive DeletePolicy where
 | tombstone | hard
deriving DecidableEq

section
variable (β:Type)

structure Message where
 messageId:String
 role:MessageRole
 parentMessageId:Option String
 status:MessageStatus
 body:β
deriving DecidableEq

structure FileAttachment where
 attachmentId:String
 scope:AttachmentScope
 messageId:Option String
 body:β
deriving DecidableEq

structure CompactionRecord where
 compactionId:String
 sourceMessageIds:List String
 outputMessageId:String
 body:β
deriving DecidableEq

structure Conversation where
 conversationId:String
 messages:List (Message β)
 attachments:List (FileAttachment β)
 compactions:List (CompactionRecord β)
 revision:ℕ
 archived:Bool
 branchOf:Option String
 branchedFromMessageId:Option String
 metadata:StringMap Value
deriving DecidableEq

structure Turn where
 turnId:String
 conversationId:String
 baseRevision:ℕ
 status:TurnStatus
 messages:List (Message β)
 committedRevision:Option ℕ
 committedMessageIds:List String

structure InMemoryConversationStore where
 conversations:StringMap (Conversation β)
 turns:StringMap (Turn β)
end

structure BranchRequest where
 conversationId:String
 fromMessageId:String
 newConversationId:Option String
 includeAttachments:Bool
 includeMemory:Bool

structure RegenerateRequest where
 conversationId:String
 assistantMessageId:String
 newConversationId:Option String
 includeAttachments:Bool
 includeMemory:Bool

inductive ConversationError where
 | alreadyExists (conversationId:String)
 | notFound (conversationId:String)
 | archived (conversationId:String)
 | revisionConflict (conversationId:String) (expected actual:ℕ)
 | attachmentMessageNotFound (attachmentId:String) (messageId:Option String)

inductive MessageError where
 | conversation (error:ConversationError)
 | notFound (messageId:String)
 | conflict (messageId reason:String)

inductive TurnError where
 | alreadyExists (turnId:String)
 | notFound (turnId:String)
 | terminal (turnId:String) (status:TurnStatus)
 | conversation (error:ConversationError)

variable {β:Type}

def Message.withStatus (message:Message β) (status:MessageStatus) : Message β :=
 { message with status }

def Turn.new (turnId conversationId:String) (baseRevision:ℕ) : Turn β where
 turnId
 conversationId
 baseRevision
 status:=.created
 messages:=[]
 committedRevision:=none
 committedMessageIds:=[]

def TurnStatus.isTerminal : TurnStatus→Bool
 | .completed | .failed | .cancelled | .policyStopped=>true
 | _=>false

def Turn.isTerminal (turn:Turn β) : Bool := turn.status.isTerminal

/-- The block that a commit appends. -/
def Turn.committedMessages (turn:Turn β) : List (Message β) :=
 turn.messages.map fun message=>message.withStatus .committed

/-- An error of the first kind, taken over as one of the second. -/
def liftError {ε δ α:Type} (lift:ε→δ) : Except ε α→Except δ α
 | .ok a=>.ok a
 | .error error=>.error (lift error)

namespace InMemoryConversationStore

def new : InMemoryConversationStore β := ⟨∅,∅⟩

variable (s:InMemoryConversationStore β)

def setConversation (conversationId:String) (conversation:Conversation β) :
  InMemoryConversationStore β :=
 { s with conversations:=s.conversations.insert conversationId conversation }

def setTurn (turnId:String) (turn:Turn β) : InMemoryConversationStore β :=
 { s with turns:=s.turns.insert turnId turn }

def conversation (conversationId:String) : Except ConversationError (Conversation β) :=
 match s.conversations[conversationId]? with
 | some conversation=>.ok conversation
 | none=>.error (.notFound conversationId)

def openConversation (conversationId:String) : Except ConversationError (Conversation β) := do
 let conversation ← s.conversation conversationId
 ensure (!conversation.archived) (.archived conversationId)
 .ok conversation

def conversationAt (conversationId:String) (expectedRevision:ℕ) :
  Except ConversationError (Conversation β) := do
 let conversation ← s.openConversation conversationId
 ensure (conversation.revision==expectedRevision)
  (.revisionConflict conversationId expectedRevision conversation.revision)
 .ok conversation

def create (conversation:Conversation β) : Except ConversationError (InMemoryConversationStore β) :=
 if s.conversations.contains conversation.conversationId then
  .error (.alreadyExists conversation.conversationId)
 else .ok (s.setConversation conversation.conversationId conversation)

/-- `revision += 1` on a `u64`: it wraps in a release build. -/
def nextRevision (revision : ℕ) : ℕ := (revision + 1) % u64Limit

def appendMessages (conversationId:String) (expectedRevision:ℕ) (messages:List (Message β)) :
  Except ConversationError (ℕ×InMemoryConversationStore β) := do
 let conversation ← s.conversationAt conversationId expectedRevision
 .ok (nextRevision conversation.revision,s.setConversation conversationId
  { conversation with
    messages:=conversation.messages++messages,revision:=nextRevision conversation.revision })

def beginTurn (conversationId:String) (expectedRevision:ℕ) (turnId:String) :
  Except TurnError (Turn β×InMemoryConversationStore β) := do
 ensure (!s.turns.contains turnId) (.alreadyExists turnId)
 let _ ← liftError .conversation (s.conversationAt conversationId expectedRevision)
 .ok (.new turnId conversationId expectedRevision,
  s.setTurn turnId (.new turnId conversationId expectedRevision))

def getTurn (turnId:String) : Except TurnError (Turn β) :=
 match s.turns[turnId]? with
 | some turn=>.ok turn
 | none=>.error (.notFound turnId)

def liveTurn (turnId:String) : Except TurnError (Turn β) := do
 let turn ← s.getTurn turnId
 ensure (!turn.isTerminal) (.terminal turnId turn.status)
 .ok turn

def appendTurnMessage (turnId:String) (message:Message β) :
  Except TurnError (Turn β×InMemoryConversationStore β) := do
 let turn ← s.liveTurn turnId
 let drafted : Turn β:=
  { turn with
    messages:=turn.messages++[message.withStatus .draft]
    status:=if turn.status=.created then .modelRunning else turn.status }
 .ok (drafted,s.setTurn turnId drafted)

/-- The turn that a commit leaves behind. -/
def completedTurn (turn:Turn β) (newRevision:ℕ) : Turn β :=
 { turn with
   status:=.completed,messages:=turn.committedMessages,committedRevision:=some newRevision
   committedMessageIds:=turn.committedMessages.map Message.messageId }

def commitTurn (turnId:String) : Except TurnError (Turn β)×InMemoryConversationStore β :=
 match s.liveTurn turnId with
 | .error error=>(.error error,s)
 | .ok turn=>
  match s.appendMessages turn.conversationId turn.baseRevision turn.committedMessages with
  | .error error=>(.error (.conversation error),s.setTurn turnId { turn with status:=.failed })
  | .ok (newRevision,written)=>
   (.ok (completedTurn turn newRevision),written.setTurn turnId (completedTurn turn newRevision))

def retractTurn (ending:TurnStatus) (turnId:String) :
  Except TurnError (Turn β×InMemoryConversationStore β) := do
 let turn ← s.liveTurn turnId
 let retracted : Turn β:=
  { turn with
    status:=ending,messages:=turn.messages.map fun message=>message.withStatus .retracted
    committedRevision:=none,committedMessageIds:=[] }
 .ok (retracted,s.setTurn turnId retracted)

def abortTurn (turnId:String) : Except TurnError (Turn β×InMemoryConversationStore β) :=
 s.retractTurn .cancelled turnId

def policyStopTurn (turnId:String) : Except TurnError (Turn β×InMemoryConversationStore β) :=
 s.retractTurn .policyStopped turnId

def copiedAttachments (conversation:Conversation β) (copied:List (Message β)) (included:Bool) :
  List (FileAttachment β) :=
 if included then
  conversation.attachments.filter fun attachment=>
   attachment.scope == .conversation ||
    (attachment.scope == .message&&attachment.messageId.any fun messageId=>
      (copied.map Message.messageId).contains messageId)
 else []

def copiedCompactions (conversation:Conversation β) (copied:List (Message β)) (included:Bool) :
  List (CompactionRecord β) :=
 if included then
  conversation.compactions.filter fun compaction=>
   (copied.map Message.messageId).contains compaction.outputMessageId &&
    compaction.sourceMessageIds.all fun messageId=>(copied.map Message.messageId).contains messageId
 else []

def branchMetadata (conversation:Conversation β) (includeAttachments includeMemory:Bool) :
  StringMap Value :=
 (((∅:StringMap Value).insert "source_revision"
  (.number (intToken conversation.revision))).insert
  "include_attachments" (.bool includeAttachments)).insert
  "include_memory" (.bool includeMemory)

/-- A new conversation that starts with messages of another one. -/
def branchOf (conversation:Conversation β) (branchId:String) (copied:List (Message β))
  (fromMessageId:String) (includeAttachments includeMemory:Bool)
  (metadata:StringMap Value) : Conversation β where
 conversationId:=branchId
 messages:=copied
 attachments:=copiedAttachments conversation copied includeAttachments
 compactions:=copiedCompactions conversation copied includeMemory
 revision:=0
 archived:=false
 branchOf:=some conversation.conversationId
 branchedFromMessageId:=some fromMessageId
 metadata

def messageIndex (messages:List (Message β)) (messageId:String) : Except MessageError ℕ :=
 match messages.findIdx? fun message=>message.messageId==messageId with
 | some index=>.ok index
 | none=>.error (.notFound messageId)

def branch (request:BranchRequest) :
  Except MessageError (Conversation β×InMemoryConversationStore β) := do
 let conversation ← liftError .conversation (s.openConversation request.conversationId)
 let sourceIndex ← messageIndex conversation.messages request.fromMessageId
 let branchId:=request.newConversationId.getD
  (request.conversationId ++ ":branch:" ++ request.fromMessageId)
 ensure (!s.conversations.contains branchId) (.conversation (.alreadyExists branchId))
 let branch:=branchOf conversation branchId (conversation.messages.take (sourceIndex+1))
  request.fromMessageId request.includeAttachments request.includeMemory
  (branchMetadata conversation request.includeAttachments request.includeMemory)
 .ok (branch,s.setConversation branchId branch)

def parentIndex (messages:List (Message β)) (assistantIndex:ℕ) (assistant:Message β) :
  Except MessageError ℕ :=
 match assistant.parentMessageId with
 | some parentMessageId=>do
  let index ← messageIndex messages parentMessageId
  ensure (messages[index]?.any fun message=>message.role == .user)
   (.conflict parentMessageId "not a user message")
  ensure (index<assistantIndex)
   (.conflict parentMessageId "parent must precede assistant message")
  .ok index
 | none=>
  -- `rposition` counts from the front, the search runs from the back
  match (messages.take assistantIndex).reverse.findIdx? fun message=>message.role == .user with
  | some back=>.ok ((messages.take assistantIndex).length-1-back)
  | none=>.error (.notFound ("parent user message for " ++ assistant.messageId))

def regenerate (request:RegenerateRequest) :
  Except MessageError (Conversation β×InMemoryConversationStore β) := do
 let conversation ← liftError .conversation (s.openConversation request.conversationId)
 let branchId:=request.newConversationId.getD
  (request.conversationId ++ ":regenerate:" ++ request.assistantMessageId)
 ensure (!s.conversations.contains branchId) (.conversation (.alreadyExists branchId))
 let assistantIndex ← messageIndex conversation.messages request.assistantMessageId
 match conversation.messages[assistantIndex]? with
 | none=>.error (.notFound request.assistantMessageId)
 | some assistant=>
  ensure (assistant.role == .assistant)
   (.conflict request.assistantMessageId "not an assistant message")
  ensure (assistant.status != .superseded)
   (.conflict request.assistantMessageId "already superseded")
  let parent ← parentIndex conversation.messages assistantIndex assistant
  let copied:=conversation.messages.take (parent+1)
  let branch:=branchOf conversation branchId copied
   ((conversation.messages[parent]?.map Message.messageId).getD "")
   request.includeAttachments request.includeMemory
   ((branchMetadata conversation request.includeAttachments request.includeMemory).insert
    "regenerated_from_message_id" (.string request.assistantMessageId))
  let updated : Conversation β:=
   { conversation with
     messages:=conversation.messages.modify assistantIndex fun message=>
      message.withStatus .superseded
     revision:=nextRevision conversation.revision }
  .ok (branch,(s.setConversation request.conversationId updated).setConversation branchId branch)

def addAttachment (conversationId:String) (attachment:FileAttachment β) :
  Except ConversationError (ℕ×InMemoryConversationStore β) := do
 let conversation ← s.openConversation conversationId
 ensure (attachment.scope != .message||attachment.messageId.any fun messageId=>
   conversation.messages.any fun message=>message.messageId==messageId)
  (.attachmentMessageNotFound attachment.attachmentId attachment.messageId)
 .ok (nextRevision conversation.revision,s.setConversation conversationId
  { conversation with
    attachments:=conversation.attachments++[attachment]
    revision:=nextRevision conversation.revision })

def missingMessage (conversation:Conversation β) (record:CompactionRecord β) : Option String :=
 (record.sourceMessageIds++[record.outputMessageId]).find? fun messageId=>
  !(conversation.messages.map Message.messageId).contains messageId

def recordCompaction (conversationId:String) (record:CompactionRecord β) :
  Except MessageError (ℕ×InMemoryConversationStore β) := do
 let conversation ← liftError .conversation (s.conversation conversationId)
 match missingMessage conversation record with
 | some messageId=>.error (.notFound messageId)
 | none=>
  .ok (nextRevision conversation.revision,s.setConversation conversationId
   { conversation with
     compactions:=conversation.compactions++[record],revision:=nextRevision conversation.revision })

def archive (conversationId:String) : Except ConversationError (ℕ×InMemoryConversationStore β) := do
 let conversation ← s.conversation conversationId
 .ok (nextRevision conversation.revision,s.setConversation conversationId
  { conversation with archived:=true,revision:=nextRevision conversation.revision })

def turnsWithout (conversationId:String) : StringMap (Turn β) :=
 s.turns.filter fun _ turn=>turn.conversationId != conversationId

def delete (conversationId:String) (policy:DeletePolicy) :
  Except ConversationError (Option ℕ×InMemoryConversationStore β) := do
 let conversation ← s.conversation conversationId
 match policy with
 | .hard=>.ok (none,⟨s.conversations.erase conversationId,s.turnsWithout conversationId⟩)
 | .tombstone=>
  let emptied : Conversation β:=
   { conversation with
     messages:=[]
     attachments:=[]
     compactions:=[]
     archived:=true
     revision:=nextRevision conversation.revision
     metadata:=conversation.metadata.insert "deleted" (.bool true) }
  .ok (some (nextRevision conversation.revision),
   ⟨s.conversations.insert conversationId emptied,s.turnsWithout conversationId⟩)

end InMemoryConversationStore

inductive ConversationCall (β:Type) where
 | create (conversation:Conversation β)
 | appendMessages (conversationId:String) (expectedRevision:ℕ) (messages:List (Message β))
 | beginTurn (conversationId:String) (expectedRevision:ℕ) (turnId:String)
 | appendTurnMessage (turnId:String) (message:Message β)
 | commitTurn (turnId:String)
 | abortTurn (turnId:String)
 | policyStopTurn (turnId:String)
 | branch (request:BranchRequest)
 | regenerate (request:RegenerateRequest)
 | addAttachment (conversationId:String) (attachment:FileAttachment β)
 | recordCompaction (conversationId:String) (record:CompactionRecord β)
 | archive (conversationId:String)
 | delete (conversationId:String) (policy:DeletePolicy)

inductive StoreError where
 | conversation (error:ConversationError)
 | message (error:MessageError)
 | turn (error:TurnError)

inductive StoreAnswer (β:Type) where
 | done
 | revision (revision:ℕ)
 | deleted (revision:Option ℕ)
 | conversation (conversation:Conversation β)
 | turn (turn:Turn β)

abbrev ConversationResponse (β:Type) := Except StoreError (StoreAnswer β)

/-- A call that changes nothing when it fails. -/
def settle {ε α:Type} (s:InMemoryConversationStore β) (lift:ε→StoreError) (answer:α→StoreAnswer β) :
  Except ε (α×InMemoryConversationStore β) → ConversationResponse β×InMemoryConversationStore β
 | .ok (a,t)=>(.ok (answer a),t)
 | .error error=>(.error (lift error),s)

def conversationStep (s:InMemoryConversationStore β) :
  ConversationCall β → ConversationResponse β×InMemoryConversationStore β
 | .create conversation=>
  settle s .conversation (fun _:Unit=>.done) ((s.create conversation).map fun t=>((),t))
 | .appendMessages conversationId expectedRevision messages=>
  settle s .conversation .revision (s.appendMessages conversationId expectedRevision messages)
 | .beginTurn conversationId expectedRevision turnId=>
  settle s .turn .turn (s.beginTurn conversationId expectedRevision turnId)
 | .appendTurnMessage turnId message=>settle s .turn .turn (s.appendTurnMessage turnId message)
 | .commitTurn turnId=>
  (match (s.commitTurn turnId).1 with
   | .ok turn=>.ok (.turn turn)
   | .error error=>.error (.turn error),(s.commitTurn turnId).2)
 | .abortTurn turnId=>settle s .turn .turn (s.abortTurn turnId)
 | .policyStopTurn turnId=>settle s .turn .turn (s.policyStopTurn turnId)
 | .branch request=>settle s .message .conversation (s.branch request)
 | .regenerate request=>settle s .message .conversation (s.regenerate request)
 | .addAttachment conversationId attachment=>
  settle s .conversation .revision (s.addAttachment conversationId attachment)
 | .recordCompaction conversationId record=>
  settle s .message .revision (s.recordCompaction conversationId record)
 | .archive conversationId=>settle s .conversation .revision (s.archive conversationId)
 | .delete conversationId policy=>settle s .conversation .deleted (s.delete conversationId policy)

end GraphBlocks.Conversations
