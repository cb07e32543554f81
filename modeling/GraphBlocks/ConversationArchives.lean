import GraphBlocks.ConversationSteps

/-! An archive closes a conversation to every call but `record_compaction`, which never asks
whether the conversation is archived. -/
namespace GraphBlocks.Conversations
open OrderedMap RustStd MachineRuns InMemoryConversationStore List

variable {β:Type} {s:InMemoryConversationStore β} {id:String}

/-- The conversation is still there and archived, and what it holds is the same. -/
def Frozen (s:InMemoryConversationStore β) (id:String) (c:Conversation β) : Prop :=
 ∃c',s.conversations[id]?=some c'∧c'.archived=true∧c'.messages=c.messages ∧
  c'.attachments=c.attachments∧c'.compactions=c.compactions

def CompactsArchived (s:InMemoryConversationStore β) (call:ConversationCall β) : Prop :=
 ∃id record c,call=.recordCompaction id record∧s.conversations[id]?=some c ∧
  c.archived=true∧missingMessage c record=none

variable {call:ConversationCall β}

lemma step_frozen{c:Conversation β}(found:s.conversations[id]?=some c)
  (archived:c.archived=true)(hdelete:∀policy,call ≠ .delete id policy)
  (hcompacts:¬CompactsArchived s call):Frozen (conversationStep s call).2 id c:=by
 have change:=step_change s call id
 rw [found] at change
 generalize after:(conversationStep s call).2.conversations[id]?=result at change
 cases change with
 | same=>exact ⟨c,after,archived,rfl,rfl,rfl⟩
 | appended _ expected messages hcall live=>
  rw [live] at archived
  cases archived
 | committed _ turnId turn hcall hturn hlive own live=>
  rw [live] at archived
  cases archived
 | superseded _ index live=>
  rw [live] at archived
  cases archived
 | attached _ attachment live=>
  rw [live] at archived
  cases archived
 | compacted _ record hcall complete=>
  exact absurd ⟨id,record,c,hcall,found,archived,complete⟩ hcompacts
 | archived=>exact ⟨_,after,rfl,rfl,rfl,rfl⟩
 | emptied _ hcall=>exact absurd hcall (hdelete _)
 | removed _ hcall=>exact absurd hcall (hdelete _)

lemma step_compacts(h:CompactsArchived s call):
  ∃id c,s.conversations[id]?=some c∧c.archived=true∧¬Frozen (conversationStep s call).2 id c:=by
 obtain ⟨id,record,c,rfl,found,archived,complete⟩:=h
 refine ⟨id,c,found,archived,?_⟩
 rintro ⟨c',after,-,-,-,same⟩
 have written:(conversationStep s (.recordCompaction id record)).2=s.setConversation id
   { c with compactions:=c.compactions++[record],revision:=nextRevision c.revision }:=by
  have recorded:s.recordCompaction id record=.ok (nextRevision c.revision,s.setConversation id
    { c with compactions:=c.compactions++[record],revision:=nextRevision c.revision }):=by
   simp only [recordCompaction,bind_ok,liftError_ok,conversation_ok]
   exact ⟨c,found,by rw [complete]⟩
  rw [conversationStep,recorded]
  rfl
 rw [written] at after
 cases (lookup_insert_self _ _ _).symm.trans after
 exact cons_ne_nil _ _ (append_right_eq_self.mp same)

/-- A run that deletes nothing leaves every archived conversation as it was when it was
archived, exactly when no step records a compaction in an archived conversation. -/
theorem archived_frozen_iff (s : InMemoryConversationStore β) (calls : List (ConversationCall β))
  (hdelete : ∀id policy,.delete id policy∉calls) :
  (∀earlier later rest,calls=earlier++later++rest → ∀id c,
   (execute conversationStep s earlier).conversations[id]?=some c→c.archived=true →
   Frozen (execute conversationStep s (earlier++later)) id c) ↔
  ∀earlier call rest,calls=earlier++call::rest →
   ¬CompactsArchived (execute conversationStep s earlier) call := by
 constructor
 · intro frozen earlier call rest split compacts
   obtain ⟨id,c,found,archived,changed⟩:=step_compacts compacts
   apply changed
   rw [←execute_concat]
   exact frozen earlier [call] rest (by simp [split]) id c found archived
 · intro spared earlier later rest split id c found archived
   -- induction on the calls after the archive
   induction later using List.reverseRecOn generalizing rest with
   | nil=>
    rw [append_nil]
    exact ⟨c,found,archived,rfl,rfl,rfl⟩
   | append_singleton later call ih=>
    obtain ⟨c',before,still,messages,attachments,compactions⟩:=ih (call::rest) (by simp [split])
    rw [←append_assoc,execute_concat]
    have member:call∈calls:=by simp [split]
    obtain ⟨c'',after,kept,messages',attachments',compactions'⟩:=step_frozen before still
     (fun policy same=>hdelete id policy (same▸member))
     (spared (earlier++later) call rest (by simp [split]))
    exact ⟨c'',after,kept,messages'.trans messages,attachments'.trans attachments,
     compactions'.trans compactions⟩

def shortChat : Conversation Unit where
 conversationId := "chat"
 messages:=[⟨"m1",.user,none,.committed,()⟩]
 attachments:=[]
 compactions:=[]
 revision:=0
 archived:=false
 branchOf:=none
 branchedFromMessageId:=none
 metadata:=∅

theorem archived_chat_frozen : Frozen (execute conversationStep .new
   [.create shortChat,.archive "chat",.appendMessages "chat" 1 shortChat.messages]) "chat"
   { shortChat with archived:=true,revision:=1 } := by
 refine (archived_frozen_iff .new
  [.create shortChat,.archive "chat",.appendMessages "chat" 1 shortChat.messages]
  (by simp)).mpr ?_ [.create shortChat,.archive "chat"]
  [.appendMessages "chat" 1 shortChat.messages] [] rfl "chat" _ (by decide +kernel) rfl
 rintro earlier call rest split ⟨id,record,c,rfl,-⟩
 have member : .recordCompaction id record∈([.create shortChat,.archive "chat",
   .appendMessages "chat" 1 shortChat.messages]:List (ConversationCall Unit)):=by simp [split]
 simp at member

theorem archived_chat_compacted :
  ¬ ∀(s:InMemoryConversationStore Unit) (calls:List (ConversationCall Unit)),
   (∀id policy,.delete id policy∉calls) →
   ∀earlier later rest,calls=earlier++later++rest → ∀id c,
    (execute conversationStep s earlier).conversations[id]?=some c→c.archived=true →
    Frozen (execute conversationStep s (earlier++later)) id c := by
 intro frozen
 have chat:(execute conversationStep (.new:InMemoryConversationStore Unit)
   [.create shortChat,.archive "chat"]).conversations["chat"]? =
   some { shortChat with archived:=true,revision:=1 }:=by decide +kernel
 obtain ⟨c',after,-,-,-,same⟩:=frozen .new
  [.create shortChat,.archive "chat",.recordCompaction "chat" ⟨"fold",["m1"], "m1",()⟩]
  (by simp) [.create shortChat,.archive "chat"]
  [.recordCompaction "chat" ⟨"fold",["m1"], "m1",()⟩] [] rfl "chat" _ chat rfl
 have grown:((execute conversationStep (.new:InMemoryConversationStore Unit)
   [.create shortChat,.archive "chat",
    .recordCompaction "chat" ⟨"fold",["m1"], "m1",()⟩]).conversations["chat"]?.map
     Conversation.compactions)=some [⟨"fold",["m1"], "m1",()⟩]:=by decide +kernel
 rw [cons_append,cons_append,nil_append] at after
 rw [after,Option.map_some,same] at grown
 cases grown

end GraphBlocks.Conversations
