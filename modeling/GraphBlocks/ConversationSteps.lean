import GraphBlocks.ConversationModel

namespace GraphBlocks.Conversations
open Std Json OrderedMap RustStd StoredJson InMemoryConversationStore List Option

variable {β:Type} {s t:InMemoryConversationStore β}

lemma liftError_ok{ε δ α:Type}{lift:ε→δ}{x:Except ε α}{a:α}:liftError lift x=.ok a↔x=.ok a:=by
 cases x <;>simp [liftError]

variable {id:String} {c:Conversation β}

lemma conversation_ok:s.conversation id=.ok c↔s.conversations[id]?=some c:=by
 unfold InMemoryConversationStore.conversation
 cases s.conversations[id]? <;>simp

lemma openConversation_ok:
  s.openConversation id=.ok c↔s.conversations[id]?=some c∧c.archived=false:=by
 simp only [openConversation,bind_ok,conversation_ok,ensure_ok,Except.ok.injEq]
 constructor
 · rintro ⟨found,hfound,-,live,rfl⟩
   exact ⟨hfound,by simpa using live⟩
 · rintro ⟨hfound,live⟩
   exact ⟨c,hfound,(),by simpa using live,rfl⟩

variable {expected:ℕ}

lemma conversationAt_ok:s.conversationAt id expected=.ok c ↔
   s.conversations[id]?=some c∧c.archived=false∧c.revision=expected:=by
 simp only [conversationAt,bind_ok,openConversation_ok,ensure_ok,Except.ok.injEq,beq_iff_eq]
 constructor
 · rintro ⟨found,⟨hfound,live⟩,-,revision,rfl⟩
   exact ⟨hfound,live,revision⟩
 · rintro ⟨hfound,live,revision⟩
   exact ⟨c,⟨hfound,live⟩,(),revision,rfl⟩

def Conversation.extended (c:Conversation β) (messages:List (Message β)) : Conversation β :=
 { c with messages:=c.messages++messages,revision:=nextRevision c.revision }

variable {r:ℕ}

lemma appendMessages_ok{messages:List (Message β)}:
  s.appendMessages id expected messages=.ok (r,t) ↔
   ∃c,s.conversations[id]?=some c∧c.archived=false∧c.revision=expected ∧
    r=nextRevision c.revision∧t=s.setConversation id (c.extended messages):=by
 simp only [appendMessages,bind_ok,conversationAt_ok,Except.ok.injEq,Prod.mk.injEq]
 constructor
 · rintro ⟨c,⟨hfound,live,revision⟩,rfl,rfl⟩
   exact ⟨c,hfound,live,revision,rfl,rfl⟩
 · rintro ⟨c,hfound,live,revision,rfl,rfl⟩
   exact ⟨c,⟨hfound,live,revision⟩,rfl,rfl⟩

variable {turn:Turn β}

lemma liveTurn_ok:s.liveTurn id=.ok turn↔s.turns[id]?=some turn∧turn.isTerminal=false:=by
 have get (found:Turn β):s.getTurn id=.ok found↔s.turns[id]?=some found:=by
  unfold getTurn
  cases s.turns[id]? <;>simp
 simp only [liveTurn,bind_ok,get,ensure_ok,Except.ok.injEq]
 constructor
 · rintro ⟨found,hfound,-,live,rfl⟩
   exact ⟨hfound,by simpa using live⟩
 · rintro ⟨hfound,live⟩
   exact ⟨turn,hfound,(),by simpa using live,rfl⟩

structure BranchesFrom (source branch:Conversation β) : Prop where
 messages:branch.messages <+: source.messages
 revision:branch.revision=0
 attachments:∀attachment∈branch.attachments,attachment.scope=.message →
  ∃messageId,attachment.messageId=some messageId∧messageId∈branch.messages.map Message.messageId
 compactions:∀record∈branch.compactions,∀messageId∈record.outputMessageId::record.sourceMessageIds,
   messageId∈branch.messages.map Message.messageId

lemma branchOf_branches(source:Conversation β)(branchId:String)(count:ℕ)(fromMessageId:String)
  (includeAttachments includeMemory:Bool)(metadata:StringMap Value):
  BranchesFrom source (branchOf source branchId (source.messages.take count) fromMessageId
   includeAttachments includeMemory metadata):=by
 constructor
 · exact take_prefix _ _
 · rfl
 · intro attachment h scope
   simp only [InMemoryConversationStore.branchOf,copiedAttachments] at h
   split at h
   · have kept:=(mem_filter.mp h).2
     simp only [scope,Bool.or_eq_true,Bool.and_eq_true,Option.any_eq_true,contains_iff_mem] at kept
     rcases kept with impossible|⟨-,messageId,hmessage,member⟩
     · cases impossible
     · exact ⟨messageId,hmessage,member⟩
   · cases h
 · intro record h messageId hmessage
   simp only [InMemoryConversationStore.branchOf,copiedCompactions] at h
   split at h
   · have kept:=(mem_filter.mp h).2
     simp only [Bool.and_eq_true,List.all_eq_true,contains_iff_mem] at kept
     rcases mem_cons.mp hmessage with rfl|hmessage
     · exact kept.1
     · exact kept.2 messageId hmessage
   · cases h

lemma branch_ok{request:BranchRequest}{branch:Conversation β}(h:s.branch request=.ok (branch,t)):
  ∃source branchId,s.conversations[request.conversationId]?=some source ∧
   s.conversations[branchId]?=none∧BranchesFrom source branch ∧
   t=s.setConversation branchId branch:=by
 simp only [InMemoryConversationStore.branch,bind_ok,liftError_ok,openConversation_ok,
  ensure_ok,Except.ok.injEq,Prod.mk.injEq,Bool.not_eq_true',contains_eq_false_iff] at h
 obtain ⟨source,⟨hsource,-⟩,index,-,-,fresh,rfl,rfl⟩:=h
 exact ⟨source,_,hsource,fresh,branchOf_branches source _ _ _ _ _ _,rfl⟩

def Conversation.superseding (c:Conversation β) (index:ℕ) : Conversation β :=
 { c with
   messages:=c.messages.modify index fun message=>message.withStatus .superseded
   revision:=nextRevision c.revision }

lemma regenerate_ok{request:RegenerateRequest}{branch:Conversation β}
  (h:s.regenerate request=.ok (branch,t)):
  ∃source branchId index,s.conversations[request.conversationId]?=some source ∧
   source.archived=false∧s.conversations[branchId]?=none∧BranchesFrom source branch ∧
   t=(s.setConversation request.conversationId (source.superseding index)).setConversation
    branchId branch:=by
 simp only [regenerate,bind_ok,liftError_ok,openConversation_ok,ensure_ok,
  Bool.not_eq_true',contains_eq_false_iff] at h
 obtain ⟨source,⟨hsource,live⟩,-,fresh,index,-,h⟩:=h
 split at h
 · cases h
 · simp only [bind_ok,ensure_ok,Except.ok.injEq,Prod.mk.injEq] at h
   obtain ⟨-,-,-,-,parent,-,rfl,rfl⟩:=h
   exact ⟨source,_,index,hsource,live,fresh,branchOf_branches source _ _ _ _ _ _,rfl⟩

lemma addAttachment_ok{attachment:FileAttachment β}(h:s.addAttachment id attachment=.ok (r,t)):
  ∃c,s.conversations[id]?=some c∧c.archived=false ∧
   (attachment.scope=.message→∃messageId,attachment.messageId=some messageId ∧
    messageId∈c.messages.map Message.messageId) ∧
   t=s.setConversation id
    { c with attachments:=c.attachments++[attachment],revision:=nextRevision c.revision }:=by
 simp only [addAttachment,bind_ok,openConversation_ok,ensure_ok,Except.ok.injEq,
  Prod.mk.injEq] at h
 obtain ⟨c,⟨hfound,live⟩,-,held,-,rfl⟩:=h
 refine ⟨c,hfound,live,?_,rfl⟩
 intro scope
 simp only [scope,bne_self_eq_false,Bool.false_or,Option.any_eq_true,List.any_eq_true,
  beq_iff_eq] at held
 obtain ⟨messageId,hmessage,message,member,same⟩:=held
 exact ⟨messageId,hmessage,List.mem_map.mpr ⟨message,member,same⟩⟩

lemma recordCompaction_ok{record:CompactionRecord β}(h:s.recordCompaction id record=.ok (r,t)):
  ∃c,s.conversations[id]?=some c∧missingMessage c record=none ∧
   (∀messageId∈record.outputMessageId::record.sourceMessageIds,
    messageId∈c.messages.map Message.messageId) ∧
   t=s.setConversation id
    { c with compactions:=c.compactions++[record],revision:=nextRevision c.revision }:=by
 simp only [recordCompaction,bind_ok,liftError_ok,conversation_ok] at h
 obtain ⟨c,hfound,h⟩:=h
 split at h
 · cases h
 · next complete=>
   cases h
   refine ⟨c,hfound,complete,?_,rfl⟩
   intro messageId hmessage
   have none:=List.find?_eq_none.mp complete messageId (by
    rcases mem_cons.mp hmessage with rfl|hmessage
    · exact mem_append_right _ mem_cons_self
    · exact mem_append_left _ hmessage)
   simpa using none

lemma archive_ok(h:s.archive id=.ok (r,t)):∃c,s.conversations[id]?=some c ∧
   t=s.setConversation id { c with archived:=true,revision:=nextRevision c.revision }:=by
 simp only [archive,bind_ok,conversation_ok,Except.ok.injEq,Prod.mk.injEq] at h
 obtain ⟨c,hfound,-,rfl⟩:=h
 exact ⟨c,hfound,rfl⟩

/-- What a tombstone leaves of a conversation. -/
def Conversation.emptied (c:Conversation β) : Conversation β :=
 { c with
   messages:=[]
   attachments:=[]
   compactions:=[]
   archived:=true
   revision:=nextRevision c.revision
   metadata:=c.metadata.insert "deleted" (.bool true) }

lemma delete_ok{policy:DeletePolicy}{r:Option ℕ}(h:s.delete id policy=.ok (r,t)):
  ∃c,s.conversations[id]?=some c∧t.turns=s.turnsWithout id ∧
   t.conversations=if policy=.hard then s.conversations.erase id
    else s.conversations.insert id c.emptied:=by
 simp only [delete,bind_ok,conversation_ok] at h
 obtain ⟨c,hfound,h⟩:=h
 cases policy with
 | hard=>
  cases h
  exact ⟨c,hfound,rfl,rfl⟩
 | tombstone=>
  cases h
  exact ⟨c,hfound,rfl,rfl⟩

inductive Change (s:InMemoryConversationStore β) (call:ConversationCall β) (id:String) :
  Option (Conversation β)→Option (Conversation β)→Prop
 | same (c:Option (Conversation β)) : Change s call id c c
 | created (c:Conversation β) : call=.create c→Change s call id none (some c)
 | branched (source branch:Conversation β) (sourceId:String) :
   s.conversations[sourceId]?=some source→BranchesFrom source branch →
   Change s call id none (some branch)
 | appended (c:Conversation β) (expected:ℕ) (messages:List (Message β)) :
   call=.appendMessages id expected messages→c.archived=false→c.revision=expected →
   Change s call id (some c) (some (c.extended messages))
 | committed (c:Conversation β) (turnId:String) (turn:Turn β) :
   call=.commitTurn turnId→s.turns[turnId]?=some turn→turn.isTerminal=false →
   turn.conversationId=id→c.archived=false→c.revision=turn.baseRevision →
   Change s call id (some c) (some (c.extended turn.committedMessages))
 | superseded (c:Conversation β) (index:ℕ) : c.archived=false →
   Change s call id (some c) (some (c.superseding index))
 | attached (c:Conversation β) (attachment:FileAttachment β) : c.archived=false →
   (attachment.scope=.message → ∃messageId,attachment.messageId=some messageId ∧
    messageId∈c.messages.map Message.messageId) →
   Change s call id (some c) (some
    { c with attachments:=c.attachments++[attachment],revision:=nextRevision c.revision })
 | compacted (c:Conversation β) (record:CompactionRecord β) :
   call=.recordCompaction id record→missingMessage c record=none →
   (∀messageId∈record.outputMessageId::record.sourceMessageIds,
    messageId∈c.messages.map Message.messageId) →
   Change s call id (some c) (some
    { c with compactions:=c.compactions++[record],revision:=nextRevision c.revision })
 | archived (c:Conversation β) :
   Change s call id (some c) (some { c with archived:=true,revision:=nextRevision c.revision })
 | emptied (c:Conversation β) : call=.delete id .tombstone →
   Change s call id (some c) (some c.emptied)
 | removed (c:Conversation β) : call=.delete id .hard→Change s call id (some c) none

variable {target:String} {call:ConversationCall β}

lemma Change.set(h:Change s call target s.conversations[target]? (some c))(id:String):
  Change s call id s.conversations[id]? (s.setConversation target c).conversations[id]?:=by
 change Change s call id _ (s.conversations.insert target c)[id]?
 rw [lookup_insert]
 split
 · next same=>
   subst same
   exact h
 · exact .same _

lemma settle_rule{ε α:Type}{lift:ε→StoreError}{answer:α→StoreAnswer β}
  {P:InMemoryConversationStore β→Prop}(same:P s)(x:Except ε (α×InMemoryConversationStore β))
  (done:∀a t,x=.ok (a,t)→P t):P (settle s lift answer x).2:=by
 rcases x with error|⟨a,t⟩
 · exact same
 · exact done a t rfl

lemma Change.settle{lift:ε→StoreError}{answer:α→StoreAnswer β}
  (x:Except ε (α×InMemoryConversationStore β))
  (done:∀a t,x=.ok (a,t)→Change s call id s.conversations[id]? t.conversations[id]?):
  Change s call id s.conversations[id]? (settle s lift answer x).2.conversations[id]?:=
 settle_rule (P:=fun t=>Change s call id _ t.conversations[id]?) (.same _) x done

lemma commitTurn_cases(s:InMemoryConversationStore β)(turnId:String):
  (∃error,s.commitTurn turnId=(.error error,s)) ∨
   (∃error turn,s.turns[turnId]?=some turn∧turn.isTerminal=false ∧
    s.commitTurn turnId=(.error error,s.setTurn turnId { turn with status:=.failed })) ∨
   ∃turn c,s.turns[turnId]?=some turn∧turn.isTerminal=false ∧
    s.conversations[turn.conversationId]?=some c∧c.archived=false ∧
    c.revision=turn.baseRevision ∧
    s.commitTurn turnId=(.ok (completedTurn turn (nextRevision c.revision)),
     (s.setConversation turn.conversationId (c.extended turn.committedMessages)).setTurn
      turnId (completedTurn turn (nextRevision c.revision))):=by
 unfold commitTurn
 split
 · exact .inl ⟨_,rfl⟩
 next turn hturn=>
 obtain ⟨hfound,live⟩:=liveTurn_ok.mp hturn
 split
 · exact .inr (.inl ⟨_,turn,hfound,live,rfl⟩)
 · next revision written happend=>
   obtain ⟨c,hc,unarchived,hrevision,rfl,rfl⟩:=appendMessages_ok.mp happend
   exact .inr (.inr ⟨turn,c,hfound,live,hc,unarchived,hrevision,rfl⟩)

lemma regenerate_change (request : RegenerateRequest) (id : String) :
  Change s (.regenerate request) id s.conversations[id]?
   (conversationStep s (.regenerate request)).2.conversations[id]? := by
 refine Change.settle _ ?_
 intro branch t hok
 obtain ⟨source, branchId, index, hsource, live, fresh, branches, rfl⟩:=regenerate_ok hok
 change Change s _ id _
  ((s.setConversation _ (source.superseding index)).conversations.insert branchId branch)[id]?
 rw [lookup_insert]
 split
 · next same =>
   subst same
   rw [fresh]
   exact .branched source branch _ hsource branches
 · refine Change.set ?_ id
   rw [hsource]
   exact .superseded source index live

lemma delete_change (target : String) (policy : DeletePolicy) (id : String) :
  Change s (.delete target policy) id s.conversations[id]?
   (conversationStep s (.delete target policy)).2.conversations[id]? := by
 refine Change.settle _ ?_
 intro r t hok
 obtain ⟨c, hc, -, conversations⟩:=delete_ok hok
 rw [conversations]
 cases policy with
 | hard =>
  rw [if_pos rfl, ExtTreeMap.getElem?_erase]
  split
  · next same =>
    have same:target = id:=LawfulEqCmp.eq_of_compare same
    subst same
    rw [hc]
    exact .removed c rfl
  · exact .same _
 | tombstone =>
  rw [if_neg (by decide), lookup_insert]
  split
  · next same =>
    subst same
    rw [hc]
    exact .emptied c rfl
  · exact .same _

lemma step_change(s:InMemoryConversationStore β)(call:ConversationCall β)(id:String):
  Change s call id s.conversations[id]? (conversationStep s call).2.conversations[id]?:=by
 cases call with
 | create conversation=>
  refine Change.settle _ ?_
  intro u t hok
  obtain ⟨u,hu,hut⟩:=except_map_ok.mp hok
  cases hut
  unfold create at hu
  split at hu
  · cases hu
  · next fresh=>
    cases hu
    rw [Bool.not_eq_true,contains_eq_false_iff] at fresh
    refine Change.set ?_ id
    rw [fresh]
    exact .created _ rfl
 | appendMessages target expected messages=>
  refine Change.settle _ ?_
  intro r t hok
  obtain ⟨c,hc,live,revision,-,rfl⟩:=appendMessages_ok.mp hok
  refine Change.set ?_ id
  rw [hc]
  exact .appended c expected messages rfl live revision
 | beginTurn target expected turnId=>
  refine Change.settle _ ?_
  intro turn t hok
  simp only [beginTurn,bind_ok,Except.ok.injEq,Prod.mk.injEq] at hok
  obtain ⟨-,-,-,-,-,rfl⟩:=hok
  exact .same _
 | appendTurnMessage turnId message=>
  refine Change.settle _ ?_
  intro turn t hok
  simp only [appendTurnMessage,bind_ok,Except.ok.injEq,Prod.mk.injEq] at hok
  obtain ⟨-,-,-,rfl⟩:=hok
  exact .same _
 | commitTurn turnId=>
  change Change s _ id _ (s.commitTurn turnId).2.conversations[id]?
  rcases commitTurn_cases s turnId with ⟨error,h⟩|⟨error,turn,-,-,h⟩ |
   ⟨turn,c,hturn,live,hc,unarchived,revision,h⟩
  · rw [h]
    exact .same _
  · rw [h]
    exact .same _
  · rw [h]
    refine Change.set ?_ id
    rw [hc]
    exact .committed c turnId turn rfl hturn live rfl unarchived revision
 | abortTurn turnId=>
  refine Change.settle _ ?_
  intro turn t hok
  simp only [abortTurn,retractTurn,bind_ok,Except.ok.injEq,Prod.mk.injEq] at hok
  obtain ⟨-,-,-,rfl⟩:=hok
  exact .same _
 | policyStopTurn turnId=>
  refine Change.settle _ ?_
  intro turn t hok
  simp only [policyStopTurn,retractTurn,bind_ok,Except.ok.injEq,Prod.mk.injEq] at hok
  obtain ⟨-,-,-,rfl⟩:=hok
  exact .same _
 | branch request=>
  refine Change.settle _ ?_
  intro branch t hok
  obtain ⟨source,branchId,hsource,fresh,branches,rfl⟩:=branch_ok hok
  refine Change.set ?_ id
  rw [fresh]
  exact .branched source branch _ hsource branches
 | regenerate request=>exact regenerate_change request id
 | addAttachment target attachment=>
  refine Change.settle _ ?_
  intro r t hok
  obtain ⟨c,hc,live,held,rfl⟩:=addAttachment_ok hok
  refine Change.set ?_ id
  rw [hc]
  exact .attached c attachment live held
 | recordCompaction target record=>
  refine Change.settle _ ?_
  intro r t hok
  obtain ⟨c,hc,complete,held,rfl⟩:=recordCompaction_ok hok
  refine Change.set ?_ id
  rw [hc]
  exact .compacted c record rfl complete held
 | archive target=>
  refine Change.settle _ ?_
  intro r t hok
  obtain ⟨c,hc,rfl⟩:=archive_ok hok
  refine Change.set ?_ id
  rw [hc]
  exact .archived c
 | delete target policy=>exact delete_change target policy id

inductive TurnChange (s:InMemoryConversationStore β) (call:ConversationCall β) (id:String) :
  Option (Turn β)→Option (Turn β)→Prop
 | same (turn:Option (Turn β)) : TurnChange s call id turn turn
 | begun (conversationId:String) (expected:ℕ) (c:Conversation β) :
   call=.beginTurn conversationId expected id→s.conversations[conversationId]?=some c →
   c.revision=expected →
   TurnChange s call id none (some (.new id conversationId expected))
 | drafted (turn:Turn β) (message:Message β) : turn.isTerminal=false →
   TurnChange s call id (some turn) (some
    { turn with
      messages:=turn.messages++[message.withStatus .draft]
      status:=if turn.status=.created then .modelRunning else turn.status })
 | completed (turn:Turn β) (revision:ℕ) : call=.commitTurn id→turn.isTerminal=false →
   TurnChange s call id (some turn) (some (completedTurn turn revision))
 | failed (turn:Turn β) : call=.commitTurn id→turn.isTerminal=false →
   TurnChange s call id (some turn) (some { turn with status:=.failed })
 | retracted (turn:Turn β) (ending:TurnStatus) : (call=.abortTurn id∧ending=.cancelled) ∨
    (call=.policyStopTurn id∧ending=.policyStopped) →
   turn.isTerminal=false →
   TurnChange s call id (some turn) (some
    { turn with
      status:=ending,messages:=turn.messages.map fun message=>message.withStatus .retracted
      committedRevision:=none,committedMessageIds:=[] })
 | removed (turn:Turn β) (policy:DeletePolicy) : call=.delete turn.conversationId policy →
   TurnChange s call id (some turn) none

lemma TurnChange.set(h:TurnChange s call target s.turns[target]? (some turn))(id:String):
  TurnChange s call id s.turns[id]? (s.turns.insert target turn)[id]?:=by
 rw [lookup_insert]
 split
 · next same=>
   subst same
   exact h
 · exact .same _

lemma TurnChange.settle{lift:ε→StoreError}{answer:α→StoreAnswer β}
  (x:Except ε (α×InMemoryConversationStore β))
  (done:∀a t,x=.ok (a,t)→TurnChange s call id s.turns[id]? t.turns[id]?):
  TurnChange s call id s.turns[id]? (settle s lift answer x).2.turns[id]?:=
 settle_rule (P:=fun t=>TurnChange s call id _ t.turns[id]?) (.same _) x done

lemma beginTurn_ok{turnId:String}(h:s.beginTurn target expected turnId=.ok (turn,t)):
  ∃c,s.turns[turnId]?=none∧s.conversations[target]?=some c∧c.revision=expected ∧
   t=s.setTurn turnId (.new turnId target expected):=by
 simp only [beginTurn,bind_ok,liftError_ok,conversationAt_ok,ensure_ok,
  Except.ok.injEq,Prod.mk.injEq,Bool.not_eq_true',contains_eq_false_iff] at h
 obtain ⟨-,fresh,c,⟨hc,-,revision⟩,-,rfl⟩:=h
 exact ⟨c,fresh,hc,revision,rfl⟩

lemma step_turnChange(s:InMemoryConversationStore β)(call:ConversationCall β)
  (id:String):TurnChange s call id s.turns[id]? (conversationStep s call).2.turns[id]?:=by
 cases call with
 | create conversation=>
  refine TurnChange.settle _ ?_
  intro u t hok
  obtain ⟨u,hu,hut⟩:=except_map_ok.mp hok
  cases hut
  unfold create at hu
  split at hu
  · cases hu
  · cases hu
    exact .same _
 | appendMessages target expected messages=>
  refine TurnChange.settle _ ?_
  intro r t hok
  obtain ⟨c,-,-,-,-,rfl⟩:=appendMessages_ok.mp hok
  exact .same _
 | beginTurn target expected turnId=>
  refine TurnChange.settle _ ?_
  intro turn t hok
  obtain ⟨c,fresh,hc,revision,rfl⟩:=beginTurn_ok hok
  refine TurnChange.set ?_ id
  rw [fresh]
  exact .begun target expected c rfl hc revision
 | appendTurnMessage turnId message=>
  refine TurnChange.settle _ ?_
  intro turn t hok
  simp only [appendTurnMessage,bind_ok,liveTurn_ok,Except.ok.injEq,Prod.mk.injEq] at hok
  obtain ⟨turn,⟨hturn,live⟩,-,rfl⟩:=hok
  refine TurnChange.set ?_ id
  rw [hturn]
  exact .drafted turn message live
 | commitTurn turnId=>
  change TurnChange s _ id _ (s.commitTurn turnId).2.turns[id]?
  rcases commitTurn_cases s turnId with ⟨error,h⟩|⟨error,turn,hturn,live,h⟩ |
   ⟨turn,c,hturn,live,hc,unarchived,revision,h⟩
  · rw [h]
    exact .same _
  · rw [h]
    refine TurnChange.set ?_ id
    rw [hturn]
    exact .failed turn rfl live
  · rw [h]
    refine TurnChange.set ?_ id
    rw [hturn]
    exact .completed turn _ rfl live
 | abortTurn turnId=>
  refine TurnChange.settle _ ?_
  intro turn t hok
  simp only [abortTurn,retractTurn,bind_ok,liveTurn_ok,Except.ok.injEq,Prod.mk.injEq] at hok
  obtain ⟨turn,⟨hturn,live⟩,-,rfl⟩:=hok
  refine TurnChange.set ?_ id
  rw [hturn]
  exact .retracted turn .cancelled (.inl ⟨rfl,rfl⟩) live
 | policyStopTurn turnId=>
  refine TurnChange.settle _ ?_
  intro turn t hok
  simp only [policyStopTurn,retractTurn,bind_ok,liveTurn_ok,Except.ok.injEq,
   Prod.mk.injEq] at hok
  obtain ⟨turn,⟨hturn,live⟩,-,rfl⟩:=hok
  refine TurnChange.set ?_ id
  rw [hturn]
  exact .retracted turn .policyStopped (.inr ⟨rfl,rfl⟩) live
 | branch request=>
  refine TurnChange.settle _ ?_
  intro branch t hok
  obtain ⟨-,-,-,-,-,rfl⟩:=branch_ok hok
  exact .same _
 | regenerate request=>
  refine TurnChange.settle _ ?_
  intro branch t hok
  obtain ⟨-,-,-,-,-,-,-,rfl⟩:=regenerate_ok hok
  exact .same _
 | addAttachment target attachment=>
  refine TurnChange.settle _ ?_
  intro r t hok
  obtain ⟨-,-,-,-,rfl⟩:=addAttachment_ok hok
  exact .same _
 | recordCompaction target record=>
  refine TurnChange.settle _ ?_
  intro r t hok
  obtain ⟨-,-,-,-,rfl⟩:=recordCompaction_ok hok
  exact .same _
 | archive target=>
  refine TurnChange.settle _ ?_
  intro r t hok
  obtain ⟨-,-,rfl⟩:=archive_ok hok
  exact .same _
 | delete target policy=>
  refine TurnChange.settle _ ?_
  intro r t hok
  obtain ⟨-,-,turns,-⟩:=delete_ok hok
  rw [turns,turnsWithout,ExtTreeMap.getElem?_filter']
  cases hturn:s.turns[id]? with
  | none=>exact .same _
  | some turn=>
   by_cases other:turn.conversationId=target
   · rw [filter_some,if_neg (by simpa using other)]
     exact .removed turn policy (by rw [other])
   · rw [filter_some,if_pos (by simpa using other)]
     exact .same _

end GraphBlocks.Conversations
