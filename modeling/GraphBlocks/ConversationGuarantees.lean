import GraphBlocks.ConversationSteps

namespace GraphBlocks.Conversations
open OrderedMap RustStd MachineRuns InMemoryConversationStore List

variable {β:Type}

abbrev ConversationTransition (β:Type) :=
 Transition (InMemoryConversationStore β) (ConversationCall β) (ConversationResponse β)

def Arrives (t:ConversationTransition β) (c:Conversation β) : Prop :=
 t.call=.create c ∨ ∃(sourceId:String) (source:Conversation β),
   t.before.conversations[sourceId]?=some source ∧
  c.messages <+: source.messages∧c.revision=0

def MessagesChange (t:ConversationTransition β) (id:String) (c c':Conversation β) : Prop :=
 c'.messages=c.messages∨(∃expected messages,t.call=.appendMessages id expected messages ∧
   c'.messages=c.messages++messages) ∨
  (∃(turnId:String) (turn:Turn β),t.call=.commitTurn turnId∧t.before.turns[turnId]?=some turn ∧
   turn.isTerminal=false∧turn.conversationId=id ∧
   c'.messages=c.messages++turn.committedMessages) ∨
  (∃index,c'.messages=c.messages.modify index fun message=>message.withStatus .superseded) ∨
  (t.call=.delete id .tombstone∧c'.messages=[])

def Commits (t:ConversationTransition β) (turnId:String) : Prop :=
 (∃(turn done:Turn β) (c c':Conversation β),t.before.turns[turnId]?=some turn∧turn.isTerminal=false ∧
   t.before.conversations[turn.conversationId]?=some c∧c.revision=turn.baseRevision ∧
   t.response=.ok (.turn done)∧done.status=.completed ∧
   t.after.turns[turnId]?=some done ∧
   t.after.conversations[turn.conversationId]?=some c' ∧
   c'.messages=c.messages++turn.committedMessages) ∨
  (∃error,t.response=.error error)∧t.after.conversations=t.before.conversations

/-- An abort or a policy stop changes no conversation and ends the turn. -/
def Retracts (t:ConversationTransition β) (turnId:String) : Prop :=
 t.after.conversations=t.before.conversations ∧ ∀answer,t.response=.ok answer →
   ∃turn : Turn β,t.after.turns[turnId]?=some turn∧turn.isTerminal=true

structure Safe (t:ConversationTransition β) : Prop where
 revisions:∀(id:String) (c c':Conversation β),t.before.conversations[id]?=some c →
  t.after.conversations[id]?=some c'→c'=c∨c'.revision=nextRevision c.revision
 removals:∀(id:String) (c:Conversation β),t.before.conversations[id]?=some c →
  t.after.conversations[id]?=none→t.call=.delete id .hard
 arrivals:∀(id:String) (c:Conversation β),t.before.conversations[id]?=none →
  t.after.conversations[id]?=some c→Arrives t c
 messages:∀(id:String) (c c':Conversation β),t.before.conversations[id]?=some c →
  t.after.conversations[id]?=some c'→MessagesChange t id c c'
 commits:∀turnId,t.call=.commitTurn turnId → Commits t turnId
 retracts:∀turnId,t.call=.abortTurn turnId∨t.call=.policyStopTurn turnId→Retracts t turnId
 terminals:∀(turnId:String) (turn:Turn β),t.before.turns[turnId]?=some turn→turn.isTerminal=true →
  t.after.turns[turnId]?=some turn ∨
   t.after.turns[turnId]?=none ∧ ∃policy,t.call=.delete turn.conversationId policy

variable (s:InMemoryConversationStore β) (call:ConversationCall β) {c c':Conversation β}

lemma step_revisions(id:String)(before:s.conversations[id]?=some c)
  (after:(conversationStep s call).2.conversations[id]?=some c'):
  c'=c∨c'.revision=nextRevision c.revision:=by
 have change:=step_change s call id
 rw [before,after] at change
 cases change with
 | same=>exact .inl rfl
 | _=>exact .inr rfl

lemma step_messages(id:String)(before:s.conversations[id]?=some c)
  (after:(conversationStep s call).2.conversations[id]?=some c'):
  MessagesChange (takeStep conversationStep s call) id c c':=by
 have change:=step_change s call id
 rw [before,after] at change
 cases change with
 | same=>exact .inl rfl
 | appended _ expected messages hcall=>exact .inr (.inl ⟨expected,messages,hcall,rfl⟩)
 | committed _ turnId turn hcall hturn live own=>
  exact .inr (.inr (.inl ⟨turnId,turn,hcall,hturn,live,own,rfl⟩))
 | superseded _ index=>exact .inr (.inr (.inr (.inl ⟨index,rfl⟩)))
 | attached=>exact .inl rfl
 | compacted=>exact .inl rfl
 | archived=>exact .inl rfl
 | emptied _ hcall=>exact .inr (.inr (.inr (.inr ⟨hcall,rfl⟩)))

lemma step_commits(turnId:String):
  Commits (takeStep conversationStep s (.commitTurn turnId)) turnId:=by
 rcases commitTurn_cases s turnId with ⟨error,h⟩|⟨error,turn,-,-,h⟩ |
  ⟨turn,c,hturn,live,hc,-,revision,h⟩
 · refine .inr ⟨⟨.turn error,?_⟩,?_⟩
   · simp [takeStep,conversationStep,h]
   · simp [takeStep,conversationStep,h]
 · refine .inr ⟨⟨.turn error,?_⟩,?_⟩
   · simp [takeStep,conversationStep,h]
   · simp [takeStep,conversationStep,h,setTurn]
 · refine .inl ⟨turn,completedTurn turn (nextRevision c.revision),c,
     c.extended turn.committedMessages,
    hturn,live,hc,revision,?_,rfl,?_,?_,rfl⟩
   · simp [takeStep,conversationStep,h]
   · simp only [takeStep,conversationStep,h]
     exact lookup_insert_self _ _ _
   · simp only [takeStep,conversationStep,h]
     exact lookup_insert_self _ _ _

variable {turnId:String} {turn:Turn β}

lemma retractTurn_ok{ending:TurnStatus}{t:InMemoryConversationStore β}
  (h:s.retractTurn ending turnId=.ok (turn,t)):turn.status=ending∧t=s.setTurn turnId turn:=by
 simp only [retractTurn,bind_ok,Except.ok.injEq,Prod.mk.injEq] at h
 obtain ⟨-,-,rfl,rfl⟩:=h
 exact ⟨rfl,rfl⟩

lemma settle_retracts{ending:TurnStatus}(terminal:ending.isTerminal=true)
  (h:conversationStep s call=settle s .turn .turn (s.retractTurn ending turnId)):
  Retracts (takeStep conversationStep s call) turnId:=by
 unfold Retracts takeStep
 rw [h]
 cases hok:s.retractTurn ending turnId with
 | error error=>
  refine ⟨rfl,?_⟩
  intro answer hanswer
  cases hanswer
 | ok result=>
  obtain ⟨turn,t⟩:=result
  obtain ⟨status,rfl⟩:=retractTurn_ok s hok
  refine ⟨rfl,?_⟩
  intro answer _
  refine ⟨turn,lookup_insert_self _ _ _,?_⟩
  rw [Turn.isTerminal,status,terminal]

lemma step_terminals(turnId:String)(before:s.turns[turnId]?=some turn)
  (terminal:turn.isTerminal=true):
  (conversationStep s call).2.turns[turnId]?=some turn ∨
   (conversationStep s call).2.turns[turnId]?=none ∧
    ∃policy,call=.delete turn.conversationId policy:=by
 have change:=step_turnChange s call turnId
 rw [before] at change
 generalize (conversationStep s call).2.turns[turnId]?=after at change
 cases change with
 | same=>exact .inl rfl
 | drafted _ message live=>
  rw [live] at terminal
  cases terminal
 | completed _ revision hcall live=>
  rw [live] at terminal
  cases terminal
 | failed _ hcall live=>
  rw [live] at terminal
  cases terminal
 | retracted _ ending hcall live=>
  rw [live] at terminal
  cases terminal
 | removed _ policy hcall=>exact .inr ⟨rfl,policy,hcall⟩

lemma step_safe:Safe (takeStep conversationStep s call):=by
 constructor
 · intro id c c' before after
   exact step_revisions s call id before after
 · intro id c before after
   have change:=step_change s call id
   change s.conversations[id]?=some c at before
   change (conversationStep s call).2.conversations[id]?=none at after
   rw [before,after] at change
   cases change with
   | removed _ hcall=>exact hcall
 · intro id c before after
   have change:=step_change s call id
   change s.conversations[id]?=none at before
   change (conversationStep s call).2.conversations[id]?=some c at after
   rw [before,after] at change
   cases change with
   | created _ hcall=>exact .inl hcall
   | branched source _ sourceId hsource branches=>
    exact .inr ⟨sourceId,source,hsource,branches.messages,branches.revision⟩
 · intro id c c' before after
   exact step_messages s call id before after
 · intro turnId hcall
   change call=_ at hcall
   subst hcall
   exact step_commits s turnId
 · intro turnId hcall
   rcases hcall with hcall|hcall
   · change call=_ at hcall
     subst hcall
     exact settle_retracts s _ rfl rfl
   · change call=_ at hcall
     subst hcall
     exact settle_retracts s _ rfl rfl
 · intro turnId turn before terminal
   exact step_terminals s call turnId before terminal

variable {id:String}

section
variable {s}

/-- The revision counts the changes, at most one for each call. -/
lemma revision_grows (calls : List (ConversationCall β))
  (start : s.conversations[id]? = some c) (kept : .delete id .hard ∉ calls) :
  ∃ c', (execute conversationStep s calls).conversations[id]? = some c' ∧ (c' = c ∨
   ∃ k, 0 < k ∧ k ≤ calls.length ∧ c'.revision = (c.revision + k) % u64Limit) := by
 induction calls generalizing s c with
 | nil=>exact ⟨c,start,.inl rfl⟩
 | cons call calls ih=>
  rw [mem_cons,not_or] at kept
  rw [execute_cons,length_cons]
  cases after:(conversationStep s call).2.conversations[id]? with
  | none=>exact absurd ((step_safe s call).removals id c start after).symm kept.1
  | some next=>
   obtain ⟨c',found,grown⟩:=ih after kept.2
   refine ⟨c',found,?_⟩
   rcases step_revisions s call id start after with rfl|raised
   · rcases grown with same|⟨k,positive,within,grown⟩
     · exact .inl same
     · exact .inr ⟨k,positive,by omega,grown⟩
   · rcases grown with rfl|⟨k,-,within,grown⟩
     · exact .inr ⟨1,Nat.one_pos,by omega,raised⟩
     · refine .inr ⟨k+1,by omega,by omega,?_⟩
       rw [grown,raised,nextRevision,Nat.mod_add_mod,Nat.add_assoc,Nat.add_comm 1 k]

lemma unchanged_of_revision {calls : List (ConversationCall β)}
  (start : s.conversations[id]? = some c) (kept : .delete id .hard ∉ calls)
  (short : calls.length < u64Limit)
  (found : (execute conversationStep s calls).conversations[id]? = some c')
  (revision : c'.revision = c.revision) : c' = c := by
 obtain ⟨later,hlater,grown⟩:=revision_grows calls start kept
 rw [found] at hlater
 cases hlater
 rcases grown with same|⟨k,positive,within,grown⟩
 · exact same
 · -- fewer than 2^64 changes do not come back to a revision
   rw [revision] at grown
   unfold u64Limit at short grown
   omega

lemma turn_stays(calls:List (ConversationCall β))(start:s.turns[turnId]?=some turn)
  (kept:∀policy,.delete turn.conversationId policy∉calls):
  ∃turn',(execute conversationStep s calls).turns[turnId]?=some turn' ∧
   turn'.conversationId=turn.conversationId∧turn'.baseRevision=turn.baseRevision ∧
   (turn.isTerminal=true→turn'=turn):=by
 induction calls generalizing s turn with
 | nil=>exact ⟨turn,start,rfl,rfl,fun _=>rfl⟩
 | cons call calls ih=>
  rw [execute_cons]
  have step:∃next,(conversationStep s call).2.turns[turnId]?=some next ∧
    next.conversationId=turn.conversationId∧next.baseRevision=turn.baseRevision ∧
    (turn.isTerminal=true→next=turn):=by
   have change:=step_turnChange s call turnId
   rw [start] at change
   generalize (conversationStep s call).2.turns[turnId]?=after at change
   cases change with
   | same=>exact ⟨turn,rfl,rfl,rfl,fun _=>rfl⟩
   | drafted _ message live=>exact ⟨_,rfl,rfl,rfl,by simp [live]⟩
   | completed _ revision hcall live=>exact ⟨_,rfl,rfl,rfl,by simp [live]⟩
   | failed _ hcall live=>exact ⟨_,rfl,rfl,rfl,by simp [live]⟩
   | retracted _ ending hcall live=>exact ⟨_,rfl,rfl,rfl,by simp [live]⟩
   | removed _ policy hcall=>exact absurd (hcall▸mem_cons_self) (kept policy)
  obtain ⟨next,hnext,conversation,base,terminal⟩:=step
  obtain ⟨turn',found,conversation',base',terminal'⟩:=ih hnext (by
   intro policy h
   rw [conversation] at h
   exact kept policy (mem_cons_of_mem _ h))
  refine ⟨turn',found,conversation'.trans conversation,base'.trans base,?_⟩
  intro ended
  have same:=terminal ended
  rw [same] at terminal'
  exact terminal' ended
end

/-- Message-scoped attachments and compactions refer to messages of the conversation. -/
structure WellFormed (c:Conversation β) : Prop where
 attachments:∀attachment∈c.attachments,attachment.scope=.message →
  ∃messageId,attachment.messageId=some messageId∧messageId∈c.messages.map Message.messageId
 compactions:∀record∈c.compactions,∀messageId∈record.outputMessageId::record.sourceMessageIds,
   messageId∈c.messages.map Message.messageId

lemma WellFormed.keep(h:WellFormed c)(attachments:c'.attachments=c.attachments)
  (compactions:c'.compactions=c.compactions)
  (ids:∀messageId∈c.messages.map Message.messageId,
   messageId∈c'.messages.map Message.messageId):WellFormed c':=by
 constructor
 · intro attachment hattachment scope
   rw [attachments] at hattachment
   obtain ⟨messageId,hmessage,member⟩:=h.attachments attachment hattachment scope
   exact ⟨messageId,hmessage,ids messageId member⟩
 · intro record hrecord messageId hmessage
   rw [compactions] at hrecord
   exact ids messageId (h.compactions record hrecord messageId hmessage)

lemma WellFormed.extended(h:WellFormed c)(messages:List (Message β)):
  WellFormed (c.extended messages):=by
 refine h.keep rfl rfl ?_
 intro messageId member
 rw [Conversation.extended,map_append]
 exact mem_append_left _ member

lemma WellFormed.superseding(h:WellFormed c)(index:ℕ):WellFormed (c.superseding index):=by
 refine h.keep rfl rfl ?_
 have same:(c.superseding index).messages.map Message.messageId=c.messages.map Message.messageId:=by
  apply ext_getElem?
  intro i
  simp only [Conversation.superseding,List.getElem?_map,List.getElem?_modify]
  split <;>cases c.messages[i]? <;>rfl
 intro messageId member
 rw [same]
 exact member

lemma step_wellFormed(formed:∀(id:String) c,s.conversations[id]?=some c→WellFormed c)
  (created:∀c,call=.create c→WellFormed c)(id:String)(c:Conversation β)
  (after:(conversationStep s call).2.conversations[id]?=some c):WellFormed c:=by
 have change:=step_change s call id
 rw [after] at change
 cases before:s.conversations[id]? with
 | none=>
  rw [before] at change
  cases change with
  | created _ hcall=>exact created c hcall
  | branched source _ sourceId hsource branches=>exact ⟨branches.attachments,branches.compactions⟩
 | some old=>
  have held:=formed id old before
  rw [before] at change
  cases change with
  | same=>exact held
  | appended _ expected messages=>exact held.extended messages
  | committed _ turnId turn=>exact held.extended _
  | superseded _ index=>exact held.superseding index
  | attached _ attachment live within=>
   constructor
   · intro other h scope
     rcases mem_append.mp h with h|h
     · exact held.attachments other h scope
     · rw [mem_singleton.mp h] at scope ⊢
       exact within scope
   · exact held.compactions
  | compacted _ record hcall complete within=>
   constructor
   · exact held.attachments
   · intro other h
     rcases mem_append.mp h with h|h
     · exact held.compactions other h
     · rw [mem_singleton.mp h]
       exact within
  | archived=>exact held.keep rfl rfl fun _ member=>member
  | emptied=>
   constructor
   · intro attachment h
     cases h
   · intro record h
     cases h

lemma run_wellFormed{s:InMemoryConversationStore β}(calls:List (ConversationCall β))
  (formed:∀(id:String) c,s.conversations[id]?=some c→WellFormed c)
  (created:∀c,.create c∈calls→WellFormed c)(id:String)(c:Conversation β)
  (h:(execute conversationStep s calls).conversations[id]?=some c):WellFormed c:=by
 induction calls generalizing s with
 | nil=>exact formed id c h
 | cons call calls ih=>
  refine ih (s:=(conversationStep s call).2) ?_ ?_ h
  · refine step_wellFormed s call formed ?_
    intro other hcall
    exact created other (hcall▸mem_cons_self)
  · intro other hcall
    exact created other (mem_cons_of_mem _ hcall)

def storeAfter (calls:List (ConversationCall β)) : InMemoryConversationStore β :=
 execute conversationStep new calls

lemma storeAfter_append(earlier middle:List (ConversationCall β)):
  storeAfter (earlier++middle)=execute conversationStep (storeAfter earlier) middle:=
 execute_append _ _ _ _

variable {earlier middle:List (ConversationCall β)}

lemma write_at_revision (read : (storeAfter earlier).conversations[id]? = some c)
  (kept : .delete id .hard ∉ middle) (short : middle.length < u64Limit) {now : Conversation β}
  (written:(storeAfter (earlier++middle)).conversationAt id c.revision=.ok now):
  (storeAfter (earlier++middle)).conversations[id]?=some c:=by
 obtain ⟨found,-,revision⟩:=conversationAt_ok.mp written
 rw [storeAfter_append] at found ⊢
 rw [found,unchanged_of_revision read kept short found revision]

lemma commit_since_begin{expected:ℕ}{begun:Turn β×InMemoryConversationStore β}
  (began:(storeAfter earlier).beginTurn id expected turnId=.ok begun)
  (kept : ∀ policy, .delete id policy ∉ middle) (short : middle.length < u64Limit) {done : Turn β}
  (committed:((storeAfter (earlier++.beginTurn id expected turnId::middle)).commitTurn
   turnId).1=.ok done):
  (storeAfter (earlier++.beginTurn id expected turnId::middle)).conversations[id]? =
   (storeAfter earlier).conversations[id]?:=by
 obtain ⟨turn,next⟩:=begun
 have began':=began
 obtain ⟨c,-,hc,revision,rfl⟩:=beginTurn_ok began'
 rw [storeAfter_append,execute_cons] at committed ⊢
 have step:(conversationStep (storeAfter earlier) (.beginTurn id expected turnId)).2 =
   (storeAfter earlier).setTurn turnId (.new turnId id expected):=by
  simp [conversationStep,began,settle]
 rw [step] at committed ⊢
 have start:((storeAfter earlier).setTurn turnId (.new turnId id expected)).turns[turnId]? =
   some (.new turnId id expected):=lookup_insert_self _ _ _
 obtain ⟨turn',found,conversation,base,-⟩:=turn_stays middle start kept
 rcases commitTurn_cases _ turnId with ⟨error,h⟩|⟨error,failing,-,-,h⟩ |
  ⟨last,c',hlast,-,hc',-,revision',-⟩
 · rw [h] at committed
   cases committed
 · rw [h] at committed
   cases committed
 · cases found.symm.trans hlast
   have own:turn'.conversationId=id:=conversation
   rw [own] at hc'
   have read:((storeAfter earlier).setTurn turnId (.new turnId id expected)).conversations[id]? =
    some c:=hc
   rw [hc,hc',unchanged_of_revision read (kept .hard) short hc' (by
    rw [revision',base,revision]
    rfl)]

lemma ended_turn_stays
  (ended:(storeAfter earlier).turns[turnId]?=some turn)(terminal:turn.isTerminal=true)
  (kept:∀policy,.delete turn.conversationId policy∉middle):
  (storeAfter (earlier++middle)).turns[turnId]?=some turn ∧
   ∃error,((storeAfter (earlier++middle)).commitTurn turnId).1=.error error:=by
 rw [storeAfter_append]
 obtain ⟨turn',found,-,-,same⟩:=turn_stays middle ended kept
 rw [same terminal] at found
 refine ⟨found,?_⟩
 rcases commitTurn_cases _ turnId with ⟨error,h⟩|⟨error,failing,-,-,h⟩ |
  ⟨last,c,hlast,live,-⟩
 · exact ⟨error,by rw [h]⟩
 · exact ⟨error,by rw [h]⟩
 · cases found.symm.trans hlast
   rw [terminal] at live
   cases live

/--
Turns are isolated and no update is lost: what every transition of a run keeps, what a writer
that read a revision may rely on, and that what refers to messages refers to messages of its
own conversation.
-/
theorem turns_isolated_and_updates_kept (β : Type) :
  (∀calls:List (ConversationCall β),∀t∈history conversationStep new calls,Safe t) ∧
   (∀(earlier middle:List (ConversationCall β)) (id:String) (c:Conversation β),
    (storeAfter earlier).conversations[id]?=some c → .delete id .hard∉middle →
    middle.length < u64Limit →
    (∀messages result,(storeAfter (earlier++middle)).appendMessages id c.revision messages =
      .ok result→(storeAfter (earlier++middle)).conversations[id]?=some c) ∧
     ∀turnId result,(storeAfter (earlier++middle)).beginTurn id c.revision turnId =
      .ok result→(storeAfter (earlier++middle)).conversations[id]?=some c) ∧
   (∀(earlier middle:List (ConversationCall β)) (id:String) (expected:ℕ)
     (turnId:String) begun done,
    (storeAfter earlier).beginTurn id expected turnId=.ok begun →
    (∀policy,.delete id policy∉middle) → middle.length < u64Limit →
    ((storeAfter (earlier++.beginTurn id expected turnId::middle)).commitTurn turnId).1 = .ok done →
    (storeAfter (earlier++.beginTurn id expected turnId::middle)).conversations[id]? =
     (storeAfter earlier).conversations[id]?) ∧
   (∀(earlier middle:List (ConversationCall β)) (turnId:String) (turn:Turn β),
    (storeAfter earlier).turns[turnId]?=some turn→turn.isTerminal=true →
    (∀policy,.delete turn.conversationId policy∉middle) →
    (storeAfter (earlier++middle)).turns[turnId]?=some turn ∧
     ∃error,((storeAfter (earlier++middle)).commitTurn turnId).1=.error error) ∧
   ∀calls : List (ConversationCall β),(∀c,.create c∈calls→WellFormed c) →
    ∀(id:String) c,(storeAfter calls).conversations[id]?=some c→WellFormed c := by
 refine ⟨?_,?_,?_,?_,?_⟩
 · intro calls t ht
   obtain ⟨before,call,after,-,rfl⟩:=mem_history conversationStep ht
   exact step_safe _ call
 · intro earlier middle id c read kept short
   constructor
   · intro messages result written
     obtain ⟨now,hnow,-⟩:=bind_ok.mp written
     exact write_at_revision read kept short hnow
   · intro turnId result written
     simp only [beginTurn,bind_ok,liftError_ok] at written
     obtain ⟨-,-,now,hnow,-⟩:=written
     exact write_at_revision read kept short hnow
 · intro earlier middle id expected turnId begun done began kept short committed
   exact commit_since_begin began kept short committed
 · intro earlier middle turnId turn ended terminal kept
   exact ended_turn_stays ended terminal kept
 · intro calls created id c h
   refine run_wellFormed calls ?_ created id c h
   intro other conversation found
   simp [new] at found

def chat : Conversation Unit where
 conversationId := "chat"
 messages:=[]
 attachments:=[]
 compactions:=[]
 revision:=0
 archived:=false
 branchOf:=none
 branchedFromMessageId:=none
 metadata:=∅

theorem chat_unchanged_by_turn :
  (storeAfter ([.create chat]++[.beginTurn "chat" 0 "turn"])).conversations["chat"]?=some chat := by
 have found:(storeAfter ([.create chat]++[.beginTurn "chat" 0 "turn"])).conversations["chat"]?
   = some chat:=by decide +kernel
 have read:(storeAfter [.create chat]).conversations["chat"]?=some chat:=by decide +kernel
 exact ((turns_isolated_and_updates_kept Unit).2.1 [.create chat] [.beginTurn "chat" 0 "turn"]
  "chat" chat read (by simp) (by decide)).1 [] _
   (appendMessages_ok.mpr ⟨chat,found,rfl,rfl,rfl,rfl⟩)

def otherChat : Conversation Unit :=
 { chat with conversationId := "other",messages:=[⟨"m",.user,none,.committed,()⟩] }

def replacedChat : List (ConversationCall Unit) :=
 [.delete "chat" .hard,.branch ⟨"other","m",some "chat",true,false⟩]

theorem replaced_conversation_is_written :
  ¬ ∀(earlier middle:List (ConversationCall Unit)) (id:String) (c:Conversation Unit)
    (messages:List (Message Unit)) result,
   (storeAfter earlier).conversations[id]?=some c →
   (storeAfter (earlier++middle)).appendMessages id c.revision messages=.ok result →
   (storeAfter (earlier++middle)).conversations[id]?=some c := by
 intro h
 have branch :
   (storeAfter ([.create chat,.create otherChat]++replacedChat)).conversations["chat"]?.map
    (fun c=>(c.archived,c.revision,c.messages))=some (false,0,otherChat.messages):=by
  decide +kernel
 obtain ⟨c,found,facts⟩:=Option.map_eq_some_iff.mp branch
 rw [Prod.mk.injEq,Prod.mk.injEq] at facts
 have unchanged:=h [.create chat,.create otherChat] replacedChat "chat" chat [] _
  (by decide +kernel) (appendMessages_ok.mpr ⟨c,found,facts.1,facts.2.1,rfl,rfl⟩)
 rw [found] at unchanged
 have messages:=facts.2.2
 rw [Option.some.inj unchanged] at messages
 cases messages

end GraphBlocks.Conversations
