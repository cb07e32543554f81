import GraphBlocks.ApplicationProtocol

/-! Subscriptions of the runtime core, the deliveries that `CallbackDeliveryScheduler` schedules
for them, and `OrderedDeliveryState`, which keeps one blocking delivery for each subscription and
run. -/
namespace GraphBlocks.CallbackDeliveries
open Std Json OrderedMap StoredJson MachineRuns ApplicationProtocol List Option

structure EventFilter where
 types:Option (Finset ApplicationProtocolEventKind)
 visibility:Option (Finset String)
 nodeIds:Option (Finset String)
 operationIds:Option (Finset String)
 severityMin:Option String
 includeTerminalEvents:Bool

def severityRank : String→Option ℕ
 | "debug"=>some 10
 | "info"=>some 20
 | "notice"=>some 30
 | "warning" | "warn"=>some 40
 | "error"=>some 50
 | "critical" | "fatal"=>some 60
 | _=>none

namespace EventFilter

def new : EventFilter := ⟨none,none,none,none,none,true⟩

def payloadAllows (payload:Value) (fields:List String) (allowed:Finset String) : Bool :=
 fields.any fun field=>((payload.get field).bind asString).any fun value=>value∈allowed

def jsonFieldMatches (payload:Value) (fields:List String) (allowed:Option (Finset String)) : Bool :=
 allowed.all (payloadAllows payload fields)

def protocolVisibilityMatches (payload:Value) (allowed:Option (Finset String)) : Bool :=
 allowed.all fun allowed=>
  match payload.get "visibility" with
  | none=>decide ("client" ∈ allowed)
  | some visibility=>(asString visibility).any fun value=>value∈allowed

variable (filter:EventFilter)

def operationIdMatches (event:ApplicationProtocolEvent) : Bool :=
 filter.operationIds.all fun allowed=>
  (event.metadata.operationId.any fun operationId=>operationId∈allowed) ||
   payloadAllows event.payload ["operation_id","operationId"] allowed

def severityMatches (event:ApplicationProtocolEvent) : Bool :=
 filter.severityMin.all fun severityMin=>
  (((event.payload.get "severity").bind asString).bind severityRank).any fun eventRank=>
   (severityRank severityMin).any fun minRank=>minRank≤eventRank

def matchesEvent (event:ApplicationProtocolEvent) : Bool :=
 protocolVisibilityMatches event.payload filter.visibility &&
  jsonFieldMatches event.payload ["node_id","nodeId"] filter.nodeIds &&
  filter.operationIdMatches event&&filter.severityMatches event &&
  if event.kind.isRunTerminal then filter.includeTerminalEvents
  else filter.types.all fun types=>event.kind∈types

end EventFilter

inductive CallbackFailurePolicy where
 | bestEffort | retryThenDeadLetter | pauseRunOnFailure | failRunOnFailure
deriving DecidableEq

inductive CallbackSubscriptionStatus where
 | active | paused | expired | revoked
deriving DecidableEq

structure CallbackSubscription where
 subscriptionId:String
 scope:String
 scopeId:String
 eventFilter:EventFilter
 status:CallbackSubscriptionStatus
 expiresAtUnixMs:Option ℕ
 replayFromCursor:Option String
 failurePolicy:CallbackFailurePolicy
 orderedDelivery:Bool

def CallbackSubscription.canReceive (subscription:CallbackSubscription)
  (event:ApplicationProtocolEvent) : Bool :=
 subscription.status == .active &&
  (subscription.scope != "run" || subscription.scopeId==event.metadata.runId) &&
  (subscription.expiresAtUnixMs.all fun expiresAt=>event.metadata.occurredAtUnixMs<expiresAt) &&
  subscription.eventFilter.matchesEvent event

inductive CallbackDeliveryStatus where
 | pending | delivering | delivered | acknowledged | failed | deadLettered | cancelled | expired
deriving DecidableEq

def CallbackDeliveryStatus.blocksOrderedDelivery : CallbackDeliveryStatus→Bool
 | .pending | .delivering=>true
 | _=>false

structure CallbackDelivery where
 deliveryId:String
 subscriptionId:String
 eventId:String
 runId:String
 sequence:ℕ
 cursor:String
 attempt:ℕ
 idempotencyKey:String
 failurePolicy:CallbackFailurePolicy
 status:CallbackDeliveryStatus
 nextRetryAtUnixMs:Option ℕ
 deliveredAtUnixMs:Option ℕ
 acknowledgedAtUnixMs:Option ℕ
 lastError:Option String
 redriveCount:ℕ
 lastRedriveOperator:Option String
 lastRedriveReason:Option String
deriving DecidableEq

def CallbackDelivery.key (delivery:CallbackDelivery) : String×String :=
 (delivery.subscriptionId,delivery.runId)

def isAsciiAlphanumeric (byte:UInt8) : Bool :=
 (48≤byte.toNat&&byte.toNat≤57)||(65≤byte.toNat&&byte.toNat≤90) ||
  (97≤byte.toNat&&byte.toNat≤122)

/-- The format `%{byte:02X}`, except for the bytes that stand for themselves. -/
def encodeIdentityByte (byte:UInt8) : List Char :=
 if isAsciiAlphanumeric byte||byte==45||byte==46 then [Char.ofNat byte.toNat]
 else ['%',(Nat.digitChar (byte.toNat/16)).toUpper,(Nat.digitChar (byte.toNat % 16)).toUpper]

def encodeIdentityComponent (value:String) : String :=
 String.ofList (value.toUTF8.toList.flatMap encodeIdentityByte)

def scheduleEvent (subscription:CallbackSubscription) (event:ApplicationProtocolEvent) :
  Option CallbackDelivery :=
 if !subscription.canReceive event then none
 else
  let subscriptionIdentity:=encodeIdentityComponent subscription.subscriptionId
  let eventIdentity:=encodeIdentityComponent event.metadata.eventId
  some
   { deliveryId := "del_" ++ subscriptionIdentity ++ "_" ++ eventIdentity
     subscriptionId:=subscription.subscriptionId
     eventId:=event.metadata.eventId
     runId:=event.metadata.runId
     sequence:=event.metadata.sequence
     cursor:=eventCursor event
     attempt:=1
     idempotencyKey:=subscriptionIdentity ++ ":" ++ eventIdentity
     failurePolicy:=subscription.failurePolicy
     status:=.pending
     nextRetryAtUnixMs:=none
     deliveredAtUnixMs:=none
     acknowledgedAtUnixMs:=none
     lastError:=none
     redriveCount:=0
     lastRedriveOperator:=none
     lastRedriveReason:=none }

abbrev OrderedDeliveryState := ExtTreeMap (String×String) CallbackDelivery comparePair

namespace OrderedDeliveryState

def new : OrderedDeliveryState := ∅

variable (s:OrderedDeliveryState)

def isBlocked (subscriptionId runId:String) : Bool :=
 s[(subscriptionId,runId)]?.any fun delivery=>delivery.status.blocksOrderedDelivery

def recordScheduled (delivery:CallbackDelivery) : OrderedDeliveryState :=
 if delivery.status.blocksOrderedDelivery then s.insert delivery.key delivery else s

def recordDeliveryStatus (delivery:CallbackDelivery) : OrderedDeliveryState :=
 if delivery.status.blocksOrderedDelivery then s.insert delivery.key delivery
 else s.erase delivery.key

end OrderedDeliveryState

def scheduleOrderedEvent (subscription:CallbackSubscription) (event:ApplicationProtocolEvent)
  (ordering:OrderedDeliveryState) : Option (Option CallbackDelivery)×OrderedDeliveryState :=
 if !subscription.canReceive event then (none,ordering)
 else if subscription.orderedDelivery &&
   ordering.isBlocked subscription.subscriptionId event.metadata.runId then
  (some none,ordering)
 else
  match scheduleEvent subscription event with
  | none=>(none,ordering)
  | some delivery=>
   (some (some delivery),
    if subscription.orderedDelivery then ordering.recordScheduled delivery else ordering)

/-- The loop of `schedule_replay` over an ordered subscription. -/
def scheduleOrderedEvents (subscription:CallbackSubscription) :
  List ApplicationProtocolEvent→OrderedDeliveryState→List CallbackDelivery
 | [], _=>[]
 | event::events, ordering=>
  match scheduleOrderedEvent subscription event ordering with
  | (some (some delivery),ordering)=>delivery::scheduleOrderedEvents subscription events ordering
  | (some none,_)=>[]
  | (none,ordering)=>scheduleOrderedEvents subscription events ordering

def scheduleReplay (subscription:CallbackSubscription) (log:ApplicationProtocolLog)
  (limit:ℕ) : List CallbackDelivery :=
 if subscription.status ≠ .active∨limit=0 then []
 else
  match log.replayAfterRetained subscription.replayFromCursor limit log.events.length with
  | .error _=>[]
  | .ok replayed=>
   if !subscription.orderedDelivery then replayed.filterMap (scheduleEvent subscription)
   else scheduleOrderedEvents subscription replayed .new

inductive OrderedCall where
 | offer (subscription:CallbackSubscription) (event:ApplicationProtocolEvent)
 | report (delivery:CallbackDelivery)

def orderedStep (s:OrderedDeliveryState) :
  OrderedCall→Option (Option CallbackDelivery)×OrderedDeliveryState
 | .offer subscription event=>scheduleOrderedEvent subscription event s
 | .report delivery=>(none,s.recordDeliveryStatus delivery)

abbrev OrderedTransition :=
 Transition OrderedDeliveryState OrderedCall (Option (Option CallbackDelivery))

def scheduledBy (t:OrderedTransition) : Option CallbackDelivery :=
 match t.call with
 | .offer subscription _=>if subscription.orderedDelivery then t.response.join else none
 | .report _=>none

def isSame (a b:CallbackDelivery) : Bool := a.deliveryId==b.deliveryId&&a.key==b.key

/-- The deliveries that are left of those not yet reported in a terminal status. -/
def withTransition (live:List CallbackDelivery) (t:OrderedTransition) : List CallbackDelivery :=
 match t.call with
 | .offer _ _=>live++(scheduledBy t).toList
 | .report delivery=>
  if delivery.status.blocksOrderedDelivery then live
  else live.filter fun other => !isSame other delivery

/-- The scheduled deliveries that have not yet been reported in a terminal status. -/
def outstanding (past:List OrderedTransition) : List CallbackDelivery :=
 past.foldl withTransition []

variable {subscription:CallbackSubscription} {delivery:CallbackDelivery}

lemma scheduleEvent_some{event:ApplicationProtocolEvent}
  (h:scheduleEvent subscription event=some delivery):
  delivery.key=(subscription.subscriptionId,event.metadata.runId) ∧
   delivery.eventId=event.metadata.eventId∧delivery.sequence=event.metadata.sequence ∧
   delivery.status=.pending:=by
 unfold scheduleEvent at h
 split at h
 · cases h
 · cases h
   exact ⟨rfl,rfl,rfl,rfl⟩

lemma scheduleOrderedEvent_cases(subscription:CallbackSubscription)
  (event:ApplicationProtocolEvent)(s:OrderedDeliveryState):
  ((scheduleOrderedEvent subscription event s).1.join=none ∧
    (scheduleOrderedEvent subscription event s).2=s) ∨
   ∃delivery,scheduleEvent subscription event=some delivery ∧
    (scheduleOrderedEvent subscription event s).1=some (some delivery) ∧
    (subscription.orderedDelivery=true→s.isBlocked subscription.subscriptionId
      event.metadata.runId=false ∧
     (scheduleOrderedEvent subscription event s).2=s.insert delivery.key delivery) ∧
    (subscription.orderedDelivery=false→(scheduleOrderedEvent subscription event s).2=s):=by
 unfold scheduleOrderedEvent
 split
 · exact .inl ⟨rfl,rfl⟩
 split
 · exact .inl ⟨rfl,rfl⟩
 next unblocked=>
 split
 · exact .inl ⟨rfl,rfl⟩
 next delivery scheduled=>
 have pending:=(scheduleEvent_some scheduled).2.2.2
 refine .inr ⟨delivery,scheduled,rfl,?_,?_⟩
 · intro ordered
   simp only [ordered,Bool.true_and,Bool.not_eq_true] at unblocked
   refine ⟨unblocked,?_⟩
   simp [ordered,OrderedDeliveryState.recordScheduled,pending,
    CallbackDeliveryStatus.blocksOrderedDelivery]
 · intro unordered
   simp [unordered]

variable {events:List ApplicationProtocolEvent}

/-- The loop schedules the first event that can be received, if nothing blocks it, and ends. -/
lemma scheduleOrderedEvents_head(ordered:subscription.orderedDelivery=true){runId:String}
  (sameRun:∀event∈events,event.metadata.runId=runId)(s:OrderedDeliveryState):
  scheduleOrderedEvents subscription events s=if s.isBlocked subscription.subscriptionId runId then []
   else (events.filterMap (scheduleEvent subscription)).take 1:=by
 induction events generalizing s with
 | nil=>simp [scheduleOrderedEvents]
 | cons event events ih=>
  have rest:=ih fun other h=>sameRun other (mem_cons_of_mem _ h)
  have run:=sameRun event mem_cons_self
  cases scheduled:scheduleEvent subscription event with
  | none=>
   have unreceived:subscription.canReceive event=false:=by
    unfold scheduleEvent at scheduled
    split at scheduled
    · next unreceived=>simpa using unreceived
    · cases scheduled
   rw [filterMap_cons_none scheduled,←rest]
   simp [scheduleOrderedEvents,scheduleOrderedEvent,unreceived]
  | some delivery=>
   have received:subscription.canReceive event=true:=by
    by_contra unreceived
    simp [scheduleEvent,unreceived] at scheduled
   obtain ⟨key,-,-,pending⟩:=scheduleEvent_some scheduled
   have after:OrderedDeliveryState.isBlocked (s.insert delivery.key delivery)
     subscription.subscriptionId runId=true:=by
    rw [OrderedDeliveryState.isBlocked,key,run,lookup_insert,if_pos rfl,any_some,pending]
    rfl
   have none:=rest (s.insert delivery.key delivery)
   rw [after,if_pos rfl] at none
   rw [filterMap_cons_some scheduled,take_succ_cons,take_zero]
   cases blocked:s.isBlocked subscription.subscriptionId runId <;>
    simp [scheduleOrderedEvents,scheduleOrderedEvent,received,ordered,run,blocked,scheduled,
     OrderedDeliveryState.recordScheduled,pending,
     CallbackDeliveryStatus.blocksOrderedDelivery,none]

lemma replayAfterRetained_mem{log:ApplicationProtocolLog}{cursor:Option String}
  {limit retained:ℕ}{replayed:List ApplicationProtocolEvent}
  (h:log.replayAfterRetained cursor limit retained=.ok replayed){event:ApplicationProtocolEvent}
  (hmem:event∈replayed):event∈log.events:=by
 simp only [ApplicationProtocolLog.replayAfterRetained] at h
 split at h
 · cases h
   exact mem_of_mem_drop (mem_of_mem_take hmem)
 · split at h
   · split at h
     · cases h
       exact mem_of_mem_drop (mem_of_mem_drop (mem_of_mem_take hmem))
     · cases h
   · cases h

/-- The replay of an ordered subscription schedules the first of the deliveries that the same
subscription without an order would get. -/
theorem ordered_replay_schedules_first (subscription : CallbackSubscription)
  (offers : List ApplicationProtocolEvent) (limit : ℕ) :
  scheduleReplay { subscription with orderedDelivery:=true }
   (ApplicationProtocolLog.new.appendAll offers) limit =
  (scheduleReplay { subscription with orderedDelivery:=false }
   (ApplicationProtocolLog.new.appendAll offers) limit).take 1 := by
 have consistent:=ApplicationProtocolLog.appendAll_consistent
  ApplicationProtocolLog.consistent_new offers
 by_cases quiet:subscription.status≠.active∨limit=0
 · simp [scheduleReplay,quiet]
 simp only [scheduleReplay,if_neg quiet]
 cases hreplay:(ApplicationProtocolLog.new.appendAll offers).replayAfterRetained
   subscription.replayFromCursor limit (ApplicationProtocolLog.new.appendAll offers).events.length with
 | error _=>rfl
 | ok replayed=>
  have mem (event:ApplicationProtocolEvent) (h:event∈replayed):=
   consistent.run event (replayAfterRetained_mem hreplay h)
  cases replayed with
  | nil=>rfl
  | cons first rest=>
   have sameRun:∀event∈first::rest,event.metadata.runId=first.metadata.runId:=by
    intro event h
    exact some.inj ((mem event h).symm.trans (mem first mem_cons_self))
   have head:scheduleOrderedEvents { subscription with orderedDelivery:=true } (first::rest) .new=_:=
    scheduleOrderedEvents_head rfl sameRun .new
   exact head

/-- A report concerns the delivery that blocks its subscription and run, if one does. -/
def concerns (s:OrderedDeliveryState) (delivery:CallbackDelivery) : Bool :=
 s[delivery.key]?.all fun blocker=>blocker.deliveryId==delivery.deliveryId

/-- No report is about another delivery than the one that blocks. -/
def concerned (t:OrderedTransition) : Bool :=
 match t.call with
 | .offer _ _=>true
 | .report delivery=>concerns t.before delivery

/-- The deliveries that are outstanding block their subscriptions and runs, each its own. -/
structure Blocking (live:List CallbackDelivery) (s:OrderedDeliveryState) : Prop where
 blocks:∀(key:String×String) (delivery:CallbackDelivery),s[key]?=some delivery →
  delivery.status.blocksOrderedDelivery=true
 held:∀delivery∈live,∃blocker,s[delivery.key]?=some blocker∧blocker.deliveryId=delivery.deliveryId
 single:live.Pairwise fun a b=>a.key≠b.key

lemma Blocking.new:Blocking [] .new:=by constructor <;>simp [OrderedDeliveryState.new]

variable {live:List CallbackDelivery} {s:OrderedDeliveryState}

lemma Blocking.offer(blocking:Blocking live s)
  (subscription:CallbackSubscription)(event:ApplicationProtocolEvent):
  Blocking (withTransition live (takeStep orderedStep s (.offer subscription event)))
   (orderedStep s (.offer subscription event)).2:=by
 change Blocking (live++Option.toList (if subscription.orderedDelivery then
  (scheduleOrderedEvent subscription event s).1.join else none))
   (scheduleOrderedEvent subscription event s).2
 rcases scheduleOrderedEvent_cases subscription event s with ⟨unscheduled,same⟩ |
  ⟨delivery,scheduled,answer,ordered,unordered⟩
 · rw [unscheduled,same]
   simpa using blocking
 · rw [answer]
   cases order:subscription.orderedDelivery with
   | false=>
    rw [unordered order]
    simpa using blocking
   | true=>
    obtain ⟨unblocked,inserted⟩:=ordered order
    obtain ⟨key,-,-,pending⟩:=scheduleEvent_some scheduled
    rw [inserted]
    -- what is outstanding has another key, or it would block
    have other:∀earlier∈live,earlier.key≠delivery.key:=by
     intro earlier hearlier same
     obtain ⟨blocker,hblocker,-⟩:=blocking.held earlier hearlier
     have blocks:=blocking.blocks _ _ hblocker
     rw [same,key] at hblocker
     rw [OrderedDeliveryState.isBlocked,hblocker,any_some,blocks] at unblocked
     cases unblocked
    change Blocking (live++[delivery]) _
    constructor
    · intro key known h
      rw [lookup_insert] at h
      split at h
      · cases h
        rw [pending]
        rfl
      · exact blocking.blocks key known h
    · intro known h
      rw [lookup_insert]
      rcases mem_append.mp h with h|h
      · rw [if_neg fun same=>other known h same.symm]
        exact blocking.held known h
      · rw [mem_singleton.mp h,if_pos rfl]
        exact ⟨delivery,rfl,rfl⟩
    · rw [pairwise_append]
      refine ⟨blocking.single,pairwise_singleton _ _,?_⟩
      intro earlier hearlier later hlater
      rw [mem_singleton.mp hlater]
      exact other earlier hearlier

lemma Blocking.report(blocking:Blocking live s)(about:concerns s delivery=true):
  Blocking (withTransition live (takeStep orderedStep s (.report delivery)))
   (orderedStep s (.report delivery)).2:=by
 change Blocking (if delivery.status.blocksOrderedDelivery then live
  else live.filter fun other => !isSame other delivery) (s.recordDeliveryStatus delivery)
 -- the outstanding delivery of the key, if any, is the one reported
 have same:∀other∈live,other.key=delivery.key→ other.deliveryId=delivery.deliveryId:=by
  intro other hother hkey
  obtain ⟨blocker,hblocker,hid⟩:=blocking.held other hother
  rw [hkey] at hblocker
  rw [concerns,hblocker,all_some,beq_iff_eq] at about
  rw [←hid,about]
 unfold OrderedDeliveryState.recordDeliveryStatus
 cases live':delivery.status.blocksOrderedDelivery with
 | true=>
  constructor
  · intro key known h
    rw [if_pos rfl,lookup_insert] at h
    split at h
    · cases h
      exact live'
    · exact blocking.blocks key known h
  · intro known h
    rw [if_pos rfl,lookup_insert]
    split
    · next hkey=>exact ⟨delivery,rfl,(same known h hkey.symm).symm⟩
    · exact blocking.held known h
  · exact blocking.single
 | false=>
  constructor
  · intro key known h
    rw [if_neg Bool.false_ne_true,ExtTreeMap.getElem?_erase] at h
    split at h
    · cases h
    · exact blocking.blocks key known h
  · intro known h
    obtain ⟨h,different⟩:=mem_filter.mp h
    have otherKey:delivery.key≠known.key:=by
     intro hkey
     simp [isSame,hkey,same known h hkey.symm] at different
    rw [if_neg Bool.false_ne_true,ExtTreeMap.getElem?_erase,if_neg]
    · exact blocking.held known h
    · intro hcompare
      exact otherKey (LawfulEqCmp.eq_of_compare hcompare)
  · exact blocking.single.filter _

lemma Blocking.step(blocking:Blocking live s){call:OrderedCall}
  (about:concerned (takeStep orderedStep s call)=true):
  Blocking (withTransition live (takeStep orderedStep s call)) (orderedStep s call).2:=by
 cases call with
 | offer subscription event=>exact blocking.offer subscription event
 | report delivery=>exact blocking.report about

lemma history_blocking(calls:List OrderedCall)
  (about:(history orderedStep .new calls).all concerned=true):
  Blocking (outstanding (history orderedStep .new calls)) (execute orderedStep .new calls):=by
 induction calls using List.reverseRecOn with
 | nil=>exact Blocking.new
 | append_singleton calls call ih=>
  rw [history_concat,all_append,Bool.and_eq_true] at about
  rw [history_concat,execute_concat,outstanding,foldl_append]
  exact (ih about.1).step (by simpa using about.2)

def offersOf (key:String×String) (calls:List OrderedCall) : List ApplicationProtocolEvent :=
 calls.filterMap fun call=>
  match call with
  | .offer subscription event=>
   if subscription.orderedDelivery ∧
     (subscription.subscriptionId,event.metadata.runId)=key then some event else none
  | .report _=>none

def scheduledOf (key:String×String) (past:List OrderedTransition) : List CallbackDelivery :=
 (past.filterMap scheduledBy).filter fun delivery=>delivery.key==key

def CallbackDelivery.source (delivery:CallbackDelivery) : String×ℕ :=
 (delivery.eventId,delivery.sequence)

def eventSource (event:ApplicationProtocolEvent) : String×ℕ :=
 (event.metadata.eventId,event.metadata.sequence)

lemma scheduledBy_source{call:OrderedCall}
  (h:scheduledBy (takeStep orderedStep s call)=some delivery):
  (offersOf delivery.key [call]).map eventSource=[delivery.source]:=by
 cases call with
 | report reported=>cases h
 | offer subscription event=>
  change (if subscription.orderedDelivery then
   (scheduleOrderedEvent subscription event s).1.join else none)=some delivery at h
  split at h
  · next ordered=>
    rcases scheduleOrderedEvent_cases subscription event s with ⟨unscheduled,-⟩ |
     ⟨scheduled,hscheduled,answer,-⟩
    · rw [unscheduled] at h
      cases h
    · rw [answer] at h
      cases h
      obtain ⟨key,eventId,sequence,-⟩:=scheduleEvent_some hscheduled
      simp [offersOf,ordered,key,eventSource,CallbackDelivery.source,eventId,sequence]
  · cases h

lemma scheduled_in_order(key:String×String)(calls:List OrderedCall):
  ((scheduledOf key (history orderedStep .new calls)).map CallbackDelivery.source).Sublist
   ((offersOf key calls).map eventSource):=by
 induction calls using List.reverseRecOn with
 | nil=>exact List.Sublist.slnil
 | append_singleton calls call ih=>
  rw [history_concat,scheduledOf,filterMap_concat,filter_append,map_append]
  have split:offersOf key (calls++[call])=offersOf key calls++offersOf key [call]:=filterMap_append
  rw [split,map_append]
  refine ih.append ?_
  cases h:scheduledBy (takeStep orderedStep (execute orderedStep .new calls) call) with
  | none=>exact nil_sublist _
  | some delivery=>
   have source:=scheduledBy_source h
   rw [toList_some]
   by_cases hkey:delivery.key=key
   · subst hkey
     rw [source,filter_cons_of_pos (by simp),filter_nil]
     exact List.Sublist.refl _
   · rw [filter_cons_of_neg (by simpa using hkey),filter_nil]
     exact nil_sublist _

/--
In every run whose reports concern the delivery that blocks their subscription and run, at
most one scheduled delivery of each is outstanding at any moment.
-/
theorem one_delivery_in_flight (calls : List OrderedCall)
  (about : (history orderedStep .new calls).all concerned=true) (now : List OrderedCall)
  (moment : now <+: calls) (key : String×String) :
  ((outstanding (history orderedStep .new now)).filter fun delivery=>delivery.key==key).length≤1 ∧
   ((scheduledOf key (history orderedStep .new now)).map CallbackDelivery.source).Sublist
    ((offersOf key now).map eventSource) := by
 refine ⟨?_,scheduled_in_order key now⟩
 obtain ⟨after,rfl⟩:=moment
 rw [history_append,all_append,Bool.and_eq_true] at about
 have single:=(history_blocking now about.1).single
 cases found:(outstanding (history orderedStep .new now)).filter fun delivery=>
   delivery.key==key with
 | nil=>exact Nat.zero_le _
 | cons first rest=>
  cases rest with
  | nil=>exact Nat.le_refl _
  | cons second rest=>
   -- two of them would have one key
   have pair:=single.filter fun delivery=>delivery.key==key
   rw [found] at pair
   have different:=(pairwise_cons.mp pair).1 second mem_cons_self
   have members:∀delivery∈first::second::rest,delivery.key=key:=by
    intro delivery h
    rw [←found] at h
    exact beq_iff_eq.mp (mem_filter.mp h).2
   have same:=(members first mem_cons_self).trans
    (members second (mem_cons_of_mem _ mem_cons_self)).symm
   exact absurd same different

def orderedSubscription : CallbackSubscription where
 subscriptionId := "sub"
 scope := "run"
 scopeId := "run"
 eventFilter:=.new
 status:=.active
 expiresAtUnixMs:=none
 replayFromCursor:=none
 failurePolicy:=.retryThenDeadLetter
 orderedDelivery:=true

def runProgress (n:ℕ) (eventId:String) : ApplicationProtocolEvent where
 kind:=.jobProgress
 metadata:=
  { eventId:=eventId,protocolVersion := "1",runId := "run",releaseId := "release",
    turnId:=none,operationId:=none,sequence:=n,cursor:=some eventId,
    occurredAtUnixMs:=1 }
 payload:=.object []

def firstDelivered : CallbackDelivery where
 deliveryId := "del_sub_a"
 subscriptionId := "sub"
 eventId := "a"
 runId := "run"
 sequence:=1
 cursor := "a"
 attempt:=1
 idempotencyKey := "sub:a"
 failurePolicy:=.retryThenDeadLetter
 status:=.delivered
 nextRetryAtUnixMs:=none
 deliveredAtUnixMs:=none
 acknowledgedAtUnixMs:=none
 lastError:=none
 redriveCount:=0
 lastRedriveOperator:=none
 lastRedriveReason:=none

def offerAndDeliver : List OrderedCall :=
 [.offer orderedSubscription (runProgress 1 "a"),.report firstDelivered,
  .offer orderedSubscription (runProgress 2 "b")]

theorem delivered_before_next :
  ((outstanding (history orderedStep .new offerAndDeliver)).filter fun delivery=>
   delivery.key==("sub", "run")).length≤1 :=
 (one_delivery_in_flight offerAndDeliver (by decide +kernel) offerAndDeliver
  (prefix_refl _) ("sub", "run")).1

/-- A report is about a delivery scheduled before, and does not bring a delivery to life again. -/
def Reported (past:List OrderedTransition) (delivery:CallbackDelivery) : Prop :=
 (∃scheduled∈past.filterMap scheduledBy,delivery = { scheduled with status:=delivery.status }) ∧
  (delivery.status.blocksOrderedDelivery=true → ∀t∈past,∀earlier,
   t.call=.report earlier→isSame earlier delivery=true→earlier.status.blocksOrderedDelivery=true)

/-- The first delivery is reported once more after the second was scheduled. -/
def repeatedReport : List OrderedCall :=
 offerAndDeliver ++[.report firstDelivered,.offer orderedSubscription (runProgress 3 "c")]

theorem repeated_report_unblocks : ¬ ∀calls : List OrderedCall,
   (∀(position:ℕ) (delivery:CallbackDelivery),calls[position]?=some (.report delivery) →
     Reported (history orderedStep .new (calls.take position)) delivery) →
   ∀key,((outstanding (history orderedStep .new calls)).filter fun delivery=>
    delivery.key==key).length≤1 := by
 intro h
 have bound:=h repeatedReport ?_ ("sub", "run")
 · revert bound
   decide +kernel
 · intro position delivery hposition
   have first:delivery=firstDelivered∧(position=1∨position=3):=by
    have within:position<5:=(List.getElem?_eq_some_iff.mp hposition).1
    have reports:repeatedReport[1]?=some (.report firstDelivered) ∧
      repeatedReport[3]?=some (.report firstDelivered):=⟨rfl,rfl⟩
    interval_cases position
    · cases hposition
    · cases reports.1.symm.trans hposition
      exact ⟨rfl,.inl rfl⟩
    · cases hposition
    · cases reports.2.symm.trans hposition
      exact ⟨rfl,.inr rfl⟩
    · cases hposition
   obtain ⟨rfl,places⟩:=first
   refine ⟨⟨{ firstDelivered with status:=.pending },?_,rfl⟩,?_⟩
   · rcases places with rfl|rfl <;>decide +kernel
   · intro live
     cases live

end GraphBlocks.CallbackDeliveries
