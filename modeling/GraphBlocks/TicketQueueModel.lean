import GraphBlocks.FiniteMap
import GraphBlocks.MachineRuns
import GraphBlocks.RustStd

/-! The `AdmissionTicketQueue` of the flow crate. Every public call locks `Inner`, so a call is
one transition on `Inner`; a call that returns an error keeps whatever it had already written. -/
namespace GraphBlocks.TicketQueue
open FiniteMap RustStd

inductive AdmissionTicketState where
 | queued | admitted | running | completed | failed | cancelled | expired
deriving DecidableEq

def AdmissionTicketState.isTerminal : AdmissionTicketState→Bool
 | .completed | .failed | .cancelled | .expired=>true
 | _=>false

/-- `matches!(state, Admitted | Running)`: the ticket holds a concurrency slot. -/
def AdmissionTicketState.isOccupying : AdmissionTicketState→Bool
 | .admitted | .running=>true
 | _=>false

/-- Field names of `InvalidIdentity`. -/
inductive IdentityField where
 | requestId | owner

inductive AdmissionTicketError where
 | invalidMaxConcurrent
 | invalidRateLimit
 | invalidRateWindow
 | invalidTicketTtl
 | invalidIdentity (field:IdentityField)
 | pendingCapacityExhausted (maxPending:ℕ)
 | expirationOverflow
 | identifierOverflow
 | unknownTicket (ticketId:String)
 | unknownRequest (requestId owner:String)
 | notYetIssued (ticketId:String) (createdAt attemptedAt:SystemTime)
 | invalidState (ticketId expected:String) (actual:AdmissionTicketState)
 | staleFencingToken (ticketId:String) (expected actual:ℕ)
 | invariantViolation (operation:String)

/-- A configuration only exists through `new`, which rejects zero limits. -/
structure AdmissionTicketQueueConfig where
 maxConcurrent:ℕ
 rateLimit:ℕ
 rateWindow:Duration
 maxPending:ℕ
 ticketTtl:Duration
 maxConcurrent_pos:0< maxConcurrent
 rateLimit_pos:0<rateLimit
 rateWindow_pos:0<rateWindow
 ticketTtl_pos:0<ticketTtl

def AdmissionTicketQueueConfig.new (maxConcurrent rateLimit:ℕ) (rateWindow:Duration) (maxPending:ℕ)
  (ticketTtl:Duration) : Except AdmissionTicketError AdmissionTicketQueueConfig :=
 if hc : maxConcurrent=0 then .error .invalidMaxConcurrent
 else if hr : rateLimit=0 then .error .invalidRateLimit
 else if hw : rateWindow=0 then .error .invalidRateWindow
 else if ht : ticketTtl=0 then .error .invalidTicketTtl
 else .ok ⟨maxConcurrent,rateLimit,rateWindow,maxPending,ticketTtl,
  Nat.pos_of_ne_zero hc,Nat.pos_of_ne_zero hr,Nat.pos_of_ne_zero hw,Nat.pos_of_ne_zero ht⟩

structure AdmissionTicket where
 ticketId:String
 requestId:String
 owner:String
 state:AdmissionTicketState
 createdAt:SystemTime
 expiresAt:SystemTime
 admittedAt:Option SystemTime
 runningAt:Option SystemTime
 terminalAt:Option SystemTime
 fencingToken:Option ℕ
deriving DecidableEq

structure AdmissionTicketReceipt where
 ticket:AdmissionTicket
 duplicate:Bool

structure AdmissionTicketClaim where
 ticketId:String
 requestId:String
 owner:String
 fencingToken:ℕ
 claimedAt:SystemTime
 expiresAt:SystemTime

structure AdmissionTicketMaintenance where
 expired:ℕ
 promoted:ℕ

structure AdmissionTicketQueueCounts where
 queued:ℕ
 admitted:ℕ
 running:ℕ

structure Inner where
 config:AdmissionTicketQueueConfig
 tickets:FMap String AdmissionTicket
 ticketsByRequest:FMap (String×String) String
 queued:List String
 admitted:List String
 concurrent:ℕ
 nextTicketNumber:ℕ
 nextFencingToken:ℕ
 rateWindowStartedAt:SystemTime
 rateWindowUsed:ℕ

def newAt (config:AdmissionTicketQueueConfig) (now:SystemTime) : Inner :=
 ⟨config,∅,∅,[],[],0,1,1,now,0⟩

def validateIdentity (field:IdentityField) (value:String) : Except AdmissionTicketError Unit :=
 if isBlank value||value != trim value then .error (.invalidIdentity field) else .ok ()

def ensureTicketIssued (ticket:AdmissionTicket) (attemptedAt:SystemTime) :
  Except AdmissionTicketError Unit :=
 if attemptedAt<ticket.createdAt then
  .error (.notYetIssued ticket.ticketId ticket.createdAt attemptedAt)
 else .ok ()

def restoreDeferredFront (queue:List String) (deferredCount:ℕ) : List String :=
 if deferredCount > 0 then queue.rotateRight deferredCount else queue

/-- `format!("ticket-{ticket_number:020}")`. -/
def ticketIdOf (ticketNumber:ℕ) : String := "ticket-" ++ zeroPadded 20 ticketNumber

def expires (now:SystemTime) (ticket:AdmissionTicket) : Bool :=
 !ticket.state.isTerminal&&decide (ticket.expiresAt≤now)

def expire (now:SystemTime) (ticket:AdmissionTicket) : AdmissionTicket :=
 if expires now ticket then { ticket with state:=.expired,terminalAt:=some now } else ticket

/-- Slots given back by the expiry loop of `maintain_at`. -/
def releasedCapacity (tickets:FMap String AdmissionTicket) (now:SystemTime) : ℕ :=
 countValues (fun t=>expires now t&&t.state.isOccupying) tickets

def stateIs (tickets:FMap String AdmissionTicket) (state:AdmissionTicketState)
  (ticketId:String) : Bool :=
 match tickets.lookup ticketId with
 | some ticket=>ticket.state==state
 | none=>false

def removeTerminalFromDispatchQueues (s:Inner) : Inner :=
 { s with
   queued:=s.queued.filter (stateIs s.tickets .queued)
   admitted:=s.admitted.filter (stateIs s.tickets .admitted) }

def resetRateWindow (s:Inner) (now:SystemTime) : Inner :=
 if elapsedAtLeast now s.rateWindowStartedAt s.config.rateWindow then
  { s with rateWindowStartedAt:=now,rateWindowUsed:=0 }
 else s

/-- The expiry loop over `tickets.values_mut()`; `concurrent.saturating_sub(..)` is `Nat` subtraction. -/
def expireTickets (s:Inner) (now:SystemTime) : Inner :=
 { s with
   tickets:=mapValues (expire now) s.tickets
   concurrent:=s.concurrent-releasedCapacity s.tickets now }

def pruneTicket (s:Inner) (ticketId:String) : Inner :=
 match s.tickets.lookup ticketId with
 | none=>s
 | some ticket=>
  let requestKey:=(ticket.requestId,ticket.owner)
  { s with
    tickets:=s.tickets.erase ticketId
    ticketsByRequest:=
     if s.ticketsByRequest.lookup requestKey=some ticketId then s.ticketsByRequest.erase requestKey
     else s.ticketsByRequest }

def pruneExpiredTerminalTickets (s:Inner) (now:SystemTime) : Inner :=
 (keysWhere (fun t=>t.state.isTerminal&&decide (t.expiresAt≤now)) s.tickets).foldl
  pruneTicket s

/-- The loop of `promote_at`: state, deferred tickets, promoted tickets. -/
def promoteLoop (now:SystemTime) : ℕ→Inner→ℕ→ℕ→Inner×ℕ×ℕ
 | 0, s, deferredCount, promoted=>(s,deferredCount,promoted)
 | candidates+1, s, deferredCount, promoted=>
  if s.concurrent ≥ s.config.maxConcurrent∨s.rateWindowUsed ≥ s.config.rateLimit then
   (s,deferredCount,promoted)
  else match s.queued with
   | []=>(s,deferredCount,promoted)
   | ticketId::rest=>
    match s.tickets.lookup ticketId with
    | none=>promoteLoop now candidates { s with queued:=rest } deferredCount promoted
    | some ticket=>
     if ticket.state ≠ .queued then
      promoteLoop now candidates { s with queued:=rest } deferredCount promoted
     else if ticket.createdAt > now then
      promoteLoop now candidates { s with queued:=rest++[ticketId] }
       (deferredCount+1) promoted
     else if ticket.expiresAt≤now then
      promoteLoop now candidates
       { s with
         queued:=rest
         tickets:=s.tickets.insert ticketId
          { ticket with state:=.expired,terminalAt:=some now } }
       deferredCount promoted
     else
      promoteLoop now candidates
       { s with
         queued:=rest
         tickets:=s.tickets.insert ticketId
          { ticket with state:=.admitted,admittedAt:=some now }
         concurrent:=s.concurrent+1
         rateWindowUsed:=s.rateWindowUsed+1
         admitted:=s.admitted++[ticketId] }
       deferredCount (promoted+1)

def promoteAt (s:Inner) (now:SystemTime) : ℕ×Inner :=
 let (t,deferredCount,promoted):=promoteLoop now s.queued.length s 0 0
 (promoted,{ t with queued:=restoreDeferredFront t.queued deferredCount })

def maintainAt (s:Inner) (now:SystemTime) : AdmissionTicketMaintenance×Inner :=
 let opened:=resetRateWindow s now
 let swept:=removeTerminalFromDispatchQueues (expireTickets opened now)
 let (promoted,t):=promoteAt (pruneExpiredTerminalTickets swept now) now
 (⟨countValues (expires now) opened.tickets,promoted⟩,t)

/-- The part of `admit_at` after maintenance and the duplicate lookup. -/
def issueTicket (s:Inner) (requestId owner:String) (now:SystemTime) :
  Except AdmissionTicketError AdmissionTicketReceipt×Inner :=
 match checkedAddTime now s.config.ticketTtl with
 | none=>(.error .expirationOverflow,s)
 | some expiresAt=>
  let admitNow:=decide (s.concurrent<s.config.maxConcurrent) &&
   decide (s.rateWindowUsed<s.config.rateLimit)
  if !admitNow&&decide (s.queued.length ≥ s.config.maxPending) then
   (.error (.pendingCapacityExhausted s.config.maxPending),s)
  else match checkedSucc s.nextTicketNumber with
   | none=>(.error .identifierOverflow,s)
   | some nextTicketNumber=>
    let ticketId:=ticketIdOf s.nextTicketNumber
    let ticket : AdmissionTicket:=
     { ticketId,requestId,owner,state:=if admitNow then .admitted else .queued,createdAt:=now
       expiresAt,admittedAt:=if admitNow then some now else none,runningAt:=none,terminalAt:=none
       fencingToken:=none }
    let counted:=
     if admitNow then
      { s with
        concurrent:=s.concurrent+1,rateWindowUsed:=s.rateWindowUsed+1
        admitted:=s.admitted++[ticketId] }
     else { s with queued:=s.queued++[ticketId] }
    (.ok ⟨ticket,false⟩,
     { counted with
       nextTicketNumber,ticketsByRequest:=s.ticketsByRequest.insert (requestId,owner) ticketId
       tickets:=s.tickets.insert ticketId ticket })

def registered (s:Inner) (requestId owner:String) : Option AdmissionTicket :=
 (s.ticketsByRequest.lookup (requestId,owner)).bind s.tickets.lookup

def admitAt (s:Inner) (requestId owner:String) (now:SystemTime) :
  Except AdmissionTicketError AdmissionTicketReceipt×Inner :=
 match validateIdentity .requestId requestId with
 | .error e=>(.error e,s)
 | .ok ()=>
  match validateIdentity .owner owner with
  | .error e=>(.error e,s)
  | .ok ()=>
   let m:=(maintainAt s now).2
   match registered m requestId owner with
   | some ticket=>
    match ensureTicketIssued ticket now with
    | .error e=>(.error e,m)
    | .ok ()=>(.ok ⟨ticket,true⟩,m)
   | none=>issueTicket m requestId owner now

def ticketAt (s:Inner) (ticketId:String) (now:SystemTime) :
  Except AdmissionTicketError AdmissionTicket×Inner :=
 let m:=(maintainAt s now).2
 match m.tickets.lookup ticketId with
 | none=>(.error (.unknownTicket ticketId),m)
 | some ticket=>
  match ensureTicketIssued ticket now with
  | .error e=>(.error e,m)
  | .ok ()=>(.ok ticket,m)

def ticketForAt (s:Inner) (requestId owner:String) (now:SystemTime) :
  Except AdmissionTicketError AdmissionTicket×Inner :=
 match validateIdentity .requestId requestId with
 | .error e=>(.error e,s)
 | .ok ()=>
  match validateIdentity .owner owner with
  | .error e=>(.error e,s)
  | .ok ()=>
   let m:=(maintainAt s now).2
   match registered m requestId owner with
   | none=>(.error (.unknownRequest requestId owner),m)
   | some ticket=>
    match ensureTicketIssued ticket now with
    | .error e=>(.error e,m)
    | .ok ()=>(.ok ticket,m)

/-- The loop of `claim_next_at`; the last argument is `not_yet_issued`. -/
def claimLoop (now:SystemTime) : ℕ→Inner→ℕ→Option AdmissionTicketError →
  Except AdmissionTicketError (Option AdmissionTicketClaim)×Inner
 | 0, s, deferredCount, notYetIssued=>
  let t:={ s with admitted:=restoreDeferredFront s.admitted deferredCount }
  match notYetIssued with
  | some e=>(.error e,t)
  | none=>(.ok none,t)
 | candidates+1, s, deferredCount, notYetIssued=>
  match s.admitted with
  | []=>
   let t:={ s with admitted:=restoreDeferredFront [] deferredCount }
   match notYetIssued with
   | some e=>(.error e,t)
   | none=>(.ok none,t)
  | ticketId::rest=>
   match s.tickets.lookup ticketId with
   | none=>claimLoop now candidates { s with admitted:=rest } deferredCount notYetIssued
   | some ticket=>
    if ticket.state ≠ .admitted then
     claimLoop now candidates { s with admitted:=rest } deferredCount notYetIssued
    else match ensureTicketIssued ticket now with
     | .error e=>
      claimLoop now candidates { s with admitted:=rest++[ticketId] }
       (deferredCount+1) (notYetIssued <|> some e)
     | .ok ()=>
      match checkedSucc s.nextFencingToken with
      | none=>
       (.error .identifierOverflow,
        { s with admitted:=restoreDeferredFront (ticketId::rest) deferredCount })
      | some nextFencingToken=>
       -- the second `get_mut` of the key that `get` has just found
       match s.tickets.lookup ticketId with
       | none=>
        (.error (.invariantViolation "claim admitted ticket"),
         { s with nextFencingToken,admitted:=rest })
       | some ticket=>
        (.ok (some
         { ticketId:=ticket.ticketId,requestId:=ticket.requestId,owner:=ticket.owner
           fencingToken:=s.nextFencingToken,claimedAt:=now,expiresAt:=ticket.expiresAt }),
         { s with
           nextFencingToken
           tickets:=s.tickets.insert ticketId
            { ticket with
              state:=.running,runningAt:=some now,fencingToken:=some s.nextFencingToken }
           admitted:=restoreDeferredFront rest deferredCount })

def claimNextAt (s:Inner) (now:SystemTime) :
  Except AdmissionTicketError (Option AdmissionTicketClaim)×Inner :=
 let m:=(maintainAt s now).2
 claimLoop now m.admitted.length m 0 none

/-- The guard shared by `cancel_at` and `transition_claimed_at` before maintenance. -/
def ensureKnownIssued (s:Inner) (ticketId:String) (now:SystemTime) :
  Except AdmissionTicketError Unit :=
 match s.tickets.lookup ticketId with
 | some ticket=>ensureTicketIssued ticket now
 | none=>.ok ()

def transitionClaimedAt (s:Inner) (ticketId:String) (fencingToken:ℕ)
  (terminalState:AdmissionTicketState) (now:SystemTime) :
  Except AdmissionTicketError AdmissionTicket×Inner :=
 match ensureKnownIssued s ticketId now with
 | .error e=>(.error e,s)
 | .ok ()=>
  let m:=(maintainAt s now).2
  match m.tickets.lookup ticketId with
  | none=>(.error (.unknownTicket ticketId),m)
  | some ticket=>
   if ticket.state ≠ .running then (.error (.invalidState ticketId "running" ticket.state),m)
   else match ticket.fencingToken with
    | none=>(.error (.invariantViolation "read running ticket fencing token"),m)
    | some expected=>
     if fencingToken≠expected then (.error (.staleFencingToken ticketId expected fencingToken),m)
     else match m.tickets.lookup ticketId with
      | none=>(.error (.invariantViolation "transition running ticket"),m)
      | some ticket=>
       let terminal:={ ticket with state:=terminalState,terminalAt:=some now }
       (.ok terminal,(promoteAt
        { m with tickets:=m.tickets.insert ticketId terminal,concurrent:=m.concurrent-1 } now).2)

def completeAt (s:Inner) (ticketId:String) (fencingToken:ℕ) (now:SystemTime) :
  Except AdmissionTicketError AdmissionTicket×Inner :=
 transitionClaimedAt s ticketId fencingToken .completed now

def failAt (s:Inner) (ticketId:String) (fencingToken:ℕ) (now:SystemTime) :
  Except AdmissionTicketError AdmissionTicket×Inner :=
 transitionClaimedAt s ticketId fencingToken .failed now

def cancelClaimedAt (s:Inner) (ticketId:String) (fencingToken:ℕ) (now:SystemTime) :
  Except AdmissionTicketError AdmissionTicket×Inner :=
 transitionClaimedAt s ticketId fencingToken .cancelled now

def cancelAt (s:Inner) (ticketId:String) (now:SystemTime) :
  Except AdmissionTicketError AdmissionTicket×Inner :=
 match ensureKnownIssued s ticketId now with
 | .error e=>(.error e,s)
 | .ok ()=>
  let m:=(maintainAt s now).2
  match m.tickets.lookup ticketId with
  | none=>(.error (.unknownTicket ticketId),m)
  | some ticket=>
   if ticket.state=.cancelled then (.ok ticket,m)
   else if ticket.state.isTerminal then
    (.error (.invalidState ticketId "queued, admitted, or running" ticket.state),m)
   else if ticket.state=.running then
    (.error (.invalidState ticketId
     "queued or admitted; use cancel_claimed after the worker exits" ticket.state),m)
   else
    let freed : Inner:={ m with
     concurrent:=if ticket.state=.admitted then m.concurrent-1 else m.concurrent }
    match freed.tickets.lookup ticketId with
    | none=>(.error (.invariantViolation "cancel nonterminal ticket"),freed)
    | some ticket=>
     let cancelled:={ ticket with state:=.cancelled,terminalAt:=some now }
     (.ok cancelled,(promoteAt (removeTerminalFromDispatchQueues
      { freed with tickets:=freed.tickets.insert ticketId cancelled }) now).2)

def counts (s:Inner) : AdmissionTicketQueueCounts where
 queued:=countValues (fun t=>t.state == .queued) s.tickets
 admitted:=countValues (fun t=>t.state == .admitted) s.tickets
 running:=countValues (fun t=>t.state == .running) s.tickets

def refreshAt (s:Inner) (now:SystemTime) : AdmissionTicketMaintenance×Inner := maintainAt s now

def countsAt (s:Inner) (now:SystemTime) : AdmissionTicketQueueCounts×Inner :=
 let m:=(maintainAt s now).2
 (counts m,m)

inductive Call where
 | admitAt (requestId owner:String)
 | ticketAt (ticketId:String)
 | ticketForAt (requestId owner:String)
 | claimNextAt
 | completeAt (ticketId:String) (fencingToken:ℕ)
 | failAt (ticketId:String) (fencingToken:ℕ)
 | cancelClaimedAt (ticketId:String) (fencingToken:ℕ)
 | cancelAt (ticketId:String)
 | refreshAt
 | countsAt

/-- A call together with the time its caller passes. -/
structure TimedCall where
 call:Call
 now:SystemTime

inductive Response where
 | receipt (r:Except AdmissionTicketError AdmissionTicketReceipt)
 | ticket (r:Except AdmissionTicketError AdmissionTicket)
 | claim (r:Except AdmissionTicketError (Option AdmissionTicketClaim))
 | maintenance (r:AdmissionTicketMaintenance)
 | counts (r:AdmissionTicketQueueCounts)

def step (s:Inner) (c:TimedCall) : Response×Inner :=
 match c.call with
 | .admitAt requestId owner=>(admitAt s requestId owner c.now).map .receipt id
 | .ticketAt ticketId=>(ticketAt s ticketId c.now).map .ticket id
 | .ticketForAt requestId owner=>(ticketForAt s requestId owner c.now).map .ticket id
 | .claimNextAt=>(claimNextAt s c.now).map .claim id
 | .completeAt ticketId fencingToken=>(completeAt s ticketId fencingToken c.now).map .ticket id
 | .failAt ticketId fencingToken=>(failAt s ticketId fencingToken c.now).map .ticket id
 | .cancelClaimedAt ticketId fencingToken=>
  (cancelClaimedAt s ticketId fencingToken c.now).map .ticket id
 | .cancelAt ticketId=>(cancelAt s ticketId c.now).map .ticket id
 | .refreshAt=>(refreshAt s c.now).map .maintenance id
 | .countsAt=>(countsAt s c.now).map .counts id

/-- `InvariantViolation` is the response of a call. -/
def Response.isInvariantViolation : Response→Bool
 | .receipt (.error (.invariantViolation _))=>true
 | .ticket (.error (.invariantViolation _))=>true
 | .claim (.error (.invariantViolation _))=>true
 | _=>false

end GraphBlocks.TicketQueue
