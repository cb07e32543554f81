import GraphBlocks.MachineRuns
import GraphBlocks.PythonStd
import GraphBlocks.RaisingMethods
import Mathlib.Data.Finset.Basic
import Mathlib.Data.List.Sort

/-! `AdmissionTicketQueue` of `graphblocks/admission.py`. -/
namespace GraphBlocks.PythonAdmission
open RustStd PythonStd RaisingMethods

inductive AdmissionTicketState where
 | queued | admitted | running | completed | failed | cancelled | expired
deriving DecidableEq

def AdmissionTicketState.isTerminal : AdmissionTicketState→Bool
 | .completed | .failed | .cancelled | .expired=>true
 | _=>false

def AdmissionTicketState.text : AdmissionTicketState→String
 | .queued=>"queued"
 | .admitted=>"admitted"
 | .running=>"running"
 | .completed=>"completed"
 | .failed=>"failed"
 | .cancelled=>"cancelled"
 | .expired=>"expired"

def maxAdmissionInteger : ℕ := 2^64-1

/-- `AdmissionError` and its subclasses. -/
inductive AdmissionError where
 | message (text:String)
 | queueFull (limiterId:String) (maxPending:ℕ)
 | idempotencyConflict (tenantId:Option String) (ownerId requestId:String)
 | ticketNotFound (ticketId:String)
 | staleFencingToken (ticketId:String) (expected:Option ℕ) (actual:ℕ)
 | ticketState (ticketId state operation:String)
deriving DecidableEq

/-- What a call can raise: an admission error, or an error of the queue's own structures. -/
inductive Raised where
 | admission (error:AdmissionError)
 | valueError
 | keyError
 | assertionError
deriving DecidableEq

/-- `_non_empty_string`. A Lean character is a Unicode scalar value, so the last check is void. -/
def nonEmptyString (owner fieldName value:String) : Except AdmissionError String := do
 ensure (strip value != "") (.message s!"{owner} {fieldName} must not be empty")
 ensure (value==strip value)
  (.message s!"{owner} {fieldName} must not contain surrounding whitespace")
 ensure (value.toList.all fun c => !(c.toNat<0x20||c.toNat==0x7F))
  (.message s!"{owner} {fieldName} must not contain control characters")
 pure value

def nonNegativeInteger (owner fieldName:String) (value:ℤ) : Except AdmissionError ℕ := do
 ensure (decide (0≤value∧value≤ maxAdmissionInteger))
  (.message s!"{owner} {fieldName} must be between 0 and {maxAdmissionInteger}")
 pure value.toNat

def positiveInteger (owner fieldName:String) (value:ℤ) : Except AdmissionError ℕ := do
 let parsed ← nonNegativeInteger owner fieldName value
 ensure (parsed != 0) (.message s!"{owner} {fieldName} must be positive")
 pure parsed

structure TicketFields where
 ticketId:String
 runId:String
 requestId:String
 ownerId:String
 limiterId:String
 state:AdmissionTicketState
 units:ℕ
 sequence:ℕ
 stateVersion:ℕ
 issuedAtMs:ℕ
 expiresAtMs:ℕ
 queuePosition:Option ℕ
 retryAfterMs:Option ℕ
 fencingToken:Option ℕ
 startedAtMs:Option ℕ
 completedAtMs:Option ℕ
 tenantId:Option String
deriving DecidableEq

/-- The optional text field of `AdmissionTicket.__post_init__`. -/
def optionalText (fieldName:String) : Option String→Except AdmissionError Unit
 | none=>.ok ()
 | some value=>do
  let _ ← nonEmptyString "admission ticket" fieldName value
  pure ()

/-- One optional integer field of `AdmissionTicket.__post_init__`. -/
def optionalInteger (parse:String→String→ℤ→Except AdmissionError ℕ)
  (fieldName:String) : Option ℕ→Except AdmissionError Unit
 | none=>.ok ()
 | some value=>do
  let _ ← parse "admission ticket" fieldName value
  pure ()

/-- The text fields of `AdmissionTicket.__post_init__`. -/
def TicketFields.checkTexts (t:TicketFields) : Except AdmissionError Unit := do
 let _ ← nonEmptyString "admission ticket" "ticket_id" t.ticketId
 let _ ← nonEmptyString "admission ticket" "run_id" t.runId
 let _ ← nonEmptyString "admission ticket" "request_id" t.requestId
 let _ ← nonEmptyString "admission ticket" "owner_id" t.ownerId
 let _ ← nonEmptyString "admission ticket" "limiter_id" t.limiterId
 optionalText "tenant_id" t.tenantId

/-- The integer fields of `AdmissionTicket.__post_init__`. -/
def TicketFields.checkIntegers (t:TicketFields) : Except AdmissionError Unit := do
 let _ ← positiveInteger "admission ticket" "units" t.units
 let _ ← positiveInteger "admission ticket" "sequence" t.sequence
 let _ ← positiveInteger "admission ticket" "state_version" t.stateVersion
 let _ ← nonNegativeInteger "admission ticket" "issued_at_ms" t.issuedAtMs
 let _ ← nonNegativeInteger "admission ticket" "expires_at_ms" t.expiresAtMs
 ensure (decide (t.issuedAtMs<t.expiresAtMs))
  (.message "admission ticket expires_at_ms must be after issued_at_ms")
 optionalInteger positiveInteger "queue_position" t.queuePosition
 optionalInteger nonNegativeInteger "retry_after_ms" t.retryAfterMs
 optionalInteger positiveInteger "fencing_token" t.fencingToken
 optionalInteger nonNegativeInteger "started_at_ms" t.startedAtMs
 optionalInteger nonNegativeInteger "completed_at_ms" t.completedAtMs

/-- The state against the optional fields, in `AdmissionTicket.__post_init__`. -/
def TicketFields.checkState (t:TicketFields) : Except AdmissionError Unit := do
 if t.state=.queued then
  ensure (t.queuePosition.isSome&&t.fencingToken.isNone)
   (.message "queued admission ticket requires queue_position and no fencing_token")
 else
  ensure t.queuePosition.isNone
   (.message "non-queued admission ticket must not have queue_position")
 ensure (t.state == .queued||t.retryAfterMs.isNone)
  (.message "non-queued admission ticket must not have retry_after_ms")
 ensure (!(t.state == .admitted||t.state == .running)||t.fencingToken.isSome)
  (.message "admitted or running admission ticket requires fencing_token")
 ensure (t.state != .running||t.startedAtMs.isSome)
  (.message "running admission ticket requires started_at_ms")
 ensure (!t.state.isTerminal||t.completedAtMs.isSome)
  (.message "terminal admission ticket requires completed_at_ms")
 ensure (!(t.state == .queued||t.state == .admitted)||t.startedAtMs.isNone)
  (.message "queued or admitted admission ticket must not have started_at_ms")
 ensure (t.state.isTerminal||t.completedAtMs.isNone)
  (.message "non-terminal admission ticket must not have completed_at_ms")

/-- The instants of `AdmissionTicket.__post_init__`. -/
def TicketFields.checkTimes (t:TicketFields) : Except AdmissionError Unit := do
 ensure (t.startedAtMs.all fun started=>decide (t.issuedAtMs≤ started))
  (.message "admission ticket started_at_ms must not precede issued_at_ms")
 ensure (t.completedAtMs.all fun completed=>decide (t.startedAtMs.getD t.issuedAtMs≤completed))
  (.message "admission ticket completed_at_ms must not precede its lifecycle")
 ensure (t.startedAtMs.all fun started=>decide (started<t.expiresAtMs))
  (.message "admission ticket started_at_ms must precede expires_at_ms")
 ensure (t.completedAtMs.all fun completed=>
   !(t.state == .expired&&decide (completed<t.expiresAtMs)))
  (.message "expired admission ticket completed_at_ms must not precede expires_at_ms")
 ensure (t.completedAtMs.all fun completed=>
   !(t.state != .expired&&decide (t.expiresAtMs≤completed)))
  (.message "admission ticket completed_at_ms must precede expires_at_ms")

/-- `AdmissionTicket.__post_init__`. -/
def TicketFields.check (t:TicketFields) : Except AdmissionError Unit := do
 t.checkTexts
 t.checkIntegers
 t.checkState
 t.checkTimes

/-- A ticket that its constructor has accepted. -/
structure AdmissionTicket extends TicketFields where
 checked:toTicketFields.check=.ok ()
deriving DecidableEq

/-- `AdmissionTicket(...)` and `replace(ticket, ...)`. -/
def AdmissionTicket.new (fields:TicketFields) : Except AdmissionError AdmissionTicket :=
 match h : fields.check with
 | .ok ()=>.ok ⟨fields,h⟩
 | .error e=>.error e

def TicketFields.requestKey (t:TicketFields) : Option String×String×String :=
 (t.tenantId,t.ownerId,t.requestId)

structure AdmissionSubmission where
 ticket:AdmissionTicket
 duplicate:Bool
deriving DecidableEq

structure QueueFields where
 limiterId:String
 maxConcurrent:ℕ
 rateLimit:ℕ
 windowMs:ℕ
 maxPending:ℕ
 ticketTtlMs:ℕ
 maxTerminalTickets:ℕ

/-- `AdmissionTicketQueue.__post_init__`. -/
def QueueFields.check (f:QueueFields) : Except AdmissionError Unit := do
 let _ ← nonEmptyString "admission queue" "limiter_id" f.limiterId
 let _ ← positiveInteger "admission queue" "max_concurrent" f.maxConcurrent
 let _ ← positiveInteger "admission queue" "rate_limit" f.rateLimit
 let _ ← positiveInteger "admission queue" "window_ms" f.windowMs
 let _ ← positiveInteger "admission queue" "max_pending" f.maxPending
 let _ ← positiveInteger "admission queue" "ticket_ttl_ms" f.ticketTtlMs
 let _ ← positiveInteger "admission queue" "max_terminal_tickets" f.maxTerminalTickets
 pure ()

abbrev RequestKey := Option String×String×String

structure AdmissionTicketQueue extends QueueFields where
 accepted:toQueueFields.check=.ok ()
 tickets:Dict String AdmissionTicket
 requestTickets:Dict RequestKey String
 pending:List String
 active:Finset String
 windowStartMs:Option ℕ
 windowUsed:ℕ
 nextTicket:ℕ
 nextSequence:ℕ
 nextFencingToken:ℕ

def AdmissionTicketQueue.new (fields:QueueFields) (h:fields.check=.ok ()) : AdmissionTicketQueue :=
 { fields with
   accepted:=h,tickets:=.empty,requestTickets:=.empty,pending:=[],active:=∅,windowStartMs:=none
   windowUsed:=0,nextTicket:=1,nextSequence:=1,nextFencingToken:=1 }

abbrev QueueMethod (α:Type) := Method AdmissionTicketQueue Raised α

/-- A value that the admission contract accepts, or its `AdmissionError`. -/
def accept {α:Type} (x:Except AdmissionError α) : QueueMethod α := raising .admission x

def incrementAdmissionCounter (fieldName:String) (value:ℕ) : Except AdmissionError ℕ := do
 ensure (decide (value< maxAdmissionInteger))
  (.message s!"admission queue {fieldName} counter is exhausted")
 pure (value+1)

/-- `self._tickets[ticket_id]`. -/
def ticketAt (ticketId:String) : QueueMethod AdmissionTicket := do
 let q ← get
 match q.tickets.get? ticketId with
 | some ticket=>pure ticket
 | none=>throw .keyError

def AdmissionTicketQueue.withTicket (q:AdmissionTicketQueue) (ticketId:String)
  (ticket:AdmissionTicket) : AdmissionTicketQueue :=
 { q with tickets:=q.tickets.set ticketId ticket }

def removePending (ticketId:String) : QueueMethod Unit := do
 let q ← get
 if ticketId∈q.pending then modify fun q=>{ q with pending:=q.pending.erase ticketId }
 else throw .valueError

def AdmissionTicketQueue.discardActive (q:AdmissionTicketQueue) (ticketId:String) :
  AdmissionTicketQueue :=
 { q with active:=q.active.erase ticketId }

/-- `_refresh_window_locked`. -/
def AdmissionTicketQueue.refreshed (now:ℕ) (q:AdmissionTicketQueue) : AdmissionTicketQueue :=
 if q.windowStartMs.all fun start=>decide (start+q.windowMs≤now) then
  { q with windowStartMs:=some now,windowUsed:=0 }
 else q

/-- `max(0, self._window_start_ms + self.window_ms - now_ms)`, after the assertion. -/
def retryAfter (now:ℕ) : QueueMethod ℕ := do
 let q ← get
 match q.windowStartMs with
 | some start=>pure (start+q.windowMs-now)
 | none=>throw .assertionError

/-- `_evict_terminal_locked`. -/
def AdmissionTicketQueue.evicted (q:AdmissionTicketQueue) (ticketId:String) :
  AdmissionTicketQueue :=
 match q.tickets.get? ticketId with
 | none=>q
 | some ticket=>
  if ticket.state.isTerminal then
   { q with
     tickets:=q.tickets.pop ticketId
     requestTickets:=
      if q.requestTickets.get? ticket.requestKey=some ticketId then
       q.requestTickets.pop ticket.requestKey
      else q.requestTickets }
  else q

def AdmissionTicketQueue.terminalRetentionExpired (q:AdmissionTicketQueue)
  (ticket:AdmissionTicket) (now:ℕ) : Bool :=
 ticket.state.isTerminal &&
  ticket.completedAtMs.any fun completed=>decide ((completed:ℤ)≤now-q.ticketTtlMs)

def retentionOrder (a b:AdmissionTicket) : Prop :=
 toLex (a.completedAtMs.getD 0,a.sequence)≤toLex (b.completedAtMs.getD 0,b.sequence)

instance : DecidableRel retentionOrder := fun _ _=>inferInstanceAs (Decidable (_≤_))

/-- `terminal_tickets` of `_prune_terminal_locked`. -/
def AdmissionTicketQueue.terminalTickets (q:AdmissionTicketQueue) : List AdmissionTicket :=
 (q.tickets.values.filter fun t=>t.state.isTerminal).insertionSort retentionOrder

def AdmissionTicketQueue.evictRetained (now:ℕ) (q:AdmissionTicketQueue)
  (ticket:AdmissionTicket) : AdmissionTicketQueue :=
 if q.terminalRetentionExpired ticket now then q.evicted ticket.ticketId else q

/-- `_prune_terminal_locked`. -/
def AdmissionTicketQueue.pruned (now:ℕ) (q:AdmissionTicketQueue) : AdmissionTicketQueue :=
 let terminalTickets:=q.terminalTickets
 let q':=terminalTickets.foldl (AdmissionTicketQueue.evictRetained now) q
 let retained:=terminalTickets.filter fun t=>(q'.tickets.get? t.ticketId).isSome
 let overflow:=retained.length-q'.maxTerminalTickets
 (retained.take overflow).foldl (fun q t=>q.evicted t.ticketId) q'

/-- The loop of `_reindex_locked`. -/
def reindexLoop (now:ℕ) : ℕ→ℕ→List String→QueueMethod Unit
 | _, _, []=>pure ()
 | position, projectedUsed, ticketId::rest=>do
  let ticket ← ticketAt ticketId
  let q ← get
  let retryAfterMs ←
   if q.rateLimit<projectedUsed+ticket.units then some <$> retryAfter now else pure none
  if ticket.queuePosition≠some position∨ticket.retryAfterMs≠retryAfterMs then
   let stateVersion ← accept (incrementAdmissionCounter "state version" ticket.stateVersion)
   let replaced ← accept (AdmissionTicket.new
    { ticket.toTicketFields with
      stateVersion,queuePosition:=some position,retryAfterMs:=retryAfterMs })
   modify fun q=>q.withTicket ticketId replaced
  reindexLoop now (position+1) (projectedUsed+ticket.units) rest

/-- `_reindex_locked`. -/
def reindex (now:ℕ) : QueueMethod Unit := do
 modify (AdmissionTicketQueue.refreshed now)
 let q ← get
 reindexLoop now 1 q.windowUsed q.pending

/-- The loop of `_promote_locked`; its argument is the queue of pending ids, which it shortens. -/
def promoteLoop (now:ℕ) : List String→QueueMethod (List AdmissionTicket)
 | []=>pure []
 | ticketId::rest=>do
  let q ← get
  if q.maxConcurrent≤q.active.card then return []
  let ticket ← ticketAt ticketId
  if now<ticket.issuedAtMs then return []
  if q.rateLimit<q.windowUsed+ticket.units then return []
  let stateVersion ← accept (incrementAdmissionCounter "state version" ticket.stateVersion)
  let nextFencingToken ← accept (incrementAdmissionCounter "fencing token" q.nextFencingToken)
  modify fun q=>{ q with pending:=q.pending.tail,nextFencingToken:=nextFencingToken }
  let admitted ← accept (AdmissionTicket.new
   { ticket.toTicketFields with
     state:=.admitted,stateVersion,queuePosition:=none,retryAfterMs:=none
     fencingToken:=some q.nextFencingToken })
  modify fun q=>
   { q.withTicket ticketId admitted with
     active:=insert ticketId q.active,windowUsed:=q.windowUsed+ticket.units }
  let promoted ← promoteLoop now rest
  return admitted::promoted

def promoteLocked (now:ℕ) : QueueMethod (List AdmissionTicket) := do
 modify (AdmissionTicketQueue.refreshed now)
 let q ← get
 let promoted ← promoteLoop now q.pending
 reindex now
 return promoted

/-- The loop of `_expire_locked` over a copy of the items of the table. -/
def expireLoop (now:ℕ) : List (String×AdmissionTicket)→QueueMethod (List AdmissionTicket)
 | []=>pure []
 | (ticketId,ticket)::rest=>do
  if ticket.state.isTerminal∨now<ticket.expiresAtMs then expireLoop now rest
  else
   let stateVersion ← accept (incrementAdmissionCounter "state version" ticket.stateVersion)
   if ticket.state=.queued then removePending ticketId
   else modify fun q=>q.discardActive ticketId
   let terminal ← accept (AdmissionTicket.new
    { ticket.toTicketFields with
      state:=.expired,stateVersion,queuePosition:=none,retryAfterMs:=none,completedAtMs:=some now })
   modify fun q=>q.withTicket ticketId terminal
   let expired ← expireLoop now rest
   return terminal::expired

def sequenceOrder (a b:AdmissionTicket) : Prop := a.sequence≤b.sequence

instance : DecidableRel sequenceOrder := fun _ _=>inferInstanceAs (Decidable (_≤_))

def expireLocked (now:ℕ) : QueueMethod (List AdmissionTicket) := do
 let q ← get
 let expired ← expireLoop now q.tickets.items
 reindex now
 modify (AdmissionTicketQueue.pruned now)
 return expired.insertionSort sequenceOrder

/-- `_validate_mutation_time_locked`. -/
def validateMutationTime (ticket:AdmissionTicket) (now:ℕ) (operation:String) :
  Except AdmissionError Unit :=
 ensure (decide (ticket.issuedAtMs≤now))
  (.ticketState ticket.ticketId ticket.state.text (operation ++ " before issuance"))

/-- `_validate_fencing_locked`. -/
def validateFencing (ticket:AdmissionTicket) (fencingToken:ℕ) : Except AdmissionError Unit :=
 ensure (ticket.fencingToken==some fencingToken)
  (.staleFencingToken ticket.ticketId ticket.fencingToken fencingToken)

def getTicket (ticketId:String) : QueueMethod AdmissionTicket := do
 let ticketId ← accept (nonEmptyString "admission queue" "ticket_id" ticketId)
 let q ← get
 match q.tickets.get? ticketId with
 | some ticket=>pure ticket
 | none=>throw (.admission (.ticketNotFound ticketId))

/-- `f"{self.limiter_id}-ticket-{self._next_ticket:06d}"`. -/
def ticketIdOf (limiterId:String) (number:ℕ) : String :=
 limiterId ++ "-ticket-" ++ zeroPadded 6 number

/-- The validated arguments of `submit`. -/
structure AdmissionRequest where
 runId:String
 requestId:String
 ownerId:String
 tenantId:Option String
 now:ℕ
 units:ℕ

def AdmissionRequest.key (r:AdmissionRequest) : RequestKey := (r.tenantId,r.ownerId,r.requestId)

/-- The end of `submit`, from `can_admit` on. -/
def submitNew (r:AdmissionRequest) : QueueMethod AdmissionSubmission := do
 modify (AdmissionTicketQueue.refreshed r.now)
 let q ← get
 let canAdmit:=q.pending.isEmpty&&decide (q.active.card<q.maxConcurrent) &&
  decide (q.windowUsed+r.units≤q.rateLimit)
 if !canAdmit&&decide (q.maxPending≤q.pending.length) then
  throw (.admission (.queueFull q.limiterId q.maxPending))
 let ticketId:=ticketIdOf q.limiterId q.nextTicket
 let nextTicket ← accept (incrementAdmissionCounter "ticket" q.nextTicket)
 let nextSequence ← accept (incrementAdmissionCounter "sequence" q.nextSequence)
 let retryAfterMs ←
  if canAdmit then do
   let nextFencingToken ←
    accept (incrementAdmissionCounter "fencing token" q.nextFencingToken)
   modify fun q=>
    { q with nextFencingToken,active:=insert ticketId q.active,windowUsed:=q.windowUsed+r.units }
   pure none
  else if q.rateLimit<q.windowUsed+r.units then some <$> retryAfter r.now
  else pure none
 modify fun q=>{ q with nextTicket:=nextTicket,nextSequence:=nextSequence }
 let ticket ← accept (AdmissionTicket.new
  { ticketId,runId:=r.runId,requestId:=r.requestId,ownerId:=r.ownerId,tenantId:=r.tenantId
    limiterId:=q.limiterId,state:=if canAdmit then .admitted else .queued,units:=r.units
    sequence:=q.nextSequence,stateVersion:=1,issuedAtMs:=r.now,expiresAtMs:=r.now+q.ticketTtlMs
    queuePosition:=if canAdmit then none else some (q.pending.length+1),retryAfterMs
    fencingToken:=if canAdmit then some q.nextFencingToken else none,startedAtMs:=none
    completedAtMs:=none })
 modify fun q=>
  { q.withTicket ticketId ticket with requestTickets:=q.requestTickets.set r.key ticketId }
 if canAdmit then return ⟨ticket,false⟩
 modify fun q=>{ q with pending:=q.pending++[ticketId] }
 reindex r.now
 let ticket ← ticketAt ticketId
 return ⟨ticket,false⟩

/-- The checks of `submit` against the ticket that the request already has. -/
def checkExisting (r:AdmissionRequest) : QueueMethod Unit := do
 let q ← get
 match q.requestTickets.get? r.key with
 | none=>pure ()
 | some existingId=>do
  let existing ← ticketAt existingId
  if existing.runId≠r.runId∨existing.units≠r.units then
   throw (.admission (.idempotencyConflict r.tenantId r.ownerId r.requestId))
  accept (validateMutationTime existing r.now "resubmit")

/-- The ticket that answers a repeated request, if it is not forgotten. -/
def reuseExisting (r:AdmissionRequest) : QueueMethod (Option AdmissionTicket) := do
 let q ← get
 match q.requestTickets.get? r.key with
 | none=>pure none
 | some existingId=>do
  let existing ← ticketAt existingId
  if existing.state=.expired∨existing.state=.failed then do
   modify fun q=>q.evicted existingId
   pure none
  else if q.terminalRetentionExpired existing r.now then do
   modify fun q=>q.evicted existingId
   pure none
  else pure (some existing)

/-- The locked part of `submit`. -/
def submitLocked (r:AdmissionRequest) : QueueMethod AdmissionSubmission := do
 checkExisting r
 let _ ← expireLocked r.now
 let _ ← promoteLocked r.now
 match ← reuseExisting r with
 | some existing=>return ⟨existing,true⟩
 | none=>
  modify (AdmissionTicketQueue.pruned r.now)
  submitNew r

/-- The part of `submit` after the checks of its texts. -/
def submitWithin (runId requestId ownerId:String) (tenantId:Option String)
  (nowMs units:ℤ) : QueueMethod AdmissionSubmission := do
 let now ← accept (nonNegativeInteger "admission request" "now_ms" nowMs)
 let units ← accept (positiveInteger "admission request" "units" units)
 let q ← get
 accept (ensure (decide (units≤q.rateLimit))
  (.message "admission request units must not exceed rate_limit"))
 accept (ensure (decide ((now:ℤ)≤ maxAdmissionInteger-q.ticketTtlMs))
  (.message "admission request expiry exceeds the supported integer range"))
 submitLocked ⟨runId,requestId,ownerId,tenantId,now,units⟩

/-- `AdmissionTicketQueue.submit`. -/
def submit (runId requestId ownerId:String) (tenantId:Option String) (nowMs units:ℤ) :
  QueueMethod AdmissionSubmission := do
 let runId ← accept (nonEmptyString "admission request" "run_id" runId)
 let requestId ← accept (nonEmptyString "admission request" "request_id" requestId)
 let ownerId ← accept (nonEmptyString "admission request" "owner_id" ownerId)
 let tenantId ← match tenantId with
  | none=>pure none
  | some tenantId=>some <$> accept (nonEmptyString "admission request" "tenant_id" tenantId)
 submitWithin runId requestId ownerId tenantId nowMs units

def promote (nowMs:ℤ) : QueueMethod (List AdmissionTicket) := do
 let now ← accept (nonNegativeInteger "admission queue" "now_ms" nowMs)
 let _ ← expireLocked now
 let promoted ← promoteLocked now
 modify (AdmissionTicketQueue.pruned now)
 return promoted

def markRunning (ticketId:String) (fencingToken nowMs:ℤ) : QueueMethod AdmissionTicket := do
 let ticketId ← accept (nonEmptyString "admission queue" "ticket_id" ticketId)
 let fencingToken ← accept (positiveInteger "admission queue" "fencing_token" fencingToken)
 let now ← accept (nonNegativeInteger "admission queue" "now_ms" nowMs)
 let ticket ← getTicket ticketId
 accept (validateMutationTime ticket now "start")
 let _ ← expireLocked now
 let ticket ← getTicket ticketId
 accept (validateFencing ticket fencingToken)
 if ticket.state=.running then return ticket
 if ticket.state ≠ .admitted then
  throw (.admission (.ticketState ticketId ticket.state.text "start"))
 let stateVersion ← accept (incrementAdmissionCounter "state version" ticket.stateVersion)
 let running ← accept (AdmissionTicket.new
  { ticket.toTicketFields with state:=.running,stateVersion,startedAtMs:=some now })
 modify fun q=>q.withTicket ticketId running
 modify (AdmissionTicketQueue.pruned now)
 return running

def complete (ticketId:String) (fencingToken:ℤ) (state:AdmissionTicketState) (nowMs:ℤ) :
  QueueMethod (AdmissionTicket×List AdmissionTicket) := do
 let ticketId ← accept (nonEmptyString "admission queue" "ticket_id" ticketId)
 let fencingToken ← accept (positiveInteger "admission queue" "fencing_token" fencingToken)
 let now ← accept (nonNegativeInteger "admission queue" "now_ms" nowMs)
 accept (ensure (state == .completed||state == .failed)
  (.message "admission completion state must be completed or failed"))
 let ticket ← getTicket ticketId
 accept (validateMutationTime ticket now "complete")
 let _ ← expireLocked now
 let ticket ← getTicket ticketId
 accept (validateFencing ticket fencingToken)
 if ticket.state ≠ .admitted∧ticket.state ≠ .running then
  throw (.admission (.ticketState ticketId ticket.state.text "complete"))
 let stateVersion ← accept (incrementAdmissionCounter "state version" ticket.stateVersion)
 let terminal ← accept (AdmissionTicket.new
  { ticket.toTicketFields with state,stateVersion,completedAtMs:=some now })
 modify fun q=>(q.withTicket ticketId terminal).discardActive ticketId
 let promoted ← promoteLocked now
 modify (AdmissionTicketQueue.pruned now)
 return (terminal,promoted)

/-- The part of `cancel` after its checks. -/
def cancelLive (ticketId:String) (ticket:AdmissionTicket) (state:AdmissionTicketState)
  (now:ℕ) : QueueMethod (AdmissionTicket×List AdmissionTicket) := do
 let stateVersion ← accept (incrementAdmissionCounter "state version" ticket.stateVersion)
 if ticket.state=.queued then removePending ticketId
 else modify fun q=>q.discardActive ticketId
 let cancelled ← accept (AdmissionTicket.new
  { ticket.toTicketFields with
    state,stateVersion,queuePosition:=none,retryAfterMs:=none,completedAtMs:=some now })
 modify fun q=>q.withTicket ticketId cancelled
 reindex now
 let promoted ← promoteLocked now
 modify (AdmissionTicketQueue.pruned now)
 return (cancelled,promoted)

/-- The locked part of `cancel`. -/
def cancelLocked (ticketId:String) (now:ℕ) (state:AdmissionTicketState)
  (fencingToken:Option ℕ) : QueueMethod (AdmissionTicket×List AdmissionTicket) := do
 let ticket ← getTicket ticketId
 accept (validateMutationTime ticket now "cancel")
 let _ ← expireLocked now
 let ticket ← getTicket ticketId
 if ticket.state.isTerminal then
  modify (AdmissionTicketQueue.pruned now)
  return (ticket,[])
 if ticket.state=.running then
  match fencingToken with
  | none=>
   throw (.admission (.ticketState ticketId ticket.state.text
    "cancel without a post-worker fencing token"))
  | some token=>accept (validateFencing ticket token)
 cancelLive ticketId ticket state now

def cancel (ticketId:String) (nowMs:ℤ) (state:AdmissionTicketState)
  (fencingToken:Option ℤ) : QueueMethod (AdmissionTicket×List AdmissionTicket) := do
 let ticketId ← accept (nonEmptyString "admission queue" "ticket_id" ticketId)
 let now ← accept (nonNegativeInteger "admission queue" "now_ms" nowMs)
 accept (ensure (state == .cancelled||state == .expired)
  (.message "admission cancellation state must be cancelled or expired"))
 let fencingToken ← match fencingToken with
  | none=>pure none
  | some token=>some <$> accept (positiveInteger "admission queue" "fencing_token" token)
 cancelLocked ticketId now state fencingToken

def expire (nowMs:ℤ) : QueueMethod (List AdmissionTicket) := do
 let now ← accept (nonNegativeInteger "admission queue" "now_ms" nowMs)
 let expired ← expireLocked now
 modify (AdmissionTicketQueue.pruned now)
 return expired

/-- The mutating calls of the queue. -/
inductive Call where
 | submit (runId requestId ownerId:String) (tenantId:Option String) (nowMs units:ℤ)
 | promote (nowMs:ℤ)
 | markRunning (ticketId:String) (fencingToken nowMs:ℤ)
 | complete (ticketId:String) (fencingToken:ℤ) (state:AdmissionTicketState) (nowMs:ℤ)
 | cancel (ticketId:String) (nowMs:ℤ) (state:AdmissionTicketState)
   (fencingToken:Option ℤ)
 | expire (nowMs:ℤ)

inductive Reply where
 | submission (submission:AdmissionSubmission)
 | ticket (ticket:AdmissionTicket)
 | tickets (tickets:List AdmissionTicket)
 | settled (ticket:AdmissionTicket) (promoted:List AdmissionTicket)
deriving DecidableEq

def perform : Call→QueueMethod Reply
 | .submit runId requestId ownerId tenantId nowMs units=>
  .submission <$> submit runId requestId ownerId tenantId nowMs units
 | .promote nowMs=>.tickets <$> promote nowMs
 | .markRunning ticketId fencingToken nowMs=>.ticket <$> markRunning ticketId fencingToken nowMs
 | .complete ticketId fencingToken state nowMs=>
  (fun r=>.settled r.1 r.2) <$> complete ticketId fencingToken state nowMs
 | .cancel ticketId nowMs state fencingToken=>
  (fun r=>.settled r.1 r.2) <$> cancel ticketId nowMs state fencingToken
 | .expire nowMs=>.tickets <$> expire nowMs

def step (q:AdmissionTicketQueue) (call:Call) : Except Raised Reply×AdmissionTicketQueue :=
 (perform call).on q

/-- The time argument of a call. -/
def Call.nowMs : Call→ℤ
 | .submit _ _ _ _ nowMs _=>nowMs
 | .promote nowMs=>nowMs
 | .markRunning _ _ nowMs=>nowMs
 | .complete _ _ _ nowMs=>nowMs
 | .cancel _ nowMs _ _=>nowMs
 | .expire nowMs=>nowMs

end GraphBlocks.PythonAdmission
