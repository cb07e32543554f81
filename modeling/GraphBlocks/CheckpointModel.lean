import GraphBlocks.FiniteMap
import GraphBlocks.JsonValue
import GraphBlocks.RustStd

/-! `InProcessRuntime.run` as far as it concerns checkpoints: the map of state digests that says
which checkpoints are open, the admission of a resume, its claim, and the checkpoints that runs
issue. -/
namespace GraphBlocks.Checkpoints
open FiniteMap Json RustStd

/-- `str.isspace` of one character. -/
def isSpace (c:Char) : Bool :=
 let n:=c.toNat
 isWhitespace c||(0x1C≤n&&n≤0x1F)

def strip (s:String) : String :=
 String.ofList ((s.toList.dropWhile isSpace).reverse.dropWhile isSpace).reverse

/-- `mapping.get(key)`: `None` for a missing key. -/
def getItem (v:Value) (key:String) : Value := (v.get key).getD .null

def isMapping : Value→Bool
 | .object _=>true
 | _=>false

/-- A string that is not empty and has no blanks around it. -/
def isExactText : Value→Bool
 | .string s=>s != "" && s==strip s
 | _=>false

def asInteger : Value→Option ℤ
 | .number ('-' :: digits)=>
  if !digits.isEmpty&&digits.all Char.isDigit then some (-(Nat.ofDigitChars 10 digits 0:ℕ))
  else none
 | .number digits=>
  if !digits.isEmpty&&digits.all Char.isDigit then some (Nat.ofDigitChars 10 digits 0:ℕ)
  else none
 | _=>none

/-- `RuntimeCheckpoint`. -/
structure RuntimeCheckpoint where
 checkpointId:String
 runId:String
 graphHash:String
 waitNode:String
 remainingNodes:List String
 inputs:Value
 nodeOutputs:Value
 outputValues:Value
 operation:Value
 stateDigest:String

/-- What the admission reads of a compiled graph. -/
structure Plan where
 graphHash:String
 nodes:Members

/-- The collaborators of a runtime. A verifier without an answer has raised an exception. -/
structure Collaborators where
 checkpointAuthorityVerifier:Option (RuntimeCheckpoint→String→Option Bool)
 callbackReceiptVerifier:Option (Value→RuntimeCheckpoint→String→String→Option Bool)
 canonicalDumps:Value→Except String String
 canonicalLoads:String→Except String Value
 canonicalHash:Value→String

/-- The arguments of a call that resumes. The plan is what the checks of the provenance and the
compilation give, or the message with which they fail. -/
structure ResumeCall where
 plan:Except String Plan
 inputs:Value
 runId:String
 releaseDigest:Option String
 checkpoint:RuntimeCheckpoint
 callbackReceipt:Value

def textItems (items:List String) : Value := .array (items.map .string)

def RuntimeCheckpoint.contentDigest (collaborators:Collaborators) (c:RuntimeCheckpoint) : String :=
 collaborators.canonicalHash (.object [("checkpoint_id",.string c.checkpointId),
  ("run_id",.string c.runId),("graph_hash",.string c.graphHash),
  ("wait_node",.string c.waitNode),("remaining_nodes",textItems c.remainingNodes),
  ("inputs",c.inputs),("node_outputs",c.nodeOutputs),("output_values",c.outputValues),
  ("operation",c.operation)])

def memberNames : Value→List String
 | .object members=>members.map Prod.fst
 | _=>[]

/-- The checks before the digest is read. -/
def identityChecks (call:ResumeCall) : Except String Plan := do
 let plan ← call.plan
 ensure (call.checkpoint.runId==call.runId)
  "runtime checkpoint run_id must match requested run_id"
 ensure (call.checkpoint.graphHash==plan.graphHash)
  "runtime checkpoint graph_hash must match compiled graph"
 ensure (isMapping call.callbackReceipt) "runtime checkpoint resume requires callback_receipt"
 return plan

section
variable (collaborators:Collaborators) (call:ResumeCall) (plan:Plan)

def stateChecks (expected:Option String) : Except String Unit := do
 ensure (expected.isSome &&
   call.checkpoint.contentDigest collaborators==call.checkpoint.stateDigest &&
   some call.checkpoint.stateDigest==expected)
  "runtime checkpoint state does not match the issuing runtime"
 let given ← collaborators.canonicalDumps call.inputs
 let original ← collaborators.canonicalDumps call.checkpoint.inputs
 ensure (given==original)
  "runtime checkpoint inputs must match original run inputs"

def graphChecks : Except String Unit := do
 let names:=plan.nodes.map Prod.fst
 let remaining:=call.checkpoint.remainingNodes
 let completed:=memberNames call.checkpoint.nodeOutputs
 ensure (remaining.all names.contains)
  "runtime checkpoint remaining_nodes must belong to compiled graph"
 ensure (((plan.nodes.lookup call.checkpoint.waitNode).any fun node=>
   isMapping node&&getItem node "block" == .string "async.await_callback@1"))
  "runtime checkpoint wait_node must be async.await_callback@1"
 ensure (completed.all (fun name=>names.contains name && !remaining.contains name) &&
   names.all fun name=>remaining.contains name||completed.contains name)
  "runtime checkpoint completed node outputs must match remaining nodes"

def expectedReleaseDigest : String := call.releaseDigest.getD plan.graphHash

def verifierChecks (expected:String) : Except String Unit :=
 match collaborators.callbackReceiptVerifier with
 | none=>.error "runtime checkpoint resume requires a trusted callback_receipt_verifier"
 | some verifier=>
  match verifier call.callbackReceipt call.checkpoint expected
    (expectedReleaseDigest call plan) with
  | none=>.error "runtime callback_receipt trusted verifier failed"
  | some false=>.error "runtime callback_receipt was rejected by the trusted verifier"
  | some true=>.ok ()

def matchField (receipt operation:Value) (fields:String×String) : Except String Unit :=
 ensure (getItem receipt fields.1==getItem operation fields.2)
  ("runtime callback_receipt " ++ fields.1 ++ " must match checkpoint operation")

def isAuthenticated (v:Value) : Bool := isExactText v&&v != .string "unauthenticated"

def bindingChecks (receipt operation:Value) : Except String Unit := do
 ensure (isAuthenticated (getItem receipt "verified_by"))
  "runtime callback_receipt verified_by must identify an authenticated principal"
 [("operation_id", "operation_id"),("run_id", "run_id"),("node_id", "node_id"),
  ("attempt_id", "attempt_id"),("provider_operation_id", "provider_operation_id"),
  ("operation_idempotency_key", "idempotency_key"),
  ("resume_token_hash", "resume_token_hash"),("schema_id", "expected_schema")].forM
   (matchField receipt operation)
 ensure (isExactText (getItem receipt "callback_idempotency_key"))
  "runtime callback_receipt callback_idempotency_key must be an exact non-empty string"
 ensure (getItem receipt "schema_validated" == .bool true)
  "runtime callback_receipt must carry successful schema validation evidence"

def canonicalPayload (payload:Value) : Except String Value :=
 match collaborators.canonicalDumps payload >>= collaborators.canonicalLoads with
 | .ok v=>.ok v
 | .error _=>.error "runtime callback_receipt payload must contain only JSON values"

def payloadChecks (receipt:Value) : Except String Unit := do
 ensure (isMapping (getItem receipt "payload"))
  "runtime callback_receipt payload must be a JSON object"
 let payload ← canonicalPayload collaborators (getItem receipt "payload")
 ensure (getItem receipt "payload_digest" == .string (collaborators.canonicalHash payload))
  "runtime callback_receipt payload_digest must match payload"

def timeChecks (receipt operation:Value) : Except String Unit := do
 let receivedAt:=asInteger (getItem receipt "received_at_unix_ms")
 ensure (receivedAt.any fun t=>1≤t)
  "runtime callback_receipt received_at_unix_ms must be a positive integer"
 ensure ((asInteger (getItem operation "submitted_at_unix_ms")).all fun submitted=>
   receivedAt.all fun t=>submitted≤t)
  "runtime callback_receipt must not precede operation submission"
 ensure ((asInteger (getItem operation "expires_at_unix_ms")).all fun expires=>
   receivedAt.all fun t=>t<expires)
  "runtime callback_receipt must be before operation expiration"

def trustedAdmission (receipt operation admission:Value) (expected:String) : Bool :=
 let ownership:=getItem admission "ownership"
 let verification:=getItem admission "schema_verification"
 getItem admission "outcome" == .string "authorized" &&
 (["authentication_decision_id","policy_decision_id","budget_reservation_id",
  "compatible_release_digest","run_id","operation_id","node_id","attempt_id",
  "checkpoint_id","checkpoint_state_digest"].all fun name=>isExactText (getItem admission name)) &&
 isMapping ownership &&
 (["owner_id","lease_id","fence_token"].all fun name=>isExactText (getItem ownership name)) &&
 isMapping verification &&
 (["verification_id","schema_id","payload_digest","verified_by"].all fun name=>
  isExactText (getItem verification name)) &&
 ((asInteger (getItem ownership "fencing_epoch")).any fun epoch=>1≤epoch) &&
 getItem admission "compatible_release_digest" == .string (expectedReleaseDigest call plan) &&
 getItem admission "run_id" == .string call.runId &&
 (["operation_id","node_id","attempt_id"].all fun name=>
  getItem admission name==getItem operation name) &&
 getItem admission "checkpoint_id" == .string call.checkpoint.checkpointId &&
 getItem admission "checkpoint_state_digest" == .string expected &&
 getItem verification "schema_id" == getItem receipt "schema_id" &&
 getItem verification "payload_digest" == getItem receipt "payload_digest" &&
 getItem verification "verified_by" == getItem receipt "verified_by"

def admissionChecks (receipt operation:Value) (expected:String) : Except String Unit := do
 let admission:=getItem receipt "resume_admission"
 ensure (isMapping admission)
  "runtime callback_receipt requires policy, budget, release, and ownership resume admission"
 if getItem admission "contract" == .string "graphblocks.trusted-callback-resume-admission.v1" then
  ensure (trustedAdmission call plan receipt operation admission expected)
   "runtime callback_receipt trusted resume admission is invalid"
 else
  ensure (["policy_reevaluated","budget_reserved","release_compatible",
    "ownership_fenced"].all fun name=>getItem admission name == .bool true)
   "runtime callback_receipt requires policy, budget, release, and ownership resume admission"

/-- The checks of the checkpoint against the digest that was found and against the graph. -/
def checkpointChecks (expected:Option String) : Except String Unit := do
 stateChecks collaborators call expected
 graphChecks call plan

def receiptChecks : Except String Unit := do
 verifierChecks collaborators call plan call.checkpoint.stateDigest
 bindingChecks call.callbackReceipt call.checkpoint.operation
 payloadChecks collaborators call.callbackReceipt
 timeChecks call.callbackReceipt call.checkpoint.operation
 admissionChecks call plan call.callbackReceipt call.checkpoint.operation
  call.checkpoint.stateDigest
 ensure (call.checkpoint.remainingNodes.contains call.checkpoint.waitNode)
  "runtime checkpoint wait_node must remain pending"
end

inductive Outcome where
 | rejected (message:String)
 | raised
 | finished

inductive Phase where
 | entered (call:ResumeCall) (plan:Plan)
 | restoring (call:ResumeCall) (plan:Plan)
 | admitting (call:ResumeCall) (plan:Plan) (expected:Option String)
 | claimed (call:ResumeCall)
 | running (runId:String)
 | materializing (runId node:String) (sequence:ℕ)
 | suspended (runId node:String) (sequence:ℕ)
 | returned (outcome:Outcome)

/-- How a checkpoint came into the map. -/
inductive Origin where
 | issued | vouched

/-- What happened on a runtime so far. -/
inductive Event where
 | registered (origin:Origin) (checkpointId digest:String)
 | resumed (call:ℕ) (checkpointId:String)

structure Runtime where
 checkpointStateDigests:FMap String String
 nextCheckpointSequence:ℕ
 calls:List Phase
 log:List Event

def Runtime.new : Runtime := ⟨∅,1,[],[]⟩

/-- The answers from outside at a step: whether what the call does next goes through, and what
the loop over the nodes comes to. -/
inductive Choice where
 | succeeds
 | fails
 | storeFails
 | waitsAt (node:String)
 | digestIs (digest:String)

inductive Action where
 | run (runId:String)
 | resume (call:ResumeCall)
 | proceed (index:ℕ) (choice:Choice)

def checkpointIdOf (runId node:String) (sequence:ℕ) : String :=
 runId ++ ":" ++ node ++ ":" ++ toString sequence

/-- `dict.setdefault`, the map after it. -/
def setDefault (m:FMap String String) (key value:String) : FMap String String :=
 if (m.lookup key).isSome then m else m.insert key value

namespace Runtime

variable (s:Runtime)

def setCall (index:ℕ) (phase:Phase) : Runtime :=
 { s with calls:=s.calls.set index phase }

def reject (index:ℕ) (message:String) : Runtime := s.setCall index (.returned (.rejected message))

/-- The digest is read; a runtime without an authority goes on with what it found. -/
def readDigest (collaborators:Collaborators) (index:ℕ) (call:ResumeCall) (plan:Plan) : Runtime :=
 match s.checkpointStateDigests.lookup call.checkpoint.checkpointId,
   collaborators.checkpointAuthorityVerifier with
 | none, some _=>s.setCall index (.restoring call plan)
 | expected, _=>s.setCall index (.admitting call plan expected)

/-- The authority has vouched for the checkpoint: `setdefault` and its result. -/
def restore (index:ℕ) (call:ResumeCall) (plan:Plan) : Runtime :=
 let c:=call.checkpoint
 match s.checkpointStateDigests.lookup c.checkpointId with
 | some digest=>s.setCall index (.admitting call plan (some digest))
 | none=>
  { s with
    checkpointStateDigests:=s.checkpointStateDigests.insert c.checkpointId c.stateDigest
    log:=s.log++[Event.registered .vouched c.checkpointId c.stateDigest]
  }.setCall index (.admitting call plan (some c.stateDigest))

def askAuthority (collaborators:Collaborators) (index:ℕ) (call:ResumeCall) (plan:Plan) : Runtime :=
 match collaborators.checkpointAuthorityVerifier.bind fun verifier=>
   verifier call.checkpoint plan.graphHash with
 | none=>s.reject index "runtime checkpoint trusted authority failed"
 | some false=>s.reject index "runtime checkpoint was rejected by the trusted authority"
 | some true=>s.restore index call plan

/-- The digest is taken out of the map; whoever finds it there has the checkpoint. -/
def claim (index:ℕ) (call:ResumeCall) : Runtime :=
 let id:=call.checkpoint.checkpointId
 let after:={ s with checkpointStateDigests:=s.checkpointStateDigests.erase id }
 if s.checkpointStateDigests.lookup id=some call.checkpoint.stateDigest then
  after.setCall index (.claimed call)
 else after.reject index "runtime checkpoint state does not match the issuing runtime"

def admitResume (collaborators:Collaborators) (index:ℕ) (call:ResumeCall) (plan:Plan)
  (expected:Option String) (choice:Choice) : Runtime :=
 match checkpointChecks collaborators call plan expected, choice with
 | .error message, _=>s.reject index message
 | .ok (), .fails=>s.setCall index (.returned .raised)
 | .ok (), _=>
  match receiptChecks collaborators call plan with
  | .error message=>s.reject index message
  | .ok ()=>s.claim index call

def resumeClaimed (index:ℕ) (call:ResumeCall) : Choice→Runtime
 | .succeeds=>
  { s with log:=s.log++[Event.resumed index call.checkpoint.checkpointId] }.setCall index
   (.running call.runId)
 | .storeFails=>
  let restored:=setDefault s.checkpointStateDigests call.checkpoint.checkpointId
   call.checkpoint.stateDigest
  { s with checkpointStateDigests:=restored }.setCall index (.returned .raised)
 | _=>s.setCall index (.returned .finished)

def runLoop (index:ℕ) (runId:String) : Choice→Runtime
 | .waitsAt node=>
  { s with nextCheckpointSequence:=s.nextCheckpointSequence+1 }.setCall index
   (.materializing runId node s.nextCheckpointSequence)
 | _=>s.setCall index (.returned .finished)

/-- The checkpoint is registered; a failure before that takes nothing but its own identifier. -/
def materialize (index:ℕ) (runId node:String) (sequence:ℕ) : Choice→Runtime
 | .digestIs digest=>
  let id:=checkpointIdOf runId node sequence
  { s with
    checkpointStateDigests:=s.checkpointStateDigests.insert id digest
    log:=s.log++[Event.registered .issued id digest]
  }.setCall index (.suspended runId node sequence)
 | _=>
  { s with checkpointStateDigests:=
     s.checkpointStateDigests.erase (checkpointIdOf runId node sequence) }.setCall index
    (.returned .finished)

/-- The run store and the journal take the wait, or the checkpoint is withdrawn. -/
def suspend (index:ℕ) (runId node:String) (sequence:ℕ) : Choice→Runtime
 | .succeeds=>s.setCall index (.returned .finished)
 | _=>
  { s with checkpointStateDigests:=
     s.checkpointStateDigests.erase (checkpointIdOf runId node sequence) }.setCall index
    (.returned .finished)

def proceed (collaborators:Collaborators) (index:ℕ) (choice:Choice) : Runtime :=
 match s.calls[index]? with
 | none=>s
 | some (.entered call plan)=>s.readDigest collaborators index call plan
 | some (.restoring call plan)=>s.askAuthority collaborators index call plan
 | some (.admitting call plan expected)=>s.admitResume collaborators index call plan expected choice
 | some (.claimed call)=>s.resumeClaimed index call choice
 | some (.running runId)=>s.runLoop index runId choice
 | some (.materializing runId node sequence)=>s.materialize index runId node sequence choice
 | some (.suspended runId node sequence)=>s.suspend index runId node sequence choice
 | some (.returned _)=>s

end Runtime

def step (collaborators:Collaborators) (s:Runtime) : Action→Runtime
 | .run runId=>{ s with calls:=s.calls++[.running runId] }
 | .resume call=>
  match identityChecks call with
  | .error message=>{ s with calls:=s.calls++[.returned (.rejected message)] }
  | .ok plan=>{ s with calls:=s.calls++[.entered call plan] }
 | .proceed index choice=>s.proceed collaborators index choice

def execute (collaborators:Collaborators) (actions:List Action) : Runtime :=
 actions.foldl (step collaborators) .new

end GraphBlocks.Checkpoints
