import GraphBlocks.CheckpointClaims

namespace GraphBlocks.Checkpoints
open FiniteMap Json RustStd

section
variable {collaborators:Collaborators} {s:Runtime}

/-- Every step of the run is fresh in the state in which it is taken. -/
def FreshRun (collaborators:Collaborators) (actions:List Action) : Prop :=
 ∀earlier action later,actions=earlier++action::later →
  Fresh collaborators (execute collaborators earlier) action

lemma execute_concat(actions:List Action)(action:Action):
  execute collaborators (actions++[action]) =
   step collaborators (execute collaborators actions) action:=by
 simp [execute]

lemma FreshRun.front{earlier later:List Action}
  (h:FreshRun collaborators (earlier++later)):FreshRun collaborators earlier:=by
 intro xs action ys heq
 exact h xs action (ys++later) (by rw [heq];simp)

lemma execute_inv{actions:List Action}(h:FreshRun collaborators actions):
  Inv (execute collaborators actions):=by
 induction actions using List.reverseRecOn with
 | nil=>exact inv_new
 | append_singleton actions action ih=>
  rw [execute_concat]
  exact step_inv (ih h.front) (h actions action [] rfl)

def Resumable (collaborators:Collaborators) (s:Runtime) (c:RuntimeCheckpoint) : Prop :=
 match s.checkpointStateDigests.lookup c.checkpointId with
 | some digest=>digest=c.stateDigest
 | none=>(collaborators.checkpointAuthorityVerifier.bind fun verifier=>
   verifier c c.graphHash)=some true

/-- Nothing changes for the checkpoint, nor for any with another identifier. -/
structure Undisturbed (collaborators:Collaborators) (s t:Runtime) (c:RuntimeCheckpoint) : Prop where
 others:∀id,id≠c.checkpointId→t.checkpointStateDigests.lookup id=s.checkpointStateDigests.lookup id
 resumable:Resumable collaborators s c↔Resumable collaborators t c

lemma Undisturbed.of_eq{t:Runtime}{c:RuntimeCheckpoint}
  (h:t.checkpointStateDigests=s.checkpointStateDigests):Undisturbed collaborators s t c:=by
 refine ⟨?_,?_⟩
 · intro id _
   rw [h]
 · unfold Resumable
   rw [h]

lemma readDigest_undisturbed(index:ℕ)(call:ResumeCall)(plan:Plan):
  Undisturbed collaborators s (s.readDigest collaborators index call plan) call.checkpoint:=by
 apply Undisturbed.of_eq
 unfold Runtime.readDigest
 cases s.checkpointStateDigests.lookup call.checkpoint.checkpointId with
 | some digest=>rfl
 | none=>cases collaborators.checkpointAuthorityVerifier <;>rfl

variable {call:ResumeCall} {plan:Plan}

lemma askAuthority_undisturbed(index:ℕ)(hgraph:call.checkpoint.graphHash=plan.graphHash):
  Undisturbed collaborators s (s.askAuthority collaborators index call plan) call.checkpoint:=by
 unfold Runtime.askAuthority
 cases hanswer:collaborators.checkpointAuthorityVerifier.bind fun verifier=>
   verifier call.checkpoint plan.graphHash with
 | none=>exact Undisturbed.of_eq rfl
 | some answer=>
  cases answer with
  | false=>exact Undisturbed.of_eq rfl
  | true=>
   simp only [Runtime.restore]
   cases hl:s.checkpointStateDigests.lookup call.checkpoint.checkpointId with
   | some digest=>exact Undisturbed.of_eq rfl
   | none=>
    refine ⟨?_,?_⟩
    · intro id hid
      exact (lookup_insert_eq _ _ _ _).trans (if_neg hid)
    · have hbefore:Resumable collaborators s call.checkpoint:=by
       unfold Resumable
       rw [hl,hgraph]
       exact hanswer
      refine iff_of_true hbefore ?_
      simp [Resumable,Runtime.setCall]

lemma checkpointChecks_digest{expected:Option String}{u:Unit}
  (h:checkpointChecks collaborators call plan expected=.ok u):
  expected=some call.checkpoint.stateDigest:=by
 unfold checkpointChecks at h
 obtain ⟨_,hstate,-⟩:=bind_ok.mp h
 unfold stateChecks at hstate
 obtain ⟨_,hdigest,-⟩:=bind_ok.mp hstate
 have hall:=ensure_ok.mp hdigest
 simp only [Bool.and_eq_true,beq_iff_eq] at hall
 exact hall.2.symm

variable {index:ℕ}

lemma claim_undisturbed(h:Inv s)
  (hphase:s.calls[index]?=some (.admitting call plan (some call.checkpoint.stateDigest)))
  (hunclaimed:(s.claim index call).calls[index]?≠some (.claimed call)):
  Undisturbed collaborators s (s.claim index call) call.checkpoint:=by
 have hindex:index<s.calls.length:=(List.getElem?_eq_some_iff.mp hphase).1
 unfold Runtime.claim at hunclaimed ⊢
 simp only at hunclaimed ⊢
 split_ifs at hunclaimed ⊢ with hl
 · exact absurd (by simp [Runtime.setCall,hindex]) hunclaimed
 · have hnone:s.checkpointStateDigests.lookup call.checkpoint.checkpointId=none:=by
    cases hcase:s.checkpointStateDigests.lookup call.checkpoint.checkpointId with
    | none=>rfl
    | some digest=>
     have hdigest:=h.agree (h.opened _ _ hcase) (h.found call plan _ (mem_of_call hphase))
     rw [hcase,hdigest] at hl
     exact absurd rfl hl
   apply Undisturbed.of_eq
   exact erase_of_lookup_none _ _ hnone

lemma admitResume_undisturbed(h:Inv s){expected:Option String}
  (hphase:s.calls[index]?=some (.admitting call plan expected))(choice:Choice)
  (hunclaimed:(s.admitResume collaborators index call plan expected choice).calls[index]? ≠
   some (.claimed call)):
  Undisturbed collaborators s (s.admitResume collaborators index call plan expected choice)
   call.checkpoint:=by
 unfold Runtime.admitResume at hunclaimed ⊢
 cases hchecks:checkpointChecks collaborators call plan expected with
 | error message=>exact Undisturbed.of_eq rfl
 | ok u=>
  have hexpected:=checkpointChecks_digest hchecks
  subst hexpected
  rw [hchecks] at hunclaimed
  cases hreceipt:receiptChecks collaborators call plan with
  | error message=>cases choice <;>exact Undisturbed.of_eq rfl
  | ok u=>
   rw [hreceipt] at hunclaimed
   have hclaim:(s.claim index call).calls[index]?≠some (.claimed call) →
     Undisturbed collaborators s (s.claim index call) call.checkpoint:=
    claim_undisturbed h hphase
   cases choice with
   | fails=>exact Undisturbed.of_eq rfl
   | _=>exact hclaim hunclaimed

/-- The call is a resume of the checkpoint that has not claimed it yet. -/
def Presents (s:Runtime) (index:ℕ) (call:ResumeCall) : Prop :=
 ∃phase plan,s.calls[index]?=some phase∧phase.presents=some (call,plan)

lemma proceed_undisturbed(h:Inv s)(hpresents:Presents s index call)(choice:Choice)
  (hunclaimed:(s.proceed collaborators index choice).calls[index]?≠some (.claimed call)):
  Undisturbed collaborators s (s.proceed collaborators index choice) call.checkpoint:=by
 obtain ⟨phase,plan,hphase,hcall⟩:=hpresents
 have hgraph:=h.graph phase (mem_of_call hphase) call plan hcall
 unfold Runtime.proceed at hunclaimed ⊢
 rw [hphase] at hunclaimed ⊢
 cases phase with
 | entered call' plan'=>
  cases hcall
  exact readDigest_undisturbed index call plan
 | restoring call' plan'=>
  cases hcall
  exact askAuthority_undisturbed index hgraph
 | admitting call' plan' expected=>
  cases hcall
  exact admitResume_undisturbed h hphase choice hunclaimed
 | _=>cases hcall

lemma step_unvouched(hauthority:collaborators.checkpointAuthorityVerifier=none)
  (action:Action)(id digest:String)(h:Event.registered .vouched id digest∉s.log):
  Event.registered .vouched id digest∉(step collaborators s action).log:=by
 cases action with
 | run runId=>exact h
 | resume call=>
  simp only [step]
  cases identityChecks call <;>exact h
 | proceed index choice=>
  simp only [step,Runtime.proceed]
  cases s.calls[index]? with
  | none=>exact h
  | some phase=>
   cases phase with
   | entered call plan=>
    simp only [Runtime.readDigest,hauthority]
    cases s.checkpointStateDigests.lookup call.checkpoint.checkpointId <;>exact h
   | restoring call plan=>
    simp only [Runtime.askAuthority,hauthority]
    exact h
   | admitting call plan expected=>
    have hclaim:(s.claim index call).log=s.log:=by
     unfold Runtime.claim
     simp only
     split_ifs <;>rfl
    simp only [Runtime.admitResume]
    cases checkpointChecks collaborators call plan expected with
    | error message=>exact h
    | ok u=>
     cases choice <;>
      cases receiptChecks collaborators call plan <;>
      first
       | exact h
       | (simp only [hclaim];exact h)
   | claimed call=>
    cases choice <;>first | exact h | simpa [Runtime.resumeClaimed,Runtime.setCall] using h
   | running runId=>cases choice <;>exact h
   | materializing runId node sequence=>
    cases choice <;>first | exact h | simpa [Runtime.materialize,Runtime.setCall] using h
   | suspended runId node sequence=>cases choice <;>exact h
   | returned outcome=>exact h

lemma freshRun_of_no_authority(hauthority:collaborators.checkpointAuthorityVerifier=none)
  (actions:List Action):FreshRun collaborators actions:=by
 have hnever:∀earlier id digest,
   Event.registered .vouched id digest∉(execute collaborators earlier).log:=by
  intro earlier id digest
  induction earlier using List.reverseRecOn with
  | nil=>exact nofun
  | append_singleton earlier action ih=>
   rw [execute_concat]
   exact step_unvouched hauthority action id digest ih
 intro earlier action later _
 refine ⟨?_,fun id _ digest=>hnever earlier id digest⟩
 intro id hregistration
 unfold registration at hregistration
 split at hregistration
 · split at hregistration
   · rw [if_neg (by simp [vouches,hauthority])] at hregistration
     cases hregistration
   · cases hregistration
   · cases hregistration
 · cases hregistration
end

theorem checkpoint_resumed_at_most_once (collaborators : Collaborators) (actions : List Action)
  (hfresh : FreshRun collaborators actions) :
  (∀id,resumptions (execute collaborators actions) id≤1) ∧
  (∀earlier call later,actions=earlier++.resume call::later →
   Undisturbed collaborators (execute collaborators earlier)
    (execute collaborators (earlier++[.resume call])) call.checkpoint) ∧
  (∀earlier index choice later call,actions=earlier++.proceed index choice::later →
   Presents (execute collaborators earlier) index call →
   (execute collaborators (earlier++[.proceed index choice])).calls[index]? ≠
    some (.claimed call) →
   Undisturbed collaborators (execute collaborators earlier)
    (execute collaborators (earlier++[.proceed index choice])) call.checkpoint) := by
 refine ⟨?_,?_,?_⟩
 · intro id
   have htokens:=(execute_inv hfresh).tokens id
   omega
 · intro earlier call later _
   rw [execute_concat]
   apply Undisturbed.of_eq
   simp only [step]
   cases identityChecks call <;>rfl
 · intro earlier index choice later call heq hpresents hunclaimed
   subst heq
   rw [execute_concat] at hunclaimed ⊢
   exact proceed_undisturbed (execute_inv hfresh.front) hpresents choice hunclaimed

def waitOperation : Value :=
 .object [("operation_id",.string "op-1"),("run_id",.string "run-1"),("node_id",.string "wait"),
  ("attempt_id",.string "attempt-1"),
  ("kind",.string "ci_job"),
  ("resume_token_hash",.string "sha256:aaaaaaaaaaaaaaaaaaaaaaaaaaaaaaaaaaaaaaaaaaaaaaaaaaaaaaaaaaaaaaaa"),
  ("idempotency_key",.string "key-1"),
  ("expected_schema",.string "schemas/Callback@1"),
  ("state",.string "waiting_callback"),
  ("created_at_unix_ms",.number "1000".toList),
  ("submitted_at_unix_ms",.number "1050".toList),
  ("expires_at_unix_ms",.number "61050".toList)]

def waitCheckpoint : RuntimeCheckpoint where
 checkpointId := "run-1:wait:1"
 runId := "run-1"
 graphHash := "sha256:bbbbbbbbbbbbbbbbbbbbbbbbbbbbbbbbbbbbbbbbbbbbbbbbbbbbbbbbbbbbbbbb"
 waitNode := "wait"
 remainingNodes:=["wait"]
 inputs:=.object []
 nodeOutputs:=.object []
 outputValues:=.object []
 operation:=waitOperation
 stateDigest := "sha256:ae18bb413d11df1918c4e3bf9527531a7a4a526797be2548d3ef384fb1aaf885"

def waitReceipt : Value :=
 .object [("operation_id",.string "op-1"),("run_id",.string "run-1"),
  ("node_id",.string "wait"),("attempt_id",.string "attempt-1"),
  ("operation_idempotency_key",.string "key-1"),
  ("callback_idempotency_key",.string "callback-1"),
  ("resume_token_hash",.string "sha256:aaaaaaaaaaaaaaaaaaaaaaaaaaaaaaaaaaaaaaaaaaaaaaaaaaaaaaaaaaaaaaaa"),
  ("schema_id",.string "schemas/Callback@1"),("schema_validated",.bool true),
  ("payload",.object []),
  ("payload_digest",.string "sha256:44136fa355b3678a1146ad16f7e8649e94fb4fc21fe77e8310c060f61caaff8a"),
  ("received_at_unix_ms",.number "2000".toList),("verified_by",.string "callback-relay"),
  ("resume_admission",.object [("policy_reevaluated",.bool true),
   ("budget_reserved",.bool true),("release_compatible",.bool true),
   ("ownership_fenced",.bool true)])]

def waitCall : ResumeCall where
 plan:=.ok ⟨waitCheckpoint.graphHash,
  [("wait",.object [("block",.string "async.await_callback@1")])]⟩
 inputs:=.object []
 runId := "run-1"
 releaseDigest:=none
 checkpoint:=waitCheckpoint
 callbackReceipt:=waitReceipt

/-- Collaborators that accept the receipt; the canonical text and hash of the empty object and of
the checkpoint are the real ones. -/
def relay (authority:Option (RuntimeCheckpoint→String→Option Bool)) : Collaborators where
 checkpointAuthorityVerifier:=authority
 callbackReceiptVerifier:=some fun _ _ _ _=>some true
 canonicalDumps _:=.ok "\x7b\x7d"
 canonicalLoads _:=.ok (.object [])
 canonicalHash v:=if v=.object [] then
   "sha256:44136fa355b3678a1146ad16f7e8649e94fb4fc21fe77e8310c060f61caaff8a"
  else waitCheckpoint.stateDigest

def resumedTwice : List Action :=
 [.run "run-1",.proceed 0 (.waitsAt "wait"),.proceed 0 (.digestIs waitCheckpoint.stateDigest),
  .proceed 0 .succeeds,
  .resume waitCall,.proceed 1 .succeeds,.proceed 1 .succeeds,.proceed 1 .succeeds,
  .resume waitCall,.proceed 2 .succeeds,.proceed 2 .succeeds,.proceed 2 .succeeds,
  .proceed 2 .succeeds]

/-- Without an authority the second resume finds the checkpoint consumed. -/
theorem unvouched_checkpoint_resumed_once :
  resumptions (execute (relay none) resumedTwice) "run-1:wait:1" = 1 ∧
   ∀id,resumptions (execute (relay none) resumedTwice) id≤1 :=
 ⟨by decide +kernel,(checkpoint_resumed_at_most_once (relay none) resumedTwice
  (freshRun_of_no_authority rfl resumedTwice)).1⟩

/-- An authority that vouches for what it knows, again after the claim, lets the checkpoint be
resumed by two calls. -/
theorem vouched_checkpoint_resumed_twice :
  resumptions (execute (relay (some fun _ _=>some true)) resumedTwice) "run-1:wait:1" = 2 := by
 decide +kernel

end GraphBlocks.Checkpoints
