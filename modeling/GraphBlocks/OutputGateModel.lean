import GraphBlocks.MachineRuns
import GraphBlocks.StoredJson

/-! `OutputDeliveryGate` of the runtime core holds generated chunks back until policy decisions
accept them. -/
namespace GraphBlocks.OutputPolicy
open Std RustStd

structure GenerationChunk where
 streamId:String
 responseId:String
 sequence:ℕ
 text:String
deriving DecidableEq

inductive GenerationChunkError where
 | emptyIdentityField (field:String)
 | invalidSequence (sequence:ℕ)
deriving DecidableEq

def GenerationChunk.validate (chunk:GenerationChunk) : Except GenerationChunkError Unit := do
 ensure (!isBlank chunk.streamId) (.emptyIdentityField "stream_id")
 ensure (!isBlank chunk.responseId) (.emptyIdentityField "response_id")
 ensure (chunk.sequence != 0) (.invalidSequence chunk.sequence)

inductive OutputDisposition where
 | allow | hold | redact | replace | abortResponse | abortTurn | denyCommit
deriving DecidableEq

inductive ProviderCancellation where
 | none | request | requiredIfSupported
deriving DecidableEq

inductive DraftDisposition where
 | keep | markIncomplete | retract
deriving DecidableEq

inductive PendingToolCallsDisposition where
 | keep | deny | cancelAdmitted
deriving DecidableEq

inductive DeliveryMode where
 | bufferUntilCommit | boundedHoldback | immediateDraft
deriving DecidableEq

inductive FlushBoundary where
 | token | sentence | paragraph | contentPart | toolCall | response

inductive ViolationAction where
 | abortResponse | abortTurn | redact | replace

/-- The flush boundaries are a set in the source; only membership and emptiness are read. -/
structure OutputDeliveryPolicy where
 mode:DeliveryMode
 holdbackMaxTokens:Option ℕ
 holdbackMaxBytes:Option ℕ
 holdbackMaxDurationMs:Option ℕ
 flushBoundaries:List FlushBoundary
 onViolation:ViolationAction
 deliveredDraftDisposition:DraftDisposition

inductive OutputDeliveryPolicyError where
 | unboundedPolicyHoldback
 | flushBoundaryWithoutStreaming
 | holdbackLimitWithoutHoldback
 | immediateDraftWithoutRetractionSupport
 | invalidHoldbackMaxTokens
 | invalidHoldbackMaxBytes
 | invalidHoldbackMaxDuration
deriving DecidableEq

def OutputDeliveryPolicy.hasHoldback (policy:OutputDeliveryPolicy) : Bool :=
 policy.holdbackMaxTokens.isSome||policy.holdbackMaxBytes.isSome ||
  policy.holdbackMaxDurationMs.isSome

def OutputDeliveryPolicy.validateMode (policy:OutputDeliveryPolicy) :
  Except OutputDeliveryPolicyError Unit :=
 match policy.mode with
 | .bufferUntilCommit=>ensure policy.flushBoundaries.isEmpty .flushBoundaryWithoutStreaming
 | .boundedHoldback=>ensure policy.hasHoldback .unboundedPolicyHoldback
 | .immediateDraft=>do
  ensure policy.flushBoundaries.isEmpty .flushBoundaryWithoutStreaming
  ensure (policy.deliveredDraftDisposition != .keep) .immediateDraftWithoutRetractionSupport

def OutputDeliveryPolicy.validate (policy:OutputDeliveryPolicy) :
  Except OutputDeliveryPolicyError Unit := do
 ensure (policy.holdbackMaxTokens != some 0) .invalidHoldbackMaxTokens
 ensure (policy.holdbackMaxBytes != some 0) .invalidHoldbackMaxBytes
 ensure (policy.holdbackMaxDurationMs != some 0) .invalidHoldbackMaxDuration
 ensure (policy.mode == .boundedHoldback || !policy.hasHoldback) .holdbackLimitWithoutHoldback
 policy.validateMode

def OutputDeliveryPolicy.standard : OutputDeliveryPolicy where
 mode:=.boundedHoldback
 holdbackMaxTokens:=some 48
 holdbackMaxBytes:=none
 holdbackMaxDurationMs:=none
 flushBoundaries:=[]
 onViolation:=.abortResponse
 deliveredDraftDisposition:=.retract

structure RedactionInstruction where
 path:String
 start:ℕ
 stop:ℕ
 replacement:String
deriving DecidableEq

structure OutputPolicyDecision where
 decisionId:String
 disposition:OutputDisposition
 acceptedThroughSequence:Option ℕ
 replacementChunks:List GenerationChunk
 redactions:List RedactionInstruction
 reasonCodes:List String
 policyRefs:List String
 providerCancellation:ProviderCancellation
 draftDisposition:DraftDisposition
 pendingToolCalls:PendingToolCallsDisposition
 evaluatedAtUnixMs:Option ℕ
 inputDigest:String

inductive OutputCutoffError where
 | missingOccurredAtUnixMs
 | emptyIdentityField (field:String)
 | policyAcceptedSequenceBeyondGenerated (lastGenerated lastPolicyAccepted:ℕ)
 | clientDeliveredSequenceBeyondGenerated (lastGenerated lastClientDelivered:ℕ)
 | deliveredDraftBeyondPolicyAcceptanceKept (lastPolicyAccepted lastClientDelivered:ℕ)
deriving DecidableEq

/-- `OutputPolicyDecisionError` is mapped one to one into the gate's errors and is left out. -/
inductive OutputGateError where
 | emptyIdentityField (field:String)
 | invalidGenerationChunk (source:GenerationChunkError)
 | invalidCutoff (source:OutputCutoffError)
 | invalidDeliveryPolicy (source:OutputDeliveryPolicyError)
 | streamMismatch (expected actual:String)
 | responseMismatch (expected actual:String)
 | nonMonotonicSequence (lastGenerated attempted:ℕ)
 | nonContiguousSequence (lastGenerated attempted:ℕ)
 | acceptedSequenceBeyondGenerated (lastGenerated acceptedThrough:ℕ)
 | invalidAcceptedThroughSequence (acceptedThrough:ℕ)
 | invalidEvaluatedAtUnixMs (evaluatedAt:ℕ)
 | clientDeliveredSequenceBeyondGenerated (lastGenerated lastClientDelivered:ℕ)
 | clientDeliveredSequenceBeyondPolicyAccepted (lastPolicyAccepted lastClientDelivered:ℕ)
 | pendingChunkAlreadyDelivered (sequence lastClientDelivered:ℕ)
 | pendingChunkBeyondGenerated (sequence lastGenerated:ℕ)
 | duplicatePendingChunk (sequence:ℕ)
 | missingPendingChunk (sequence:ℕ)
 | boundedHoldbackExceeded (maxBytes:ℕ)
 | boundedHoldbackTokensExceeded (maxTokens:ℕ)
 | invalidRedactionInstruction (path:String)
 | missingDecisionId
 | missingInputDigest (decisionId:String)
 | replacementContentMissing (decisionId:String)
 | invalidDispositionContent (decisionId:String) (disposition:OutputDisposition) (field:String)
 | invalidReasonCode (reasonCode:String)
 | invalidPolicyRef (policyRef:String)
 | missingOccurredAtUnixMs
 | policyStopped
deriving DecidableEq

def checkChunk (chunk:GenerationChunk) : Except OutputGateError Unit :=
 chunk.validate.mapError .invalidGenerationChunk

/-- The first element of a list that fails a check is reported. -/
def ensureAll {α:Type} (check:α→Bool) (error:α→OutputGateError) : List α→Except OutputGateError Unit
 | []=>.ok ()
 | a::rest=>if check a then ensureAll check error rest else .error (error a)

def checkChunks : List GenerationChunk→Except OutputGateError Unit
 | []=>.ok ()
 | chunk::rest=>do
  checkChunk chunk
  checkChunks rest

def OutputPolicyDecision.validate (decision:OutputPolicyDecision) :
  Except OutputGateError Unit := do
 ensure (!isBlank decision.decisionId) .missingDecisionId
 ensure (!isBlank decision.inputDigest) (.missingInputDigest decision.decisionId)
 ensure (decision.acceptedThroughSequence != some 0) (.invalidAcceptedThroughSequence 0)
 ensure (decision.evaluatedAtUnixMs != some 0) (.invalidEvaluatedAtUnixMs 0)
 ensure (decision.disposition == .redact||decision.disposition == .replace ||
   decision.replacementChunks.isEmpty)
  (.invalidDispositionContent decision.decisionId decision.disposition "replacement_chunks")
 ensure (decision.disposition == .redact||decision.redactions.isEmpty)
  (.invalidDispositionContent decision.decisionId decision.disposition "redactions")
 ensure (!(decision.disposition == .replace&&decision.replacementChunks.isEmpty))
  (.replacementContentMissing decision.decisionId)
 checkChunks decision.replacementChunks
 ensureAll (fun r => !isBlank r.path&&decide (r.start<r.stop))
  (fun r=>.invalidRedactionInstruction r.path) decision.redactions
 ensureAll (fun code => !isBlank code) .invalidReasonCode decision.reasonCodes
 ensureAll (fun ref => !isBlank ref) .invalidPolicyRef decision.policyRefs

inductive TerminalReason where
 | policyDenied | budgetExhausted | cancelled | clientDisconnected
deriving DecidableEq

inductive DurableResult where
 | none | incomplete | partialResult
deriving DecidableEq

structure OutputCutoff where
 streamId:String
 responseId:String
 turnId:Option String
 lastGeneratedSequence:ℕ
 lastPolicyAcceptedSequence:ℕ
 lastClientDeliveredSequence:ℕ
 terminalReason:TerminalReason
 draftDisposition:DraftDisposition
 durableResult:DurableResult
 policyDecisionId:Option String
 occurredAtUnixMs:ℕ
deriving DecidableEq

def OutputCutoff.validate (cutoff:OutputCutoff) : Except OutputCutoffError Unit := do
 ensure (!isBlank cutoff.streamId) (.emptyIdentityField "stream_id")
 ensure (!isBlank cutoff.responseId) (.emptyIdentityField "response_id")
 ensure (!cutoff.turnId.any isBlank) (.emptyIdentityField "turn_id")
 ensure (!cutoff.policyDecisionId.any isBlank) (.emptyIdentityField "policy_decision_id")
 ensure (decide (cutoff.lastPolicyAcceptedSequence≤cutoff.lastGeneratedSequence))
  (.policyAcceptedSequenceBeyondGenerated cutoff.lastGeneratedSequence
   cutoff.lastPolicyAcceptedSequence)
 ensure (decide (cutoff.lastClientDeliveredSequence≤cutoff.lastGeneratedSequence))
  (.clientDeliveredSequenceBeyondGenerated cutoff.lastGeneratedSequence
   cutoff.lastClientDeliveredSequence)
 ensure (decide (cutoff.lastClientDeliveredSequence≤cutoff.lastPolicyAcceptedSequence) ||
   cutoff.draftDisposition != .keep)
  (.deliveredDraftBeyondPolicyAcceptanceKept cutoff.lastPolicyAcceptedSequence
   cutoff.lastClientDeliveredSequence)
 ensure (cutoff.occurredAtUnixMs != 0) .missingOccurredAtUnixMs

abbrev Pending := ExtTreeMap ℕ GenerationChunk

structure OutputDeliveryGate where
 streamId:String
 responseId:String
 turnId:Option String
 deliveryPolicy:OutputDeliveryPolicy
 pending:Pending
 lastGeneratedSequence:ℕ
 lastPolicyAcceptedSequence:ℕ
 lastClientDeliveredSequence:ℕ
 stopped:Option OutputCutoff

structure OutputGateUpdate where
 deliverable:List GenerationChunk
 cutoff:Option OutputCutoff
 providerCancellation:Option ProviderCancellation
 pendingToolCalls:Option PendingToolCallsDisposition
deriving DecidableEq

/-- The update of a decision that does not stop the stream. -/
def OutputGateUpdate.released (deliverable:List GenerationChunk) : OutputGateUpdate :=
 ⟨deliverable,none,none,none⟩

inductive FlushContext where
 | policyDecision | explicitCommit
deriving DecidableEq

def wordCount (text:String) : ℕ :=
 ((text.toList.splitOnP isWhitespace).filter fun word => !word.isEmpty).length

/-- The sum kept by the holdback loop, which stops as soon as it passes the limit. -/
def holdbackExceeded (limit:ℕ) : ℕ→List ℕ→Bool
 | total, []=>decide (limit<total)
 | total, size::sizes=>
  let total:=min (total+size) (u64Limit-1)
  if limit<total then true else holdbackExceeded limit total sizes

def trimEndMatches (chars text:List Char) : List Char :=
 (text.reverse.dropWhile chars.contains).reverse

def endsAtSentenceBoundary (text:String) : Bool :=
 (trimEndMatches [' ','\t','\r','\n'] text.toList).getLast?.any
  fun c=>c == '.' || c == '!' || c == '?'

def endsAtParagraphBoundary (text:String) : Bool :=
 let trimmed:=trimEndMatches [' ','\t'] text.toList
 "\n\n".toList.isSuffixOf trimmed || "\r\n\r\n".toList.isSuffixOf trimmed

/-- `text.replace_range` on the bytes of the characters `start..stop`. -/
def replaceRange (text:String) (start stop:ℕ) (replacement:String) : String :=
 String.ofList (text.toList.take start++replacement.toList++text.toList.drop stop)

namespace OutputDeliveryGate

def new (streamId responseId:String) : OutputDeliveryGate where
 streamId
 responseId
 turnId:=none
 deliveryPolicy:=.standard
 pending:=∅
 lastGeneratedSequence:=0
 lastPolicyAcceptedSequence:=0
 lastClientDeliveredSequence:=0
 stopped:=none

variable (g:OutputDeliveryGate)

def validateIdentity : Except OutputGateError Unit := do
 ensure (!isBlank g.streamId) (.emptyIdentityField "stream_id")
 ensure (!isBlank g.responseId) (.emptyIdentityField "response_id")
 ensure (!g.turnId.any isBlank) (.emptyIdentityField "turn_id")

def withDeliveryPolicy (policy:OutputDeliveryPolicy) :
  Except OutputGateError OutputDeliveryGate := do
 g.validateIdentity
 policy.validate.mapError .invalidDeliveryPolicy
 .ok { g with deliveryPolicy:=policy }

def withTurnId (turnId:String) : OutputDeliveryGate :=
 { g with
   turnId:=some turnId,stopped:=g.stopped.map fun cutoff=>{ cutoff with turnId:=some turnId } }

/-- `pending_chunks`: the pending chunks in the order of their keys. -/
def pendingChunks : List GenerationChunk := g.pending.toList.map Prod.snd

def chunkSatisfiesFlushBoundary (chunk:GenerationChunk) (accumulated:String)
  (context:FlushContext) : Bool :=
 g.deliveryPolicy.flushBoundaries.any fun boundary=>
  match boundary with
  | .token=>chunk.text != ""
  | .sentence=>endsAtSentenceBoundary accumulated
  | .paragraph=>endsAtParagraphBoundary accumulated
  | .contentPart=>true
  | .toolCall=>true
  | .response=>context == .explicitCommit

/-- The loop over the accepted sequences; it stops at the first chunk that is missing. -/
def flushLoop (context:FlushContext) : List ℕ→String→ℕ→ℕ
 | [], _, flushable=>flushable
 | sequence::rest, accumulated, flushable=>
  match g.pending[sequence]? with
  | none=>flushable
  | some chunk=>
   let accumulated:=accumulated++chunk.text
   flushLoop context rest accumulated
    (if g.chunkSatisfiesFlushBoundary chunk accumulated context then sequence else flushable)

def sequencesAfter (low high:ℕ) : List ℕ := List.range' (low+1) (high-low)

def flushableAcceptedSequence (context:FlushContext) : ℕ :=
 if context=.explicitCommit∨g.deliveryPolicy.flushBoundaries=[] then g.lastPolicyAcceptedSequence
 else
  g.flushLoop context
   (sequencesAfter g.lastClientDeliveredSequence g.lastPolicyAcceptedSequence) ""
   g.lastClientDeliveredSequence

/-- The loop that takes the ready chunks out of the pending map. -/
def deliver : List ℕ→OutputDeliveryGate→List GenerationChunk×OutputDeliveryGate
 | [], g=>([],g)
 | sequence::rest, g=>
  match g.pending[sequence]? with
  | none=>deliver rest g
  | some chunk=>
   let next:=deliver rest
    { g with pending:=g.pending.erase sequence,lastClientDeliveredSequence:=sequence }
   (chunk::next.1,next.2)

def releaseAcceptedOutput (context:FlushContext) : List GenerationChunk×OutputDeliveryGate :=
 if g.stopped.isSome then ([],g)
 else
  deliver ((sequencesAfter g.lastClientDeliveredSequence
   (g.flushableAcceptedSequence context)).takeWhile g.pending.contains) g

def commitAcceptedOutput : List GenerationChunk×OutputDeliveryGate :=
 g.releaseAcceptedOutput .explicitCommit

def checkOwnChunk (chunk:GenerationChunk) : Except OutputGateError Unit := do
 ensure (chunk.streamId==g.streamId) (.streamMismatch g.streamId chunk.streamId)
 ensure (chunk.responseId==g.responseId) (.responseMismatch g.responseId chunk.responseId)

def checkHoldbackTokens (chunk:GenerationChunk) : Except OutputGateError Unit :=
 match g.deliveryPolicy.mode, g.deliveryPolicy.holdbackMaxTokens with
 | .boundedHoldback, some maxTokens=>
  ensure (!holdbackExceeded maxTokens (wordCount chunk.text)
   (g.pendingChunks.map fun pending=>wordCount pending.text))
   (.boundedHoldbackTokensExceeded maxTokens)
 | _, _=>.ok ()

def checkHoldbackBytes (chunk:GenerationChunk) : Except OutputGateError Unit :=
 match g.deliveryPolicy.mode, g.deliveryPolicy.holdbackMaxBytes with
 | .boundedHoldback, some maxBytes=>
  ensure (!holdbackExceeded maxBytes chunk.text.utf8ByteSize
   (g.pendingChunks.map fun pending=>pending.text.utf8ByteSize))
   (.boundedHoldbackExceeded maxBytes)
 | _, _=>.ok ()

/-- Everything `record_chunk` checks before it stores the chunk. -/
def recordChecks (chunk:GenerationChunk) : Except OutputGateError Unit := do
 g.validateIdentity
 checkChunk chunk
 ensure g.stopped.isNone .policyStopped
 g.checkOwnChunk chunk
 ensure (decide (g.lastGeneratedSequence<chunk.sequence))
  (.nonMonotonicSequence g.lastGeneratedSequence chunk.sequence)
 ensure (checkedSucc g.lastGeneratedSequence==some chunk.sequence)
  (.nonContiguousSequence g.lastGeneratedSequence chunk.sequence)
 g.checkHoldbackTokens chunk
 g.checkHoldbackBytes chunk

def storeChunk (chunk:GenerationChunk) : OutputDeliveryGate :=
 { g with lastGeneratedSequence:=chunk.sequence,pending:=g.pending.insert chunk.sequence chunk }

def recordChunk (chunk:GenerationChunk) :
  Except OutputGateError (List GenerationChunk)×OutputDeliveryGate :=
 match g.recordChecks chunk with
 | .error e=>(.error e,g)
 | .ok ()=>
  let stored:=g.storeChunk chunk
  if stored.deliveryPolicy.mode ≠ .immediateDraft then (.ok [],stored)
  else
   match stored.pending[stored.lastGeneratedSequence]? with
   | none=>(.ok [],stored)
   | some deliverable=>
    (.ok [deliverable],
     { stored with
       pending:=stored.pending.erase stored.lastGeneratedSequence
       lastClientDeliveredSequence:=deliverable.sequence })

def checkReplacements (previous:ℕ) : ℕ→List GenerationChunk→Except OutputGateError Unit
 | _, []=>.ok ()
 | expected, chunk::rest=>do
  checkChunk chunk
  g.checkOwnChunk chunk
  ensure (decide (g.lastClientDeliveredSequence<chunk.sequence))
   (.pendingChunkAlreadyDelivered chunk.sequence g.lastClientDeliveredSequence)
  ensure (chunk.sequence==expected) (.nonContiguousSequence previous chunk.sequence)
  match checkedSucc expected with
  | none=>.error (.nonContiguousSequence expected chunk.sequence)
  | some next=>checkReplacements expected next rest

def checkReplacementRange (decision:OutputPolicyDecision) : Except OutputGateError Unit :=
 let expected:=decision.acceptedThroughSequence.getD g.lastGeneratedSequence
 g.checkReplacements (expected-1) expected decision.replacementChunks

def redactionSequence (redaction:RedactionInstruction) : Except OutputGateError ℕ :=
 let failure : OutputGateError:=.invalidRedactionInstruction redaction.path
 match redaction.path.toList.dropPrefix? "/chunks/".toList with
 | none=>.error failure
 | some rest=>
  match rest.dropSuffix? "/text".toList with
  | none=>.error failure
  | some digits=>do
   ensure (!digits.isEmpty&&digits.all Char.isDigit &&
    (digits==['0']||digits.head? != some '0')) failure
   match StoredJson.parseU64 digits with
   | none=>.error failure
   | some sequence=>.ok sequence

def groupRedactions : List RedactionInstruction→ExtTreeMap ℕ (List RedactionInstruction) →
  Except OutputGateError (ExtTreeMap ℕ (List RedactionInstruction))
 | [], groups=>.ok groups
 | redaction::rest, groups=>do
  let sequence ← redactionSequence redaction
  groupRedactions rest (groups.insert sequence ((groups[sequence]?.getD [])++[redaction]))

def redactText : List RedactionInstruction→String→Except OutputGateError String
 | [], text=>.ok text
 | redaction::rest, text=>do
  ensure (decide (redaction.start≤redaction.stop)&&decide (redaction.stop≤text.length))
   (.invalidRedactionInstruction redaction.path)
  redactText rest (replaceRange text redaction.start redaction.stop redaction.replacement)

/-- The redacted texts of the pending chunks; the redactions of a chunk run from its end. -/
def redactedTexts : List (ℕ×List RedactionInstruction)→Except OutputGateError (List (ℕ×String))
 | []=>.ok []
 | (sequence,redactions)::rest=>do
  ensure (decide (sequence≤g.lastGeneratedSequence))
   (.pendingChunkBeyondGenerated sequence g.lastGeneratedSequence)
  ensure (decide (g.lastClientDeliveredSequence<sequence))
   (.pendingChunkAlreadyDelivered sequence g.lastClientDeliveredSequence)
  match g.pending[sequence]? with
  | none=>.error (.missingPendingChunk sequence)
  | some chunk=>do
   let text ← redactText (redactions.mergeSort fun a b=>decide (b.start≤a.start)) chunk.text
   let texts ← redactedTexts rest
   .ok ((sequence,text)::texts)

def storeTexts : List (ℕ×String)→Pending→Pending
 | [], pending=>pending
 | (sequence,text)::rest, pending=>
  match pending[sequence]? with
  | none=>storeTexts rest pending
  | some chunk=>storeTexts rest (pending.insert sequence { chunk with text:=text })

def applyRedactions (decision:OutputPolicyDecision) : Except OutputGateError OutputDeliveryGate :=
 if decision.disposition=.redact∧decision.redactions≠[] then do
  let groups ← groupRedactions decision.redactions ∅
  let texts ← g.redactedTexts groups.toList
  .ok { g with pending:=storeTexts texts g.pending }
 else .ok g

/-- The second loop over the replacement chunks, which stores them and may fail midway. -/
def storeReplacements : List GenerationChunk→Option ℕ→OutputDeliveryGate →
  Except OutputGateError (Option ℕ)×OutputDeliveryGate
 | [], accepted, g=>(.ok accepted,g)
 | chunk::rest, accepted, g=>
  match checkChunk chunk with
  | .error e=>(.error e,g)
  | .ok ()=>
   match g.checkOwnChunk chunk with
   | .error e=>(.error e,g)
   | .ok ()=>
    if g.lastClientDeliveredSequence<chunk.sequence then
     storeReplacements rest
      (some (accepted.elim chunk.sequence fun a=>max a chunk.sequence))
      { g with
        lastGeneratedSequence:=max g.lastGeneratedSequence chunk.sequence
        pending:=g.pending.insert chunk.sequence chunk }
    else storeReplacements rest accepted g

/-- Raises the accepted sequence; it never goes back. -/
def acceptThrough (accepted:Option ℕ) : OutputDeliveryGate :=
 match accepted with
 | none=>g
 | some sequence=>{ g with lastPolicyAcceptedSequence:=max g.lastPolicyAcceptedSequence sequence }

def releaseAfterDecision : List GenerationChunk×OutputDeliveryGate :=
 match g.deliveryPolicy.mode with
 | .bufferUntilCommit=>([],g)
 | .boundedHoldback=>g.releaseAcceptedOutput .policyDecision
 | .immediateDraft=>g.releaseAcceptedOutput .policyDecision

def checkAccepted (accepted:Option ℕ) : Except OutputGateError Unit :=
 match accepted with
 | none=>.ok ()
 | some sequence=>
  ensure (decide (sequence≤g.lastGeneratedSequence))
   (.acceptedSequenceBeyondGenerated g.lastGeneratedSequence sequence)

/-- A decision whose disposition is `Replace` first drops the chunk it replaces. -/
def dropReplaced (decision:OutputPolicyDecision) : OutputDeliveryGate :=
 match decision.disposition, decision.acceptedThroughSequence with
 | .replace, some accepted=>
  if g.lastClientDeliveredSequence<accepted then { g with pending:=g.pending.erase accepted }
  else g
 | _, _=>g

def applyAllow (decision:OutputPolicyDecision) :
  Except OutputGateError OutputGateUpdate×OutputDeliveryGate :=
 match g.checkAccepted decision.acceptedThroughSequence with
 | .error e=>(.error e,g)
 | .ok ()=>
  let released:=(g.acceptThrough decision.acceptedThroughSequence).releaseAfterDecision
  (.ok (.released released.1),released.2)

/-- What `Redact` and `Replace` check before they change the gate. -/
def rewriteChecks (decision:OutputPolicyDecision) : Except OutputGateError OutputDeliveryGate := do
 g.checkAccepted decision.acceptedThroughSequence
 g.checkReplacementRange decision
 g.applyRedactions decision

def applyRewrite (decision:OutputPolicyDecision) :
  Except OutputGateError OutputGateUpdate×OutputDeliveryGate :=
 if decision.disposition=.redact∧decision.replacementChunks=[]∧decision.redactions=[] then
  (.ok (.released []),g)
 else
  match g.rewriteChecks decision with
  | .error e=>(.error e,g)
  | .ok redacted=>
   match storeReplacements decision.replacementChunks decision.acceptedThroughSequence
     (redacted.dropReplaced decision) with
   | (.error e,stored)=>(.error e,stored)
   | (.ok accepted,stored)=>
    let released:=(stored.acceptThrough accepted).releaseAfterDecision
    (.ok (.released released.1),released.2)

def terminalToolCalls (decision:OutputPolicyDecision) : PendingToolCallsDisposition :=
 match decision.disposition, decision.pendingToolCalls with
 | .abortResponse, .keep=>.deny
 | .abortTurn, .keep=>.deny
 | _, disposition=>disposition

def cutoffOf (decision:OutputPolicyDecision) (occurredAt:ℕ) : OutputCutoff where
 streamId:=g.streamId
 responseId:=g.responseId
 turnId:=g.turnId
 lastGeneratedSequence:=g.lastGeneratedSequence
 lastPolicyAcceptedSequence:=g.lastPolicyAcceptedSequence
 lastClientDeliveredSequence:=g.lastClientDeliveredSequence
 terminalReason:=.policyDenied
 draftDisposition:=decision.draftDisposition
 durableResult:=.none
 policyDecisionId:=some decision.decisionId
 occurredAtUnixMs:=occurredAt

def applyStop (decision:OutputPolicyDecision) (occurredAt:ℕ) :
  Except OutputGateError OutputGateUpdate×OutputDeliveryGate :=
 match g.checkAccepted decision.acceptedThroughSequence with
 | .error e=>(.error e,g)
 | .ok ()=>
  let accepted:=g.acceptThrough decision.acceptedThroughSequence
  let cutoff:=accepted.cutoffOf decision occurredAt
  match cutoff.validate with
  | .error e=>(.error (.invalidCutoff e),accepted)
  | .ok ()=>
   (.ok ⟨[],some cutoff,some decision.providerCancellation,some (terminalToolCalls decision)⟩,
    { accepted with pending:=∅,stopped:=some cutoff })

def decisionChecks (decision:OutputPolicyDecision) (occurredAt:ℕ) :
  Except OutputGateError Unit := do
 g.validateIdentity
 ensure g.stopped.isNone .policyStopped
 ensure (occurredAt != 0) .missingOccurredAtUnixMs
 decision.validate

def applyDecision (decision:OutputPolicyDecision) (occurredAt:ℕ) :
  Except OutputGateError OutputGateUpdate×OutputDeliveryGate :=
 match g.decisionChecks decision occurredAt with
 | .error e=>(.error e,g)
 | .ok ()=>
  match decision.disposition with
  | .allow=>g.applyAllow decision
  | .hold=>(.ok (.released []),g)
  | .redact=>g.applyRewrite decision
  | .replace=>g.applyRewrite decision
  | .abortResponse=>g.applyStop decision occurredAt
  | .abortTurn=>g.applyStop decision occurredAt
  | .denyCommit=>g.applyStop decision occurredAt

/-- The loop over the chunks of a stored gate. -/
def restorePending (generated delivered:ℕ) :
  List GenerationChunk→Pending→Except OutputGateError Pending
 | [], pending=>.ok pending
 | chunk::rest, pending=>do
  checkChunk chunk
  g.checkOwnChunk chunk
  ensure (decide (delivered<chunk.sequence))
   (.pendingChunkAlreadyDelivered chunk.sequence delivered)
  ensure (decide (chunk.sequence≤generated))
   (.pendingChunkBeyondGenerated chunk.sequence generated)
  ensure (!pending.contains chunk.sequence) (.duplicatePendingChunk chunk.sequence)
  restorePending generated delivered rest (pending.insert chunk.sequence chunk)

def fromStateWithDeliveryPolicy (streamId responseId:String) (pending:List GenerationChunk)
  (generated accepted delivered:ℕ) (policy:OutputDeliveryPolicy) :
  Except OutputGateError OutputDeliveryGate := do
 let gate ← (new streamId responseId).withDeliveryPolicy policy
 gate.validateIdentity
 ensure (decide (accepted≤generated)) (.acceptedSequenceBeyondGenerated generated accepted)
 ensure (decide (delivered≤generated))
  (.clientDeliveredSequenceBeyondGenerated generated delivered)
 ensure (decide (delivered≤accepted)||gate.deliveryPolicy.mode == .immediateDraft)
  (.clientDeliveredSequenceBeyondPolicyAccepted accepted delivered)
 let chunks ← gate.restorePending generated delivered pending ∅
 ensureAll (fun sequence=>chunks.contains sequence) .missingPendingChunk
  (sequencesAfter delivered generated)
 .ok { gate with
       pending:=chunks,lastGeneratedSequence:=generated,lastPolicyAcceptedSequence:=accepted
       lastClientDeliveredSequence:=delivered }

end OutputDeliveryGate

inductive Call where
 | recordChunk (chunk:GenerationChunk)
 | applyDecision (decision:OutputPolicyDecision) (occurredAtUnixMs:ℕ)
 | commitAcceptedOutput

inductive Response where
 | chunks (deliverable:List GenerationChunk)
 | update (update:OutputGateUpdate)
deriving DecidableEq

def Response.deliverable : Response→List GenerationChunk
 | .chunks deliverable=>deliverable
 | .update u=>u.deliverable

def step (g:OutputDeliveryGate) : Call→Except OutputGateError Response×OutputDeliveryGate
 | .recordChunk chunk=>((g.recordChunk chunk).1.map .chunks,(g.recordChunk chunk).2)
 | .applyDecision decision occurredAt=>
  ((g.applyDecision decision occurredAt).1.map .update,(g.applyDecision decision occurredAt).2)
 | .commitAcceptedOutput=>(.ok (.chunks g.commitAcceptedOutput.1),g.commitAcceptedOutput.2)

/-- The chunks handed to the client by a call; a failed call hands out none. -/
def deliveredBy (response:Except OutputGateError Response) : List GenerationChunk :=
 match response with
 | .ok response=>response.deliverable
 | .error _=>[]

end GraphBlocks.OutputPolicy
