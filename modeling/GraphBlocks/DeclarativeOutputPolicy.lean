import GraphBlocks.LiteralSearch
import GraphBlocks.OutputRedactions
import GraphBlocks.ToolCallModel

namespace GraphBlocks.OutputPolicy
open Json CanonicalJson RustStd LiteralSearch StoredJson

structure DeclarativeOutputPolicyRule where
 ruleId:String
 literal:String
 disposition:OutputDisposition
 replacement:Option String
 reasonCodes:List String
 policyRefs:List String
 priority:ℤ

inductive DeclarativeOutputPolicyRuleError where
 | canonicalJson (error:CanonicalJsonError)
 | emptyRuleId
 | emptyLiteral (ruleId:String)
 | replacementRequired (ruleId:String) (disposition:OutputDisposition)
 | invalidReasonCode (ruleId reasonCode:String)
 | invalidPolicyRef (ruleId policyRef:String)
 | invalidEvaluationTimestamp (evaluatedAtUnixMs:ℕ)

namespace DeclarativeOutputPolicyRule

def ensureTexts (error:String→DeclarativeOutputPolicyRuleError) :
  List String→Except DeclarativeOutputPolicyRuleError Unit
 | []=>.ok ()
 | text::texts=>do
  ensure (!isBlank text) (error text)
  ensureTexts error texts

variable (rule:DeclarativeOutputPolicyRule)

def validate : Except DeclarativeOutputPolicyRuleError Unit := do
 ensure (!isBlank rule.ruleId) .emptyRuleId
 ensure (rule.literal != "") (.emptyLiteral rule.ruleId)
 ensure (!((rule.disposition == .redact||rule.disposition == .replace)&&rule.replacement.isNone))
  (.replacementRequired rule.ruleId rule.disposition)
 ensureTexts (.invalidReasonCode rule.ruleId) rule.reasonCodes
 ensureTexts (.invalidPolicyRef rule.ruleId) rule.policyRefs

def effectivePolicyRefs : List String :=
 if rule.policyRefs.isEmpty then [rule.ruleId] else rule.policyRefs

end DeclarativeOutputPolicyRule

namespace OutputPolicyDecision

/-- What the constructors of decisions set alike. -/
def plain (decisionId:String) (disposition:OutputDisposition) (draft:DraftDisposition)
  (toolCalls:PendingToolCallsDisposition) (inputDigest:String) : OutputPolicyDecision where
 decisionId
 disposition
 acceptedThroughSequence:=none
 replacementChunks:=[]
 redactions:=[]
 reasonCodes:=[]
 policyRefs:=[]
 providerCancellation:=.request
 draftDisposition:=draft
 pendingToolCalls:=toolCalls
 evaluatedAtUnixMs:=none
 inputDigest

def allow (decisionId:String) (acceptedThroughSequence:Option ℕ) (inputDigest:String) :
  OutputPolicyDecision :=
 { plain decisionId .allow .keep .keep inputDigest with
   acceptedThroughSequence }

def hold (decisionId inputDigest:String) : OutputPolicyDecision :=
 plain decisionId .hold .keep .keep inputDigest

def redact (decisionId:String) (acceptedThroughSequence:Option ℕ)
  (replacementChunks:List GenerationChunk) (inputDigest:String) : OutputPolicyDecision :=
 { plain decisionId .redact .keep .keep inputDigest with
   acceptedThroughSequence
   replacementChunks }

def replace (decisionId:String) (acceptedThroughSequence:Option ℕ)
  (replacementChunks:List GenerationChunk) (inputDigest:String) : OutputPolicyDecision :=
 { plain decisionId .replace .keep .keep inputDigest with
   acceptedThroughSequence
   replacementChunks }

def abortResponse (decisionId inputDigest:String) : OutputPolicyDecision :=
 plain decisionId .abortResponse .retract .deny inputDigest

def abortTurn (decisionId inputDigest:String) : OutputPolicyDecision :=
 plain decisionId .abortTurn .retract .deny inputDigest

def denyCommit (decisionId inputDigest:String) : OutputPolicyDecision :=
 plain decisionId .denyCommit .retract .deny inputDigest

end OutputPolicyDecision

def OutputDisposition.asStr : OutputDisposition→String
 | .allow=>"allow"
 | .hold=>"hold"
 | .redact=>"redact"
 | .replace=>"replace"
 | .abortResponse=>"abort_response"
 | .abortTurn=>"abort_turn"
 | .denyCommit=>"deny_commit"

/-- `str::len` of the characters. -/
def byteLength (text:List Char) : ℕ := width Char.utf8Size text

lemma utf8Size_pos(c:Char):0<c.utf8Size:=Char.utf8Size_pos c

/-- The loop of `redactions_for_rule`: `searchStart` is a byte offset, ranges are of characters. -/
def redactionsLoop (path replacement:String) (literal text:List Char) (searchStart:ℕ) :
  List RedactionInstruction :=
 -- the loop would find an empty literal for ever; `validate` refuses it
 if _ : literal=[] then []
 else
  match _ : find Char.utf8Size literal (dropWidth Char.utf8Size searchStart text) with
  | none=>[]
  | some offset=>
   let startByte:=searchStart+offset
   let endByte:=startByte+byteLength literal
   let start:=(takeWidth Char.utf8Size startByte text).length
   let stop:=start+literal.length
   ⟨path,start,stop,replacement⟩::redactionsLoop path replacement literal text endByte
termination_by byteLength text-searchStart
decreasing_by
 rename_i hliteral hfind
 have hne : dropWidth Char.utf8Size searchStart text≠[] := by
  intro hnil
  rw [hnil,find,if_neg (by simpa using hliteral)] at hfind
  cases hfind
 have hlt:=lt_width_of_dropWidth utf8Size_pos hne
 have hpos:=width_pos utf8Size_pos hliteral
 unfold byteLength
 omega

def redactionPath (sequence:ℕ) : String :=
 String.ofList ("/chunks/".toList++intToken sequence ++ "/text".toList)

def redactionsForRule (rule:DeclarativeOutputPolicyRule) (chunk:GenerationChunk) :
  List RedactionInstruction :=
 redactionsLoop (redactionPath chunk.sequence) (rule.replacement.getD "") rule.literal.toList
  chunk.text.toList 0

def containsLiteral (chunk:GenerationChunk) (rule:DeclarativeOutputPolicyRule) : Bool :=
 (find Char.utf8Size rule.literal.toList chunk.text.toList).isSome

def decidesBefore (a b:DeclarativeOutputPolicyRule) : Bool :=
 decide (b.priority<a.priority) ||
  decide (a.priority=b.priority)&&decide (a.ruleId≤b.ruleId)

section

-- the display of strings in JSON texts, and SHA-256 as hexadecimal digits
variable (d:StringDisplay) (sha256:List Char→String)

def ruleValue (rule:DeclarativeOutputPolicyRule) : Value :=
 .object
  [("rule_id",.string rule.ruleId),("literal",.string rule.literal),
   ("disposition",.string rule.disposition.asStr),
   ("replacement",rule.replacement.elim .null .string),
   ("reason_codes",.array (rule.reasonCodes.map .string)),
   ("policy_refs",.array (rule.policyRefs.map .string)),
   ("priority",.number (intToken rule.priority))]

def hashed (value:Value) : Except DeclarativeOutputPolicyRuleError String :=
 (Tools.canonicalHash d sha256 value).mapError .canonicalJson

def inputDigest (rules:List DeclarativeOutputPolicyRule) (chunk:GenerationChunk) :
  Except DeclarativeOutputPolicyRuleError String :=
 hashed d sha256 (.object
  [("chunk",.object
    [("stream_id",.string chunk.streamId),("response_id",.string chunk.responseId),
     ("sequence",.number (intToken chunk.sequence)),("text",.string chunk.text)]),
   ("rules",.array (rules.map ruleValue))])

def decisionId (inputDigest:String) (disposition:OutputDisposition) (ruleId:Option String) :
  Except DeclarativeOutputPolicyRuleError String := do
 let digest ← hashed d sha256 (.object
  [("input_digest",.string inputDigest),("disposition",.string disposition.asStr),
   ("rule_id",ruleId.elim .null .string)])
 return "output-decision:" ++ digest

def decisionForRule (rule:DeclarativeOutputPolicyRule) (chunk:GenerationChunk)
  (inputDigest:String) : Except DeclarativeOutputPolicyRuleError OutputPolicyDecision := do
 let decisionId ← decisionId d sha256 inputDigest rule.disposition (some rule.ruleId)
 let decision : OutputPolicyDecision:=
  match rule.disposition with
  | .allow=>.allow decisionId (some chunk.sequence) inputDigest
  | .hold=>.hold decisionId inputDigest
  | .redact=>
   { OutputPolicyDecision.redact decisionId (some chunk.sequence) [] inputDigest with
     redactions:=redactionsForRule rule chunk }
  | .replace=>
   .replace decisionId (some chunk.sequence)
    [{ chunk with text:=rule.replacement.getD "" }] inputDigest
  | .abortResponse=>.abortResponse decisionId inputDigest
  | .abortTurn=>.abortTurn decisionId inputDigest
  | .denyCommit=>.denyCommit decisionId inputDigest
 return { decision with reasonCodes:=rule.reasonCodes,policyRefs:=rule.effectivePolicyRefs }

def evaluateChunkUnchecked (rules:List DeclarativeOutputPolicyRule) (chunk:GenerationChunk)
  (evaluatedAtUnixMs:ℕ) : Except DeclarativeOutputPolicyRuleError OutputPolicyDecision := do
 let digest ← inputDigest d sha256 rules chunk
 match (rules.mergeSort decidesBefore).find? (containsLiteral chunk) with
 | some rule=>do
  let decision ← decisionForRule d sha256 rule chunk digest
  return { decision with evaluatedAtUnixMs:=some evaluatedAtUnixMs }
 | none=>do
  let decisionId ← decisionId d sha256 digest .allow none
  return { OutputPolicyDecision.allow decisionId (some chunk.sequence) digest with
           evaluatedAtUnixMs:=some evaluatedAtUnixMs }

def validateRules : List DeclarativeOutputPolicyRule→Except DeclarativeOutputPolicyRuleError Unit
 | []=>.ok ()
 | rule::rules=>do
  rule.validate
  validateRules rules

def evaluateChunk (rules:List DeclarativeOutputPolicyRule) (chunk:GenerationChunk)
  (evaluatedAtUnixMs:ℕ) : Except DeclarativeOutputPolicyRuleError OutputPolicyDecision := do
 ensure (evaluatedAtUnixMs != 0) (.invalidEvaluationTimestamp evaluatedAtUnixMs)
 validateRules rules
 evaluateChunkUnchecked d sha256 rules chunk evaluatedAtUnixMs
end
end GraphBlocks.OutputPolicy
