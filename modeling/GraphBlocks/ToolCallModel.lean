import GraphBlocks.CanonicalJson
import Mathlib.Data.Finset.Card

/-! `ToolCall` of the runtime core and the effects of tools. -/
namespace GraphBlocks.Tools
open Json CanonicalJson RustStd

inductive ToolEffect where
 | none | externalRead | externalWrite | filesystemRead | filesystemWrite | process | network
 | destructive
deriving DecidableEq

def hasConflictingToolEffects (effects:Finset ToolEffect) : Bool :=
 decide (.none∈effects)&&decide (1<effects.card)

inductive ToolCancellation where
 | unsupported | cooperative | forceTerminable
deriving DecidableEq

inductive ToolCallStatus where
 | validated | policyPending | approvalPending | admitted | running | completed | failed | denied
 | cancelled | policyStopped | expired
deriving DecidableEq

inductive ToolCallDraftStatus where
 | proposed | argumentsStreaming | argumentsComplete
deriving DecidableEq

inductive ToolCallError where
 | argumentsNotComplete (status:ToolCallDraftStatus)
 | invalidArgumentsJson
 | canonicalJson (error:CanonicalJsonError)
 | cannotReviseArguments (status:ToolCallStatus)
 | emptyField (field:String)
 | invalidRevision (revision:ℕ)
 | invalidStatusTransition (source target:ToolCallStatus)
 | admittedBeforeCreated (createdAtUnixMs admittedAtUnixMs:ℕ)
 | completedBeforeCreated (createdAtUnixMs completedAtUnixMs:ℕ)
 | completedBeforeAdmitted (admittedAtUnixMs completedAtUnixMs:ℕ)
 | argumentsDigestMismatch (toolCallId:String)
deriving DecidableEq

structure ToolCall where
 toolCallId:String
 responseId:String
 resolvedToolId:String
 name:String
 arguments:Value
 argumentsDigest:String
 revision:ℕ
 status:ToolCallStatus
 dependsOn:List String
 createdAtUnixMs:ℕ
 admittedAtUnixMs:Option ℕ
 completedAtUnixMs:Option ℕ

/-- `for (field, value) in [..] { if value.trim().is_empty() { return Err(..) } }`. -/
def requireFields {ε:Type} (emptyField:String→ε) : List (String×String)→Except ε Unit
 | []=>.ok ()
 | (field,value)::fields=>do
  ensure (!isBlank value) (emptyField field)
  requireFields emptyField fields

/-- `for (field, value) in [..] { if value.is_some_and(|value| value.trim().is_empty()) .. }`. -/
def requireOptionalFields {ε:Type} (emptyField:String→ε) : List (String×Option String)→Except ε Unit
 | []=>.ok ()
 | (field,value)::fields=>do
  ensure (!value.any isBlank) (emptyField field)
  requireOptionalFields emptyField fields

lemma mapError_ok{ε ε' α:Type}{x:Except ε α}{f:ε→ε'}{a:α}:x.mapError f=.ok a↔x=.ok a:=by
 cases x <;>simp [Except.mapError]

def u32Limit : ℕ := 2^32

section

-- the display of strings in JSON texts, and SHA-256 as hexadecimal digits
variable (d:StringDisplay) (sha256:List Char→String)

def canonicalHash (value:Value) : Except CanonicalJsonError String := do
 let text ← canonicalJson d value
 return "sha256:" ++ sha256 text

def ToolCall.validate (self:ToolCall) : Except ToolCallError Unit := do
 requireFields .emptyField
  [("tool_call_id",self.toolCallId),("response_id",self.responseId),
   ("resolved_tool_id",self.resolvedToolId),("name",self.name),
   ("arguments_digest",self.argumentsDigest)]
 ensure (self.revision != 0) (.invalidRevision self.revision)
 ensure (!self.admittedAtUnixMs.any (· < self.createdAtUnixMs))
  (.admittedBeforeCreated self.createdAtUnixMs (self.admittedAtUnixMs.getD 0))
 ensure (!self.completedAtUnixMs.any (· < self.createdAtUnixMs))
  (.completedBeforeCreated self.createdAtUnixMs (self.completedAtUnixMs.getD 0))
 ensure (!self.admittedAtUnixMs.any fun admittedAt=>self.completedAtUnixMs.any (· < admittedAt))
  (.completedBeforeAdmitted (self.admittedAtUnixMs.getD 0) (self.completedAtUnixMs.getD 0))
 ensure (!self.dependsOn.any isBlank) (.emptyField "depends_on")
 let digest ← (canonicalHash d sha256 self.arguments).mapError .canonicalJson
 ensure (digest==self.argumentsDigest) (.argumentsDigestMismatch self.toolCallId)

def ToolCall.reviseArguments (self:ToolCall) (arguments:Value) : Except ToolCallError ToolCall := do
 self.validate d sha256
 ensure (self.status == .validated) (.cannotReviseArguments self.status)
 let argumentsDigest ← (canonicalHash d sha256 arguments).mapError .canonicalJson
 ensure (self.revision+1<u32Limit) (.invalidRevision self.revision)
 let revised : ToolCall:=
  { self with
     arguments,argumentsDigest,revision:=self.revision+1,status:=.validated,admittedAtUnixMs:=none
     completedAtUnixMs:=none }
 revised.validate d sha256
 return revised
end

end GraphBlocks.Tools
