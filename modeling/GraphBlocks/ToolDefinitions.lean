import GraphBlocks.CanonicalFields
import GraphBlocks.ToolCallModel
import Mathlib.Data.Finset.Basic

/-! `ToolDefinition`, `ToolBinding` and `ResolvedTool` of the runtime core. -/
namespace GraphBlocks.Tools
open Json CanonicalJson StoredJson RustStd List

inductive ToolResolutionError where
 | canonicalJson (error:CanonicalJsonError)
 | emptyToolDefinitionField (field:String)
 | emptyToolBindingField (field:String)
 | emptyToolImplementationField (kind field:String)
 | emptyToolImplementationMapping (kind field entry:String)
 | conflictingToolEffects (bindingId:String)
 | emptyResolvedToolField (field:String)
 | resolvedToolDigestMismatch (field expected actual:String)
 | bindingToolNameMismatch (bindingId definitionName bindingToolName:String)

/-- The texts of a set, or of names that were collected, in their order. -/
def sortTexts (texts:Multiset String) : List String :=
 Quot.liftOn texts (List.insertionSort (· ≤ ·)) fun _ _ h=>
  (((perm_insertionSort _ _).trans h).trans
   (perm_insertionSort _ _).symm).eq_of_pairwise' (pairwise_insertionSort _ _)
    (pairwise_insertionSort _ _)

lemma coe_sortTexts(texts:Multiset String):(sortTexts texts:Multiset String)=texts:=
 Quot.inductionOn texts fun _=>Quot.sound (perm_insertionSort _ _)

lemma sortTexts_injective:Function.Injective sortTexts:=by
 intro a b h
 rw [←coe_sortTexts a,←coe_sortTexts b,h]

def textArray (texts:List String) : Value := .array (texts.map .string)

structure ToolDefinition where
 name:String
 description:String
 inputSchema:String
 outputSchema:Option String
 tags:Finset String
 version:Option String

def ToolDefinition.validate (self:ToolDefinition) : Except ToolResolutionError Unit := do
 requireFields .emptyToolDefinitionField
  [("name",self.name),("description",self.description),("input_schema",self.inputSchema)]
 requireOptionalFields .emptyToolDefinitionField
  [("output_schema",self.outputSchema),("version",self.version)]
 ensure (!(sortTexts self.tags.val).any isBlank) (.emptyToolDefinitionField "tag")

def ToolDefinition.document : List (String×(ToolDefinition→Value)) :=
 [("name",fun self=>.string self.name),("description",fun self=>.string self.description),
  ("input_schema",fun self=>.string self.inputSchema),
  ("output_schema",fun self=>optionalText self.outputSchema),
  ("tags",fun self=>textArray (sortTexts self.tags.val)),
  ("version",fun self=>optionalText self.version)]

def ToolEffect.asStr : ToolEffect→String
 | .none=>"none"
 | .externalRead=>"external_read"
 | .externalWrite=>"external_write"
 | .filesystemRead=>"filesystem_read"
 | .filesystemWrite=>"filesystem_write"
 | .process=>"process"
 | .network=>"network"
 | .destructive=>"destructive"

def canonicalEffectNames (effects:Finset ToolEffect) : List String :=
 sortTexts (effects.val.map ToolEffect.asStr)

inductive ToolApproval where
 | never | policy | always
deriving DecidableEq

def ToolApproval.asStr : ToolApproval→String
 | .never=>"never"
 | .policy=>"policy"
 | .always=>"always"

inductive ToolIdempotency where
 | notApplicable | optional | required
deriving DecidableEq

def ToolIdempotency.asStr : ToolIdempotency→String
 | .notApplicable=>"not_applicable"
 | .optional=>"optional"
 | .required=>"required"

def ToolCancellation.asStr : ToolCancellation→String
 | .unsupported=>"unsupported"
 | .cooperative=>"cooperative"
 | .forceTerminable=>"force_terminable"

inductive ToolResultMode where
 | value | incremental | boundedSequence | artifactReference

def ToolResultMode.asStr : ToolResultMode→String
 | .value=>"value"
 | .incremental=>"incremental"
 | .boundedSequence=>"bounded_sequence"
 | .artifactReference=>"artifact_reference"

structure BlockToolImplementation where
 block:String
 inputMapping:StringMap String
 outputMapping:StringMap String

structure GraphToolImplementation where
 graph:String
 inputMapping:StringMap String
 outputMapping:StringMap String

structure RemoteToolImplementation where
 connection:String
 operation:String

structure McpToolImplementation where
 server:String
 remoteName:String

structure OpenApiToolImplementation where
 connection:String
 operationId:String

inductive ToolImplementation where
 | block (implementation:BlockToolImplementation)
 | graph (implementation:GraphToolImplementation)
 | remote (implementation:RemoteToolImplementation)
 | mcp (implementation:McpToolImplementation)
 | openApi (implementation:OpenApiToolImplementation)

def validateField (kind field value:String) : Except ToolResolutionError Unit :=
 ensure (!isBlank value) (.emptyToolImplementationField kind field)

def validateEntries (kind field:String) : List (String×String)→Except ToolResolutionError Unit
 | []=>.ok ()
 | (entry,target)::rest=>do
  ensure (!(isBlank entry||isBlank target)) (.emptyToolImplementationMapping kind field entry)
  validateEntries kind field rest

def validateMapping (kind field:String) (mapping:StringMap String) :
  Except ToolResolutionError Unit :=
 validateEntries kind field mapping.toList

def ToolImplementation.validate : ToolImplementation→Except ToolResolutionError Unit
 | .block implementation=>do
  validateField "block" "block" implementation.block
  validateMapping "block" "input_mapping" implementation.inputMapping
  validateMapping "block" "output_mapping" implementation.outputMapping
 | .graph implementation=>do
  validateField "graph" "graph" implementation.graph
  validateMapping "graph" "input_mapping" implementation.inputMapping
  validateMapping "graph" "output_mapping" implementation.outputMapping
 | .remote implementation=>do
  validateField "remote" "connection" implementation.connection
  validateField "remote" "operation" implementation.operation
 | .mcp implementation=>do
  validateField "mcp" "server" implementation.server
  validateField "mcp" "remote_name" implementation.remoteName
 | .openApi implementation=>do
  validateField "openapi" "connection" implementation.connection
  validateField "openapi" "operation_id" implementation.operationId

def BlockToolImplementation.document : List (String×(BlockToolImplementation→Value)) :=
 [("kind",fun _=>.string "block"),("block",fun self=>.string self.block),
  ("input_mapping",fun self=>stringMapValue self.inputMapping),
  ("output_mapping",fun self=>stringMapValue self.outputMapping)]

def GraphToolImplementation.document : List (String×(GraphToolImplementation→Value)) :=
 [("kind",fun _=>.string "graph"),("graph",fun self=>.string self.graph),
  ("input_mapping",fun self=>stringMapValue self.inputMapping),
  ("output_mapping",fun self=>stringMapValue self.outputMapping)]

def RemoteToolImplementation.document : List (String×(RemoteToolImplementation→Value)) :=
 [("kind",fun _=>.string "remote"),("connection",fun self=>.string self.connection),
  ("operation",fun self=>.string self.operation)]

def McpToolImplementation.document : List (String×(McpToolImplementation→Value)) :=
 [("kind",fun _=>.string "mcp"),("server",fun self=>.string self.server),
  ("remote_name",fun self=>.string self.remoteName)]

def OpenApiToolImplementation.document : List (String×(OpenApiToolImplementation→Value)) :=
 [("kind",fun _=>.string "openapi"),("connection",fun self=>.string self.connection),
  ("operation_id",fun self=>.string self.operationId)]

def ToolImplementation.canonicalMembers : ToolImplementation→Members
 | .block implementation=>writeFields BlockToolImplementation.document implementation
 | .graph implementation=>writeFields GraphToolImplementation.document implementation
 | .remote implementation=>writeFields RemoteToolImplementation.document implementation
 | .mcp implementation=>writeFields McpToolImplementation.document implementation
 | .openApi implementation=>writeFields OpenApiToolImplementation.document implementation

def ToolImplementation.canonicalValue (self:ToolImplementation) : Value :=
 .object self.canonicalMembers

structure ToolBinding where
 bindingId:String
 toolName:String
 implementation:ToolImplementation
 effects:Finset ToolEffect
 approval:ToolApproval
 idempotency:ToolIdempotency
 cancellation:ToolCancellation
 resultMode:ToolResultMode
 timeoutMs:Option ℕ
 retryPolicyRef:Option String
 policyProfileRef:Option String
 executionClass:Option String

def ToolBinding.validate (self:ToolBinding) : Except ToolResolutionError Unit := do
 requireFields .emptyToolBindingField
  [("binding_id",self.bindingId),("tool_name",self.toolName)]
 requireOptionalFields .emptyToolBindingField
  [("retry_policy_ref",self.retryPolicyRef),("policy_profile_ref",self.policyProfileRef),
   ("execution_class",self.executionClass)]
 ensure (!hasConflictingToolEffects self.effects) (.conflictingToolEffects self.bindingId)
 self.implementation.validate

def ToolBinding.document : List (String×(ToolBinding→Value)) :=
 [("binding_id",fun self=>.string self.bindingId),("tool_name",fun self=>.string self.toolName),
  ("implementation",fun self=>self.implementation.canonicalValue),
  ("effects",fun self=>textArray (canonicalEffectNames self.effects)),
  ("approval",fun self=>.string self.approval.asStr),
  ("idempotency",fun self=>.string self.idempotency.asStr),
  ("cancellation",fun self=>.string self.cancellation.asStr),
  ("result_mode",fun self=>.string self.resultMode.asStr),
  ("timeout_ms",fun self=>orNull (fun n:ℕ=>.number (intToken n)) self.timeoutMs),
  ("retry_policy_ref",fun self=>optionalText self.retryPolicyRef),
  ("policy_profile_ref",fun self=>optionalText self.policyProfileRef),
  ("execution_class",fun self=>optionalText self.executionClass)]

structure ResolvedTool where
 resolvedToolId:String
 definition:ToolDefinition
 binding:ToolBinding
 definitionDigest:String
 bindingDigest:String
 effectivePolicySnapshotId:String
 allowedForPrincipal:Bool
 validUntilUnixMs:Option ℕ

section
variable (d:StringDisplay) (sha256:List Char→String)

def ToolDefinition.digest (self:ToolDefinition) : Except CanonicalJsonError String :=
 canonicalHash d sha256 (.object (writeFields ToolDefinition.document self))

def ToolBinding.digest (self:ToolBinding) : Except CanonicalJsonError String :=
 canonicalHash d sha256 (.object (writeFields ToolBinding.document self))

def ResolvedTool.validate (self:ResolvedTool) : Except ToolResolutionError Unit := do
 requireFields .emptyResolvedToolField
  [("resolved_tool_id",self.resolvedToolId),("definition_digest",self.definitionDigest),
   ("binding_digest",self.bindingDigest),
   ("effective_policy_snapshot_id",self.effectivePolicySnapshotId)]
 self.definition.validate
 self.binding.validate
 ensure (self.definition.name==self.binding.toolName)
  (.bindingToolNameMismatch self.binding.bindingId self.definition.name self.binding.toolName)
 let definitionDigest ← (self.definition.digest d sha256).mapError .canonicalJson
 ensure (self.definitionDigest==definitionDigest)
  (.resolvedToolDigestMismatch "definition_digest" definitionDigest self.definitionDigest)
 let bindingDigest ← (self.binding.digest d sha256).mapError .canonicalJson
 ensure (self.bindingDigest==bindingDigest)
  (.resolvedToolDigestMismatch "binding_digest" bindingDigest self.bindingDigest)
end

lemma legible_textArray:Legible textArray:=legible_array legible_string

lemma legible_timeout:Legible (orNull fun n:ℕ=>Value.number (intToken n)):=by
 refine legible_orNull legible_number fun n h=>?_
 rw [canonicalize_intToken] at h
 cases h

lemma effectName_injective:Function.Injective ToolEffect.asStr:=by
 intro a b h
 cases a <;>cases b <;>first | rfl | exact absurd h (by decide)

lemma approvalName_injective:Function.Injective ToolApproval.asStr:=by
 intro a b h
 cases a <;>cases b <;>first | rfl | exact absurd h (by decide)

lemma idempotencyName_injective:Function.Injective ToolIdempotency.asStr:=by
 intro a b h
 cases a <;>cases b <;>first | rfl | exact absurd h (by decide)

lemma cancellationName_injective:Function.Injective ToolCancellation.asStr:=by
 intro a b h
 cases a <;>cases b <;>first | rfl | exact absurd h (by decide)

lemma resultModeName_injective:Function.Injective ToolResultMode.asStr:=by
 intro a b h
 cases a <;>cases b <;>first | rfl | exact absurd h (by decide)

lemma canonicalEffectNames_injective:Function.Injective canonicalEffectNames:=by
 intro a b h
 exact Finset.val_injective (Multiset.map_injective effectName_injective (sortTexts_injective h))

lemma sortedTags_injective:Function.Injective fun tags : Finset String=>sortTexts tags.val:=by
 intro a b h
 exact Finset.val_injective (sortTexts_injective h)

lemma legible_definition:
  Legible fun self : ToolDefinition=>.object (writeFields ToolDefinition.document self):=by
 intro a b h
 have hfields:=canonicalize_writeFields (by decide) h
 simp only [ToolDefinition.document,forall_mem_cons] at hfields
 obtain ⟨hname,hdescription,hinput,houtput,htags,hversion,-⟩:=hfields
 cases a
 cases b
 obtain rfl:=legible_string hname
 obtain rfl:=legible_string hdescription
 obtain rfl:=legible_string hinput
 obtain rfl:=legible_optionalText houtput
 obtain rfl:=legible_textArray.comp sortedTags_injective htags
 obtain rfl:=legible_optionalText hversion
 rfl

lemma legible_block:Legible fun self : BlockToolImplementation=>
  .object (writeFields BlockToolImplementation.document self):=by
 intro a b h
 have hfields:=canonicalize_writeFields (by decide) h
 simp only [BlockToolImplementation.document,forall_mem_cons] at hfields
 obtain ⟨-,hblock,hinput,houtput,-⟩:=hfields
 cases a
 cases b
 obtain rfl:=legible_string hblock
 obtain rfl:=legible_stringMap hinput
 obtain rfl:=legible_stringMap houtput
 rfl

lemma legible_graph:Legible fun self : GraphToolImplementation=>
  .object (writeFields GraphToolImplementation.document self):=by
 intro a b h
 have hfields:=canonicalize_writeFields (by decide) h
 simp only [GraphToolImplementation.document,forall_mem_cons] at hfields
 obtain ⟨-,hgraph,hinput,houtput,-⟩:=hfields
 cases a
 cases b
 obtain rfl:=legible_string hgraph
 obtain rfl:=legible_stringMap hinput
 obtain rfl:=legible_stringMap houtput
 rfl

lemma legible_remote:Legible fun self : RemoteToolImplementation=>
  .object (writeFields RemoteToolImplementation.document self):=by
 intro a b h
 have hfields:=canonicalize_writeFields (by decide) h
 simp only [RemoteToolImplementation.document,forall_mem_cons] at hfields
 obtain ⟨-,hconnection,hoperation,-⟩:=hfields
 cases a
 cases b
 obtain rfl:=legible_string hconnection
 obtain rfl:=legible_string hoperation
 rfl

lemma legible_mcp:Legible fun self : McpToolImplementation=>
  .object (writeFields McpToolImplementation.document self):=by
 intro a b h
 have hfields:=canonicalize_writeFields (by decide) h
 simp only [McpToolImplementation.document,forall_mem_cons] at hfields
 obtain ⟨-,hserver,hname,-⟩:=hfields
 cases a
 cases b
 obtain rfl:=legible_string hserver
 obtain rfl:=legible_string hname
 rfl

lemma legible_openApi:Legible fun self : OpenApiToolImplementation=>
  .object (writeFields OpenApiToolImplementation.document self):=by
 intro a b h
 have hfields:=canonicalize_writeFields (by decide) h
 simp only [OpenApiToolImplementation.document,forall_mem_cons] at hfields
 obtain ⟨-,hconnection,hoperation,-⟩:=hfields
 cases a
 cases b
 obtain rfl:=legible_string hconnection
 obtain rfl:=legible_string hoperation
 rfl

def ToolImplementation.kind : ToolImplementation→String
 | .block _=>"block"
 | .graph _=>"graph"
 | .remote _=>"remote"
 | .mcp _=>"mcp"
 | .openApi _=>"openapi"

lemma canonicalMembers_kind(self:ToolImplementation):
  self.canonicalMembers.lookup "kind"=some (.string self.kind):=by
 cases self <;>rfl

lemma canonicalMembers_nodup(self:ToolImplementation):(keys self.canonicalMembers).Nodup:=by
 cases self <;>
  (simp only [ToolImplementation.canonicalMembers,keys_writeFields];decide)

lemma legible_implementation:Legible ToolImplementation.canonicalValue:=by
 intro a b h
 have hkind:=lookup_eq_of_canonicalize (canonicalMembers_nodup a) (canonicalMembers_nodup b) h
  "kind"
 rw [canonicalMembers_kind,canonicalMembers_kind] at hkind
 have hname:a.kind=b.kind:=legible_string (Option.some.inj hkind)
 cases a with
 | block i=>
  cases b with
  | block j=>exact congrArg _ (legible_block h)
  | graph | remote | mcp | openApi=>simp [ToolImplementation.kind] at hname
 | graph i=>
  cases b with
  | graph j=>exact congrArg _ (legible_graph h)
  | block | remote | mcp | openApi=>simp [ToolImplementation.kind] at hname
 | remote i=>
  cases b with
  | remote j=>exact congrArg _ (legible_remote h)
  | block | graph | mcp | openApi=>simp [ToolImplementation.kind] at hname
 | mcp i=>
  cases b with
  | mcp j=>exact congrArg _ (legible_mcp h)
  | block | graph | remote | openApi=>simp [ToolImplementation.kind] at hname
 | openApi i=>
  cases b with
  | openApi j=>exact congrArg _ (legible_openApi h)
  | block | graph | remote | mcp=>simp [ToolImplementation.kind] at hname

lemma legible_binding:
  Legible fun self : ToolBinding=>.object (writeFields ToolBinding.document self):=by
 intro a b h
 have hfields:=canonicalize_writeFields (by decide) h
 simp only [ToolBinding.document,forall_mem_cons] at hfields
 obtain ⟨hid,hname,himplementation,heffects,happroval,hidempotency,hcancellation,hmode,
  htimeout,hretry,hprofile,hclass,-⟩:=hfields
 cases a
 cases b
 obtain rfl:=legible_string hid
 obtain rfl:=legible_string hname
 obtain rfl:=legible_implementation himplementation
 obtain rfl:=legible_textArray.comp canonicalEffectNames_injective heffects
 obtain rfl:=legible_string.comp approvalName_injective happroval
 obtain rfl:=legible_string.comp idempotencyName_injective hidempotency
 obtain rfl:=legible_string.comp cancellationName_injective hcancellation
 obtain rfl:=legible_string.comp resultModeName_injective hmode
 obtain rfl:=legible_timeout htimeout
 obtain rfl:=legible_optionalText hretry
 obtain rfl:=legible_optionalText hprofile
 obtain rfl:=legible_optionalText hclass
 rfl

section
variable {d:StringDisplay} {sha256:List Char→String} {digest:String}

lemma canonicalHash_ok{v:Value}(h:canonicalHash d sha256 v=.ok digest):
  ∃text,canonicalJson d v=.ok text∧digest="sha256:"++sha256 text:=by
 unfold canonicalHash at h
 obtain ⟨text,htext,h⟩:=bind_ok.mp h
 exact ⟨text,htext,(Except.ok.inj h).symm⟩

lemma canonicalJson_of_hash(hsha:Function.Injective sha256){v w:Value}
  (hv:canonicalHash d sha256 v=.ok digest)(hw:canonicalHash d sha256 w=.ok digest):
  canonicalJson d v=canonicalJson d w:=by
 obtain ⟨text,htext,hdigest⟩:=canonicalHash_ok hv
 obtain ⟨text',htext',hdigest'⟩:=canonicalHash_ok hw
 have heq:text=text':=hsha (append_left_injective "sha256:" (hdigest.symm.trans hdigest'))
 rw [htext,htext',heq]

lemma canonicalize_of_hash(hsha:Function.Injective sha256){v w:Value}
  (hnv:AllNumbers IsNumberToken v)(hnw:AllNumbers IsNumberToken w)
  (hv:canonicalHash d sha256 v=.ok digest)(hw:canonicalHash d sha256 w=.ok digest):
  canonicalize v=canonicalize w:=by
 obtain ⟨text,htext,-⟩:=canonicalHash_ok hv
 exact canonicalize_eq_of_text hnv hnw htext ((canonicalJson_of_hash hsha hv hw)▸htext)

lemma allNumbers_textArray(texts:List String):AllNumbers IsNumberToken (textArray texts):=
 allNumbers_array Value.string (fun _=>by trivial) texts

lemma allNumbers_definition(definition:ToolDefinition):
  AllNumbers IsNumberToken (.object (writeFields ToolDefinition.document definition)):=by
 apply allNumbers_writeFields
 simp only [ToolDefinition.document,forall_mem_cons]
 exact ⟨trivial,trivial,trivial,allNumbers_optionalText _,allNumbers_textArray _,
  allNumbers_optionalText _,forall_mem_nil _⟩

lemma allNumbers_implementation(implementation:ToolImplementation):
  AllNumbers IsNumberToken implementation.canonicalValue:=by
 cases implementation with
 | block i=>
  apply allNumbers_writeFields
  simp only [BlockToolImplementation.document,forall_mem_cons]
  exact ⟨trivial,trivial,allNumbers_stringMap _,allNumbers_stringMap _,forall_mem_nil _⟩
 | graph i=>
  apply allNumbers_writeFields
  simp only [GraphToolImplementation.document,forall_mem_cons]
  exact ⟨trivial,trivial,allNumbers_stringMap _,allNumbers_stringMap _,forall_mem_nil _⟩
 | remote i=>
  apply allNumbers_writeFields
  simp only [RemoteToolImplementation.document,forall_mem_cons]
  exact ⟨trivial,trivial,trivial,forall_mem_nil _⟩
 | mcp i=>
  apply allNumbers_writeFields
  simp only [McpToolImplementation.document,forall_mem_cons]
  exact ⟨trivial,trivial,trivial,forall_mem_nil _⟩
 | openApi i=>
  apply allNumbers_writeFields
  simp only [OpenApiToolImplementation.document,forall_mem_cons]
  exact ⟨trivial,trivial,trivial,forall_mem_nil _⟩

lemma allNumbers_binding(binding:ToolBinding):
  AllNumbers IsNumberToken (.object (writeFields ToolBinding.document binding)):=by
 have hnumber (n:ℕ):AllNumbers IsNumberToken (.number (intToken n)):=isNumberToken_intToken n
 have htimeout:AllNumbers IsNumberToken
   (orNull (fun n:ℕ=>Value.number (intToken n)) binding.timeoutMs):=
  allNumbers_orNull _ hnumber _
 apply allNumbers_writeFields
 simp only [ToolBinding.document,forall_mem_cons]
 exact ⟨trivial,trivial,allNumbers_implementation _,allNumbers_textArray _,trivial,trivial,
  trivial,trivial,htimeout,allNumbers_optionalText _,allNumbers_optionalText _,
  allNumbers_optionalText _,forall_mem_nil _⟩

lemma resolvedTool_digests{tool:ResolvedTool}{u:Unit}(h:tool.validate d sha256=.ok u):
  tool.definition.digest d sha256=.ok tool.definitionDigest ∧
   tool.binding.digest d sha256=.ok tool.bindingDigest:=by
 unfold ResolvedTool.validate at h
 iterate 4 obtain ⟨-,-,h⟩:=bind_ok.mp h
 obtain ⟨definitionDigest,hdefinition,h⟩:=bind_ok.mp h
 obtain ⟨_,hsame,h⟩:=bind_ok.mp h
 obtain ⟨bindingDigest,hbinding,h⟩:=bind_ok.mp h
 have hsame':=ensure_ok.mp h
 rw [eq_of_beq (ensure_ok.mp hsame),eq_of_beq hsame']
 exact ⟨mapError_ok.mp hdefinition,mapError_ok.mp hbinding⟩

lemma resolvedTool_identified(hsha:Function.Injective sha256){tool tool':ResolvedTool}
  {u u':Unit}(h:tool.validate d sha256=.ok u)(h':tool'.validate d sha256=.ok u')
  (hdefinition:tool.definitionDigest=tool'.definitionDigest)
  (hbinding:tool.bindingDigest=tool'.bindingDigest):
  tool.definition=tool'.definition∧tool.binding=tool'.binding:=by
 obtain ⟨hd,hb⟩:=resolvedTool_digests h
 obtain ⟨hd',hb'⟩:=resolvedTool_digests h'
 rw [←hdefinition] at hd'
 rw [←hbinding] at hb'
 exact ⟨legible_definition (canonicalize_of_hash hsha (allNumbers_definition _)
   (allNumbers_definition _) hd hd'),
  legible_binding (canonicalize_of_hash hsha (allNumbers_binding _) (allNumbers_binding _)
   hb hb')⟩
end

end GraphBlocks.Tools
