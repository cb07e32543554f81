import GraphBlocks.RunStoreOwnership
import GraphBlocks.RunStoreStorage

namespace GraphBlocks.RunStore
open Json OrderedMap RustStd CanonicalJson StoredJson List

structure WellFormedLease (runId:String) (lease:RunOwnershipLease) : Prop where
 run:lease.runId=runId
 leaseId:lease.leaseId=leaseIdOf runId lease.fencingEpoch
 owner:isBlank lease.owner=false
 epoch:lease.fencingEpoch≠0
 interval:lease.acquiredAtUnixMs<lease.expiresAtUnixMs

structure Kept (s:InMemoryRunStore) : Prop where
 ids:∀(k:String) record,s.runs[k]?=some record → record.runId=k∧IsRunId k
 tools:∀(k:String) record,s.runs[k]?=some record →
  sortedModelVisibleTools record.modelVisibleTools=record.modelVisibleTools
 known:∀(k:String) lease,s.ownershipLeases[k]?=some lease → ∃record,s.runs[k]?=some record
 leases:∀(k:String) lease,s.ownershipLeases[k]?=some lease→WellFormedLease k lease

lemma sortedModelVisibleTools_idem(tools:List ModelVisibleToolRef):
  sortedModelVisibleTools (sortedModelVisibleTools tools)=sortedModelVisibleTools tools:=by
 unfold sortedModelVisibleTools
 exact (pairwise_insertionSort _ tools).insertionSort_eq

lemma kept_new : Kept InMemoryRunStore.new where
 ids k record h:=by simp [InMemoryRunStore.new] at h
 tools k record h:=by simp [InMemoryRunStore.new] at h
 known k lease h:=by simp [InMemoryRunStore.new] at h
 leases k lease h:=by simp [InMemoryRunStore.new] at h

variable {record:RunRecord}

section
variable {s:InMemoryRunStore} {runId:String}

lemma Kept.setRun (h:Kept s) {next:ℕ} (hid:record.runId=runId) (hrunId:IsRunId runId)
  (htools:sortedModelVisibleTools record.modelVisibleTools=record.modelVisibleTools) :
  Kept { s with runs:=s.runs.insert runId record,nextSequence:=next } where
 ids k stored hk:=by
  simp only [lookup_insert] at hk
  split at hk
  · next heq=>
    cases hk
    exact heq▸⟨hid,hrunId⟩
  · exact h.ids k stored hk
 tools k stored hk:=by
  simp only [lookup_insert] at hk
  split at hk
  · cases hk
    exact htools
  · exact h.tools k stored hk
 known k lease hk:=by
  simp only [lookup_insert]
  split
  · exact ⟨record,rfl⟩
  · exact h.known k lease hk
 leases:=h.leases

variable {lease:RunOwnershipLease}

lemma Kept.setLease (h:Kept s) (hknown:∃record,s.runs[runId]?=some record)
  (hlease:WellFormedLease runId lease) :
  Kept { s with ownershipLeases:=s.ownershipLeases.insert runId lease } where
 ids:=h.ids
 tools:=h.tools
 known k stored hk:=by
  simp only [lookup_insert] at hk
  split at hk
  · next heq=>exact heq▸hknown
  · exact h.known k stored hk
 leases k stored hk:=by
  simp only [lookup_insert] at hk
  split at hk
  · next heq=>
    cases hk
    exact heq▸hlease
  · exact h.leases k stored hk

lemma acquired_wellFormed{owner:String}{acquiredAt expiresAt:ℕ}{current:Option RunOwnershipLease}
  (h:acquireRunOwnershipLease runId owner acquiredAt expiresAt current=.ok lease):
  WellFormedLease runId lease:=by
 have hinterval:=(acquireRunOwnershipLease_ok h).1
 unfold acquireRunOwnershipLease at h
 obtain ⟨_,hrequest,h⟩:=bind_ok.mp h
 obtain ⟨_,-,h⟩:=bind_ok.mp h
 obtain ⟨_,-,hrequest⟩:=bind_ok.mp hrequest
 obtain ⟨_,howner,-⟩:=bind_ok.mp hrequest
 cases h
 refine ⟨rfl,rfl,by simpa using ensure_ok.mp howner,?_,hinterval⟩
 cases current with
 | none=>exact Nat.one_ne_zero
 | some previous=>
  change saturatingSucc previous.fencingEpoch≠0
  unfold saturatingSucc
  split
  · omega
  · decide

lemma WellFormedLease.renew(h:WellFormedLease runId lease){expiresAt:ℕ}
  (hlater:lease.expiresAtUnixMs<expiresAt):
  WellFormedLease runId { lease with expiresAtUnixMs:=expiresAt }:=by
 have hinterval:=h.interval
 refine ⟨h.run,h.leaseId,h.owner,h.epoch,?_⟩
 change lease.acquiredAtUnixMs<expiresAt
 omega

variable {current updated:RunRecord}

lemma Rewrites.sorted(h:Rewrites current updated)
  (hcurrent:sortedModelVisibleTools current.modelVisibleTools=current.modelVisibleTools):
  sortedModelVisibleTools updated.modelVisibleTools=updated.modelVisibleTools:=by
 obtain htools|⟨tools,htools⟩:=h.tools
 · rw [htools,hcurrent]
 · rw [htools,sortedModelVisibleTools_idem]

lemma Kept.rewrite(h:Kept s)(hstored:s.runs[runId]?=some current)
  (hrewrites:Rewrites current updated):Kept { s with runs:=s.runs.insert runId updated }:=
 h.setRun (hrewrites.runId.trans (h.ids runId current hstored).1) (h.ids runId current hstored).2
  (hrewrites.sorted (h.tools runId current hstored))
end

lemma RunInvocationMode.fromStr_asStr(mode:RunInvocationMode):
  RunInvocationMode.fromStr mode.asStr=some mode:=by
 cases mode <;>rfl

lemma RunStatus.fromStatusStr_asStr(status:RunStatus):
  RunStatus.fromStatusStr status.asStr=some status:=by
 cases status <;>rfl

lemma sqliteI64ToU64_natCast(n:ℕ)(label:String):sqliteI64ToU64 n label=.ok n:=by
 simp [sqliteI64ToU64]

variable {key:String}

lemma optionalString_of_lookup{object:StringMap Value}{text:Option String}
  (h:object[key]?=some (optionalStringValue text)):optionalString object key=.ok text:=by
 unfold optionalString
 rw [h]
 cases text <;>rfl

lemma deploymentProvenanceFromValue_canonicalValue(p:RunDeploymentProvenance):
  deploymentProvenanceFromValue p.canonicalValue=.ok p:=by
 have hrelease:optionalString p.members "release_digest"=.ok p.releaseDigest:=
  optionalString_of_lookup (by simp only [RunDeploymentProvenance.members,lookup_insert];rfl)
 have hrevision:optionalString p.members "deployment_revision_id"=.ok p.deploymentRevisionId:=
  optionalString_of_lookup (by simp only [RunDeploymentProvenance.members,lookup_insert];rfl)
 have hplan:optionalString p.members "physical_plan_hash"=.ok p.physicalPlanHash:=
  optionalString_of_lookup (by simp only [RunDeploymentProvenance.members,lookup_insert];rfl)
 have hsignature :
   optionalString p.members "release_signature_digest"=.ok p.releaseSignatureDigest:=
  optionalString_of_lookup (by simp only [RunDeploymentProvenance.members,lookup_insert];rfl)
 unfold RunDeploymentProvenance.canonicalValue toObject
 simp only [deploymentProvenanceFromValue,objectMap_toList,hrelease,hrevision,hplan,hsignature]
 rfl

lemma requiredStorageString_of_lookup{object:StringMap Value}{text:String}
  (h:object[key]?=some (.string text)):requiredStorageString object key=.ok text:=by
 unfold requiredStorageString
 rw [h]
 rfl

/-- `valid_until_unix_ms` as the `u64` of the source. -/
def ToolsFit (tools:List ModelVisibleToolRef) : Prop :=
 ∀tool∈tools,∀n,tool.validUntilUnixMs=some n→n<u64Limit

lemma toolFromValue_members{tool:ModelVisibleToolRef}
  (h:∀n,tool.validUntilUnixMs=some n→n<u64Limit):
  toolFromValue (toObject tool.members)=.ok tool:=by
 have hname:requiredStorageString tool.members "tool_name"=.ok tool.toolName:=
  requiredStorageString_of_lookup (by simp only [ModelVisibleToolRef.members,lookup_insert];rfl)
 have hresolved : requiredStorageString tool.members "resolved_tool_id"=.ok tool.resolvedToolId:=
  requiredStorageString_of_lookup (by simp only [ModelVisibleToolRef.members,lookup_insert];rfl)
 have hdefinition :
   requiredStorageString tool.members "definition_digest"=.ok tool.definitionDigest:=
  requiredStorageString_of_lookup (by simp only [ModelVisibleToolRef.members,lookup_insert];rfl)
 have hbinding:requiredStorageString tool.members "binding_digest"=.ok tool.bindingDigest:=
  requiredStorageString_of_lookup (by simp only [ModelVisibleToolRef.members,lookup_insert];rfl)
 have hpolicy:requiredStorageString tool.members "effective_policy_snapshot_id" =
   .ok tool.effectivePolicySnapshotId:=
  requiredStorageString_of_lookup (by simp only [ModelVisibleToolRef.members,lookup_insert];rfl)
 have hallowed:allowedFromStorage tool.members=.ok tool.allowedForPrincipal:=by
  have hlookup:tool.members["allowed_for_principal"]?=some (.bool tool.allowedForPrincipal):=by
   simp only [ModelVisibleToolRef.members,lookup_insert]
   rfl
  unfold allowedFromStorage
  rw [hlookup]
  rfl
 have hvalid:validUntilFromStorage tool.members=.ok tool.validUntilUnixMs:=by
  have hlookup :
    tool.members["valid_until_unix_ms"]?=some (optionalU64Value tool.validUntilUnixMs):=by
   simp only [ModelVisibleToolRef.members,lookup_insert]
   rfl
  unfold validUntilFromStorage
  rw [hlookup]
  cases hn:tool.validUntilUnixMs with
  | none=>rfl
  | some n=>simp only [optionalU64Value,asU64,parseU64_intToken (h n hn)]
 unfold toObject
 simp only [toolFromValue,objectMap_toList,hname,hresolved,hdefinition,hbinding,hpolicy,
  hallowed,hvalid]
 rfl

lemma modelVisibleToolsFromValue_value{tools:List ModelVisibleToolRef}(h:ToolsFit tools):
  modelVisibleToolsFromValue (modelVisibleToolsValue tools) =
   .ok (sortedModelVisibleTools tools):=by
 have hcollect:collect toolFromValue (tools.map fun tool=>toObject tool.members)=.ok tools:=by
  rw [collect_ok,forall₂_map_left_iff,forall₂_same]
  exact fun tool htool=>toolFromValue_members (h tool htool)
 simp only [modelVisibleToolsValue,modelVisibleToolsFromValue,hcollect]
 rfl

lemma optionalStringValue_leaf(text:Option String):
  AllNumbers IsNumberToken (optionalStringValue text)∧height (optionalStringValue text)=0:=by
 cases text with
 | none=>exact ⟨trivial,by simp [optionalStringValue,height]⟩
 | some text=>exact ⟨trivial,by simp [optionalStringValue,height]⟩

lemma optionalU64Value_leaf(n:Option ℕ):
  AllNumbers IsNumberToken (optionalU64Value n)∧height (optionalU64Value n)=0:=by
 cases n with
 | none=>exact ⟨trivial,by simp [optionalU64Value,height]⟩
 | some n=>exact ⟨isNumberToken_intToken n,by simp [optionalU64Value,height]⟩

lemma leaves_insert{m:StringMap Value}{value:Value}
  (hm:∀(k:String) v,m[k]?=some v→AllNumbers IsNumberToken v∧height v=0)
  (hvalue:AllNumbers IsNumberToken value∧height value=0):
  ∀(k:String) v,(m.insert key value)[k]?=some v→AllNumbers IsNumberToken v∧height v=0:=by
 intro k v hk
 rw [lookup_insert] at hk
 split at hk
 · cases hk
   exact hvalue
 · exact hm k v hk

lemma leaves_empty:∀(k:String) v,(∅:StringMap Value)[k]?=some v →
  AllNumbers IsNumberToken v∧height v=0:=by
 intro k v hk
 simp at hk

lemma string_leaf(text:String):AllNumbers IsNumberToken (.string text)∧height (.string text)=0:=
 ⟨trivial,by simp [height]⟩

lemma bool_leaf(b:Bool):AllNumbers IsNumberToken (.bool b)∧height (.bool b)=0:=
 ⟨trivial,by simp [height]⟩

lemma canonicalValue_writable(p:RunDeploymentProvenance):Writable p.canonicalValue:=by
 have hleaves:∀(k:String) v,p.members[k]?=some v→AllNumbers IsNumberToken v∧height v=0:=
  leaves_insert (leaves_insert (leaves_insert (leaves_insert leaves_empty
   (optionalStringValue_leaf _)) (optionalStringValue_leaf _)) (optionalStringValue_leaf _))
   (optionalStringValue_leaf _)
 obtain ⟨hnumbers,hheight⟩:=toObject_writable (m:=p.members) (n:=1) fun k v hk=>
  ⟨(hleaves k v hk).1,by rw [(hleaves k v hk).2]⟩
 exact ⟨hnumbers,hheight.trans (by decide)⟩

lemma toolMembers_writable(tool:ModelVisibleToolRef):
  AllNumbers IsNumberToken (toObject tool.members)∧height (toObject tool.members)≤1:=by
 have hleaves:∀(k:String) v,tool.members[k]?=some v→AllNumbers IsNumberToken v∧height v=0:=
  leaves_insert (leaves_insert (leaves_insert (leaves_insert (leaves_insert (leaves_insert
   (leaves_insert leaves_empty (string_leaf _)) (string_leaf _)) (string_leaf _)) (string_leaf _))
   (string_leaf _)) (bool_leaf _)) (optionalU64Value_leaf _)
 exact toObject_writable fun k v hk=>⟨(hleaves k v hk).1,by rw [(hleaves k v hk).2]⟩

lemma modelVisibleToolsValue_writable(tools:List ModelVisibleToolRef):
  Writable (modelVisibleToolsValue tools):=by
 constructor
 · rw [modelVisibleToolsValue,AllNumbers,allNumbersItems_iff]
   intro v hv
   obtain ⟨tool,-,rfl⟩:=mem_map.mp hv
   exact (toolMembers_writable tool).1
 · rw [modelVisibleToolsValue,height,heightItems_le_iff]
   intro v hv
   obtain ⟨tool,-,rfl⟩:=mem_map.mp hv
   have hle:=(toolMembers_writable tool).2
   omega

section
variable {d:StringDisplay} (reader:JsonReader d)

def rowOf (d:StringDisplay) (record:RunRecord) : RunRow where
 sequence:=record.sequence
 runId:=record.runId
 graphHash:=record.graphHash
 invocationMode:=record.invocationMode.asStr
 inputsJson:=toText d record.inputs
 deploymentProvenanceJson:=toText d record.deploymentProvenance.canonicalValue
 modelVisibleToolsJson:=toText d (modelVisibleToolsValue record.modelVisibleTools)
 status:=record.status.asStr
 stateJson:=toText d record.state
 stateRevision:=record.stateRevision

def leaseRowOf (lease:RunOwnershipLease) : LeaseRow where
 runId:=lease.runId
 leaseId:=lease.leaseId
 owner:=lease.owner
 fencingEpoch:=lease.fencingEpoch
 acquiredAtUnixMs:=lease.acquiredAtUnixMs
 expiresAtUnixMs:=lease.expiresAtUnixMs

/-- A value that `serde_json::from_str` reads back from `serde_json::to_string`. -/
def Survives (value:Value) : Prop :=
 SqliteRunStore.parseStorageJson reader (toText d value)=.ok value

/-- A record with integers of the range of `i64` and JSON values that survive storage. -/
structure RecordFits (record:RunRecord) : Prop where
 sequence:(record.sequence:ℤ)≤Usage.i64Max
 stateRevision:(record.stateRevision:ℤ)≤Usage.i64Max
 tools:ToolsFit record.modelVisibleTools
 inputs:Survives reader record.inputs
 state:Survives reader record.state

structure LeaseFits (lease:RunOwnershipLease) : Prop where
 fencingEpoch:(lease.fencingEpoch:ℤ)≤Usage.i64Max
 acquiredAt:(lease.acquiredAtUnixMs:ℤ)≤Usage.i64Max
 expiresAt:(lease.expiresAtUnixMs:ℤ)≤Usage.i64Max

lemma sqliteU64ToI64_ok{n:ℕ}(h:(n:ℤ)≤Usage.i64Max)(label:String):sqliteU64ToI64 n label=.ok n:=by
 rw [sqliteU64ToI64,if_pos h]

lemma parseStorageJson_writable{value:Value}(h:Writable value):
  SqliteRunStore.parseStorageJson reader (toText d value)=.ok value:=
 fromStr_toText runStorageErrors reader h

lemma recordFromStorage_rowOf(h:RecordFits reader record)
  (hsorted:sortedModelVisibleTools record.modelVisibleTools=record.modelVisibleTools):
  SqliteRunStore.recordFromStorage reader (rowOf d record)=.ok record:=by
 have hmode:SqliteRunStore.invocationModeFromStorage record.invocationMode.asStr =
   .ok record.invocationMode:=by
  rw [SqliteRunStore.invocationModeFromStorage,RunInvocationMode.fromStr_asStr]
 have hstatus:SqliteRunStore.statusFromStorage record.status.asStr=.ok record.status:=by
  rw [SqliteRunStore.statusFromStorage,RunStatus.fromStatusStr_asStr]
 have hinputs:SqliteRunStore.parseStorageJson reader (toText d record.inputs) =
   .ok record.inputs:=h.inputs
 have hstate:SqliteRunStore.parseStorageJson reader (toText d record.state) =
   .ok record.state:=h.state
 have hprovenance:=parseStorageJson_writable reader
  (canonicalValue_writable record.deploymentProvenance)
 have htools:=parseStorageJson_writable reader
  (modelVisibleToolsValue_writable record.modelVisibleTools)
 have hread:modelVisibleToolsFromValue (modelVisibleToolsValue record.modelVisibleTools) =
   .ok record.modelVisibleTools:=by
  rw [modelVisibleToolsFromValue_value h.tools,hsorted]
 unfold SqliteRunStore.recordFromStorage rowOf
 simp only [hmode,hstatus,sqliteI64ToU64_natCast,hinputs,hprovenance,
  deploymentProvenanceFromValue_canonicalValue,htools,hread,hstate,ok_bind]

lemma runParams_ok(hsequence:(record.sequence:ℤ)≤Usage.i64Max)
  (hrevision:(record.stateRevision:ℤ)≤Usage.i64Max):
  SqliteRunStore.runParams d record=.ok (rowOf d record):=by
 unfold SqliteRunStore.runParams
 rw [sqliteU64ToI64_ok hsequence,sqliteU64ToI64_ok hrevision]
 rfl

lemma ensureExact_ok{field value:String}(hne:value≠"")(htrim:trim value=value):
  SqliteRunStore.ensureExact field value=.ok ():=by
 rw [SqliteRunStore.ensureExact,ensure_ok,htrim]
 simp [hne]

variable {runId:String}

lemma leaseIdOf_exact(h:IsRunId runId)(fencingEpoch:ℕ):leaseIdOf runId fencingEpoch≠"" ∧
   trim (leaseIdOf runId fencingEpoch)=leaseIdOf runId fencingEpoch:=by
 have hcolon:trim (runId++":")=runId++":" :=
  trim_append h.nonempty h.trimmed (by simp) (by rintro c ⟨⟩;decide)
 have hne:runId++":"≠"" := by simp
 exact ⟨by simp [leaseIdOf],trim_append_number hne hcolon fencingEpoch⟩

lemma nonempty_of_not_blank{text:String}(h:isBlank text=false):text≠"":=by
 rintro rfl
 revert h
 decide +kernel

lemma leaseFromStorage_leaseRowOf{lease:RunOwnershipLease}(hrunId:IsRunId runId)
  (h:WellFormedLease runId lease)(htrim:trim lease.owner=lease.owner):
  SqliteRunStore.leaseFromStorage (leaseRowOf lease)=.ok lease:=by
 obtain ⟨rfl,hid,howner,hepoch,hinterval⟩:=h
 obtain ⟨hidne,hidtrim⟩:=leaseIdOf_exact hrunId lease.fencingEpoch
 have hvalid:SqliteRunStore.validateStoredRunOwnershipLease lease=.ok ():=by
  unfold SqliteRunStore.validateStoredRunOwnershipLease
  rw [ensureExact_ok hrunId.nonempty hrunId.trimmed,hid,ensureExact_ok hidne hidtrim,
   ensureExact_ok (nonempty_of_not_blank howner) htrim]
  simp [ensure,hepoch,hinterval,ok_bind]
 unfold SqliteRunStore.leaseFromStorage leaseRowOf
 simp only [sqliteI64ToU64_natCast,ok_bind,hvalid]

/-- It is refused if the owner has blanks around it. -/
lemma leaseFromStorage_padded{lease:RunOwnershipLease}(hrunId:IsRunId runId)
  (h:WellFormedLease runId lease)(htrim:trim lease.owner≠lease.owner):
  SqliteRunStore.leaseFromStorage (leaseRowOf lease) =
   .error (.storage (.notExactString "owner")):=by
 obtain ⟨rfl,hid,-,-,-⟩:=h
 obtain ⟨hidne,hidtrim⟩:=leaseIdOf_exact hrunId lease.fencingEpoch
 have hrefused:SqliteRunStore.ensureExact "owner" lease.owner =
   .error (.storage (.notExactString "owner")):=by
  simp [SqliteRunStore.ensureExact,ensure,Ne.symm htrim]
 have hvalid:SqliteRunStore.validateStoredRunOwnershipLease lease =
   .error (.storage (.notExactString "owner")):=by
  unfold SqliteRunStore.validateStoredRunOwnershipLease
  rw [ensureExact_ok hrunId.nonempty hrunId.trimmed,hid,ensureExact_ok hidne hidtrim,hrefused]
  rfl
 unfold SqliteRunStore.leaseFromStorage leaseRowOf
 simp only [sqliteI64ToU64_natCast,ok_bind,hvalid]
 rfl
end

end GraphBlocks.RunStore
