import GraphBlocks.JsonObjects
import GraphBlocks.OrderedMap
import GraphBlocks.PythonStd

/-! `InMemoryRunStore.patch_state` merges a patch object into the state of a run with a stack of
pairs: an object inside the state and the part of the patch for it. -/
namespace GraphBlocks.PythonRunStore
open Json RustStd List
open PythonStd (strip)

inductive RunStatus where
 | created | admitted | running
 | waitingInput | waitingApproval | waitingReview | waitingCallback
 | pausedBudget | pausedCallbackDelivery | pausedPolicy | pausedOperator
 | resuming | completed | succeeded | failed | cancelled | expired | policyStopped

/-- `TERMINAL_RUN_STATUSES`. -/
def RunStatus.isTerminal : RunStatus→Bool
 | .completed | .succeeded | .failed | .cancelled | .expired | .policyStopped=>true
 | _=>false

inductive RunStoreError where
 | valueError (message:String)
 | keyError (runId:String)
 | runTerminalState (runId:String) (status:RunStatus)
 | stateConflict (runId:String) (expectedRevision:ℤ) (currentRevision:ℕ)
 | overflow (message:String)

/-- A `dict` that holds JSON values: no two items of one key, at any depth. -/
def JsonObject : Type := { members:Members // (Value.object members).UniqueKeys }

def maxRunJsonDepth : ℕ := 64

def maxSqliteInteger : ℕ := 2^63-1

def validateNonEmptyString (owner fieldName value:String) : Except RunStoreError Unit := do
 ensure (strip value != "") (.valueError s!"{owner} {fieldName} must not be empty")
 ensure (value==strip value)
  (.valueError s!"{owner} {fieldName} must not contain surrounding whitespace")

def checkDepth (owner path:String) (depth:ℕ) : Except RunStoreError Unit :=
 ensure (decide (depth≤ maxRunJsonDepth))
  (.valueError s!"{owner} {path} exceeds maximum JSON depth {maxRunJsonDepth}")

mutual

/-- `_validate_json_value`; the copy that it returns is the value itself. -/
def validateJsonValue (owner path:String) (depth:ℕ) : Value→Except RunStoreError Unit
 | .array items=>do
  checkDepth owner path depth
  validateJsonItems owner path (depth+1) items
 | .object members=>do
  checkDepth owner path depth
  validateJsonMembers owner path (depth+1) members
 | .null | .bool _ | .number _ | .string _=>checkDepth owner path depth

def validateJsonItems (owner path:String) (depth:ℕ) : List Value→Except RunStoreError Unit
 | []=>.ok ()
 | item::items=>do
  validateJsonValue owner path depth item
  validateJsonItems owner path depth items

def validateJsonMembers (owner path:String) (depth:ℕ) : Members→Except RunStoreError Unit
 | []=>.ok ()
 | (key,item)::members=>do
  validateNonEmptyString owner s!"{path} key" key
  validateJsonValue owner s!"{path}.{key}" depth item
  validateJsonMembers owner path depth members
end

def validateJsonObject (owner fieldName:String) (value:JsonObject) : Except RunStoreError Unit :=
 validateJsonValue owner fieldName 0 (.object value.1)

/-- The path to an object inside the state, and the part of the patch for it. -/
abbrev Frame := List String×Members

/-- One item of the loop over `source.items()`: the target, and the frames pushed so far. -/
def mergeItem (path:List String) (loop:Members×List Frame) (item:String×Value) :
  Members×List Frame :=
 match item.2 with
 | .null=>(removeKey loop.1 item.1,loop.2)
 | .object source=>
  match loop.1.lookup item.1 with
  | some (.object _)=>(loop.1,(path++[item.1],source)::loop.2)
  | _=>(insertKey loop.1 item.1 (.object source),loop.2)
 | value=>(insertKey loop.1 item.1 value,loop.2)

/-- The object that a path leads to. -/
def objectAt : List String→Members→Option Members
 | [], members=>some members
 | key::rest, members=>
  match members.lookup key with
  | some (.object child)=>objectAt rest child
  | _=>none

def updateAt (change:Members→Members) : List String→Members→Members
 | [], members=>change members
 | key::rest, members=>
  match members.lookup key with
  | some (.object child)=>insertKey members key (.object (updateAt change rest child))
  | _=>members

/-- The frames that the items of a source push, given the object they are merged into. -/
def pushedFrames (path:List String) (source:Members) (state:Members) : List Frame :=
 (objectAt path state).elim [] fun target=>(source.foldl (mergeItem path) (target,[])).2

def mergeSource (path:List String) (source target:Members) : Members :=
 (source.foldl (mergeItem path) (target,[])).1

def stackWeight (stack:List Frame) : ℕ := (stack.map fun frame=>weightMembers frame.2+1).sum

lemma stackWeight_foldl(path:List String)(source:Members)(loop:Members×List Frame):
  stackWeight (source.foldl (mergeItem path) loop).2≤ stackWeight loop.2+weightMembers source:=by
 induction source generalizing loop with
 | nil=>simp [weightMembers]
 | cons item source ih=>
  obtain ⟨key,value⟩:=item
  rw [foldl_cons]
  refine (ih _).trans ?_
  have hitem:stackWeight (mergeItem path loop (key,value)).2≤ stackWeight loop.2+weight value:=by
   cases value with
   | object child=>
    simp only [mergeItem]
    split
    · simp only [stackWeight,map_cons,sum_cons,weight]
      omega
    · exact Nat.le_add_right _ _
   | _=>exact Nat.le_add_right _ _
  simp only [weightMembers]
  omega

/-- The `while stack` loop. -/
def mergeLoop (stack:List Frame) (state:Members) : Members :=
 match stack with
 | []=>state
 | (path,source)::stack=>
  mergeLoop (pushedFrames path source state++stack)
   (updateAt (mergeSource path source) path state)
termination_by stackWeight stack
decreasing_by
 have hpushed : stackWeight (pushedFrames path source state)≤weightMembers source := by
  unfold pushedFrames
  cases objectAt path state with
  | none=>exact Nat.zero_le _
  | some target=>simpa [stackWeight] using stackWeight_foldl path source (target,[])
 simp only [stackWeight,map_append,map_cons,sum_append,sum_cons]
  at hpushed ⊢
 omega

mutual

/-- What the loop makes of a target, with nested objects merged where they are met. -/
def mergePatch : Members→Members→Members
 | [], target=>target
 | (key,value)::source, target=>mergePatch source (mergeMember key value target)

def mergeMember (key:String) : Value→Members→Members
 | .null, target=>removeKey target key
 | .object source, target=>
  match target.lookup key with
  | some (.object child)=>insertKey target key (.object (mergePatch source child))
  | _=>insertKey target key (.object source)
 | value, target=>insertKey target key value
end

def mergeDeferred (key:String) (source:Members) (target:Members) : Members :=
 updateAt (mergePatch source) [key] target

lemma updateAt_append(change:Members→Members)(path rest:List String)(state:Members):
  updateAt change (path++rest) state=updateAt (updateAt change rest) path state:=by
 induction path generalizing state with
 | nil=>rfl
 | cons key path ih=>
  rw [cons_append,updateAt,updateAt]
  split
  · rw [ih]
  · rfl

lemma updateAt_updateAt(change next:Members→Members)(path:List String)(state:Members):
  updateAt next path (updateAt change path state)=updateAt (next ∘ change) path state:=by
 induction path generalizing state with
 | nil=>rfl
 | cons key path ih=>
  cases hlookup:state.lookup key with
  | none=>simp [updateAt,hlookup]
  | some value=>
   cases value with
   | object child=>simp only [updateAt,hlookup,lookup_insertKey,↓reduceIte,insertKey_insertKey,ih]
   | _=>simp [updateAt,hlookup]

lemma updateAt_congr{change next:Members→Members}{path:List String}{state:Members}
  (h:∀target,objectAt path state=some target→change target=next target):
  updateAt change path state=updateAt next path state:=by
 induction path generalizing state with
 | nil=>exact h state rfl
 | cons key path ih=>
  rw [updateAt,updateAt]
  split
  · next child hlookup=>
    rw [ih]
    intro target htarget
    apply h
    simp only [objectAt,hlookup,htarget]
  · rfl

/-- The value that a member has after the merge, if it is still there. -/
def mergedValue : Value→Option Value→Option Value
 | .null, _=>none
 | .object source, some (.object child)=>some (.object (mergePatch source child))
 | value, _=>some value

def writeMember (target:Members) (key:String) : Option Value→Members
 | none=>removeKey target key
 | some value=>insertKey target key value

lemma mergeMember_eq(key:String)(value:Value)(target:Members):mergeMember key value target =
   writeMember target key (mergedValue value (target.lookup key)):=by
 cases value with
 | object source=>
  rw [mergeMember]
  split
  · next child hlookup=>rw [hlookup];rfl
  · next hlookup=>
    cases hold:target.lookup key with
    | none=>rfl
    | some old=>
     cases old with
     | object child=>exact absurd hold (hlookup child)
     | _=>rfl
 | _=>rfl

lemma lookup_writeMember(target:Members)(key other:String)(value:Option Value):
  (writeMember target key value).lookup other=if other=key then value else target.lookup other:=by
 cases value with
 | none=>rw [writeMember,lookup_removeKey]
 | some value=>rw [writeMember,lookup_insertKey]

lemma writeMember_insertKey{target:Members}{key other:String}(hne:other≠key)
  (hkey:hasKey target key=true)(value:Value)(written:Option Value):
  writeMember (insertKey target key value) other written =
   insertKey (writeMember target other written) key value:=by
 have hreplace:insertKey target key value =
   target.map fun e=>if e.1=key then (key,value) else e:=if_pos hkey
 cases written with
 | none=>
  have hkept:hasKey (removeKey target other) key=true:=by
   rw [hasKey,lookup_removeKey,if_neg (Ne.symm hne)]
   exact hkey
  rw [writeMember,writeMember,hreplace,insertKey,if_pos hkept,removeKey,removeKey,filter_map]
  congr 1
  apply filter_congr
  intro e _
  by_cases he:e.1=key
  · simp [he]
  · simp [he]
 | some w=>
  have hkept:hasKey (insertKey target other w) key=true:=by
   rw [hasKey,lookup_insertKey,if_neg (Ne.symm hne)]
   exact hkey
  have hsame:hasKey (insertKey target key value) other=hasKey target other:=by
   rw [hasKey,lookup_insertKey,if_neg hne,hasKey]
  have hleft:insertKey (insertKey target key value) other w=if hasKey target other then
     (insertKey target key value).map fun e=>if e.1=other then (other,w) else e
    else insertKey target key value++[(other,w)]:=by
   rw [←hsame]
   rfl
  have hright:insertKey (insertKey target other w) key value =
    (insertKey target other w).map fun e=>if e.1=key then (key,value) else e:=
   if_pos hkept
  rw [writeMember,writeMember,hleft,hright,hreplace]
  rw [insertKey]
  split
  · rw [map_map,map_map]
    apply map_congr_left
    intro e _
    by_cases he:e.1=key
    · have hother:e.1≠other:=fun h=>hne (h.symm.trans he)
      simp [he,Ne.symm hne]
    · by_cases hother:e.1=other
      · simp [hother,hne]
      · simp [he,hother]
  · rw [map_append]
    simp [hne]

lemma mergeDeferred_mergeMember{key other:String}(hne:other≠key)(source:Members)
  (value:Value)(target:Members):
  mergeDeferred key source (mergeMember other value target) =
   mergeMember other value (mergeDeferred key source target):=by
 unfold mergeDeferred
 simp only [mergeMember_eq,updateAt,lookup_writeMember,if_neg (Ne.symm hne)]
 split
 · next child hlookup=>
   have hkey:hasKey target key=true:=by rw [hasKey,hlookup];rfl
   rw [lookup_insertKey,if_neg hne,writeMember_insertKey hne hkey]
 · rfl

lemma mergeDeferred_mergePatch{key:String}{source rest:Members}(h:key∉keys rest)(target:Members):
  mergeDeferred key source (mergePatch rest target) =
   mergePatch rest (mergeDeferred key source target):=by
 induction rest generalizing target with
 | nil=>rfl
 | cons item rest ih=>
  obtain ⟨other,value⟩:=item
  have hkeys:key≠other∧key∉keys rest:=by simpa [Json.keys] using h
  rw [mergePatch,mergePatch,ih hkeys.2,mergeDeferred_mergeMember (Ne.symm hkeys.1)]

def applyDeferred (deferred:List (String×Members)) (target:Members) : Members :=
 deferred.foldl (fun target d=>mergeDeferred d.1 d.2 target) target

def frameBelow (path:List String) (d:String×Members) : Frame := (path++[d.1],d.2)

lemma foldl_mergeItem(path:List String){source:Members}(hnodup:(keys source).Nodup)
  (target:Members)(deferred:List (String×Members))(hfresh:∀d∈deferred,d.1∉keys source):
  ∃rest : List (String×Members),∃merged : Members,
   source.foldl (mergeItem path) (target,deferred.map (frameBelow path)) =
    (merged,rest.map (frameBelow path)) ∧
   applyDeferred rest merged=applyDeferred deferred (mergePatch source target):=by
 induction source generalizing target deferred with
 | nil=>exact ⟨deferred,target,rfl,rfl⟩
 | cons item source ih=>
  obtain ⟨key,value⟩:=item
  obtain ⟨hkey,hkeys⟩:key∉keys source∧(keys source).Nodup:=nodup_cons.mp hnodup
  have hrest:∀d∈deferred,d.1∉keys source:=by
   intro d hd hmem
   exact hfresh d hd (mem_cons_of_mem _ hmem)
  rw [foldl_cons]
  have hplain:∀merged:Members,mergeMember key value target=merged →
    mergeItem path (target,deferred.map (frameBelow path)) (key,value) =
     (merged,deferred.map (frameBelow path)) →
    ∃rest:List (String×Members),∃merged:Members,source.foldl (mergeItem path)
       (mergeItem path (target,deferred.map (frameBelow path)) (key,value)) =
      (merged,rest.map (frameBelow path)) ∧
     applyDeferred rest merged=applyDeferred deferred (mergePatch ((key,value)::source) target):=by
   intro merged hmerged hitem
   rw [hitem,mergePatch,hmerged]
   exact ih hkeys merged deferred hrest
  cases value with
  | object child=>
   cases hlookup:target.lookup key with
   | none=>
    exact hplain (insertKey target key (.object child)) (by simp [mergeMember,hlookup])
     (by simp [mergeItem,hlookup])
   | some old=>
    cases old with
    | object inner=>
     have hitem:mergeItem path (target,deferred.map (frameBelow path))
       (key,.object child)=(target,((key,child)::deferred).map (frameBelow path)):=by
      simp [mergeItem,hlookup,frameBelow]
     obtain ⟨rest,merged,hfold,hmerged⟩:=ih hkeys target ((key,child)::deferred)
      (forall_mem_cons.mpr ⟨hkey,hrest⟩)
     refine ⟨rest,merged,hitem▸hfold,hmerged.trans ?_⟩
     have hdeferred:mergeDeferred key child target=mergeMember key (.object child) target:=by
      simp [mergeDeferred,updateAt,mergeMember,hlookup]
     rw [mergePatch,←hdeferred,←mergeDeferred_mergePatch hkey]
     rfl
    | _=>
     exact hplain (insertKey target key (.object child)) (by simp [mergeMember,hlookup])
      (by simp [mergeItem,hlookup])
  | _=>exact hplain _ rfl rfl

lemma mem_pushed(path:List String)(source:Members)(loop:Members×List Frame):
  ∀frame∈(source.foldl (mergeItem path) loop).2,
   frame∈loop.2 ∨ ∃key,(key,Value.object frame.2)∈source:=by
 induction source generalizing loop with
 | nil=>exact fun frame h=>Or.inl h
 | cons item source ih=>
  obtain ⟨key,value⟩:=item
  intro frame hframe
  rcases ih _ frame hframe with h|⟨k,hk⟩
  · cases value with
    | object child=>
     simp only [mergeItem] at h
     split at h
     · rcases mem_cons.mp h with rfl|h
       · exact Or.inr ⟨key,mem_cons_self⟩
       · exact Or.inl h
     · exact Or.inl h
    | _=>exact Or.inl h
  · exact Or.inr ⟨k,mem_cons_of_mem _ hk⟩

def applyFrames (stack:List Frame) (state:Members) : Members :=
 stack.foldl (fun state frame=>updateAt (mergePatch frame.2) frame.1 state) state

lemma applyFrames_below(path:List String)(deferred:List (String×Members))
  (change:Members→Members)(state:Members):
  applyFrames (deferred.map (frameBelow path)) (updateAt change path state) =
   updateAt (applyDeferred deferred ∘ change) path state:=by
 induction deferred generalizing change with
 | nil=>rfl
 | cons d deferred ih=>
  have hhead:updateAt (mergePatch d.2) (path++[d.1]) (updateAt change path state) =
    updateAt (mergeDeferred d.1 d.2 ∘ change) path state:=by
   rw [updateAt_append]
   exact updateAt_updateAt _ _ _ _
  change applyFrames (deferred.map (frameBelow path))
   (updateAt (mergePatch d.2) (path++[d.1]) (updateAt change path state))=_
  rw [hhead,ih]
  rfl

lemma mergeLoop_eq(stack:List Frame)(state:Members)
  (hunique:∀frame∈stack,(Value.object frame.2).UniqueKeys):
  mergeLoop stack state=applyFrames stack state:=by
 fun_induction mergeLoop stack state with
 | case1 state=>rfl
 | case2 state path source stack ih=>
  have hsource:(Value.object source).UniqueKeys:=hunique _ mem_cons_self
  have hpushed:∀frame∈pushedFrames path source state,(Value.object frame.2).UniqueKeys:=by
   intro frame hframe
   unfold pushedFrames at hframe
   cases htarget:objectAt path state with
   | none=>rw [htarget] at hframe;cases hframe
   | some target=>
    rw [htarget] at hframe
    rcases mem_pushed path source (target,[]) frame hframe with h|⟨key,hkey⟩
    · cases h
    · exact (uniqueMembers_iff source).mp hsource.2 _ hkey
  have happly:applyFrames (pushedFrames path source state)
    (updateAt (mergeSource path source) path state)=updateAt (mergePatch source) path state:=by
   unfold pushedFrames
   cases htarget:objectAt path state with
   | none=>
    apply updateAt_congr
    intro target h
    rw [htarget] at h
    cases h
   | some target=>
    obtain ⟨rest,merged,hfold,hmerged⟩:=foldl_mergeItem path hsource.1 target []
     (fun _ h=>by cases h)
    have hframes:(source.foldl (mergeItem path) (target,[])).2 =
      rest.map (frameBelow path):=congrArg Prod.snd hfold
    rw [Option.elim_some,hframes,applyFrames_below]
    apply updateAt_congr
    intro other h
    rw [htarget] at h
    obtain rfl:=Option.some.inj h
    have hmergeSource:mergeSource path source target=merged:=congrArg Prod.fst hfold
    rw [Function.comp_apply,hmergeSource]
    exact hmerged
  rw [ih ?_]
  · unfold applyFrames at happly ⊢
    rw [foldl_append,foldl_cons,happly]
  · intro frame hframe
    rcases mem_append.mp hframe with hframe|hframe
    · exact hpushed frame hframe
    · exact hunique frame (mem_cons_of_mem _ hframe)

lemma mergeLoop_patch(patch:JsonObject)(state:Members):
  mergeLoop [([],patch.1)] state=mergePatch patch.1 state:=by
 rw [mergeLoop_eq]
 · rfl
 · intro frame hframe
   obtain rfl:=mem_singleton.mp hframe
   exact patch.2

lemma uniqueKeys_writeMember{target:Members}(h:(Value.object target).UniqueKeys)
  (key:String){written:Option Value}(hwritten:∀value∈written,value.UniqueKeys):
  (Value.object (writeMember target key written)).UniqueKeys:=by
 cases written with
 | none=>exact uniqueKeys_removeKey h key
 | some value=>exact uniqueKeys_insertKey h key (hwritten value rfl)

mutual

lemma uniqueKeys_mergePatch : (patch:Members)→(Value.object patch).UniqueKeys →
  ∀target : Members,(Value.object target).UniqueKeys →
   (Value.object (mergePatch patch target)).UniqueKeys
 | [], _, _, htarget=>htarget
 | (key,value)::patch, hpatch, target, htarget=>by
  have hrest:(Value.object patch).UniqueKeys:=⟨(nodup_cons.mp hpatch.1).2,hpatch.2.2⟩
  rw [mergePatch,mergeMember_eq]
  apply uniqueKeys_mergePatch patch hrest
  apply uniqueKeys_writeMember htarget
  intro merged hmerged
  apply uniqueKeys_mergedValue value hpatch.2.1 (target.lookup key) _ merged hmerged
  intro old hold
  exact htarget.2.lookup hold

lemma uniqueKeys_mergedValue : (value:Value)→value.UniqueKeys→∀old : Option Value,
  (∀v∈old,v.UniqueKeys)→∀merged∈mergedValue value old,merged.UniqueKeys
 | .null, _, _, _, merged, hmerged=>by cases hmerged
 | .object source, hvalue, old, hold, merged, hmerged=>by
  cases old with
  | none=>
   obtain rfl:=Option.some.inj hmerged
   exact hvalue
  | some old=>
   cases old with
   | object child=>
    obtain rfl:=Option.some.inj hmerged
    exact uniqueKeys_mergePatch source hvalue child (hold _ rfl)
   | _=>
    obtain rfl:=Option.some.inj hmerged
    exact hvalue
 | .bool _, hvalue, _, _, merged, hmerged=>Option.some.inj hmerged▸hvalue
 | .number _, hvalue, _, _, merged, hmerged=>Option.some.inj hmerged▸hvalue
 | .string _, hvalue, _, _, merged, hmerged=>Option.some.inj hmerged▸hvalue
 | .array _, hvalue, _, _, merged, hmerged=>Option.some.inj hmerged▸hvalue
end

lemma uniqueKeys_mergeLoop(patch state:JsonObject):
  (Value.object (mergeLoop [([],patch.1)] state.1)).UniqueKeys:=by
 rw [mergeLoop_patch]
 exact uniqueKeys_mergePatch patch.1 patch.2 state.1 state.2

structure RunRecord where
 runId:String
 status:RunStatus
 state:JsonObject
 stateRevision:ℕ

/-- `RunRecord.__post_init__` on the fields that a patch gives new values. -/
def RunRecord.new (runId:String) (status:RunStatus) (state:JsonObject)
  (stateRevision:ℕ) : Except RunStoreError RunRecord := do
 validateNonEmptyString "run record" "run_id" runId
 validateJsonObject "run record" "state" state
 ensure (decide (stateRevision≤ maxSqliteInteger))
  (.valueError "run record state_revision exceeds storage range")
 return { runId,status,state,stateRevision }

structure InMemoryRunStore where
 runs:PythonStd.Dict String RunRecord

def InMemoryRunStore.patchState (store:InMemoryRunStore) (runId:String) (patch:JsonObject)
  (expectedRevision:ℤ) : Except RunStoreError (RunRecord×InMemoryRunStore) := do
 validateNonEmptyString "run store" "run_id" runId
 validateJsonObject "run store" "patch" patch
 ensure (decide (0≤expectedRevision))
  (.valueError "run store expected_revision must be non-negative")
 ensure (decide (expectedRevision≤ maxSqliteInteger))
  (.valueError "run store expected_revision exceeds storage range")
 let current ← (store.runs.get? runId).elim (.error (.keyError runId)) .ok
 ensure (!current.status.isTerminal) (.runTerminalState runId current.status)
 ensure (decide ((current.stateRevision:ℤ)=expectedRevision))
  (.stateConflict runId expectedRevision current.stateRevision)
 ensure (decide (current.stateRevision< maxSqliteInteger))
  (.overflow "run store state revision exhausted")
 let nextState : JsonObject:=
  ⟨mergeLoop [([],patch.1)] current.state.1,uniqueKeys_mergeLoop patch current.state⟩
 let updated ← RunRecord.new current.runId current.status nextState (current.stateRevision+1)
 return (updated,⟨store.runs.set runId updated⟩)

end GraphBlocks.PythonRunStore
