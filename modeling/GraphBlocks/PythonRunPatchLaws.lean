import GraphBlocks.PythonRunPatches

namespace GraphBlocks.PythonRunStore
open Json RustStd List Option

def readPath : List String→Value→Option Value
 | [], v=>some v
 | key::rest, .object members=>(members.lookup key).bind (readPath rest)
 | _::_, _=>none

/-- The objects of the patch along the path end before a key that they lack. -/
def Unmentioned : List String→Members→Prop
 | [], _=>False
 | key::rest, patch=>
  match patch.lookup key with
  | none=>True
  | some (.object source)=>Unmentioned rest source
  | some _=>False

def HoldsParents (path:List String) (state:Members) : Prop :=
 ∀parent,parent <+: path→parent≠path→(objectAt parent state).isSome

def NullsHaveParents (patch state:Members) : Prop :=
 ∀path,readPath path (.object patch)=some .null→HoldsParents path state

lemma holdsParents_singleton(key:String)(state:Members):HoldsParents [key] state:=by
 intro parent hle hne
 rcases prefix_cons_iff.mp hle with rfl|⟨rest,rfl,hrest⟩
 · rfl
 · obtain rfl:=prefix_nil.mp hrest
   exact absurd rfl hne

variable {key:String} {state:Members}

lemma holdsParents_cons{next:String}{rest:List String}:HoldsParents (key::next::rest) state ↔
   ∃child,state.lookup key=some (.object child)∧HoldsParents (next::rest) child:=by
 constructor
 · intro h
   have hkey:=h [key] (cons_prefix_cons.mpr ⟨rfl, nil_prefix⟩) (by simp)
   rw [objectAt] at hkey
   split at hkey
   · next child hchild=>
     refine ⟨child,hchild,fun parent hle hne=>?_⟩
     have hparent:=h (key::parent) (cons_prefix_cons.mpr ⟨rfl,hle⟩) (by simpa using hne)
     simpa only [objectAt,hchild] using hparent
   · cases hkey
 · rintro ⟨child,hchild,h⟩ parent hle hne
   rcases prefix_cons_iff.mp hle with rfl|⟨parent,rfl,hparent⟩
   · rfl
   · simpa only [objectAt,hchild] using h parent hparent (by simpa using hne)

lemma lookup_mergeMember(key other:String)(value:Value)(target:Members):
  (mergeMember key value target).lookup other =
   if other=key then mergedValue value (target.lookup key) else target.lookup other:=by
 rw [mergeMember_eq,lookup_writeMember]

variable {patch:Members}

lemma lookup_mergePatch(hnodup:(keys patch).Nodup)(target:Members)(key:String):
  (mergePatch patch target).lookup key=(patch.lookup key).elim (target.lookup key) fun value=>
    mergedValue value (target.lookup key):=by
 induction patch generalizing target with
 | nil=>rfl
 | cons item patch ih=>
  obtain ⟨first,value⟩:=item
  obtain ⟨hfirst,hrest⟩:first∉keys patch∧(keys patch).Nodup:=nodup_cons.mp hnodup
  rw [mergePatch,ih hrest,lookup_mergeMember,lookup_cons_eq]
  by_cases hkey:key=first
  · subst hkey
    rw [if_pos rfl,if_pos rfl,(lookup_eq_none_iff_notMem patch key).mpr hfirst]
    rfl
  · rw [if_neg hkey,if_neg hkey]

variable {value:Value}

lemma mergedValue_of_ne_null{old:Option Value}(hnull:value ≠ .null)
  (hobject:∀source,value=.object source→∀child,old≠some (.object child)):
  mergedValue value old=some value:=by
 cases value with
 | null=>exact absurd rfl hnull
 | object source=>
  cases old with
  | none=>rfl
  | some old=>
   cases old with
   | object child=>exact absurd rfl (hobject source rfl child)
   | _=>rfl
 | _=>rfl

variable {path:List String}

lemma removed_iff(hpatch:(Value.object patch).UniqueKeys)
  (hnull:readPath path (.object patch)=some .null):
  readPath path (.object (mergePatch patch state))=none↔HoldsParents path state:=by
 induction path generalizing patch state with
 | nil=>cases hnull
 | cons key rest ih=>
  obtain ⟨value,hvalue,hread⟩:=bind_eq_some_iff.mp hnull
  rw [readPath,lookup_mergePatch hpatch.1,hvalue,elim_some]
  cases rest with
  | nil=>
   obtain rfl:=some.inj hread
   exact iff_of_true rfl (holdsParents_singleton key state)
  | cons next rest=>
   cases value with
   | object source=>
    rw [holdsParents_cons]
    by_cases hold:∃child,state.lookup key=some (.object child)
    · obtain ⟨child,hchild⟩:=hold
      rw [hchild,mergedValue,bind_some,ih (hpatch.2.lookup hvalue) hread]
      constructor
      · exact fun h=>⟨child,rfl,h⟩
      · rintro ⟨other,hother,h⟩
        obtain rfl:=Value.object.inj (some.inj hother)
        exact h
    · have hcopied:mergedValue (.object source) (state.lookup key)=some (.object source):=
       mergedValue_of_ne_null nofun fun _ _ child h=>hold ⟨child,h⟩
      rw [hcopied,bind_some,hread]
      exact iff_of_false nofun fun ⟨child,h,_⟩=>hold ⟨child,h⟩
   | _=>cases hread

lemma readPath_mergePatch_leaf(hpatch:(Value.object patch).UniqueKeys)
  (hread:readPath path (.object patch)=some value)(hnull:value ≠ .null)
  (hobject:∀source,value ≠ .object source):
  readPath path (.object (mergePatch patch state))=some value:=by
 induction path generalizing patch state with
 | nil=>exact absurd (some.inj hread).symm (hobject patch)
 | cons key rest ih=>
  obtain ⟨member,hmember,hrest⟩:=bind_eq_some_iff.mp hread
  rw [readPath,lookup_mergePatch hpatch.1,hmember,elim_some]
  by_cases hold:∃source child,member=.object source∧state.lookup key=some (.object child)
  · obtain ⟨source,child,rfl,hchild⟩:=hold
    rw [hchild,mergedValue,bind_some]
    exact ih (hpatch.2.lookup hmember) hrest
  · have hne:member ≠ .null:=by
     rintro rfl
     cases rest with
     | nil=>exact hnull (some.inj hrest).symm
     | cons next rest=>cases hrest
    have hcopied:mergedValue member (state.lookup key)=some member:=
     mergedValue_of_ne_null hne fun source hsource child hchild=>hold ⟨source,child,hsource,hchild⟩
    rw [hcopied,bind_some,hrest]

lemma readPath_of_unmentioned{source:Members}(h:Unmentioned path source):
  readPath path (.object source)=none:=by
 induction path generalizing source with
 | nil=>exact h.elim
 | cons key rest ih=>
  rw [Unmentioned] at h
  rw [readPath]
  split at h
  · next hkey=>rw [hkey];rfl
  · next child hchild=>
    rw [hchild,bind_some]
    exact ih h
  · exact h.elim

lemma readPath_mergePatch_unmentioned(hpatch:(Value.object patch).UniqueKeys)
  (h:Unmentioned path patch):
  readPath path (.object (mergePatch patch state))=readPath path (.object state):=by
 induction path generalizing patch state with
 | nil=>exact h.elim
 | cons key rest ih=>
  rw [Unmentioned] at h
  rw [readPath,readPath,lookup_mergePatch hpatch.1]
  split at h
  · next hkey=>rw [hkey];rfl
  · next source hsource=>
    rw [hsource,elim_some]
    by_cases hold:∃child,state.lookup key=some (.object child)
    · obtain ⟨child,hchild⟩:=hold
      rw [hchild,mergedValue,bind_some,bind_some]
      exact ih (hpatch.2.lookup hsource) h
    · have hcopied:mergedValue (.object source) (state.lookup key)=some (.object source):=
       mergedValue_of_ne_null nofun fun _ _ child h=>hold ⟨child,h⟩
      rw [hcopied,bind_some,readPath_of_unmentioned h]
      cases hlookup:state.lookup key with
      | none=>rfl
      | some old=>
       cases old with
       | object child=>exact absurd hlookup fun h=>hold ⟨child,h⟩
       | _=>
        cases rest with
        | nil=>exact h.elim
        | cons next rest=>rfl
  · exact h.elim

variable {m:Members}

lemma insertKey_self(hm:(keys m).Nodup)(h:m.lookup key=some value):insertKey m key value=m:=by
 have hkey:hasKey m key=true:=by rw [hasKey,h];rfl
 rw [insertKey,if_pos hkey]
 conv_rhs=>rw [←List.map_id m]
 apply map_congr_left
 intro item hitem
 split
 · next heq=>
   have hlookup:=(lookup_eq_some_iff_mem hm item.1 item.2).mpr hitem
   rw [heq,h] at hlookup
   exact Prod.ext heq.symm (some.inj hlookup)
 · rfl

lemma removeKey_self(h:m.lookup key=none):removeKey m key=m:=by
 apply filter_eq_self.mpr
 intro item hitem
 have hmem:key∉keys m:=(lookup_eq_none_iff_notMem m key).mp h
 rw [bne_iff_ne]
 rintro rfl
 exact hmem (mem_keys_of_mem hitem)

lemma writeMember_self(hm:(keys m).Nodup)(key:String):writeMember m key (m.lookup key)=m:=by
 cases h:m.lookup key with
 | none=>exact removeKey_self h
 | some value=>exact insertKey_self hm h

lemma mergePatch_eq_self{target:Members}(htarget:(keys target).Nodup)
  (h:∀item∈patch,mergedValue item.2 (target.lookup item.1)=target.lookup item.1):
  mergePatch patch target=target:=by
 induction patch with
 | nil=>rfl
 | cons item patch ih=>
  obtain ⟨key,value⟩:=item
  have hitem:mergeMember key value target=target:=by
   rw [mergeMember_eq,h _ mem_cons_self]
   exact writeMember_self htarget key
  rw [mergePatch,hitem]
  exact ih fun item hmem=>h item (mem_cons_of_mem _ hmem)

/-- An object without nulls absorbs itself. -/
lemma mergePatch_self(value:Value):∀members,value=.object members →
  value.UniqueKeys→(∀path,readPath path value≠some .null)→mergePatch members members=members:=by
 apply InductionCases.value (P:=fun value=>∀members,value=.object members →
  value.UniqueKeys→(∀path,readPath path value≠some .null)→mergePatch members members=members)
 constructor
 case object=>
  rintro members ih other hother hunique hnull
  obtain rfl:=Value.object.inj hother
  apply mergePatch_eq_self hunique.1
  intro item hitem
  have hlookup:members.lookup item.1=some item.2:=
   (lookup_eq_some_iff_mem hunique.1 item.1 item.2).mpr hitem
  have hbelow:∀path,readPath path item.2≠some .null:=by
   intro path hpath
   apply hnull (item.1::path)
   rw [readPath,hlookup,bind_some,hpath]
  rw [hlookup]
  by_cases hobject:∃source,item.2=.object source
  · obtain ⟨source,hsource⟩:=hobject
    have hself:=ih item hitem source hsource (hunique.2.lookup hlookup) hbelow
    rw [hsource,mergedValue,hself]
  · apply mergedValue_of_ne_null
    · intro hvalue
      exact hbelow [] (congrArg some hvalue)
    · exact fun source hsource=>absurd ⟨source,hsource⟩ hobject
 all_goals
  intros
  contradiction

lemma mergedValue_idem(value:Value):value.UniqueKeys→∀old : Option Value,
  (∀v∈old,v.UniqueKeys) →
  (∀source,value=.object source→∀path,readPath path value=some .null →
   ∃child,old=some (.object child)∧HoldsParents path child) →
  mergedValue value (mergedValue value old)=mergedValue value old:=by
 apply InductionCases.value (P:=fun value=>value.UniqueKeys→∀old:Option Value,
  (∀v∈old,v.UniqueKeys) →
  (∀source,value=.object source→∀path,readPath path value=some .null →
   ∃child,old=some (.object child)∧HoldsParents path child) →
  mergedValue value (mergedValue value old)=mergedValue value old)
 constructor
 case object=>
  intro source ih hsource old hold hnulls
  by_cases hmerges:∃child,old=some (.object child)
  · obtain ⟨child,rfl⟩:=hmerges
    have hchild:(Value.object child).UniqueKeys:=hold _ rfl
    rw [mergedValue,mergedValue]
    congr 2
    apply mergePatch_eq_self (uniqueKeys_mergePatch source hsource child hchild).1
    intro item hitem
    have hlookup:source.lookup item.1=some item.2:=
     (lookup_eq_some_iff_mem hsource.1 item.1 item.2).mpr hitem
    rw [lookup_mergePatch hsource.1,hlookup,elim_some]
    apply ih item hitem (hsource.2.lookup hlookup)
    · exact fun v hv=>hchild.2.lookup hv
    · intro inner hinner path hpath
      have hread:readPath (item.1::path) (.object source)=some .null:=by
       rw [readPath,hlookup,bind_some,hpath]
      obtain ⟨other,hother,hparents⟩:=hnulls source rfl _ hread
      obtain rfl:=Value.object.inj (some.inj hother)
      cases path with
      | nil=>rw [hinner] at hpath;cases hpath
      | cons next rest=>exact holdsParents_cons.mp hparents
  · have hcopied:mergedValue (.object source) old=some (.object source):=
     mergedValue_of_ne_null nofun fun _ _ child h=>hmerges ⟨child,h⟩
    have hnonull:∀path,readPath path (.object source)≠some .null:=by
     intro path hpath
     obtain ⟨child,hchild,-⟩:=hnulls source rfl path hpath
     exact hmerges ⟨child,hchild⟩
    rw [hcopied,mergedValue,mergePatch_self _ source rfl hsource hnonull]
 all_goals
  intros
  rfl

lemma mergePatch_idem(hpatch:(Value.object patch).UniqueKeys)
  (hstate:(Value.object state).UniqueKeys)(hnulls:NullsHaveParents patch state):
  mergePatch patch (mergePatch patch state)=mergePatch patch state:=by
 have hidem:=mergedValue_idem (.object patch) hpatch (some (.object state))
  (fun v hv=>some.inj hv▸hstate)
  (fun _ _ path hpath=>⟨state,rfl,hnulls path hpath⟩)
 exact Value.object.inj (some.inj hidem)

def mergedState (patch state:JsonObject) : JsonObject :=
 ⟨mergePatch patch.1 state.1,uniqueKeys_mergePatch patch.1 patch.2 state.1 state.2⟩

lemma mergeLoop_state(patch state:JsonObject):
  (⟨mergeLoop [([],patch.1)] state.1,uniqueKeys_mergeLoop patch state⟩:JsonObject) =
   mergedState patch state:=
 Subtype.ext (mergeLoop_patch patch state.1)

def RunRecord.patched (record:RunRecord) (patch:JsonObject) : RunRecord :=
 { record with state:=mergedState patch record.state,stateRevision:=record.stateRevision+1 }

structure Accepts (current:RunRecord) (runId:String) (patch:JsonObject)
  (expectedRevision:ℤ) : Prop where
 validRunId:validateNonEmptyString "run store" "run_id" runId=.ok ()
 validPatch:validateJsonObject "run store" "patch" patch=.ok ()
 running:current.status.isTerminal=false
 revision:expectedRevision=current.stateRevision
 room:current.stateRevision< maxSqliteInteger
 validRecordId:validateNonEmptyString "run record" "run_id" current.runId=.ok ()
 validState:validateJsonObject "run record" "state" (mergedState patch current.state)=.ok ()

lemma new_ok{runId:String}{status:RunStatus}{state:JsonObject}{revision:ℕ}{record:RunRecord}:
  RunRecord.new runId status state revision=.ok record ↔
   validateNonEmptyString "run record" "run_id" runId=.ok () ∧
   validateJsonObject "run record" "state" state=.ok () ∧
   revision≤ maxSqliteInteger∧record=⟨runId,status,state,revision⟩:=by
 unfold RunRecord.new
 constructor
 · intro h
   obtain ⟨_,hid,h⟩:=bind_ok.mp h
   obtain ⟨_,hstate,h⟩:=bind_ok.mp h
   obtain ⟨_,hrevision,h⟩:=bind_ok.mp h
   exact ⟨hid,hstate,of_decide_eq_true (ensure_ok.mp hrevision),(Except.ok.inj h).symm⟩
 · rintro ⟨hid,hstate,hrevision,rfl⟩
   rw [hid,hstate,decide_eq_true hrevision]
   rfl

lemma patchState_ok{store:InMemoryRunStore}{runId:String}{patch:JsonObject}
  {expectedRevision:ℤ}{current:RunRecord}{result:RunRecord×InMemoryRunStore}
  (hcurrent:store.runs.get? runId=some current):
  store.patchState runId patch expectedRevision=.ok result ↔
   Accepts current runId patch expectedRevision ∧
    result=(current.patched patch,⟨store.runs.set runId (current.patched patch)⟩):=by
 unfold InMemoryRunStore.patchState
 rw [hcurrent]
 simp only [elim_some,mergeLoop_state]
 constructor
 · intro h
   obtain ⟨_,hid,h⟩:=bind_ok.mp h
   obtain ⟨_,hpatch,h⟩:=bind_ok.mp h
   obtain ⟨_,-,h⟩:=bind_ok.mp h
   obtain ⟨_,-,h⟩:=bind_ok.mp h
   rw [ok_bind] at h
   obtain ⟨_,hrunning,h⟩:=bind_ok.mp h
   obtain ⟨_,hrevision,h⟩:=bind_ok.mp h
   obtain ⟨_,hroom,h⟩:=bind_ok.mp h
   obtain ⟨updated,hupdated,h⟩:=bind_ok.mp h
   obtain ⟨hrecord,hstate,-,rfl⟩:=new_ok.mp hupdated
   constructor
   · constructor
     · exact hid
     · exact hpatch
     · simpa using ensure_ok.mp hrunning
     · exact (of_decide_eq_true (ensure_ok.mp hrevision)).symm
     · exact of_decide_eq_true (ensure_ok.mp hroom)
     · exact hrecord
     · exact hstate
   · exact (Except.ok.inj h).symm
 · rintro ⟨⟨hid,hpatch,hrunning,rfl,hroom,hrecord,hstate⟩,rfl⟩
   have hnext:RunRecord.new current.runId current.status (mergedState patch current.state)
     (current.stateRevision+1)=.ok (current.patched patch):=
    new_ok.mpr ⟨hrecord,hstate,hroom,rfl⟩
   have hrange:(current.stateRevision:ℤ)≤ maxSqliteInteger:=by omega
   simp only [hid,hpatch,ok_bind,hrunning,decide_eq_true hroom,decide_eq_true hrange,
    decide_eq_true (Int.natCast_nonneg current.stateRevision),decide_true,hnext]
   rfl

/-- For each accepted patch: the paths that it maps to null are gone, the other leaves that it
sets read as set, what it does not mention is as before and, at the next revision, the patch
changes nothing more, exactly if the state held an object above each path mapped to null. -/
theorem patch_state_laws_iff {store next : InMemoryRunStore} {runId : String} {patch : JsonObject}
  {expectedRevision : ℤ} {current updated : RunRecord}
  (hcurrent : store.runs.get? runId=some current)
  (h : store.patchState runId patch expectedRevision=.ok (updated,next)) :
  ((∀path,readPath path (.object patch.1)=some .null →
     readPath path (.object updated.state.1)=none) ∧
    (∀path value,readPath path (.object patch.1)=some value→value ≠ .null →
     (∀source,value ≠ .object source) → readPath path (.object updated.state.1)=some value) ∧
    (∀path,Unmentioned path patch.1 →
     readPath path (.object updated.state.1)=readPath path (.object current.state.1)) ∧
    (updated.stateRevision< maxSqliteInteger →
     ∃again,next.patchState runId patch updated.stateRevision=.ok again ∧
      again.1.state=updated.state)) ↔
   NullsHaveParents patch.1 current.state.1 := by
 obtain ⟨haccepts,hresult⟩:=(patchState_ok hcurrent).mp h
 obtain ⟨rfl,rfl⟩:=Prod.mk.inj hresult
 constructor
 · rintro ⟨hremoved,-⟩ path hpath
   exact (removed_iff patch.2 hpath).mp (hremoved path hpath)
 · intro hnulls
   refine ⟨?_,?_,?_,?_⟩
   · intro path hpath
     exact (removed_iff patch.2 hpath).mpr (hnulls path hpath)
   · intro path value hpath hnull hobject
     exact readPath_mergePatch_leaf patch.2 hpath hnull hobject
   · intro path hpath
     exact readPath_mergePatch_unmentioned patch.2 hpath
   · intro hroom
     have hsame:mergedState patch (current.patched patch).state=(current.patched patch).state:=
      Subtype.ext (mergePatch_idem patch.2 current.state.2 hnulls)
     have hget:(store.runs.set runId (current.patched patch)).get? runId =
       some (current.patched patch):=by
      rw [PythonStd.Dict.get?_set,if_pos rfl]
     refine ⟨_,(patchState_ok hget).mpr ⟨?_,rfl⟩,hsame⟩
     constructor
     · exact haccepts.validRunId
     · exact haccepts.validPatch
     · exact haccepts.running
     · rfl
     · exact hroom
     · exact haccepts.validRecordId
     · rw [hsame]
       exact haccepts.validState

def nestedNull : JsonObject :=
 ⟨[("draft",.object [("note",.null)])],by simp [Value.UniqueKeys,UniqueMembers,Json.keys]⟩

def heldDraft : JsonObject :=
 ⟨[("draft",.object [("note",.bool true)])],by simp [Value.UniqueKeys,UniqueMembers,Json.keys]⟩

def noMembers : JsonObject := ⟨[],by simp [Value.UniqueKeys,UniqueMembers,Json.keys]⟩

def runWith (state:JsonObject) : RunRecord := ⟨"run-000001",.running,state,0⟩

def storeWith (state:JsonObject) : InMemoryRunStore :=
 ⟨PythonStd.Dict.empty.set "run-000001" (runWith state)⟩

lemma storeWith_get(state:JsonObject):
  (storeWith state).runs.get? "run-000001"=some (runWith state):=by
 rw [storeWith,PythonStd.Dict.get?_set,if_pos rfl]

lemma accepts_nestedNull {state:JsonObject}
  (h:validateJsonObject "run record" "state" (mergedState nestedNull state)=.ok ()) :
  Accepts (runWith state) "run-000001" nestedNull 0 where
 validRunId:=by rfl
 validPatch:=by rfl
 running:=by rfl
 revision:=by rfl
 room:=by
  change 0< maxSqliteInteger
  decide
 validRecordId:=by
  change validateNonEmptyString "run record" "run_id" "run-000001"=.ok ()
  rfl
 validState:=h

lemma nestedNull_in_heldDraft:NullsHaveParents nestedNull.1 heldDraft.1:=by
 intro path hpath
 cases path with
 | nil=>cases hpath
 | cons first rest=>
  obtain ⟨member,hmember,hrest⟩:=bind_eq_some_iff.mp hpath
  obtain ⟨rfl,rfl⟩:first="draft"∧member=.object [("note",.null)]:=by
   rw [nestedNull,lookup_cons_eq] at hmember
   split at hmember
   · next h=>exact ⟨h,(some.inj hmember).symm⟩
   · cases hmember
  cases rest with
  | nil=>cases hrest
  | cons second rest=>
   refine holdsParents_cons.mpr ⟨[("note",.bool true)],rfl,?_⟩
   obtain ⟨leaf,hleaf,hlast⟩:=bind_eq_some_iff.mp hrest
   obtain rfl:leaf=.null:=by
    rw [lookup_cons_eq] at hleaf
    split at hleaf
    · exact (some.inj hleaf).symm
    · cases hleaf
   cases rest with
   | nil=>exact holdsParents_singleton second _
   | cons third rest=>cases hlast

theorem nested_null_removed_where_held :
  readPath ["draft","note"] (.object (mergedState nestedNull heldDraft).1)=none := by
 have hstep:=(patchState_ok (storeWith_get heldDraft)).mpr
  ⟨accepts_nestedNull (by rfl),rfl⟩
 have hlaws:=(patch_state_laws_iff (storeWith_get heldDraft) hstep).mpr nestedNull_in_heldDraft
 exact hlaws.1 ["draft","note"] rfl

/-- The store leaves the nested null of a patch in a state that had no such object, and the
same patch again takes it out. -/
theorem nested_null_kept_in_a_copy : (storeWith noMembers).patchState "run-000001" nestedNull 0 =
    .ok ((runWith noMembers).patched nestedNull,
     ⟨(storeWith noMembers).runs.set "run-000001" ((runWith noMembers).patched nestedNull)⟩) ∧
   readPath ["draft","note"] (.object nestedNull.1)=some .null ∧
   readPath ["draft","note"] (.object ((runWith noMembers).patched nestedNull).state.1)=some .null ∧
   (mergedState nestedNull ((runWith noMembers).patched nestedNull).state).1 ≠
    ((runWith noMembers).patched nestedNull).state.1 := by
 refine ⟨(patchState_ok (storeWith_get noMembers)).mpr ⟨accepts_nestedNull (by rfl),rfl⟩,?_⟩
 decide +kernel

end GraphBlocks.PythonRunStore
