import GraphBlocks.RunStoreModel

namespace GraphBlocks.RunStore
open Std Json OrderedMap RustStd StoredJson List Option Std.ExtTreeMap

def readPath : List String→Value→Option Value
 | [], v=>some v
 | key::rest, .object members=>(objectMap members)[key]?.bind (readPath rest)
 | _::_, _=>none

lemma readPath_toObject(key:String)(rest:List String)(object:StringMap Value):
  readPath (key::rest) (toObject object)=object[key]?.bind (readPath rest):=by
 simp [toObject,readPath,objectMap_toList]

variable {path:List String}

lemma readPath_empty(h:path≠[]):readPath path (.object [])=none:=by
 cases path with
 | nil=>exact absurd rfl h
 | cons key rest=>simp [readPath,objectMap]

/-- Neither path leads through the other. -/
def Incomparable (p q:List String) : Prop := ¬p <+: q∧¬q <+: p

lemma Incomparable.ne_nil{p q:List String}(h:Incomparable p q):q≠[]:=by
 rintro rfl
 exact h.2 nil_prefix

lemma Incomparable.tail{key:String}{p q:List String}
  (h:Incomparable (key::p) (key::q)):Incomparable p q:=
 ⟨fun hle=>h.1 (cons_prefix_cons.mpr ⟨rfl,hle⟩),fun hle=>h.2 (cons_prefix_cons.mpr ⟨rfl,hle⟩)⟩

def SameBeside (path:List String) (before after:Value) : Prop :=
 ∀other,Incomparable path other → readPath other after=readPath other before

lemma sameBeside_insert{segment:String}{rest:List String}{members:Members}{child old:Value}
  (hold:old=(objectMap members)[segment]?.getD (.object []))(h:SameBeside rest old child):
  SameBeside (segment::rest) (.object members)
   (toObject ((objectMap members).insert segment child)):=by
 intro other hother
 cases other with
 | nil=>exact absurd rfl hother.ne_nil
 | cons key keys=>
  rw [readPath_toObject,lookup_insert]
  by_cases hkey:segment=key
  · subst hkey
    have htail:=hother.tail
    rw [if_pos rfl,bind_some,h keys htail,readPath]
    cases hget:(objectMap members)[segment]? with
    | none=>
     rw [hget,getD_none] at hold
     rw [hold,readPath_empty htail.ne_nil]
     rfl
    | some value=>
     rw [hget,getD_some] at hold
     rw [hold]
     rfl
  · rw [if_neg hkey,readPath]

/-- The rewriting sets the last member to a new value that depends on its old one only. -/
def Assigns (rewrite:String→StringMap Value→Except RunStoreError (StringMap Value))
  (next:Option Value→Except RunStoreError Value) : Prop :=
 ∀key object,rewrite key object=(next object[key]?).map fun value=>object.insert key value

lemma except_map_eq_ok{α β:Type}{f:α→β}{x:Except RunStoreError α}{b:β}
  (h:x.map f=.ok b):∃a,x=.ok a∧f a=b:=by
 cases x with
 | error e=>cases h
 | ok a=>exact ⟨a,rfl,Except.ok.inj h⟩

variable {before after:Value}

lemma updateParent_spec{whole:List String}
  {rewrite:String→StringMap Value→Except RunStoreError (StringMap Value)}
  {next:Option Value→Except RunStoreError Value}(hassigns:Assigns rewrite next)
  (h:updateParent whole rewrite path before=.ok after):
  ∃value,next (readPath path before)=.ok value∧readPath path after=some value ∧
   SameBeside path before after:=by
 induction path generalizing before after with
 | nil=>cases before <;>cases h
 | cons segment rest ih=>
  cases before with
  | object members=>
   cases rest with
   | nil=>
    simp only [updateParent] at h
    obtain ⟨updated,hupdated,h⟩:=bind_ok.mp h
    obtain rfl:=Except.ok.inj h
    rw [hassigns] at hupdated
    obtain ⟨value,hvalue,rfl⟩:=except_map_eq_ok hupdated
    refine ⟨value,?_,?_,?_⟩
    · rw [←hvalue,readPath]
      cases (objectMap members)[segment]? <;>rfl
    · rw [readPath_toObject,lookup_insert_self]
      rfl
    · apply sameBeside_insert rfl
      intro other hother
      exact absurd nil_prefix hother.1
   | cons key rest=>
    simp only [updateParent] at h
    obtain ⟨child,hchild,h⟩:=bind_ok.mp h
    obtain rfl:=Except.ok.inj h
    obtain ⟨value,hvalue,hread,hbeside⟩:=ih hchild
    refine ⟨value,?_,?_,sameBeside_insert rfl hbeside⟩
    · rw [←hvalue,readPath]
      cases (objectMap members)[segment]? with
      | none=>
       rw [getD_none,readPath_empty (cons_ne_nil key rest)]
       rfl
      | some value=>rfl
    · rw [readPath_toObject,lookup_insert_self]
      exact hread
  | _=>cases rest <;>cases h

lemma removeAt_spec{whole:List String}(h:removeAt whole path before=.ok after):
  readPath path after=none∧SameBeside path before after:=by
 induction path generalizing before after with
 | nil=>cases before <;>cases h
 | cons segment rest ih=>
  cases before with
  | object members=>
   cases rest with
   | nil=>
    obtain rfl:=Except.ok.inj h
    constructor
    · rw [readPath_toObject,ExtTreeMap.getElem?_erase_self]
      rfl
    · intro other hother
      cases other with
      | nil=>exact absurd rfl hother.ne_nil
      | cons key keys=>
       have hne:segment≠key:=by
        rintro rfl
        exact hother.1 (cons_prefix_cons.mpr ⟨rfl, nil_prefix⟩)
       have hcompare:compare segment key ≠ .eq:=fun heq=>hne (LawfulEqCmp.eq_of_compare heq)
       rw [readPath_toObject,ExtTreeMap.getElem?_erase,if_neg hcompare,readPath]
   | cons key rest=>
    simp only [removeAt] at h
    cases hget:(objectMap members)[segment]? with
    | none=>
     rw [hget] at h
     obtain rfl:=Except.ok.inj h
     refine ⟨?_,fun _ _=>rfl⟩
     rw [readPath,hget]
     rfl
    | some next=>
     rw [hget] at h
     obtain ⟨child,hchild,h⟩:=bind_ok.mp h
     obtain rfl:=Except.ok.inj h
     obtain ⟨hread,hbeside⟩:=ih hchild
     refine ⟨?_,sameBeside_insert (by rw [hget];rfl) hbeside⟩
     rw [readPath_toObject,lookup_insert_self]
     exact hread
  | _=>cases rest <;>cases h

def mergedMembers (source target:Members) : StringMap Value :=
 source.foldl (fun m e=>m.insert e.1 e.2) (objectMap target)

lemma lookup_mergedMembers(source target:Members)(key:String):
  (mergedMembers source target)[key]?=(objectMap source)[key]?.or (objectMap target)[key]?:=by
 have hfold:∀m:StringMap Value,(source.foldl (fun m e=>m.insert e.1 e.2) m)[key]? =
    (source.foldl (fun m e=>m.insert e.1 e.2) (∅:StringMap Value))[key]?.or m[key]? := by
  intro m
  induction source using List.reverseRecOn with
  | nil=>simp
  | append_singleton source e ih=>
   rw [foldl_concat,foldl_concat,lookup_insert,lookup_insert]
   split
   · rfl
   · exact ih
 have hsource:objectMap source=source.foldl (fun m e=>m.insert e.1 e.2) ∅:=by
  rw [objectMap,ofList_eq_insertMany_empty,insertMany_list_eq_foldl]
 rw [mergedMembers,hfold,hsource]

lemma assigns_set(value:Value):
  Assigns (fun key object=>.ok (object.insert key value)) fun _=>.ok value:=
 fun _ _=>rfl

def mergeValue (path:List String) (source:Members) (old:Option Value) :
  Except RunStoreError Value :=
 match old.getD (.object []) with
 | .object target=>.ok (toObject (mergedMembers source target))
 | _=>.error (.statePathConflict path "object target")

lemma assigns_merge(path:List String)(source:Members):
  Assigns (mergeMember path source) (mergeValue path source):=by
 intro key object
 unfold mergeMember mergeValue
 cases object[key]?.getD (.object []) <;>rfl

def incrementValue (path:List String) (amount:ℤ) (old:Option Value) : Except RunStoreError Value :=
 match asI64 (old.getD (.number (intToken 0))) with
 | none=>.error (.statePathConflict path "integer target")
 | some current=>
  match Usage.checkedI64 (current+amount) with
  | none=>.error (.numericOverflow path)
  | some next=>.ok (.number (intToken next))

lemma assigns_increment(path:List String)(amount:ℤ):
  Assigns (incrementMember path amount) (incrementValue path amount):=by
 intro key object
 unfold incrementMember incrementValue
 cases asI64 (object[key]?.getD (.number (intToken 0))) with
 | none=>rfl
 | some current=>cases hsum:Usage.checkedI64 (current+amount) <;>simp [hsum,Except.map]

def appendValue (path:List String) (value:Value) (old:Option Value) : Except RunStoreError Value :=
 match old.getD (.array []) with
 | .array items=>.ok (.array (items++[value]))
 | _=>.error (.statePathConflict path "array target")

lemma assigns_append(path:List String)(value:Value):
  Assigns (appendMember path value) (appendValue path value):=by
 intro key object
 unfold appendMember appendValue
 cases object[key]?.getD (.array []) <;>rfl

def OperationLaw (before after:Value) : PatchOperation→Prop
 | .set path value=>readPath path after=some value∧SameBeside path before after
 | .merge path value=>∃source target merged : Members,
   value=.object source∧(readPath path before).getD (.object [])=.object target ∧
    readPath path after=some (.object merged)∧(∀key:String,(objectMap merged)[key]? =
      (objectMap source)[key]?.or (objectMap target)[key]?) ∧
      SameBeside path before after
 | .remove path=>readPath path after=none∧SameBeside path before after
 | .increment path amount=>∃current : ℤ,
   asI64 ((readPath path before).getD (.number (intToken 0)))=some current ∧
    readPath path after=some (.number (intToken (current+amount))) ∧
     asI64 (.number (intToken (current+amount)))=some (current+amount)∧SameBeside path before after
 | .append path value=>∃items,(readPath path before).getD (.array [])=.array items ∧
    readPath path after=some (.array (items++[value]))∧SameBeside path before after

lemma applyOperation_law{operation:PatchOperation}
  (h:applyOperation before operation=.ok after):OperationLaw before after operation:=by
 cases operation with
 | set path value=>
  obtain ⟨new,hnew,hread,hbeside⟩:=updateParent_spec (assigns_set value) h
  obtain rfl:=Except.ok.inj hnew
  exact ⟨hread,hbeside⟩
 | merge path value=>
  simp only [applyOperation] at h
  split at h
  · cases h
  · cases value with
    | object source=>
     obtain ⟨new,hnew,hread,hbeside⟩:=updateParent_spec (assigns_merge path source) h
     unfold mergeValue at hnew
     split at hnew
     · next target htarget=>
       obtain rfl:=Except.ok.inj hnew
       refine ⟨source,target,(mergedMembers source target).toList,rfl,htarget,hread,?_,hbeside⟩
       intro key
       rw [objectMap_toList,lookup_mergedMembers]
     · cases hnew
    | _=>cases h
 | remove path=>exact removeAt_spec h
 | increment path amount=>
  obtain ⟨new,hnew,hread,hbeside⟩:=updateParent_spec (assigns_increment path amount) h
  unfold incrementValue at hnew
  split at hnew
  · cases hnew
  · next current hcurrent=>
    split at hnew
    · cases hnew
    · next next hnext=>
      obtain rfl:=Except.ok.inj hnew
      obtain ⟨rfl,hlow,hhigh⟩:=Usage.checkedI64_eq_some.mp hnext
      exact ⟨current,hcurrent,hread,parseI64_intToken hlow hhigh,hbeside⟩
 | append path value=>
  obtain ⟨new,hnew,hread,hbeside⟩:=updateParent_spec (assigns_append path value) h
  unfold appendValue at hnew
  split at hnew
  · next items hitems=>
    obtain rfl:=Except.ok.inj hnew
    exact ⟨items,hitems,hread,hbeside⟩
  · cases hnew

lemma applyOperations_append(state:Value)(first second:List PatchOperation):
  applyOperations state (first++second) =
   applyOperations state first >>= fun next=>applyOperations next second:=by
 induction first generalizing state with
 | nil=>rfl
 | cons operation first ih=>
  rw [cons_append,applyOperations,applyOperations]
  cases applyOperation state operation with
  | error error=>rfl
  | ok next=>exact ih next

lemma recordWithStatePatch_eq_ok{record updated:RunRecord}{patch:StatePatch}:
  recordWithStatePatch record patch=.ok updated ↔
   record.status.isTerminal=false∧ensureRevision record patch.expectedRevision=.ok () ∧
    ∃next,applyOperations record.state patch.operations=.ok next ∧
     updated = { record with state:=next,stateRevision:=record.stateRevision+1 }:=by
 unfold recordWithStatePatch
 constructor
 · intro h
   obtain ⟨_,hterminal,h⟩:=bind_ok.mp h
   obtain ⟨_,hrevision,h⟩:=bind_ok.mp h
   obtain ⟨next,hnext,h⟩:=bind_ok.mp h
   have hterminal:=ensure_ok.mp hterminal
   exact ⟨by simpa using hterminal,hrevision,next,hnext,(Except.ok.inj h).symm⟩
 · rintro ⟨hterminal,hrevision,next,hnext,rfl⟩
   simp [hterminal,hrevision,hnext,ensure,ok_bind]

structure StatePatchLaws (record:RunRecord) : Prop where
 /-- One patch with all operations, or two patches one after the other. -/
 sequence:∀expected first second state,
  (∃updated,recordWithStatePatch record ⟨expected,first++second⟩=.ok updated∧updated.state=state) ↔
  ∃between updated,recordWithStatePatch record ⟨expected,first⟩=.ok between ∧
   recordWithStatePatch between ⟨none,second⟩=.ok updated∧updated.state=state
 /-- Every operation of an accepted patch obeys its law. -/
 operations:∀expected first operation second updated,
  recordWithStatePatch record ⟨expected,first++operation::second⟩=.ok updated →
   ∃before after,applyOperations record.state first=.ok before ∧
    applyOperation before operation=.ok after ∧
     applyOperations after second=.ok updated.state∧OperationLaw before after operation
 accepted:∀patch updated,recordWithStatePatch record patch=.ok updated→updated = { record with
   state:=updated.state,stateRevision:=record.stateRevision+1 }
 stored:∀(s:InMemoryRunStore) (runId:String) (patch:StatePatch),s.runs[runId]?=some record →
   (∀error,(s.step (.patchState runId patch)).1=.error error →
    (s.step (.patchState runId patch)).2=s) ∧
   ∀response,(s.step (.patchState runId patch)).1=.ok response →
    ∃updated,recordWithStatePatch record patch=.ok updated∧response=.record updated ∧
      (s.step (.patchState runId patch)).2 =
       { s with runs:=s.runs.insert runId updated }

theorem state_patch_read_over_write (record : RunRecord) : StatePatchLaws record := by
 refine ⟨?_,?_,?_,?_⟩
 · intro expected first second state
   simp only [recordWithStatePatch_eq_ok,applyOperations_append]
   constructor
   · rintro ⟨updated,⟨hterminal,hrevision,next,hnext,rfl⟩,rfl⟩
     obtain ⟨between,hbetween,hnext⟩:=bind_ok.mp hnext
     exact ⟨_,_,⟨hterminal,hrevision,between,hbetween,rfl⟩,⟨hterminal,rfl,next,hnext,rfl⟩,rfl⟩
   · rintro ⟨between,updated,⟨hterminal,hrevision,mid,hmid,rfl⟩,⟨-,-,next,hnext,rfl⟩,rfl⟩
     exact ⟨_,⟨hterminal,hrevision,next,bind_ok.mpr ⟨mid,hmid,hnext⟩,rfl⟩,rfl⟩
 · intro expected first operation second updated h
   obtain ⟨-,-,next,hnext,rfl⟩:=recordWithStatePatch_eq_ok.mp h
   rw [applyOperations_append] at hnext
   obtain ⟨before,hbefore,hnext⟩:=bind_ok.mp hnext
   obtain ⟨after,hafter,hnext⟩:=bind_ok.mp hnext
   exact ⟨before,after,hbefore,hafter,hnext,applyOperation_law hafter⟩
 · intro patch updated h
   obtain ⟨-,-,next,-,rfl⟩:=recordWithStatePatch_eq_ok.mp h
   rfl
 · intro s runId patch hstored
   have hget:s.getRun runId=.ok record:=by simp [InMemoryRunStore.getRun,hstored]
   have hperform:s.perform (.patchState runId patch) =
     answer .record ((recordWithStatePatch record patch).map fun updated=>
      (updated,{ s with runs:=s.runs.insert runId updated })):=by
    simp only [InMemoryRunStore.perform,InMemoryRunStore.patchState,InMemoryRunStore.updateRun,
     hget,ok_bind]
    cases recordWithStatePatch record patch <;>rfl
   rw [InMemoryRunStore.step,hperform]
   cases recordWithStatePatch record patch with
   | error error=>
    refine ⟨fun _ _=>rfl,?_⟩
    intro response h
    cases h
   | ok updated=>
    constructor
    · intro error h
      cases h
    · intro response h
      obtain rfl:=Except.ok.inj h
      exact ⟨updated,rfl,rfl,rfl⟩

end GraphBlocks.RunStore
