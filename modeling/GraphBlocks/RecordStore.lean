import GraphBlocks.MachineRuns
import GraphBlocks.StoredJson

/-! `InMemoryRecordStore` of the runtime core. -/
namespace GraphBlocks.RecordStore
open Std Json MachineRuns OrderedMap RustStd StoredJson List Option

structure Record where
 collection:String
 key:String
 value:Value
 revision:ℕ
 etag:String
 metadata:Members

structure WriteOptions where
 expectedRevision:Option ℕ
 createOnly:Bool

structure DeleteOptions where
 expectedRevision:Option ℕ
 allowMissing:Bool

inductive RecordStoreError where
 | invalidCollection
 | invalidKey
 | alreadyExists (collection key:String)
 | notFound (collection key:String)
 | revisionConflict (collection key:String) (expectedRevision currentRevision:ℕ)
 | revisionOverflow (collection key:String)
 | invalidRecordJson (collection key:String)
 | invalidLimit
 | invalidCursor (collection cursor:String)

/-- `BTreeMap<(String, String), _>`, by collection and key. -/
abbrev StorageMap (α:Type) := ExtTreeMap (String×String) α comparePair

structure InMemoryRecordStore where
 records:StorageMap Record
 lastRevisions:StorageMap ℕ

def InMemoryRecordStore.new : InMemoryRecordStore := ⟨∅,∅⟩

section
variable (tryCanonicalHash:Value→Option String) (s:InMemoryRecordStore) (collection key:String)

def currentRevision : ℕ := (s.records[(collection,key)]?.map Record.revision).getD 0

def ensureExpected (expectedRevision:Option ℕ) (currentRevision:ℕ) : Except RecordStoreError Unit :=
 match expectedRevision with
 | some expected =>
  ensure (expected==currentRevision) (.revisionConflict collection key expected currentRevision)
 | none=>.ok ()

/-- The record as its etag covers it. -/
def recordContent (stored:Record) : Value :=
 .object [("collection",.string stored.collection),("key",.string stored.key),
  ("value",stored.value),("revision",.number (intToken stored.revision)),
  ("metadata",.object stored.metadata)]

def prepare (record:Record) (options:WriteOptions) : Except RecordStoreError Record := do
 ensure (!isBlank collection) .invalidCollection
 ensure (!isBlank record.key) .invalidKey
 let current:=currentRevision s collection record.key
 ensure (!(options.createOnly&&current != 0)) (.alreadyExists collection record.key)
 ensureExpected collection record.key options.expectedRevision current
 let revision ←
  ((checkedSucc (s.lastRevisions[(collection,record.key)]?.getD current)).elim
   (.error (.revisionOverflow collection record.key)) .ok:Except RecordStoreError ℕ)
 let stored:={ record with collection,revision }
 let etag ← (tryCanonicalHash (recordContent stored)).elim
  (.error (.invalidRecordJson collection record.key)) .ok
 return { stored with etag }

def put (record:Record) (options:WriteOptions) :
  Except RecordStoreError Record × InMemoryRecordStore :=
 match prepare tryCanonicalHash s collection record options with
 | .error e=>(.error e,s)
 | .ok stored=>
  (.ok stored,
   { records:=s.records.insert (collection,record.key) stored
     lastRevisions:=s.lastRevisions.insert (collection,record.key) stored.revision })

def delete (options:DeleteOptions) : Except RecordStoreError Unit × InMemoryRecordStore :=
 if isBlank collection then (.error .invalidCollection,s)
 else if isBlank key then (.error .invalidKey,s)
 else match s.records[(collection,key)]? with
 | none=>(if options.allowMissing then .ok () else .error (.notFound collection key),s)
 | some current=>
  match ensureExpected collection key options.expectedRevision current.revision with
  | .error e=>(.error e,s)
  | .ok ()=>(.ok (),{ s with records:=s.records.erase (collection,key) })
end

inductive Call where
 | put (collection:String) (record:Record) (options:WriteOptions)
 | delete (collection key:String) (options:DeleteOptions)

inductive Response where
 | put (result:Except RecordStoreError Record)
 | delete (result:Except RecordStoreError Unit)

def Response.failed : Response→Bool
 | .put (.error _) | .delete (.error _)=>true
 | .put (.ok _) | .delete (.ok _)=>false

def step (tryCanonicalHash:Value→Option String) (s:InMemoryRecordStore) :
  Call→Response × InMemoryRecordStore
 | .put collection record options=>(put tryCanonicalHash s collection record options).map .put id
 | .delete collection key options=>(delete s collection key options).map .delete id

/-- The revision that a transition gives to the record under `at'`. -/
def putRevision (at':String×String) (t:Transition InMemoryRecordStore Call Response) : Option ℕ :=
 match t.call,t.response with
 | .put collection record _,.put (.ok stored)=>
  if (collection,record.key)=at' then some stored.revision else none
 | _,_=>none

abbrev Past := List (Transition InMemoryRecordStore Call Response)

variable {hash:Value→Option String} {s:InMemoryRecordStore} {collection key:String}
 {record stored:Record} {options:WriteOptions} {past:Past}

lemma prepare_ok(h:prepare hash s collection record options=.ok stored):
  stored.collection=collection∧stored.key=record.key ∧
   stored.revision=s.lastRevisions[(collection,record.key)]?.getD
    (currentRevision s collection record.key)+1 ∧
   ∀expected,options.expectedRevision=some expected →
    expected=currentRevision s collection record.key:=by
 unfold prepare at h
 obtain ⟨_,-,h⟩:=bind_ok.mp h
 obtain ⟨_,-,h⟩:=bind_ok.mp h
 obtain ⟨_,-,h⟩:=bind_ok.mp h
 obtain ⟨_,hexpected,h⟩:=bind_ok.mp h
 obtain ⟨revision,hrevision,h⟩:=bind_ok.mp h
 obtain ⟨etag,-,h⟩:=bind_ok.mp h
 cases h
 refine ⟨rfl,rfl,?_,?_⟩
 · cases hnext:checkedSucc (s.lastRevisions[(collection,record.key)]?.getD
    (currentRevision s collection record.key)) with
   | none=>
    rw [hnext] at hrevision
    cases hrevision
   | some next=>
    rw [hnext] at hrevision
    cases hrevision
    exact checkedSucc_eq_some hnext
 · intro expected hsome
   rw [hsome] at hexpected
   simpa [ensureExpected] using ensure_ok.mp hexpected

/-- The store after `put` has accepted a record. -/
def written (s:InMemoryRecordStore) (collection:String) (stored:Record) : InMemoryRecordStore where
 records:=s.records.insert (collection,stored.key) stored
 lastRevisions:=s.lastRevisions.insert (collection,stored.key) stored.revision

lemma put_cases(hash:Value→Option String)(s:InMemoryRecordStore)(collection:String)
  (record:Record)(options:WriteOptions):(∃e,put hash s collection record options=(.error e,s)) ∨
   ∃stored,prepare hash s collection record options=.ok stored ∧
    put hash s collection record options=(.ok stored,written s collection stored):=by
 unfold put
 cases hprepared:prepare hash s collection record options with
 | error e=>exact .inl ⟨e,rfl⟩
 | ok stored=>
  refine .inr ⟨stored,rfl,?_⟩
  unfold written
  rw [(prepare_ok hprepared).2.1]

lemma delete_cases(s:InMemoryRecordStore)(collection key:String)(options:DeleteOptions):
  (∃result,delete s collection key options=(result,s))∨delete s collection key options =
    (.ok (),{ s with records:=s.records.erase (collection,key) }):=by
 unfold delete
 split
 · exact .inl ⟨_,rfl⟩
 · split
   · exact .inl ⟨_,rfl⟩
   · split
     · exact .inl ⟨_,rfl⟩
     · split
       · exact .inl ⟨_,rfl⟩
       · exact .inr rfl

lemma step_failed(hash:Value→Option String)(s:InMemoryRecordStore)(call:Call)
  (h:(step hash s call).1.failed=true):(step hash s call).2=s:=by
 cases call with
 | put collection record options=>
  rw [step] at h ⊢
  rcases put_cases hash s collection record options with ⟨e,hsame⟩|⟨stored,-,hstored⟩
  · rw [hsame]
    rfl
  · rw [hstored] at h
    cases h
 | delete collection key options=>
  rw [step] at h ⊢
  rcases delete_cases s collection key options with ⟨result,hsame⟩|hdeleted
  · rw [hsame]
    rfl
  · rw [hdeleted] at h
    cases h

/-- A live record carries the last revision given to its key. -/
structure Tracked (past:Past) (s:InMemoryRecordStore) : Prop where
 live:∀at' (current:Record),s.records[at']?=some current → (current.collection,current.key)=at' ∧
  current.revision≠0∧s.lastRevisions[at']?=some current.revision
 increasing:∀at',(past.filterMap (putRevision at')).Pairwise (·<·)
 last:∀at',∀revision∈past.filterMap (putRevision at'),
  ∃last,s.lastRevisions[at']?=some last∧revision≤last

lemma Tracked.base(h:Tracked past s)(collection key:String):
  s.lastRevisions[(collection,key)]?.getD (currentRevision s collection key) =
   s.lastRevisions[(collection,key)]?.getD 0:=by
 cases hlast:s.lastRevisions[(collection,key)]? with
 | some last=>rfl
 | none=>
  cases hcurrent:s.records[(collection,key)]? with
  | none=>simp [currentRevision,hcurrent]
  | some current=>cases hlast.symm.trans (h.live _ current hcurrent).2.2

lemma Tracked.idle(h:Tracked past s){t:Transition InMemoryRecordStore Call Response}
  (hnone:∀at',putRevision at' t=none):Tracked (past++[t]) s:=by
 have hsame (at':String×String) : (past++[t]).filterMap (putRevision at')=
   past.filterMap (putRevision at'):=by
  rw [filterMap_concat,hnone,toList_none,append_nil]
 exact ⟨h.live,fun at'=>hsame at'▸h.increasing at',fun at'=>hsame at'▸h.last at'⟩

lemma Tracked.erase(h:Tracked past s)(at':String×String):
  Tracked past { s with records:=s.records.erase at' }:=by
 refine ⟨?_,h.increasing,h.last⟩
 intro k current hk
 rw [ExtTreeMap.getElem?_erase] at hk
 split at hk
 · cases hk
 · exact h.live k current hk

lemma Tracked.write(h:Tracked past s){t:Transition InMemoryRecordStore Call Response}
  (hcollection:stored.collection=collection)
  (hrevision:stored.revision=s.lastRevisions[(collection,stored.key)]?.getD 0+1)
  (ht:∀at',putRevision at' t=if (collection,stored.key)=at' then some stored.revision else none):
  Tracked (past++[t]) (written s collection stored):=by
 have hbefore:∀revision∈past.filterMap (putRevision (collection,stored.key)),
   revision<stored.revision:=by
  intro revision hmem
  obtain ⟨last,hlast,hle⟩:=h.last _ revision hmem
  rw [hrevision,hlast]
  exact Nat.lt_succ_of_le hle
 refine ⟨?_,?_,?_⟩ <;>intro at'
 · intro current hcurrent
   unfold written at hcurrent ⊢
   rw [lookup_insert] at hcurrent ⊢
   split at hcurrent
   · next hat=>
    cases hcurrent
    rw [if_pos hat,hcollection]
    exact ⟨hat,hrevision▸Nat.succ_ne_zero _,rfl⟩
   · next hat=>
    rw [if_neg hat]
    exact h.live at' current hcurrent
 · rw [filterMap_concat,ht]
   by_cases hat:(collection,stored.key)=at'
   · rw [if_pos hat,←hat]
     refine pairwise_append.mpr ⟨h.increasing _,pairwise_singleton _ _,?_⟩
     intro revision hmem other hother
     obtain rfl:=mem_singleton.mp hother
     exact hbefore revision hmem
   · rw [if_neg hat,toList_none,append_nil]
     exact h.increasing at'
 · rw [filterMap_concat,ht]
   unfold written
   rw [lookup_insert]
   by_cases hat:(collection,stored.key)=at'
   · rw [if_pos hat,if_pos hat,←hat]
     intro revision hmem
     refine ⟨_,rfl,?_⟩
     rcases mem_append.mp hmem with hmem|hmem
     · exact (hbefore revision hmem).le
     · exact (mem_singleton.mp hmem).le
   · rw [if_neg hat,if_neg hat,toList_none,append_nil]
     exact h.last at'

lemma Tracked.after_step(h:Tracked past s)(hash:Value→Option String)(call:Call):
  Tracked (past++[takeStep (step hash) s call]) (step hash s call).2:=by
 cases call with
 | put collection record options=>
  rcases put_cases hash s collection record options with ⟨e,hsame⟩|⟨stored,hprepared,hstored⟩
  · have hstep:step hash s (.put collection record options)=(.put (.error e),s):=by
     simp [step,hsame]
    rw [takeStep,hstep]
    exact h.idle fun _=>rfl
  · have hstep:step hash s (.put collection record options) =
     (.put (.ok stored),written s collection stored):=by
     simp [step,hstored]
    obtain ⟨hcollection,hkey,hrevision,-⟩:=prepare_ok hprepared
    rw [takeStep,hstep]
    apply h.write hcollection
    · rw [hrevision,h.base,hkey]
    · intro at'
      rw [hkey]
      rfl
 | delete collection key options=>
  rcases delete_cases s collection key options with ⟨result,hsame⟩|hdeleted
  · have hstep:step hash s (.delete collection key options)=(.delete result,s):=by simp [step,hsame]
    rw [takeStep,hstep]
    exact h.idle fun _=>rfl
  · have hstep:step hash s (.delete collection key options) =
     (.delete (.ok ()),{ s with records:=s.records.erase (collection,key) }):=by
     simp [step,hdeleted]
    rw [takeStep,hstep]
    exact (h.erase (collection,key)).idle fun _=>rfl

lemma tracked_run(hash:Value→Option String)(calls:List Call):
  Tracked (history (step hash) .new calls) (execute (step hash) .new calls):=by
 apply history_invariant (step hash)
 · refine ⟨?_,fun _=>.nil,fun _ _ h=>absurd h not_mem_nil⟩
   intro at' current h
   simp [InMemoryRecordStore.new] at h
 · exact fun past s call h=>h.after_step hash call

theorem record_revisions_increase (hash : Value→Option String) (calls : List Call) :
  (∀collection key,((history (step hash) .new calls).filterMap
    (putRevision (collection,key))).Pairwise (·<·)) ∧
  (∀t∈history (step hash) .new calls,∀collection record options stored revision,
   t.call=.put collection record options → t.response=.put (.ok stored) →
   options.expectedRevision=some revision →
   (revision=0 → t.before.records[(collection,record.key)]?=none) ∧
    (revision≠0 → ∃current,t.before.records[(collection,record.key)]?=some current ∧
     current.revision=revision)) ∧
  ∀t∈history (step hash) .new calls,t.response.failed=true → t.after=t.before := by
 refine ⟨fun collection key=>(tracked_run hash calls).increasing _,?_,?_⟩
 · intro t ht collection record options stored revision hcall hresponse hexpected
   obtain ⟨before,call,after,-,rfl⟩:=mem_history (step hash) ht
   have htracked:=tracked_run hash before
   generalize execute (step hash) .new before=s at *
   obtain rfl:call=.put collection record options:=hcall
   change Response.put (put hash s collection record options).1=.put (.ok stored) at hresponse
   change (revision=0 → s.records[(collection,record.key)]?=none)∧(revision≠0 → _)
   rcases put_cases hash s collection record options with ⟨e,hsame⟩|⟨stored',hprepared,-⟩
   · rw [hsame] at hresponse
     cases hresponse
   · have hcurrent:=(prepare_ok hprepared).2.2.2 revision hexpected
     unfold currentRevision at hcurrent
     change _∧(revision≠0 → ∃current,s.records[(collection,record.key)]?=some current ∧ _)
     cases hlive:s.records[(collection,record.key)]? with
     | none=>
      rw [hlive] at hcurrent
      exact ⟨fun _=>rfl,fun hpos=>absurd hcurrent hpos⟩
     | some current=>
      rw [hlive] at hcurrent
      have hpos:=(htracked.live _ current hlive).2.1
      exact ⟨fun hzero=>absurd (hcurrent.symm.trans hzero) hpos,fun _=>⟨_,rfl,hcurrent.symm⟩⟩
 · intro t ht hfailed
   obtain ⟨before,call,after,-,rfl⟩:=mem_history (step hash) ht
   exact step_failed hash _ call hfailed

end GraphBlocks.RecordStore
