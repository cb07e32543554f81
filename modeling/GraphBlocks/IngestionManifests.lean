import GraphBlocks.MachineRuns
import GraphBlocks.OrderedMap

/-! `InMemoryIngestionManifestStore` of the runtime core, and what it says of the current
revisions. -/
namespace GraphBlocks.Ingestion
open Std MachineRuns OrderedMap Option

inductive IngestionStatus where
 | discovered | processing | ready | failed | superseded | deleted
deriving DecidableEq

structure IndexRecordRef where
 indexId:String
 recordId:String
 assetId:String
 revisionId:String
 chunkIds:List String

-- references to artifacts, block errors, and what a manifest carries beside the fields below
variable {ρ β κ:Type}

structure IngestionManifest (ρ β κ:Type) where
 manifestId:String
 assetId:String
 revisionId:String
 parsedDocumentRef:Option ρ
 chunkSetRef:Option ρ
 indexRecords:List IndexRecordRef
 status:IngestionStatus
 error:Option β
 updatedAt:String
 carried:κ

inductive IngestionError where
 | duplicateManifest (manifestId:String)
 | manifestNotFound (manifestId:String)
 | invalidTransition (manifestId:String) (source target:IngestionStatus)
 | invalidIndexRecordLineage (manifestId recordId field expected actual:String)

structure InMemoryIngestionManifestStore (ρ β κ:Type) where
 manifests:ExtTreeMap String (IngestionManifest ρ β κ)
 currentByAsset:ExtTreeMap String String

abbrev Answer (ρ β κ:Type) := Except IngestionError (IngestionManifest ρ β κ)

namespace InMemoryIngestionManifestStore

def new : InMemoryIngestionManifestStore ρ β κ := ⟨∅,∅⟩

variable (s:InMemoryIngestionManifestStore ρ β κ)

def store (manifestId:String) (manifest:IngestionManifest ρ β κ) :
  InMemoryIngestionManifestStore ρ β κ :=
 { s with manifests:=s.manifests.insert manifestId manifest }

def createProcessing (manifest:IngestionManifest ρ β κ) (updatedAt:String) :
  Answer ρ β κ×InMemoryIngestionManifestStore ρ β κ :=
 if s.manifests.contains manifest.manifestId then
  (.error (.duplicateManifest manifest.manifestId),s)
 else
  let manifest:={ manifest with status:=.processing,updatedAt }
  (.ok manifest,s.store manifest.manifestId manifest)

def checkLineage (manifestId:String) (manifest:IngestionManifest ρ β κ) :
  List IndexRecordRef→Except IngestionError Unit
 | []=>.ok ()
 | record::records=>
  if record.assetId≠manifest.assetId then
   .error (.invalidIndexRecordLineage manifestId record.recordId "asset_id" manifest.assetId
    record.assetId)
  else if record.revisionId≠manifest.revisionId then
   .error (.invalidIndexRecordLineage manifestId record.recordId "revision_id"
    manifest.revisionId record.revisionId)
  else checkLineage manifestId manifest records

/-- What becomes of the manifest that was current. -/
def superseded (updatedAt:String) (previous:IngestionManifest ρ β κ) : IngestionManifest ρ β κ :=
 if previous.status = .ready then { previous with status:=.superseded,updatedAt } else previous

def publish (manifestId:String) (manifest:IngestionManifest ρ β κ) (updatedAt:String) :
  InMemoryIngestionManifestStore ρ β κ :=
 let manifests:=s.manifests.insert manifestId manifest
 { manifests:=match s.currentByAsset[manifest.assetId]? with
    | some previousId=>
     if previousId≠manifestId then manifests.modify previousId (superseded updatedAt)
     else manifests
    | none=>manifests
   currentByAsset:=s.currentByAsset.insert manifest.assetId manifestId }

def commit (manifestId:String) (parsedDocumentRef chunkSetRef:Option ρ)
  (indexRecords:List IndexRecordRef) (updatedAt:String) :
  Answer ρ β κ×InMemoryIngestionManifestStore ρ β κ :=
 match s.manifests[manifestId]? with
 | none=>(.error (.manifestNotFound manifestId),s)
 | some manifest=>
  match manifest.status with
  | .ready=>(.ok manifest,s)
  | .discovered | .processing=>
   match checkLineage manifestId manifest indexRecords with
   | .error e=>(.error e,s)
   | .ok ()=>
    let manifest:={ manifest with
     parsedDocumentRef,chunkSetRef,indexRecords,updatedAt,status:=.ready,error:=none }
    (.ok manifest,s.publish manifestId manifest updatedAt)
  | status=>(.error (.invalidTransition manifestId status .ready),s)

def fail (manifestId:String) (error:β) (updatedAt:String) :
  Answer ρ β κ×InMemoryIngestionManifestStore ρ β κ :=
 match s.manifests[manifestId]? with
 | none=>(.error (.manifestNotFound manifestId),s)
 | some manifest=>
  if manifest.status∈[.ready,.superseded,.deleted] then
   (.error (.invalidTransition manifestId manifest.status .failed),s)
  else
   let manifest:={ manifest with status:=.failed,error:=some error,updatedAt }
   (.ok manifest,s.store manifestId manifest)

def tombstone (manifestId updatedAt:String) : Answer ρ β κ×InMemoryIngestionManifestStore ρ β κ :=
 match s.manifests[manifestId]? with
 | none=>(.error (.manifestNotFound manifestId),s)
 | some manifest=>
  if manifest.status = .deleted then (.ok manifest,s)
  else
   let manifest:={ manifest with status:=.deleted,updatedAt }
   (.ok manifest,{
    manifests:=s.manifests.insert manifestId manifest
    currentByAsset:=if s.currentByAsset[manifest.assetId]?=some manifestId then
     s.currentByAsset.erase manifest.assetId else s.currentByAsset })

def currentForAsset (assetId:String) : Option (IngestionManifest ρ β κ) :=
 s.currentByAsset[assetId]?.bind fun manifestId=>s.manifests[manifestId]?

end InMemoryIngestionManifestStore

inductive Call (ρ β κ:Type) where
 | createProcessing (manifest:IngestionManifest ρ β κ) (updatedAt:String)
 | commit (manifestId:String) (parsedDocumentRef chunkSetRef:Option ρ)
  (indexRecords:List IndexRecordRef) (updatedAt:String)
 | fail (manifestId:String) (error:β) (updatedAt:String)
 | tombstone (manifestId updatedAt:String)

def step (s:InMemoryIngestionManifestStore ρ β κ) :
  Call ρ β κ→Answer ρ β κ×InMemoryIngestionManifestStore ρ β κ
 | .createProcessing manifest updatedAt=>s.createProcessing manifest updatedAt
 | .commit manifestId parsedDocumentRef chunkSetRef indexRecords updatedAt=>
  s.commit manifestId parsedDocumentRef chunkSetRef indexRecords updatedAt
 | .fail manifestId error updatedAt=>s.fail manifestId error updatedAt
 | .tombstone manifestId updatedAt=>s.tombstone manifestId updatedAt

open InMemoryIngestionManifestStore

def IngestionManifest.InLineage (manifest:IngestionManifest ρ β κ) : Prop :=
 ∀record∈manifest.indexRecords,record.assetId=manifest.assetId∧record.revisionId=manifest.revisionId

variable {s t:InMemoryIngestionManifestStore ρ β κ} {id updatedAt:String}
 {m m' manifest:IngestionManifest ρ β κ}

lemma checkLineage_ok{records:List IndexRecordRef}(h:checkLineage id m records=.ok ()):
  ∀record∈records,record.assetId=m.assetId∧record.revisionId=m.revisionId:=by
 induction records with
 | nil=>simp
 | cons record records ih=>
  rw [checkLineage] at h
  split_ifs at h with hasset hrevision
  exact List.forall_mem_cons.mpr ⟨⟨not_not.mp hasset,not_not.mp hrevision⟩,ih h⟩

/-- What a call can do to the store; a failing call does nothing. -/
inductive Effect (s:InMemoryIngestionManifestStore ρ β κ) :
  Answer ρ β κ→InMemoryIngestionManifestStore ρ β κ→Prop where
 | none (answer:Answer ρ β κ) : Effect s answer s
 | stored (id:String) (m:IngestionManifest ρ β κ)
  (held:∀old,s.manifests[id]?=some old → old.status∉[.ready,.superseded,.deleted])
  (status:m.status = .processing∨m.status = .failed) : Effect s (.ok m) (s.store id m)
 | published (id:String) (old m:IngestionManifest ρ β κ) (updatedAt:String)
  (found:s.manifests[id]?=some old) (status:old.status∉[.ready,.superseded,.deleted])
  (ready:m.status = .ready) (lineage:m.InLineage) :
  Effect s (.ok m) (s.publish id m updatedAt)
 | deleted (id:String) (old m:IngestionManifest ρ β κ) (found:s.manifests[id]?=some old)
  (status:old.status ≠ .deleted) (gone:m.status = .deleted) (asset:m.assetId=old.assetId) :
  Effect s (.ok m) {
   manifests:=s.manifests.insert id m
   currentByAsset:=if s.currentByAsset[m.assetId]?=some id then
    s.currentByAsset.erase m.assetId else s.currentByAsset }

lemma step_effect(s:InMemoryIngestionManifestStore ρ β κ)(call:Call ρ β κ):
  Effect s (step s call).1 (step s call).2:=by
 cases call with
 | createProcessing manifest updatedAt=>
  simp only [step,createProcessing]
  split
  · exact .none _
  · next hnew=>
    refine .stored _ _ ?_ (.inl rfl)
    intro old hold
    exact absurd ((contains_iff _).mpr ⟨old,hold⟩) hnew
 | commit id parsedDocumentRef chunkSetRef indexRecords updatedAt=>
  simp only [step,commit]
  cases hfound:s.manifests[id]? with
  | none=>exact .none _
  | some old=>
   dsimp only
   cases hstatus:old.status with
   | ready | failed | superseded | deleted=>exact .none _
   | discovered | processing=>
    cases hlineage:checkLineage id old indexRecords with
    | error e=>exact .none _
    | ok _=>
     refine .published id old _ updatedAt hfound ?_ ?_ ?_
     · simp [hstatus]
     · rfl
     · intro record hrecord
       exact checkLineage_ok hlineage record hrecord
 | fail id error updatedAt=>
  simp only [step,fail]
  cases hfound:s.manifests[id]? with
  | none=>exact .none _
  | some old=>
   dsimp only
   split
   · exact .none _
   · next hstatus=>
     refine .stored _ _ ?_ (.inr rfl)
     rintro other hother
     obtain rfl:=some.inj (hfound.symm.trans hother)
     exact hstatus
 | tombstone id updatedAt=>
  simp only [step,tombstone]
  cases hfound:s.manifests[id]? with
  | none=>exact .none _
  | some old=>
   dsimp only
   split
   · exact .none _
   · next hstatus=>exact .deleted id old _ hfound hstatus rfl rfl

section
variable (s:InMemoryIngestionManifestStore ρ β κ)

lemma publish_manifest(id j:String)(m:IngestionManifest ρ β κ)(updatedAt:String):
  (s.publish id m updatedAt).manifests[j]?=if id=j then some m
   else if s.currentByAsset[m.assetId]?=some j then (s.manifests[j]?).map (superseded updatedAt)
   else s.manifests[j]?:=by
 unfold publish
 cases hcurrent:s.currentByAsset[m.assetId]? with
 | none=>simp [lookup_insert]
 | some previous=>
  by_cases hprevious:previous=id
  · by_cases hj:id=j
    · simp [hprevious,hj]
    · simp [hprevious,hj,lookup_insert]
  · by_cases hj:previous=j
    · subst hj
      simp [hprevious,lookup_insert,Ne.symm hprevious]
    · simp [hprevious,ExtTreeMap.getElem?_modify,lookup_insert,hj]

lemma superseded_ready(updatedAt:String)(m:IngestionManifest ρ β κ):
  (superseded updatedAt m).status ≠ .ready:=by
 unfold superseded
 split
 · simp
 · next h=>exact h

lemma superseded_of_ne(h:m.status ≠ .ready):
  superseded updatedAt m=m:=if_neg h
end

/-- The two records of readiness agree, and what was made ready is in its lineage. -/
structure Consistent (s:InMemoryIngestionManifestStore ρ β κ) : Prop where
 current:∀(id:String) (m:IngestionManifest ρ β κ),s.manifests[id]?=some m→m.status = .ready →
  s.currentByAsset[m.assetId]?=some id
 held:∀asset id,s.currentByAsset[asset]?=some id →
  ∃m : IngestionManifest ρ β κ,s.manifests[id]?=some m∧m.status = .ready∧m.assetId=asset
 lineage:∀(id:String) (m:IngestionManifest ρ β κ),s.manifests[id]?=some m →
  m.status = .ready∨m.status = .superseded→m.InLineage

lemma consistent_new : Consistent (new:InMemoryIngestionManifestStore ρ β κ) where
 current _ _ h:=by simp [new] at h
 held _ _ h:=by simp [new] at h
 lineage _ _ h:=by simp [new] at h

lemma Consistent.store (hs:Consistent s)
  (held:∀old,s.manifests[id]?=some old→ old.status∉[.ready,.superseded,.deleted])
  (status:m.status=.processing∨m.status=.failed) : Consistent (s.store id m) where
 current:=by
  intro j n hj hready
  rw [InMemoryIngestionManifestStore.store,lookup_insert] at hj
  split_ifs at hj with hid
  · obtain rfl:=some.inj hj
    simp [hready] at status
  · exact hs.current j n hj hready
 held:=by
  intro asset j hj
  obtain ⟨n,hn,hready,hasset⟩:=hs.held asset j hj
  refine ⟨n,?_,hready,hasset⟩
  rw [InMemoryIngestionManifestStore.store,lookup_insert_ne]
  · exact hn
  · rintro rfl
    exact absurd hready (fun h=>held n hn (by simp [h]))
 lineage:=by
  intro j n hj hstatus
  rw [InMemoryIngestionManifestStore.store,lookup_insert] at hj
  split_ifs at hj with hid
  · obtain rfl:=some.inj hj
    rcases status with h|h <;>simp [h] at hstatus
  · exact hs.lineage j n hj hstatus

lemma Consistent.publish (hs:Consistent s) (found:s.manifests[id]?=some manifest)
  (status:manifest.status∉[.ready,.superseded,.deleted]) (ready:m.status=.ready)
  (lineage:m.InLineage) : Consistent (s.publish id m updatedAt) where
 current:=by
  intro j n hj hready
  rw [publish_manifest] at hj
  change (s.currentByAsset.insert m.assetId id)[n.assetId]?=some j
  split_ifs at hj with hid hprevious
  · obtain rfl:=some.inj hj
    rw [lookup_insert_self,hid]
  · obtain ⟨previous,-,rfl⟩:=map_eq_some_iff.mp hj
    exact absurd hready (superseded_ready _ _)
  · have hn:=hs.current j n hj hready
    rw [lookup_insert_ne]
    · exact hn
    · intro hasset
      exact hprevious (hasset▸hn)
 held:=by
  intro asset j hj
  change (s.currentByAsset.insert m.assetId id)[asset]?=some j at hj
  rw [lookup_insert] at hj
  rw [publish_manifest]
  split_ifs at hj with hasset
  · exact ⟨m,by rw [if_pos (some.inj hj)],ready,hasset⟩
  · obtain ⟨n,hn,hready,rfl⟩:=hs.held asset j hj
    have hid:id≠j:=by
     rintro rfl
     obtain rfl:=some.inj (found.symm.trans hn)
     exact status (by simp [hready])
    have hprevious:s.currentByAsset[m.assetId]?≠some j:=by
     intro hprevious
     obtain ⟨n',hn',-,hasset'⟩:=hs.held _ j hprevious
     obtain rfl:=some.inj (hn.symm.trans hn')
     exact hasset hasset'.symm
    exact ⟨n,by rw [if_neg hid,if_neg hprevious,hn],hready,rfl⟩
 lineage:=by
  intro j n hj hstatus
  rw [publish_manifest] at hj
  split_ifs at hj with hid hprevious
  · obtain rfl:=some.inj hj
    exact lineage
  · obtain ⟨previous,hold,rfl⟩:=map_eq_some_iff.mp hj
    unfold superseded at hstatus ⊢
    split at hstatus
    · next h=>
      rw [if_pos h]
      exact hs.lineage j previous hold (.inl h)
    · next h=>
      rw [if_neg h]
      exact hs.lineage j previous hold hstatus
  · exact hs.lineage j n hj hstatus

lemma Consistent.delete (hs:Consistent s) (found:s.manifests[id]?=some manifest)
  (gone:m.status=.deleted) (asset:m.assetId=manifest.assetId) :
  Consistent (InMemoryIngestionManifestStore.mk (s.manifests.insert id m)
   (if s.currentByAsset[m.assetId]?=some id then s.currentByAsset.erase m.assetId
    else s.currentByAsset)) where
 current:=by
  intro j n hj hready
  dsimp only at hj ⊢
  rw [lookup_insert] at hj
  split_ifs at hj with hid
  · obtain rfl:=some.inj hj
    simp [gone] at hready
  · have hn:=hs.current j n hj hready
    split_ifs with hcurrent
    · rw [ExtTreeMap.getElem?_erase,if_neg]
      · exact hn
      · intro hsame
        have hasset:m.assetId=n.assetId:=LawfulEqCmp.compare_eq_iff_eq.mp hsame
        rw [hasset,hn] at hcurrent
        exact hid (some.inj hcurrent).symm
    · exact hn
 held:=by
  intro a j hj
  dsimp only at hj ⊢
  have hkept:s.currentByAsset[a]?=some j∧id≠j:=by
   split_ifs at hj with hcurrent
   · rw [ExtTreeMap.getElem?_erase] at hj
     split_ifs at hj with hsame
     refine ⟨hj,?_⟩
     rintro rfl
     obtain ⟨n,hn,-,rfl⟩:=hs.held a id hj
     obtain rfl:=some.inj (found.symm.trans hn)
     exact hsame (LawfulEqCmp.compare_eq_iff_eq.mpr asset)
   · refine ⟨hj,?_⟩
     rintro rfl
     obtain ⟨n,hn,-,rfl⟩:=hs.held a id hj
     obtain rfl:=some.inj (found.symm.trans hn)
     exact hcurrent (asset▸hj)
  obtain ⟨n,hn,hready,hasset⟩:=hs.held a j hkept.1
  exact ⟨n,by rw [lookup_insert_ne _ _ hkept.2,hn],hready,hasset⟩
 lineage:=by
  intro j n hj hstatus
  rw [lookup_insert] at hj
  split_ifs at hj with hid
  · obtain rfl:=some.inj hj
    simp [gone] at hstatus
  · exact hs.lineage j n hj hstatus

variable {answer:Answer ρ β κ}

lemma Consistent.effect(hs:Consistent s)(h:Effect s answer t):Consistent t:=by
 cases h with
 | none answer=>exact hs
 | stored id m held status=>exact hs.store held status
 | published id old m updatedAt found status ready lineage=>
  exact hs.publish found status ready lineage
 | deleted id old m found status gone asset=>exact hs.delete found gone asset

lemma Effect.retired(h:Effect s answer t)(hm:s.manifests[id]?=some m)
  (hstatus:m.status=.superseded∨m.status=.deleted):
  t.manifests[id]?=some m∨m.status=.superseded ∧
   ∃m' : IngestionManifest ρ β κ,t.manifests[id]?=some m'∧m'.status=.deleted:=by
 cases h with
 | none answer=>exact .inl hm
 | stored id' m' held status=>
  left
  rw [InMemoryIngestionManifestStore.store,lookup_insert_ne]
  · exact hm
  · rintro rfl
    exact held m hm (by rcases hstatus with h|h <;>simp [h])
 | published id' old m' updatedAt found status ready lineage=>
  left
  rw [publish_manifest,if_neg]
  · split
    · rw [hm,map_some,superseded_of_ne]
      rcases hstatus with h|h <;>simp [h]
    · exact hm
  · rintro rfl
    obtain rfl:=some.inj (found.symm.trans hm)
    exact status (by rcases hstatus with h|h <;>simp [h])
 | deleted id' old m' found status gone asset=>
  dsimp only
  rw [lookup_insert]
  split
  · next hid=>
    subst hid
    obtain rfl:=some.inj (found.symm.trans hm)
    exact .inr ⟨hstatus.resolve_right status,m',rfl,gone⟩
  · exact .inl hm

lemma Consistent.currentForAsset_iff(hs:Consistent s)(asset:String):
  s.currentForAsset asset=some m ↔
   ∃id : String,s.manifests[id]?=some m∧m.status=.ready∧m.assetId=asset:=by
 constructor
 · intro h
   obtain ⟨id,hid,hm⟩:=bind_eq_some_iff.mp h
   obtain ⟨n,hn,hready,hasset⟩:=hs.held asset id hid
   obtain rfl:=some.inj (hm.symm.trans hn)
   exact ⟨id,hm,hready,hasset⟩
 · rintro ⟨id,hm,hready,rfl⟩
   exact bind_eq_some_iff.mpr ⟨id,hs.current id m hm hready,hm⟩

lemma Effect.failed{e:IngestionError}(h:Effect s (.error e) t):t=s:=by
 cases h
 rfl

/-- In every reachable state an asset has at most one ready manifest, the current one; later
calls leave what is retired alone, and a call that fails leaves everything alone. -/
theorem one_ready_manifest (calls : List (Call ρ β κ)) : let s:=execute step new calls
  (∀(id id':String) (m m':IngestionManifest ρ β κ),
   s.manifests[id]?=some m→s.manifests[id']?=some m'→m.status = .ready →
   m'.status = .ready→m.assetId=m'.assetId→id=id') ∧
  (∀asset m,s.currentForAsset asset=some m ↔
   ∃id : String,s.manifests[id]?=some m∧m.status = .ready∧m.assetId=asset) ∧
  (∀(id:String) (m:IngestionManifest ρ β κ),s.manifests[id]?=some m →
   m.status = .ready∨m.status = .superseded→m.InLineage) ∧
  ∀call:Call ρ β κ,
   (∀(id:String) (m:IngestionManifest ρ β κ),s.manifests[id]?=some m→m.status = .superseded →
    (step s call).2.manifests[id]?=some m ∨
     ∃m' : IngestionManifest ρ β κ,(step s call).2.manifests[id]?=some m'∧m'.status = .deleted) ∧
   (∀(id:String) (m:IngestionManifest ρ β κ),s.manifests[id]?=some m→m.status = .deleted →
    (step s call).2.manifests[id]?=some m) ∧
   ∀e,(step s call).1 = .error e→(step s call).2=s := by
 intro s
 have hs:Consistent s:=
  execute_invariant step consistent_new (fun s call h=>h.effect (step_effect s call)) calls
 refine ⟨?_,fun asset m=>hs.currentForAsset_iff asset,hs.lineage,?_⟩
 · intro id id' m m' hm hm' hready hready' hasset
   have h:=hs.current id m hm hready
   rw [hasset,hs.current id' m' hm' hready'] at h
   exact (some.inj h).symm
 · intro call
   have heffect:=step_effect s call
   refine ⟨?_,?_,?_⟩
   · intro id m hm hstatus
     exact (heffect.retired hm (.inl hstatus)).imp_right And.right
   · intro id m hm hstatus
     refine (heffect.retired hm (.inr hstatus)).resolve_right ?_
     rintro ⟨h,-⟩
     simp [h] at hstatus
   · intro e he
     rw [he] at heffect
     exact heffect.failed

end GraphBlocks.Ingestion
