import GraphBlocks.CanonicalFields
import GraphBlocks.SearchHits

namespace GraphBlocks.Rag
open Std Json StoredJson CanonicalJson OrderedMap List Std.ExtTreeMap

/-- The operations on scores, which are floating-point numbers in the code. -/
structure Scores (σ:Type) where
 zero:σ
 one:σ
 ofUsize:ℕ→σ
 add:σ→σ→σ
 mul:σ→σ→σ
 div:σ→σ→σ
 /-- `partial_cmp`, with `Equal` where it answers nothing. -/
 compare:σ→σ→Ordering
 isPositive:σ→Bool
 toValue:σ→Value

inductive FusionStrategy where
 | concatenate
 | reciprocalRankFusion
 | weightedRank
 | normalizedScore
 | interleave

def FusionStrategy.label : FusionStrategy→String
 | .concatenate=>"concatenate"
 | .reciprocalRankFusion=>"reciprocal_rank_fusion"
 | .weightedRank=>"weighted_rank"
 | .normalizedScore=>"normalized_score"
 | .interleave=>"interleave"

structure FusionOptions (σ:Type) where
 strategy:FusionStrategy
 k:ℕ
 weights:Option (List σ)
 retrieverId:String

def numberValue (n:ℕ) : Value := .number (intToken n)

/-- The members of a locator in key order, as `json!` builds them. -/
def locatorValue (locator:DocumentSpan) : Value :=
 .object [("asset_id",.string locator.assetId),("bbox",orNull Subtype.val locator.bbox),
  ("cell_range",orNull .string locator.cellRange),("char_end",orNull numberValue locator.charEnd),
  ("char_start",orNull numberValue locator.charStart),("chunk_id",orNull .string locator.chunkId),
  ("document_id",.string locator.documentId),("element_id",orNull .string locator.elementId),
  ("page",orNull numberValue locator.page),("revision_id",.string locator.revisionId),
  ("sheet",orNull .string locator.sheet),("slide",orNull numberValue locator.slide)]

section
variable {σ:Type} (d:StringDisplay) (scores:Scores σ)

def firstLocator (hit:SearchHit σ) : Option DocumentSpan := hit.sources.findSome? (·.locator)

def dedupeKeyFor (hit:SearchHit σ) : String :=
 match firstLocator hit with
 | none=>"item:"++hit.item.itemId
 | some locator=>"source_span:"++String.ofList (compact d (locatorValue locator))

/-- What the first loop collects. -/
structure Grouping (σ:Type) where
 groupedHits:StringMap (List (SearchHit σ))
 firstSeenKeys:List String
 fusionScores:StringMap σ

def Grouping.empty : Grouping σ := ⟨∅,[],∅⟩

def hitScore (options:FusionOptions σ) (weight:σ) (hit:SearchHit σ) : Option σ :=
 match options.strategy with
 | .reciprocalRankFusion=>
  some (scores.div weight (scores.ofUsize (min (options.k+max hit.rank 1) (2^64-1))))
 | .weightedRank=>some (scores.div weight (scores.ofUsize (max hit.rank 1)))
 | .normalizedScore=>some (scores.mul weight (hit.normalizedScore.getD scores.zero))
 | .concatenate=>none
 | .interleave=>none

def Grouping.add (options:FusionOptions σ) (weight:σ) (g:Grouping σ) (hit:SearchHit σ) :
  Grouping σ :=
 let dedupeKey:=dedupeKeyFor d hit
 { groupedHits:=g.groupedHits.insert dedupeKey (g.groupedHits.getD dedupeKey []++[hit])
   firstSeenKeys:=
    if g.groupedHits.contains dedupeKey then g.firstSeenKeys else g.firstSeenKeys++[dedupeKey]
   fusionScores:=
    match hitScore scores options weight hit with
    | none=>g.fusionScores
    | some score=>
     g.fusionScores.insert dedupeKey
      (scores.add (g.fusionScores.getD dedupeKey scores.zero) score) }

/-- The sets from `setIndex` on, each hit under the weight of its set. -/
def groupSets (options:FusionOptions σ) : ℕ→List (List (SearchHit σ))→Grouping σ→Grouping σ
 | _, [], g=>g
 | setIndex, hitSet::hitSets, g=>
  let weight:=(options.weights.bind fun weights=>weights[setIndex]?).getD scores.one
  groupSets options (setIndex+1) hitSets (hitSet.foldl (Grouping.add d scores options weight) g)

def pushUnseen (keys:List String) (key:String) : List String :=
 if key∈keys then keys else keys++[key]

def interleaved (hitSets:List (List (SearchHit σ))) : List (SearchHit σ) :=
 let sortedHitSets:=hitSets.map (·.insertionSort rankOrder)
 let maxLen:=(sortedHitSets.map List.length).foldl max 0
 (List.range maxLen).flatMap fun index=>sortedHitSets.filterMap (·[index]?)

def minRank (hits:List (SearchHit σ)) : ℕ := ((hits.map (·.rank)).min?).getD (2^64-1)

/-- Higher scores first, then the better rank, then the smaller key. -/
def scoreOrder (g:Grouping σ) (left right:String) : Ordering :=
 (scores.compare (g.fusionScores.getD right scores.zero)
  (g.fusionScores.getD left scores.zero)).then
  ((compare (minRank (g.groupedHits.getD left [])) (minRank (g.groupedHits.getD right []))).then
   (compare left right))

def orderedKeys (strategy:FusionStrategy) (hitSets:List (List (SearchHit σ))) (g:Grouping σ) :
  List String :=
 match strategy with
 | .concatenate=>g.firstSeenKeys
 | .interleave=>((interleaved hitSets).map (dedupeKeyFor d)).foldl pushUnseen []
 | _=>g.groupedHits.keys.insertionSort fun left right=>scoreOrder scores g left right ≠ .gt

def scored : FusionStrategy→Bool
 | .concatenate=>false
 | .interleave=>false
 | _=>true

def shownSources (hit:SearchHit σ) : List SourceRef :=
 if hit.highlights.isEmpty then [hit.item.source] else hit.highlights

/-- `seen_source_ids` are the ids of the highlights kept so far. -/
def pushHighlight (highlights:List SourceRef) (source:SourceRef) : List SourceRef :=
 if highlights.any fun kept=>decide (kept.sourceId=source.sourceId) then highlights
 else highlights++[source]

def fuseGroup (options:FusionOptions σ) (maxScore:Option σ) (fusionScores:StringMap σ) (rank:ℕ)
  (dedupeKey:String) (representative:SearchHit σ) (sourceHits:List (SearchHit σ)) : SearchHit σ :=
 let rawScore:=if scored options.strategy then fusionScores[dedupeKey]? else none
 let sourceRanks:=sourceHits.foldl
  (fun (ranks:StringMap Value) hit=>ranks.insert hit.retriever (numberValue hit.rank)) ∅
 { hitId:=options.retrieverId ++ ":" ++ representative.item.itemId
   item:=representative.item
   rank:=rank+1
   retriever:=options.retrieverId
   rawScore
   normalizedScore:=
    rawScore.bind fun score=>(maxScore.filter scores.isPositive).map (scores.div score)
   scoreKind:=some options.strategy.label
   highlights:=(sourceHits.flatMap shownSources).foldl pushHighlight []
   metadata:=
    ((((representative.metadata.insert "source_hit_ids"
      (.array (sourceHits.map fun hit=>.string hit.hitId))).insert
      "source_ranks" (.object sourceRanks.toList)).insert
      "fusion_strategy" (.string options.strategy.label)).insert
      "dedupe_key" (.string dedupeKey)).insert
      "fusion_score" (orNull scores.toValue rawScore) }

def fuseSearchHits (hitSets:List (List (SearchHit σ))) (options:FusionOptions σ) :
  Except RagError (List (SearchHit σ)) :=
 if options.k<1 then .error .invalidFusionK else
 if options.weights.any fun weights=>weights.length != hitSets.length then
  .error .weightCountMismatch else
 let g:=groupSets d scores options 0 hitSets .empty
 let keys:=orderedKeys d scores options.strategy hitSets g
 let maxScore:=if scored options.strategy then keys.head?.bind (g.fusionScores[·]?) else none
 .ok (keys.zipIdx.filterMap fun (dedupeKey,rank)=>
  match g.groupedHits.getD dedupeKey [] with
  | []=>none
  | representative::others=>
   some (fuseGroup scores options maxScore g.fusionScores rank dedupeKey representative
    (representative::others)))
end

section
variable {σ:Type} (d:StringDisplay) (scores:Scores σ)

/-- What the loop has collected from the hits of `past`. -/
structure Collects (past:List (SearchHit σ)) (g:Grouping σ) : Prop where
 groups:∀key,g.groupedHits.getD key []=past.filter fun hit=>decide (dedupeKeyFor d hit=key)
 keys:∀key,g.groupedHits.contains key=true ↔ ∃hit∈past,dedupeKeyFor d hit=key
 firstSeen:∀key,key∈g.firstSeenKeys ↔ ∃hit∈past,dedupeKeyFor d hit=key
 nodup:g.firstSeenKeys.Nodup

variable {d} {past:List (SearchHit σ)} {g:Grouping σ}

lemma Collects.add (h:Collects d past g) (options:FusionOptions σ) (weight:σ) (hit:SearchHit σ) :
  Collects d (past++[hit]) (g.add d scores options weight hit) where
 groups:=by
  intro key
  simp only [Grouping.add,getD_insert,LawfulEqCmp.compare_eq_iff_eq,filter_append,
   filter_cons,filter_nil,decide_eq_true_eq,h.groups]
  by_cases hkey:dedupeKeyFor d hit=key
  · simp [hkey]
  · simp [hkey]
 keys:=by
  intro key
  simp only [Grouping.add,ExtTreeMap.contains_insert,Bool.or_eq_true,beq_iff_eq,
   LawfulEqCmp.compare_eq_iff_eq,h.keys,mem_append,mem_singleton]
  constructor
  · rintro (rfl|⟨old,hold,hkey⟩)
    · exact ⟨hit,.inr rfl,rfl⟩
    · exact ⟨old,.inl hold,hkey⟩
  · rintro ⟨old,hold|rfl,hkey⟩
    · exact .inr ⟨old,hold,hkey⟩
    · exact .inl hkey
 firstSeen:=by
  intro key
  simp only [Grouping.add]
  by_cases hseen:g.groupedHits.contains (dedupeKeyFor d hit)=true
  · rw [if_pos hseen,h.firstSeen]
    constructor
    · rintro ⟨old,hold,hkey⟩
      exact ⟨old,mem_append_left _ hold,hkey⟩
    · rintro ⟨old,hold,hkey⟩
      rcases mem_append.mp hold with hold|hold
      · exact ⟨old,hold,hkey⟩
      · rw [mem_singleton.mp hold] at hkey
        rw [←hkey]
        exact (h.keys _).mp hseen
  · rw [if_neg hseen,mem_append,mem_singleton,h.firstSeen]
    constructor
    · rintro (⟨old,hold,hkey⟩|rfl)
      · exact ⟨old,mem_append_left _ hold,hkey⟩
      · exact ⟨hit,by simp,rfl⟩
    · rintro ⟨old,hold,hkey⟩
      rcases mem_append.mp hold with hold|hold
      · exact .inl ⟨old,hold,hkey⟩
      · rw [mem_singleton.mp hold] at hkey
        exact .inr hkey.symm
 nodup:=by
  simp only [Grouping.add]
  split
  · exact h.nodup
  · next hseen=>
   refine nodup_append.mpr ⟨h.nodup,nodup_singleton _,?_⟩
   intro key hkey other hother heq
   rw [mem_singleton] at hother
   rw [heq,hother] at hkey
   exact hseen ((h.keys _).mpr ((h.firstSeen _).mp hkey))

lemma Collects.addAll(options:FusionOptions σ)(weight:σ)(hits:List (SearchHit σ))
  (h:Collects d past g):
  Collects d (past++hits) (hits.foldl (Grouping.add d scores options weight) g):=by
 induction hits generalizing past g with
 | nil=>simpa using h
 | cons hit hits ih=>
  have hrest:=ih (h.add scores options weight hit)
  rwa [append_assoc] at hrest

lemma collects_groupSets(options:FusionOptions σ)(hitSets:List (List (SearchHit σ)))
  (setIndex:ℕ)(h:Collects d past g):
  Collects d (past++hitSets.flatten) (groupSets d scores options setIndex hitSets g):=by
 induction hitSets generalizing setIndex past g with
 | nil=>simpa [groupSets] using h
 | cons hitSet hitSets ih=>
  have hrest:=ih (setIndex+1) (h.addAll scores options
   ((options.weights.bind fun weights=>weights[setIndex]?).getD scores.one) hitSet)
  rw [append_assoc] at hrest
  exact hrest

lemma collects_empty : Collects d ([]:List (SearchHit σ)) .empty where
 groups:=by simp [Grouping.empty]
 keys:=by simp [Grouping.empty]
 firstSeen:=by simp [Grouping.empty]
 nodup:=nodup_nil

lemma nodup_pushUnseen(keys:List String){kept:List String}(h:kept.Nodup):
  (keys.foldl pushUnseen kept).Nodup:=by
 induction keys generalizing kept with
 | nil=>exact h
 | cons key keys ih=>
  apply ih
  unfold pushUnseen
  split
  · exact h
  · next hkey=>
   refine nodup_append.mpr ⟨h,nodup_singleton _,?_⟩
   intro other hother same hsame heq
   rw [heq,mem_singleton.mp hsame] at hother
   exact hkey hother

lemma mem_pushUnseen(keys kept:List String)(key:String):
  key∈keys.foldl pushUnseen kept↔key∈kept∨key∈keys:=by
 induction keys generalizing kept with
 | nil=>simp
 | cons first keys ih=>
  rw [foldl_cons,ih,mem_cons]
  unfold pushUnseen
  split
  · next hfirst=>
   constructor
   · rintro (h|h)
     · exact .inl h
     · exact .inr (.inr h)
   · rintro (h|rfl|h)
     · exact .inl h
     · exact .inl hfirst
     · exact .inr h
  · rw [mem_append,mem_singleton,or_assoc]

lemma le_foldl_max(sizes:List ℕ)(least:ℕ):
  least≤ sizes.foldl max least∧∀size∈sizes,size≤ sizes.foldl max least:=by
 induction sizes generalizing least with
 | nil=>simp
 | cons first sizes ih=>
  obtain ⟨hleast,hsizes⟩:=ih (max least first)
  rw [foldl_cons]
  refine ⟨by omega,?_⟩
  intro size hsize
  rcases mem_cons.mp hsize with rfl|hsize
  · omega
  · exact hsizes size hsize

lemma mem_interleaved(hitSets:List (List (SearchHit σ)))(hit:SearchHit σ):
  hit∈interleaved hitSets↔hit∈hitSets.flatten:=by
 simp only [interleaved,mem_flatMap,mem_range,List.mem_filterMap,List.mem_map,mem_flatten]
 constructor
 · rintro ⟨index,-,sorted,⟨hitSet,hset,rfl⟩,hget⟩
   exact ⟨hitSet,hset,(mem_insertionSort _).mp (mem_of_getElem? hget)⟩
 · rintro ⟨hitSet,hset,hmem⟩
   obtain ⟨index,hlt,hget⟩:=getElem_of_mem ((mem_insertionSort rankOrder).mpr hmem)
   refine ⟨index,?_,_,⟨hitSet,hset,rfl⟩,List.getElem?_eq_some_iff.mpr ⟨hlt,hget⟩⟩
   refine Nat.lt_of_lt_of_le hlt ((le_foldl_max _ 0).2 _ ?_)
   exact List.mem_map.mpr ⟨_,List.mem_map.mpr ⟨hitSet,hset,rfl⟩,rfl⟩

variable {hitSets:List (List (SearchHit σ))}

lemma orderedKeys_spec(h:Collects d hitSets.flatten g)(strategy:FusionStrategy):
  (orderedKeys d scores strategy hitSets g).Nodup ∧
   ∀key,key∈orderedKeys d scores strategy hitSets g ↔
    ∃hit∈hitSets.flatten,dedupeKeyFor d hit=key:=by
 have hsorted:∀strategy,scored strategy=true →
   (orderedKeys d scores strategy hitSets g).Perm g.groupedHits.keys:=by
  intro strategy hscored
  cases strategy <;>simp only [scored,Bool.false_eq_true] at hscored
  all_goals exact perm_insertionSort _ _
 by_cases hscored:scored strategy=true
 · have hperm:=hsorted strategy hscored
   refine ⟨hperm.nodup_iff.mpr ?_,fun key=>?_⟩
   · exact ExtTreeMap.nodup_keys
   · rw [hperm.mem_iff,ExtTreeMap.mem_keys,←ExtTreeMap.contains_iff_mem,h.keys]
 · cases strategy with
   | concatenate=>exact ⟨h.nodup,h.firstSeen⟩
   | interleave=>
    refine ⟨nodup_pushUnseen _ nodup_nil,fun key=>?_⟩
    simp only [orderedKeys,mem_pushUnseen,not_mem_nil,false_or,List.mem_map,mem_interleaved]
   | _=>simp [scored] at hscored

/-- What stands for the group of `place`, a key and its rank. -/
structure Fused (d:StringDisplay) (hits:List (SearchHit σ)) (retrieverId:String)
  (place:String×ℕ) (hit:SearchHit σ) : Prop where
 first:∃representative,hits.find? (fun h=>decide (dedupeKeyFor d h=place.1)) =
   some representative∧hit.item=representative.item ∧
   hit.hitId=retrieverId ++ ":" ++ representative.item.itemId
 rank:hit.rank=place.2+1
 sources:hit.metadata["source_hit_ids"]?=some (.array ((hits.filter fun h=>
  decide (dedupeKeyFor d h=place.1)).map fun h=>.string h.hitId))
 highlights:hit.highlights=((hits.filter fun h=>
  decide (dedupeKeyFor d h=place.1)).flatMap shownSources).foldl pushHighlight []

lemma forall₂_filterMap{α β:Type}{R:α→β→Prop}{f:α→Option β}{l:List α}
  (h:∀a∈l,∃b,f a=some b∧R a b):List.Forall₂ R l (l.filterMap f):=by
 induction l with
 | nil=>exact .nil
 | cons a l ih=>
  obtain ⟨b,hb,hR⟩:=h a mem_cons_self
  rw [filterMap_cons_some hb]
  exact .cons hR (ih fun c hc=>h c (mem_cons_of_mem _ hc))

lemma fuseSearchHits_ok{options:FusionOptions σ}
  {fused:List (SearchHit σ)}(h:fuseSearchHits d scores hitSets options=.ok fused):
  ∃keys : List String,keys.Nodup∧(∀key,key∈keys ↔ ∃hit∈hitSets.flatten,dedupeKeyFor d hit=key) ∧
   List.Forall₂ (Fused d hitSets.flatten options.retrieverId) keys.zipIdx fused:=by
 unfold fuseSearchHits at h
 split at h
 · cases h
 split at h
 · cases h
 have collected:Collects d hitSets.flatten (groupSets d scores options 0 hitSets .empty):=by
  simpa using collects_groupSets scores options hitSets 0 collects_empty
 obtain ⟨nodup,keys⟩:=orderedKeys_spec scores collected options.strategy
 refine ⟨_,nodup,keys,?_⟩
 rw [←Except.ok.inj h]
 apply forall₂_filterMap
 rintro ⟨key,rank⟩ hplace
 have hkey:key∈orderedKeys d scores options.strategy hitSets
   (groupSets d scores options 0 hitSets .empty):=(mem_zipIdx' hplace).2▸getElem_mem _
 obtain ⟨hit,hhit,hsame⟩:=(keys key).mp hkey
 dsimp only
 rw [collected.groups]
 have hmem:hit∈hitSets.flatten.filter fun h=>decide (dedupeKeyFor d h=key):=
  List.mem_filter.mpr ⟨hhit,decide_eq_true hsame⟩
 cases hgroup:hitSets.flatten.filter fun h=>decide (dedupeKeyFor d h=key) with
 | nil=>
  rw [hgroup] at hmem
  cases hmem
 | cons representative others=>
  refine ⟨_,rfl,?_⟩
  constructor
  · refine ⟨representative,?_,rfl,rfl⟩
    rw [←List.head?_filter,hgroup,List.head?_cons]
  · rfl
  · dsimp only
    rw [hgroup]
    simp only [fuseGroup]
    rw [lookup_insert_ne _ _ (by decide),lookup_insert_ne _ _ (by decide),
     lookup_insert_ne _ _ (by decide),lookup_insert_ne _ _ (by decide),lookup_insert_self]
  · dsimp only
    rw [hgroup]
    rfl
end

end GraphBlocks.Rag
