import GraphBlocks.ContextPacks

namespace GraphBlocks.Rag
open Std Json StoredJson OrderedMap List Option

variable {σ:Type} {hit:SearchHit σ}

section
variable (options:ContextBuildOptions)

/-- The source is known to be no older than the options ask. -/
def Fresh (hit:SearchHit σ) : Prop :=
 ∀least,options.minimumSourceModifiedAt.bind parseIsoDatetimeSeconds=some least →
  ∃seconds,(sourceModifiedAt hit).bind parseIsoDatetimeSeconds=some seconds∧least≤ seconds

/-- One more hit on top of the selected ones breaks the limit. -/
def Violates (selected:List (SearchHit σ)) (hit:SearchHit σ) : DropReason→Prop
 | .duplicate=>options.deduplicate=true∧hit.item.itemId∈selected.map (·.item.itemId)
 | .perDocumentMaxChunks=>∃limit,options.perDocumentMaxChunks=some limit ∧
  limit≤ selected.countP (documentId · = documentId hit)
 | .perSectionMaxChunks=>∃limit name,options.perSectionMaxChunks=some limit ∧
  sectionId hit=some name∧limit≤ selected.countP (sectionId · = some name)
 | .perSourceMaxChunks=>∃limit,options.perSourceMaxChunks=some limit ∧
  limit≤ selected.countP (sourceId · = sourceId hit)
 | .freshness=>¬Fresh options hit
 | .tokenBudget=>options.tokenBudget-options.reserveOutputTokens <
  (selected.map estimatedTokens).sum+estimatedTokens hit

structure Respects (selected:List (SearchHit σ)) : Prop where
 tokens:(selected.map estimatedTokens).sum≤options.tokenBudget-options.reserveOutputTokens
 documents:∀limit,options.perDocumentMaxChunks=some limit → ∀name,
  selected.countP (documentId · = name)≤limit
 sections:∀limit,options.perSectionMaxChunks=some limit → ∀name,
  selected.countP (sectionId · = some name)≤limit
 sources:∀limit,options.perSourceMaxChunks=some limit → ∀name,
  selected.countP (sourceId · = name)≤limit
 fresh:∀hit∈selected,Fresh options hit
 items:options.deduplicate=true→(selected.map (·.item.itemId)).Nodup

variable {options}

lemma respects_nil:Respects options ([]:List (SearchHit σ)):=by constructor <;>simp

variable {selected:List (SearchHit σ)}

lemma countP_select{α:Type}[DecidableEq α]{key:SearchHit σ→α}{limit:ℕ}{name:α}
  (h:selected.countP (key · = name)≤limit)
  (hroom:key hit=name→selected.countP (key · = name)<limit):
  (selected++[hit]).countP (key · = name)≤limit:=by
 rw [countP_append,countP_singleton]
 by_cases hname:key hit=name
 · simp only [hname,decide_true,if_true]
   exact hroom hname
 · simpa [hname] using h

lemma Respects.select
  (h:Respects options selected) (hroom:∀reason,¬Violates options selected hit reason) :
  Respects options (selected++[hit]) where
 tokens:=by
  have htokens:=hroom .tokenBudget
  simp only [Violates,Nat.not_lt] at htokens
  simpa using htokens
 documents:=by
  intro limit hlimit name
  refine countP_select (h.documents limit hlimit name) ?_
  rintro rfl
  by_contra hfull
  exact hroom .perDocumentMaxChunks ⟨limit,hlimit,by omega⟩
 sections:=by
  intro limit hlimit name
  refine countP_select (h.sections limit hlimit name) fun hname=>?_
  by_contra hfull
  exact hroom .perSectionMaxChunks ⟨limit,name,hlimit,hname,by omega⟩
 sources:=by
  intro limit hlimit name
  refine countP_select (h.sources limit hlimit name) ?_
  rintro rfl
  by_contra hfull
  exact hroom .perSourceMaxChunks ⟨limit,hlimit,by omega⟩
 fresh:=by
  intro found hmem
  rcases mem_append.mp hmem with hmem|hmem
  · exact h.fresh found hmem
  · rw [mem_singleton.mp hmem]
    exact not_not.mp (hroom .freshness)
 items:=by
  intro hdeduplicate
  have hnew:=hroom .duplicate
  rw [map_append,map_singleton,nodup_append]
  refine ⟨h.items hdeduplicate,nodup_singleton _,?_⟩
  intro id hid other hother heq
  rw [mem_singleton] at hother
  rw [heq,hother] at hid
  exact hnew ⟨hdeduplicate,hid⟩
end

/-- The counters of the loop are about the selected hits. -/
structure Counts (p:Packing σ) : Prop where
 ids:p.selectedHitIds=p.selected.map (·.hitId)
 items:∀id,id∈p.selectedItemIds↔id∈p.selected.map (·.item.itemId)
 documents:∀name,p.chunksPerDocument.getD name 0=p.selected.countP (documentId · = name)
 sections:∀name,p.chunksPerSection.getD name 0=p.selected.countP (sectionId · = some name)
 sources:∀name,p.chunksPerSource.getD name 0=p.selected.countP (sourceId · = name)
 tokens:p.tokenCount=(p.selected.map estimatedTokens).sum

lemma getD_countOne(counts:StringMap ℕ)(name other:String):
  (countOne counts name).getD other 0=counts.getD other 0+if name=other then 1 else 0:=by
 rw [countOne,getD_insert_eq]
 by_cases h:name=other
 · simp [h]
 · simp [h]

variable {p:Packing σ}

lemma Counts.select (h:Counts p) (hit:SearchHit σ) : Counts (p.select hit) where
 ids:=by simp [Packing.select,h.ids]
 items:=by
  intro id
  simp [Packing.select,h.items,or_comm]
 documents:=by
  intro name
  simp [Packing.select,getD_countOne,h.documents,countP_append,countP_singleton]
 sections:=by
  intro name
  simp only [Packing.select,countP_append,countP_singleton]
  cases hsection:sectionId hit with
  | none=>simp [h.sections]
  | some found=>simp [getD_countOne,h.sections]
 sources:=by
  intro name
  simp [Packing.select,getD_countOne,h.sources,countP_append,countP_singleton]
 tokens:=by simp [Packing.select,h.tokens]

variable {options:ContextBuildOptions} {minimum:Option ℤ}

lemma not_fresh_iff(hminimum:options.minimumSourceModifiedAt.bind parseIsoDatetimeSeconds=minimum)
  (hit:SearchHit σ):(minimum.any fun least=>
   !sourceModifiedAtSatisfiesSeconds (sourceModifiedAt hit) least)=true↔¬Fresh options hit:=by
 unfold Fresh sourceModifiedAtSatisfiesSeconds
 rw [hminimum]
 cases minimum with
 | none=>simp
 | some least=>simp [Option.any_eq_false]

lemma Counts.dropReason(h:Counts p)
  (hminimum:options.minimumSourceModifiedAt.bind parseIsoDatetimeSeconds=minimum)
  (hit:SearchHit σ):
  (p.dropReason options minimum hit).elim (∀reason,¬Violates options p.selected hit reason)
   (Violates options p.selected hit):=by
 have hduplicate:(options.deduplicate=true∧hit.item.itemId∈p.selectedItemIds) ↔
   Violates options p.selected hit .duplicate:=by
  rw [Violates,h.items]
 have hdocument:options.perDocumentMaxChunks.any
   (· ≤ p.chunksPerDocument.getD (documentId hit) 0)=true ↔
   Violates options p.selected hit .perDocumentMaxChunks:=by
  simp [Violates,h.documents,Option.any_eq_true]
 have hsection:((sectionId hit).any fun name=>
   options.perSectionMaxChunks.any (· ≤ p.chunksPerSection.getD name 0))=true ↔
   Violates options p.selected hit .perSectionMaxChunks:=by
  simp only [Violates,h.sections,Option.any_eq_true,decide_eq_true_eq]
  constructor
  · rintro ⟨name,hname,limit,hlimit,hle⟩
    exact ⟨limit,name,hlimit,hname,hle⟩
  · rintro ⟨limit,name,hlimit,hname,hle⟩
    exact ⟨name,hname,limit,hlimit,hle⟩
 have hsource:options.perSourceMaxChunks.any
   (· ≤ p.chunksPerSource.getD (sourceId hit) 0)=true ↔
   Violates options p.selected hit .perSourceMaxChunks:=by
  simp [Violates,h.sources,Option.any_eq_true]
 have hfresh:=not_fresh_iff hminimum hit
 have htokens:options.tokenBudget-options.reserveOutputTokens <
   p.tokenCount+estimatedTokens hit↔Violates options p.selected hit .tokenBudget:=by
  rw [Violates,h.tokens]
 unfold Packing.dropReason
 split_ifs with h₁ h₂ h₃ h₄ h₅ h₆
 · exact hduplicate.mp h₁
 · exact hdocument.mp h₂
 · exact hsection.mp h₃
 · exact hsource.mp h₄
 · exact hfresh.mp h₅
 · exact htokens.mp h₆
 · intro reason
   cases reason with
   | duplicate=>exact mt hduplicate.mpr h₁
   | perDocumentMaxChunks=>exact mt hdocument.mpr h₂
   | perSectionMaxChunks=>exact mt hsection.mpr h₃
   | perSourceMaxChunks=>exact mt hsource.mpr h₄
   | freshness=>exact mt hfresh.mpr h₅
   | tokenBudget=>exact mt htokens.mpr h₆

/-- The hits of `past` are selected, or dropped for what was selected before. -/
structure Packed (options:ContextBuildOptions) (past:List (SearchHit σ)) (p:Packing σ)
  (drops:List (SearchHit σ×DropReason)) : Prop where
 counts:Counts p
 respects:Respects options p.selected
 perm:(p.selected++drops.map Prod.fst).Perm past
 order:p.selected.Sublist past
 droppedIds:p.droppedHitIds=drops.map (·.1.hitId)
 reasons:∀e∈drops,p.dropReasons[e.1.hitId]?=some (.string e.2.text)
 unnamed:∀hit∈p.selected,p.dropReasons[hit.hitId]?=none
 known:∀id,p.dropReasons[id]?≠none→id∈past.map (·.hitId)
 violated:∀e∈drops,Violates options (p.selected.filter (rankOrder · e.1)) e.1 e.2

lemma packed_empty (options:ContextBuildOptions) : Packed options [] (.empty (σ:=σ)) [] where
 counts:=by constructor <;>simp [Packing.empty]
 respects:=respects_nil
 perm:=.refl _
 order:=.refl _
 droppedIds:=rfl
 reasons:=by simp
 unnamed:=by simp [Packing.empty]
 known:=by simp [Packing.empty]
 violated:=by simp

/-- The next hit in order: it comes after every hit taken so far. -/
def Next (past:List (SearchHit σ)) (hit:SearchHit σ) : Prop :=
 ∀before∈past,rankOrder before hit∧before.hitId≠hit.hitId

lemma not_rankOrder{before:SearchHit σ}(h:rankOrder before hit)
  (hid:before.hitId≠hit.hitId):¬rankOrder hit before:=by
 rintro (hlt|⟨heq,hle⟩)
 · rcases h with h|⟨h,-⟩ <;>omega
 · rcases h with h|⟨-,h⟩
   · omega
   · exact hid (String.le_antisymm h hle)

variable {drops:List (SearchHit σ×DropReason)} {past:List (SearchHit σ)}

lemma Packed.pack(h:Packed options past p drops)
  (hminimum:options.minimumSourceModifiedAt.bind parseIsoDatetimeSeconds=minimum)
  (hnext:Next past hit):
  ∃drops',Packed options (past++[hit]) (p.pack options minimum hit) drops':=by
 have hlimits:=h.counts.dropReason hminimum hit
 have hdropped:∀e∈drops,e.1∈past:=fun e he=>
  h.perm.subset (mem_append_right _ (List.mem_map.mpr ⟨e,he,rfl⟩))
 have hnew:p.dropReasons[hit.hitId]?=none:=by
  by_contra hsome
  obtain ⟨before,hmem,hid⟩:=List.mem_map.mp (h.known _ hsome)
  exact (hnext before hmem).2 hid
 unfold Packing.pack
 cases hreason:p.dropReason options minimum hit with
 | some reason=>
  have hall:p.selected.filter (rankOrder · hit)=p.selected:=
   filter_eq_self.mpr fun s hs=>decide_eq_true (hnext s (h.order.subset hs)).1
  refine ⟨drops++[(hit,reason)],?_⟩
  constructor
  · exact ⟨h.counts.ids,h.counts.items,h.counts.documents,h.counts.sections,h.counts.sources,
     h.counts.tokens⟩
  · exact h.respects
  · rw [map_append,←append_assoc]
    exact h.perm.append_right [hit]
  · exact h.order.trans (sublist_append_left _ _)
  · simp [Packing.drop,h.droppedIds]
  · intro e he
    simp only [Packing.drop,lookup_insert]
    rcases mem_append.mp he with he|he
    · rw [if_neg fun hid=>(hnext e.1 (hdropped e he)).2 hid.symm]
      exact h.reasons e he
    · rw [mem_singleton.mp he,if_pos rfl]
  · intro s hs
    simp only [Packing.drop,lookup_insert]
    rw [if_neg fun hid=>(hnext s (h.order.subset hs)).2 hid.symm]
    exact h.unnamed s hs
  · intro id hid
    simp only [Packing.drop,lookup_insert] at hid
    rw [map_append,mem_append]
    by_cases hsame:hit.hitId=id
    · exact .inr (by simp [hsame])
    · rw [if_neg hsame] at hid
      exact .inl (h.known id hid)
  · intro e he
    rcases mem_append.mp he with he|he
    · exact h.violated e he
    · rw [mem_singleton.mp he]
      simp only [Packing.drop,hall]
      rw [hreason] at hlimits
      exact hlimits
 | none=>
  refine ⟨drops,?_⟩
  constructor
  · exact h.counts.select hit
  · rw [hreason] at hlimits
    exact h.respects.select hlimits
  · have hswap:(p.selected++[hit]++drops.map Prod.fst).Perm
      (p.selected++drops.map Prod.fst++[hit]):=by
     rw [append_assoc,append_assoc]
     exact (perm_append_comm).append_left _
    exact hswap.trans (h.perm.append_right [hit])
  · exact h.order.append (List.Sublist.refl _)
  · exact h.droppedIds
  · exact h.reasons
  · intro s hs
    rcases mem_append.mp hs with hs|hs
    · exact h.unnamed s hs
    · rw [mem_singleton.mp hs]
      exact hnew
  · intro id hid
    rw [map_append,mem_append]
    exact .inl (h.known id hid)
  · intro e he
    have hafter:=not_rankOrder (hnext e.1 (hdropped e he)).1 (hnext e.1 (hdropped e he)).2
    simp only [Packing.select,filter_append,filter_cons,hafter,decide_false,
     filter_nil,Bool.false_eq_true,if_false,append_nil]
    exact h.violated e he

lemma packed_all(hminimum:options.minimumSourceModifiedAt.bind parseIsoDatetimeSeconds=minimum)
  (hits:List (SearchHit σ))(h:Packed options past p drops)
  (hsorted:hits.Pairwise fun a b=>rankOrder a b∧a.hitId≠b.hitId)(hnext:∀hit∈hits,Next past hit):
  ∃drops',Packed options (past++hits) (hits.foldl (Packing.pack options minimum) p) drops':=by
 induction hits generalizing past p drops with
 | nil=>exact ⟨drops,by simpa using h⟩
 | cons hit hits ih=>
  obtain ⟨hfirst,hrest⟩:=pairwise_cons.mp hsorted
  obtain ⟨drops',hpack⟩:=h.pack hminimum (hnext hit mem_cons_self)
  have hnext':∀later∈hits,Next (past++[hit]) later:=by
   intro later hlater before hbefore
   rcases mem_append.mp hbefore with hbefore|hbefore
   · exact hnext later (mem_cons_of_mem _ hlater) before hbefore
   · rw [mem_singleton.mp hbefore]
     exact hfirst later hlater
  have hall:=ih hpack hrest hnext'
  rwa [append_assoc] at hall

lemma rankOrder_total(a b:SearchHit σ):rankOrder a b∨rankOrder b a:=by
 unfold rankOrder
 rcases Nat.lt_trichotomy a.rank b.rank with h|h|h
 · exact .inl (.inl h)
 · rcases le_total a.hitId b.hitId with hid|hid
   · exact .inl (.inr ⟨h,hid⟩)
   · exact .inr (.inr ⟨h.symm,hid⟩)
 · exact .inr (.inl h)

lemma rankOrder_trans{a b c:SearchHit σ}(hab:rankOrder a b)(hbc:rankOrder b c):rankOrder a c:=by
 rcases hab with hab|⟨hab,hid⟩ <;>rcases hbc with hbc|⟨hbc,hid'⟩
 · exact .inl (by omega)
 · exact .inl (by omega)
 · exact .inl (by omega)
 · exact .inr ⟨by omega,hid.trans hid'⟩

variable {hits:List (SearchHit σ)}

lemma sorted_hits(h:(hits.map (·.hitId)).Nodup):
  (hits.insertionSort rankOrder).Pairwise fun a b=>rankOrder a b∧a.hitId≠b.hitId:=by
 have:Std.Total (rankOrder (σ:=σ)):=⟨rankOrder_total⟩
 have:IsTrans (SearchHit σ) rankOrder:=⟨fun _ _ _=>rankOrder_trans⟩
 have hids:((hits.insertionSort rankOrder).map (·.hitId)).Nodup:=
  ((perm_insertionSort rankOrder hits).map _).nodup_iff.mpr h
 exact (pairwise_insertionSort rankOrder hits).and (pairwise_map.mp hids)

lemma sorted_perm{others:List (SearchHit σ)}(h:(hits.map (·.hitId)).Nodup)
  (hperm:hits.Perm others):hits.insertionSort rankOrder=others.insertionSort rankOrder:=by
 have hothers:(others.map (·.hitId)).Nodup:=(hperm.map _).nodup_iff.mp h
 have hsame:=((perm_insertionSort rankOrder hits).trans hperm).trans
  (perm_insertionSort rankOrder others).symm
 refine hsame.eq_of_pairwise ?_ (sorted_hits h) (sorted_hits hothers)
 intro a b _ _ hab hba
 exact absurd hba.1 (not_rankOrder hab.1 hab.2)

def reasonOf (pack:ContextPack σ) (hitId:String) : Option Value :=
 pack.metadata["drop_reasons"]?.bind (·.get hitId)

structure GreedySelection (options:ContextBuildOptions) (hits:List (SearchHit σ))
  (pack:ContextPack σ) (drops:List (SearchHit σ×DropReason)) : Prop where
 partition:(pack.hits++drops.map Prod.fst).Perm hits
 selectedIds:pack.metadata["selected_hit_ids"]?=some (.array (pack.hits.map (.string ·.hitId)))
 droppedIds:pack.metadata["dropped_hit_ids"]?=some (.array (drops.map (.string ·.1.hitId)))
 order:pack.hits.Pairwise rankOrder
 tokenCount:pack.tokenCount=some (pack.hits.map estimatedTokens).sum
 respects:Respects options pack.hits
 reasons:∀e∈drops,reasonOf pack e.1.hitId=some (.string e.2.text) ∧
  Violates options (pack.hits.filter (rankOrder · e.1)) e.1 e.2
 kept:∀hit∈pack.hits,reasonOf pack hit.hitId=none

lemma lookup_optionMetadata(metadata:StringMap Value){name:String}
  (h:name∈["selected_hit_ids","dropped_hit_ids","drop_reasons"]):
  (optionMetadata options metadata)[name]?=metadata[name]?:=by
 have hne:name≠"minimum_source_modified_at"∧name≠"per_section_max_chunks" ∧
   name≠"per_source_max_chunks"∧name≠"reserve_output_tokens" ∧
   name≠"effective_context_token_budget" := by
  simp only [mem_cons,not_mem_nil,or_false] at h
  rcases h with rfl|rfl|rfl <;>decide
 unfold optionMetadata
 dsimp only
 cases options.minimumSourceModifiedAt <;>cases options.perSectionMaxChunks <;>
  cases options.perSourceMaxChunks <;>
  simp only [Option.elim] <;>split <;>
  simp only [lookup_insert,hne.1.symm,hne.2.1.symm,hne.2.2.1.symm,hne.2.2.2.1.symm,hne.2.2.2.2.symm,
   if_false]

lemma get_object(members:StringMap Value)(key:String):
  (Value.object members.toList).get key=members[key]?:=by
 apply Option.ext
 intro v
 rw [Value.get,lookup_eq_some_iff_mem (nodup_keys_toList members),
  ExtTreeMap.mem_toList_iff_getElem?_eq_some]

lemma Packed.greedy(h:Packed options (hits.insertionSort rankOrder) p drops)
  (sorted:(hits.insertionSort rankOrder).Pairwise rankOrder)(contextId:String):
  GreedySelection options hits (p.context options contextId) drops:=by
 have reason:∀id,reasonOf (p.context options contextId) id=p.dropReasons[id]? := by
  intro id
  unfold reasonOf Packing.context
  rw [lookup_optionMetadata _ (by simp),lookup_insert_self]
  exact get_object p.dropReasons id
 constructor
 · exact h.perm.trans (perm_insertionSort rankOrder hits)
 · unfold Packing.context
   rw [lookup_optionMetadata _ (by simp),lookup_insert_ne _ _ (by decide),
    lookup_insert_ne _ _ (by decide),lookup_insert_self,h.counts.ids,List.map_map]
   rfl
 · unfold Packing.context
   rw [lookup_optionMetadata _ (by simp),lookup_insert_ne _ _ (by decide),lookup_insert_self,
    h.droppedIds,List.map_map]
   rfl
 · exact sorted.sublist h.order
 · exact congrArg some h.counts.tokens
 · exact h.respects
 · exact fun e he=>⟨(reason _).trans (h.reasons e he),h.violated e he⟩
 · exact fun hit hmem=>(reason _).trans (h.unnamed hit hmem)

lemma buildContextPack_ok{contextId:String}{pack:ContextPack σ}
  (h:buildContextPack contextId hits options=.ok pack):
  ∃minimum,options.minimumSourceModifiedAt.bind parseIsoDatetimeSeconds=minimum ∧
   pack=((hits.insertionSort rankOrder).foldl (Packing.pack options minimum) .empty).context
    options contextId:=by
 unfold buildContextPack at h
 split_ifs at h
 obtain ⟨minimum,hminimum,hpack⟩:=RustStd.bind_ok.mp h
 refine ⟨minimum,?_,(Except.ok.inj hpack).symm⟩
 unfold minimumSeconds at hminimum
 split at hminimum
 · next hnone=>
  rw [hnone,←Except.ok.inj hminimum]
  rfl
 · next text htext=>
  rw [htext,bind_some]
  split at hminimum
  · cases hminimum
  · next seconds hseconds=>rw [hseconds,←Except.ok.inj hminimum]

def noteHit (hitId:String) (rank:ℕ) : SearchHit Unit where
 hitId
 item:=⟨"tides","note",⟨"almanac","document",none,none,none,none,none,"retrieved",none,∅⟩,none,
  none,["High tide at noon"],none,∅⟩
 rank
 retriever := "notes"
 rawScore:=none
 normalizedScore:=none
 scoreKind:=none
 highlights:=[]
 metadata:=∅

def smallOptions : ContextBuildOptions := ⟨8,0,none,none,none,true,none⟩

end GraphBlocks.Rag
