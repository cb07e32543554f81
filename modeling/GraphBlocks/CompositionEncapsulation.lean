import GraphBlocks.CompositionRenaming

namespace GraphBlocks.Composition
open Std Json OrderedMap RustStd GraphNormalization Wiring List Std.ExtTreeMap

variable {slots:StringMap Fragment} {instances:List Instance} {n s:String} {f:Fragment}
 {g r:Graph} {E:List Edge} {rho sigma:String→String}

/-- Exactly one of the two names is generated for the instance. -/
def Crosses (i:Instance) (a b:String) : Prop := ¬(Generates i.1 i.2 a↔Generates i.1 i.2 b)

/-- The edge is the root edge with its source resolved, led to a consumer if it ends at an input. -/
def ArisesFrom (instances:List Instance) (e e₀:Edge) : Prop :=
 e.1=resolved instances e₀.1∧((ownerOf e₀.2∉instances.map Prod.fst∧e.2=e₀.2) ∨
   ∃j∈instances,ownerOf e₀.2=j.1 ∧ ∃target,
    .input (portOf e₀.2) target∈wiringOf j.2∧e.2=prefixEndpoint target j.1 j.2.nodes)

def NamesPort (i:Instance) (e:Edge) : Prop :=
 (ownerOf e.1=i.1∧portOf e.1∈i.2.interface.outputs) ∨
  (ownerOf e.2=i.1∧portOf e.2∈i.2.interface.inputs)

/-- Whatever connects a node of an instance with something else comes from a root reference to a
declared port of the instance. -/
structure Encapsulated (slots:StringMap Fragment) (g r:Graph) : Prop where
 edges:∀i∈instancesOf slots g,∀value∈r.edges,∀e,edgeOf value=.ok e →
  Crosses i (ownerOf e.1) (ownerOf e.2) → ∃value₀∈g.edges,∃e₀,edgeOf value₀=.ok e₀ ∧
   NamesPort i e₀∧ArisesFrom (instancesOf slots g) e e₀
 whens:∀i∈instancesOf slots g,∀(k reference:String) (node:Value),
  r.nodes[k]?=some node→whenOf node=some reference→Crosses i k (ownerOf reference) →
  ∃(node₀:Value) (reference₀:String),g.nodes[k]?=some node₀∧whenOf node₀=some reference₀ ∧
   (ownerOf reference₀=i.1∧portOf reference₀∈i.2.interface.outputs) ∧
   reference=resolved (instancesOf slots g) reference₀

variable {e:Edge}

lemma flatEdges_arise(hslots:SlotNodes g instances)(hc:Composable g E instances)
  (he:e∈flatEdges instances E):
  (∃i∈instances,e∈prefixedInternal i.1 i.2) ∨ ∃e₀∈E,ArisesFrom instances e e₀:=by
 rcases mem_flatEdges.mp he with ⟨e₀,he₀,howner,rfl⟩|⟨i,hi,hint|⟨x,hx,rfl⟩⟩
 · exact .inr ⟨e₀,he₀,rfl,.inl ⟨howner,rfl⟩⟩
 · exact .inl ⟨i,hi,hint⟩
 · obtain ⟨port,target,hmem,rfl⟩:=mem_prefixedInputs.mp hx
   obtain ⟨e₀,he₀⟩:=hc.single i hi port ((hc.consistent i hi).valid _ hmem).1
   have hin:e₀∈inbound E i.1 port:=by
    rw [he₀]
    exact mem_singleton_self e₀
   obtain ⟨he₀E,htarget⟩:=List.mem_filter.mp hin
   have heq:=of_decide_eq_true htarget
   refine .inr ⟨e₀,he₀E,?_,.inr ⟨i,hi,?_,target,?_,rfl⟩⟩
   · rw [sourceOf_of_inbound he₀]
   · rw [heq,ownerOf_joined (hslots.dotless hi)]
   · rw [heq,portOf_joined (hslots.dotless hi)]
     exact hmem

variable {i:Instance} {k:String}

section
variable (hslots:SlotNodes g instances) (hc:Composable g E instances)

include hslots hc

lemma generates_resolved{x:String}(hport:∀i∈instances,ownerOf x=i.1→portOf x∈i.2.interface.outputs)
  (hfree:∀i∈instances,¬Generates i.1 i.2 (ownerOf x))(hi:i∈instances)
  (hgen:Generates i.1 i.2 (ownerOf (resolved instances x))):ownerOf x=i.1:=by
 by_cases howner:ownerOf x∈instances.map Prod.fst
 · obtain ⟨j,hj,hname⟩:=List.mem_map.mp howner
   have hspec:=outputProducer_spec (hslots.dotless hj) (hc.consistent j hj)
    (hport j hj hname.symm)
   rw [resolved_of_mem hslots.names hj hname.symm] at hgen
   rw [generated_unique hc.distinct hi hj hgen hspec.2]
   exact hname.symm
 · rw [resolved_of_not_mem howner] at hgen
   exact absurd hgen (hfree i hi)

lemma crossing_edge(hfree:∀e∈E,∀i∈instances,
  ¬Generates i.1 i.2 (ownerOf e.1)∧¬Generates i.1 i.2 (ownerOf e.2))
  (he:e∈flatEdges instances E)(hi:i∈instances)
  (hcross:Crosses i (ownerOf e.1) (ownerOf e.2)):
  ∃e₀∈E,NamesPort i e₀∧ArisesFrom instances e e₀:=by
 rcases flatEdges_arise hslots hc he with ⟨j,hj,hint⟩|⟨e₀,he₀,harise⟩
 · -- Both ends of an internal edge are generated for the same instance.
   have hspec:=prefixedInternal_spec (hslots.dotless hj) (hc.consistent j hj) hint
   refine absurd ⟨?_,?_⟩ hcross
   · intro hgen
     rw [generated_unique hc.distinct hi hj hgen hspec.1.2]
     exact hspec.2.2
   · intro hgen
     rw [generated_unique hc.distinct hi hj hgen hspec.2.2]
     exact hspec.1.2
 · refine ⟨e₀,he₀,?_,harise⟩
   have hports:=hc.ports i hi e₀ he₀
   by_cases hsource:Generates i.1 i.2 (ownerOf e.1)
   · rw [harise.1] at hsource
     have hname:=generates_resolved hslots hc (fun j hj=>(hc.ports j hj e₀ he₀).outputPort)
      (fun j hj=>(hfree e₀ he₀ j hj).1) hi hsource
     exact .inl ⟨hname,hports.outputPort hname⟩
   · have htarget:Generates i.1 i.2 (ownerOf e.2):=by
      by_contra hnot
      exact hcross ⟨fun h=>absurd h hsource,fun h=>absurd h hnot⟩
     rcases harise.2 with ⟨-,heq⟩|⟨j,hj,howner,target,hmem,heq⟩
     · rw [heq] at htarget
       exact absurd htarget (hfree e₀ he₀ i hi).2
     · obtain ⟨-,hend,hin⟩:=(hc.consistent j hj).valid _ hmem
       have hgen:Generates j.1 j.2 (ownerOf e.2):=by
        rw [heq,ownerOf_prefixEndpoint (hslots.dotless hj) hend hin]
        exact ⟨_,hin,rfl⟩
       have hname:ownerOf e₀.2=i.1:=by
        rw [generated_unique hc.distinct hi hj htarget hgen]
        exact howner
       exact .inr ⟨hname,hports.inputPort hname⟩
end

lemma Expanded.crossing_when(hslots:SlotNodes g instances)(hfresh:Fresh g instances)
  (h:Expanded g E instances r)
  (hfree:∀(k reference:String) (node:Value),g.nodes[k]?=some node →
   whenOf node=some reference→∀i∈instances,¬Generates i.1 i.2 (ownerOf reference))
 (hi:i∈instances){reference:String}{node:Value}
  (hnode:r.nodes[k]?=some node)(hw:whenOf node=some reference)
  (hcross:Crosses i k (ownerOf reference)):
  ∃(node₀:Value) (reference₀:String),g.nodes[k]?=some node₀∧whenOf node₀=some reference₀ ∧
   (ownerOf reference₀=i.1∧portOf reference₀∈i.2.interface.outputs) ∧
   reference=resolved instances reference₀:=by
 rcases (h.nodes k node).mp hnode with ⟨j,hj,inner,old,hold,rfl,rfl⟩|⟨-,old,hold,rfl⟩
 · obtain ⟨before,hbefore,rfl⟩:=whenOf_expandedNode hw
   obtain ⟨hend,hmem⟩:=h.inside j hj inner old hold before hbefore
   have hown:Generates j.1 j.2 (generatedName j.1 inner):=
    ⟨inner,(contains_iff _).mpr ⟨old,hold⟩,rfl⟩
   have href:Generates j.1 j.2 (ownerOf (prefixEndpoint before j.1 j.2.nodes)):=by
    rw [ownerOf_prefixEndpoint (hslots.dotless hj) hend hmem]
    exact ⟨_,hmem,rfl⟩
   refine absurd ⟨?_,?_⟩ hcross
   · intro hgen
     rw [generated_unique h.distinct hi hj hgen hown]
     exact href
   · intro hgen
     rw [generated_unique h.distinct hi hj hgen href]
     exact hown
 · obtain ⟨before,hbefore,rfl⟩:=whenOf_resolvedNode hw
   have hroot:¬Generates i.1 i.2 k:=by
    intro hgen
    have hnone:=(contains_eq_false_iff _).mp (hfresh i hi k hgen)
    rw [hold] at hnone
    cases hnone
   have hgen:Generates i.1 i.2 (ownerOf (resolved instances before)):=by
    by_contra hnot
    exact hcross ⟨fun h=>absurd h hroot,fun h=>absurd h hnot⟩
   have hname:=generates_resolved hslots h.toComposable
    (fun j hj=>(h.whens j hj k old hold before hbefore).2)
    (hfree k before old hold hbefore) hi hgen
   exact ⟨old,before,hold,hbefore,⟨hname,(h.whens i hi k old hold before hbefore).2 hname⟩,rfl⟩

/-- The slot that a node stands for. -/
def slotOf : Option Value→Option String
 | some (.object members)=>
  match members.lookup "slot" with
  | some (.string slot)=>some slot
  | _=>none
 | _=>none

def slotRenaming (g:Graph) (s:String) (rho:String→String) (n:String) : String→String :=
 if slotOf g.nodes[n]?=some s then rho else id

def renamedPairs (rhos:String→String→String) (instances:List Instance) : List (String×String) :=
 instances.flatMap fun i=>i.2.nodes.toList.map fun e=>
  (generatedName i.1 e.1,generatedName i.1 (rhos i.1 e.1))

def generatedRenaming (rhos:String→String→String) (instances:List Instance) (k:String) : String :=
 ((renamedPairs rhos instances).lookup k).getD k

/-- Generated names are distinct from each other and from the names of root nodes. -/
def NoCollisions (g:Graph) (instances:List Instance) : Prop :=
 Fresh g instances∧instances.Pairwise fun i j=>∀k,Generates i.1 i.2 k→¬Generates j.1 j.2 k

def RenamingInvariant (slots:StringMap Fragment) (g r:Graph) : Prop :=
 ∀(s:String) (f:Fragment) (rho:String→String),slots[s]?=some f→Renaming f rho →
  NoCollisions g (instancesOf (slots.insert s (renameFragment rho f)) g) →
  ∃r',expandGraph (slots.insert s (renameFragment rho f)) g=.ok r' ∧
   Renamed (generatedRenaming (slotRenaming g s rho) (instancesOf slots g)) r r'

lemma renameEndpoint_id(x:String):renameEndpoint id x=x:=renameEndpoint_of_fixed rfl

lemma renamedNode_of_fixed{node:Value}
  (h:∀reference,whenOf node=some reference→ renameEndpoint rho reference=reference):
  renamedNode rho node=node:=by
 unfold renamedNode
 cases hw:whenOf node with
 | none=>rfl
 | some reference=>exact if_pos (h reference hw)

lemma renamedEdgeValue_of_fixed{rename:Edge→Edge}{value:Value}
  (h:∀e,edgeOf value=.ok e→ rename e=e):renamedEdgeValue rename value=value:=by
 unfold renamedEdgeValue
 cases he:edgeOf value with
 | error _=>rfl
 | ok e=>exact if_pos (h e he)

lemma renameFragment_id(f:Fragment):renameFragment id f=f:=by
 have hnodes:(f.nodes.toList.map fun e=>(id e.1,renamedNode id e.2))=f.nodes.toList:=by
  conv_rhs=>rw [←List.map_id f.nodes.toList]
  apply map_congr_left
  intro e _
  rw [renamedNode_of_fixed fun reference _=>renameEndpoint_id reference]
  rfl
 have hedges:f.edges.map (renamedEdgeValue (renameInnerEdge id))=f.edges:=by
  conv_rhs=>rw [←List.map_id f.edges]
  apply map_congr_left
  intro value _
  apply renamedEdgeValue_of_fixed
  intro e _
  unfold renameInnerEdge renameEdge
  simp only [renameEndpoint_id,ite_self]
 unfold renameFragment
 rw [hnodes,hedges,ofList_toList]

lemma slotFragment_insert(hs:slots[s]?=some f)(rho:String→String)(name:String)(value:Option Value):
  slotFragment (slots.insert s (renameFragment rho f)) name value =
   (slotFragment slots name value).map
    (renameFragment (if slotOf value=some s then rho else id)):=by
 rcases value with _|v
 · rfl
 cases v with
 | object members=>
  by_cases hall:members.all fun e=>e.1 == "slot"
  · cases hslot:members.lookup "slot" with
    | none=>simp [slotFragment,hall,hslot,Except.map]
    | some w=>
     cases w with
     | string slot=>
      simp only [slotFragment,slotOf,hall,hslot,↓reduceIte]
      rw [lookup_insert]
      by_cases heq:s=slot
      · subst heq
        simp [hs,Except.map]
      · have hne:¬(some slot=some s):=fun h=>heq (Option.some.inj h).symm
        rw [if_neg heq,if_neg hne]
        cases slots[slot]? with
        | none=>rfl
        | some h=>simp only [Except.map,renameFragment_id]
     | _=>simp [slotFragment,hall,hslot,Except.map]
  · simp [slotFragment,hall,Except.map]
 | _=>rfl

lemma instancesOf_insert(hs:slots[s]?=some f)(rho:String→String)(g:Graph):
  instancesOf (slots.insert s (renameFragment rho f)) g =
   renamedInstances (slotRenaming g s rho) (instancesOf slots g):=by
 unfold instancesOf renamedInstances
 rw [map_filterMap]
 apply filterMap_congr
 intro name _
 rw [slotFragment_insert hs]
 cases slotFragment slots name g.nodes[name]? with
 | error e=>rfl
 | ok h=>rfl

section
variable {rhos:String→String→String}

lemma mem_renamedPairs{p:String×String}:p∈renamedPairs rhos instances ↔
  ∃i∈instances,∃inner,i.2.nodes.contains inner=true ∧
   p=(generatedName i.1 inner,generatedName i.1 (rhos i.1 inner)):=by
 simp only [renamedPairs,mem_flatMap,List.mem_map]
 constructor
 · rintro ⟨i,hi,e,he,rfl⟩
   exact ⟨i,hi,e.1,(contains_iff _).mpr ⟨e.2,mem_toList_iff_getElem?_eq_some.mp he⟩,rfl⟩
 · rintro ⟨i,hi,inner,hinner,rfl⟩
   obtain ⟨node,hnode⟩:=(contains_iff _).mp hinner
   exact ⟨i,hi,(inner,node),mem_toList_iff_getElem?_eq_some.mpr hnode,rfl⟩

lemma lookup_eq_some_mem{l:List (String×String)}{v:String}(h:l.lookup k=some v):(k,v)∈l:=by
 rw [lookup_eq_some_iff] at h
 obtain ⟨l₁,l₂,rfl,-⟩:=h
 exact mem_append_right _ mem_cons_self

lemma generatedRenaming_cases(rhos:String→String→String)(instances:List Instance)(k:String):
  ((∀i∈instances,¬Generates i.1 i.2 k)∧generatedRenaming rhos instances k=k) ∨
   ∃i∈instances,∃inner,i.2.nodes.contains inner=true∧k=generatedName i.1 inner ∧
    generatedRenaming rhos instances k=generatedName i.1 (rhos i.1 inner):=by
 unfold generatedRenaming
 cases hl:(renamedPairs rhos instances).lookup k with
 | none=>
  refine .inl ⟨?_,rfl⟩
  rintro i hi ⟨inner,hinner,rfl⟩
  have hmem:(generatedName i.1 inner,generatedName i.1 (rhos i.1 inner)) ∈
    renamedPairs rhos instances:=mem_renamedPairs.mpr ⟨i,hi,inner,hinner,rfl⟩
  rw [lookup_eq_none_iff] at hl
  have:=hl _ hmem
  simp at this
 | some v=>
  obtain ⟨i,hi,inner,hinner,heq⟩:=mem_renamedPairs.mp (lookup_eq_some_mem hl)
  cases heq
  exact .inr ⟨i,hi,inner,hinner,rfl,rfl⟩

lemma generatedRenaming_lifts(hd:instances.Pairwise fun i j=>
  ∀k,Generates i.1 i.2 k→¬Generates j.1 j.2 k)(hi:i∈instances):
  Lifts i.1 i.2 (rhos i.1) (generatedRenaming rhos instances):=by
 intro inner hinner
 rcases generatedRenaming_cases rhos instances
  (generatedName i.1 inner) with ⟨hnone,-⟩ | ⟨j,hj,inner',hinner',hk,heq⟩
 · exact absurd ⟨inner,hinner,rfl⟩ (hnone i hi)
 · have hij:i=j:=generated_unique hd hi hj ⟨inner,hinner,rfl⟩ ⟨inner',hinner',hk⟩
   subst hij
   rw [heq,generatedName_injective _ hk]

lemma generatedRenaming_fixed(h:∀i∈instances,¬Generates i.1 i.2 k):
  generatedRenaming rhos instances k=k:=by
 rcases generatedRenaming_cases rhos instances k with
  ⟨-,heq⟩ | ⟨i,hi,inner,hinner,hk,-⟩
 · exact heq
 · exact absurd ⟨inner,hinner,hk⟩ (h i hi)
end

lemma slotInstances_slotOf(h:SlotInstances slots g instances)
  (hi:i∈instances):∃s,slotOf g.nodes[i.1]?=some s∧slots[s]?=some i.2:=by
 obtain ⟨members,s,hvalue,-,hslot,hf⟩:=slotFragment_ok (h.bound i hi)
 refine ⟨s,?_,hf⟩
 rw [hvalue]
 simp only [slotOf,hslot]

lemma renaming_id(f:Fragment):Renaming f id:=⟨fun _ _ _ _ h=>h,fun _ _=>.inl rfl⟩

lemma slotRenaming_renames (h:SlotInstances slots g instances) (hs:slots[s]?=some f)
  (hrho:Renaming f rho) (hd:instances.Pairwise fun i j=>
   ∀k,Generates i.1 i.2 k→¬Generates j.1 j.2 k) :
  RenamesInstances (slotRenaming g s rho) (generatedRenaming (slotRenaming g s rho) instances)
   instances where
 inner i hi:=by
  obtain ⟨t,ht,hf⟩:=slotInstances_slotOf h hi
  unfold slotRenaming
  split
  · next heq=>
    rw [ht] at heq
    cases heq
    rw [hs] at hf
    cases hf
    exact hrho
  · exact renaming_id _
 lifts i hi:=generatedRenaming_lifts hd hi
 fixed k hk:=generatedRenaming_fixed hk

lemma instancesOf_bound(hi:i∈instancesOf slots g):slotFragment slots i.1 g.nodes[i.1]?=.ok i.2:=by
 obtain ⟨name,-,h⟩:=List.mem_filterMap.mp hi
 split at h
 · next f hf=>
   cases h
   exact hf
 · cases h

/-- What an expansion has made: nothing without slot nodes, else the wiring of the instances. -/
lemma expandGraph_cases(h:expandGraph slots g=.ok r):
  (instancesOf slots g=[]∧r=g) ∨ ∃E,instancesOf slots g≠[] ∧
   collect edgeOf g.edges=.ok E∧Expanded g E (instancesOf slots g) r ∧
   Fresh g (instancesOf slots g)∧∃es : List Edge,r.edges=es.map edgeValue:=by
 obtain ⟨hnames,hslots,hrun,-,-⟩:=expandGraph_ok.mp h
 by_cases hne:instancesOf slots g=[]
 · rw [hne] at hrun
   cases hrun
   exact .inl ⟨hne,rfl⟩
 · obtain ⟨E,hE⟩:=edges_of_spliceAll hne hslots.slotNodes hrun
   refine .inr ⟨E,hne,hE,expanded_of_spliceAll hslots.slotNodes hE hrun,?_,?_⟩
   · exact fresh_of_ascending hslots.slotNodes hE (hnames▸slotNames_ascending g) hrun
   · exact edges_eq_of_spliceAll hne hslots.slotNodes hrun

lemma NoInternalReference.free(hno:NoInternalReference g instances)
  (hE:collect edgeOf g.edges=.ok E):∀e∈E,∀i∈instances,
   ¬Generates i.1 i.2 (ownerOf e.1)∧¬Generates i.1 i.2 (ownerOf e.2):=by
 intro e he
 obtain ⟨value,hvalue,hread⟩:=collect_source hE he
 exact hno.edges value hvalue e hread

lemma encapsulated_of_noInternalReference(h:expandGraph slots g=.ok r)
  (hno:NoInternalReference g (instancesOf slots g)):Encapsulated slots g r:=by
 have hslots:=(expandGraph_ok.mp h).2.1.slotNodes
 rcases expandGraph_cases h with ⟨hnil,-⟩|⟨E,-,hE,hexp,hfresh,-⟩
 · refine ⟨?_,?_⟩ <;>simp [hnil]
 · refine ⟨?_,?_⟩
   · intro i hi value hvalue e hread hcross
     obtain ⟨es,hes,hflat⟩:=hexp.edges
     obtain ⟨e',he',hread'⟩:=collect_mem hes hvalue
     obtain rfl:e'=e:=Except.ok.inj (hread'.symm.trans hread)
     obtain ⟨e₀,he₀,hport,harise⟩:=crossing_edge hslots hexp.toComposable (hno.free hE)
      (hflat.mem_iff.mp he') hi hcross
     obtain ⟨value₀,hvalue₀,hread₀⟩:=collect_source hE he₀
     exact ⟨value₀,hvalue₀,e₀,hread₀,hport,harise⟩
   · intro i hi k reference node hnode hw hcross
     exact hexp.crossing_when hslots hfresh hno.whens hi hnode hw hcross

lemma renamed_of_fixed (h:∀k,sigma k=k) (g:Graph) : Renamed sigma g g where
 nodes k v:=by
  have hnode:∀node:Value,renamedNode sigma node=node:=
   fun node=>renamedNode_of_fixed fun reference _=>renameEndpoint_of_fixed (h _)
  simp only [h,hnode]
  constructor
  · intro hv
    exact ⟨k,v,hv,rfl,rfl⟩
  · rintro ⟨_,_,hv,rfl,rfl⟩
    exact hv
 edges:=by
  have hvalue:g.edges.map (renamedEdgeValue (renameEdge sigma))=g.edges:=by
   conv_rhs=>rw [←List.map_id g.edges]
   apply map_congr_left
   intro value _
   apply renamedEdgeValue_of_fixed
   intro e _
   rw [renameEdge,renameEndpoint_of_fixed (h _),renameEndpoint_of_fixed (h _)]
  rw [hvalue]

lemma renamingInvariant_of_noInternalReference(h:expandGraph slots g=.ok r)
  (hno:NoInternalReference g (instancesOf slots g)):RenamingInvariant slots g r:=by
 intro s f rho hs hrho hcollisions
 obtain ⟨hnames,hslots,-,hnodes,hedges⟩:=expandGraph_ok.mp h
 have hinstances:=instancesOf_insert hs rho g
 rw [hinstances] at hcollisions
 have hnamed:∀i∈renamedInstances (slotRenaming g s rho) (instancesOf slots g),
   slotFragment (slots.insert s (renameFragment rho f)) i.1 g.nodes[i.1]?=.ok i.2:=by
  intro i hi
  rw [←hinstances] at hi
  exact instancesOf_bound hi
 have hslots':SlotInstances (slots.insert s (renameFragment rho f)) g
   (renamedInstances (slotRenaming g s rho) (instancesOf slots g)):=
  ⟨(hslots.slotNodes.rename _).names,(hslots.slotNodes.rename _).named,hnamed⟩
 rcases expandGraph_cases h with ⟨hnil,rfl⟩|⟨E,hne,hE,hexp,hfresh,es,hes⟩
 · refine ⟨r,expandGraph_ok.mpr ?_,renamed_of_fixed (fun k=>?_) r⟩
   · rw [hinstances]
     refine ⟨by rw [names_renamedInstances,hnames],hslots',?_,hnodes,hedges⟩
     rw [hnil]
     rfl
   · rw [hnil]
     exact generatedRenaming_fixed (by simp)
 · have hren:=slotRenaming_renames hslots hs hrho hexp.distinct
   have hc:=hexp.toComposable.rename hren hcollisions.2
   obtain ⟨r',hrun'⟩:=spliceAll_success hslots'.slotNodes hE hc hcollisions.1
   have hexp':=expanded_of_spliceAll hslots'.slotNodes hE hrun'
   have hne':renamedInstances (slotRenaming g s rho) (instancesOf slots g)≠[]:=
    fun heq=>hne (map_eq_nil_iff.mp heq)
   obtain ⟨es',hes'⟩:=edges_eq_of_spliceAll hne' hslots'.slotNodes hrun'
   have hrenamed:Renamed (generatedRenaming (slotRenaming g s rho) (instancesOf slots g)) r r':=by
    refine ⟨hexp.renamed_nodes hslots.slotNodes hfresh hren hno.whens hexp',?_⟩
    obtain ⟨fs,hfs,hflat⟩:=hexp.edges
    obtain ⟨fs',hfs',hflat'⟩:=hexp'.edges
    rw [hes,collect_edgeOf_map] at hfs
    cases hfs
    rw [hes',collect_edgeOf_map] at hfs'
    cases hfs'
    rw [flatEdges_rename hslots.slotNodes hexp.toComposable hren (hno.free hE)] at hflat'
    rw [hes,hes',List.map_map]
    have hmap:(renamedEdgeValue (renameEdge
      (generatedRenaming (slotRenaming g s rho) (instancesOf slots g))) ∘ edgeValue) =
      edgeValue ∘ renameEdge
       (generatedRenaming (slotRenaming g s rho) (instancesOf slots g)):=
     funext (renamedEdgeValue_edgeValue _)
    rw [hmap,←List.map_map]
    exact (hflat'.trans (hflat.symm.map _)).map _
   refine ⟨r',expandGraph_ok.mpr ?_,hrenamed⟩
   rw [hinstances]
   refine ⟨by rw [names_renamedInstances,hnames],hslots',hrun',?_,?_⟩
   · rw [hrenamed.size_eq fun a b ha hb heq=>hexp.renaming_injective hslots.slotNodes hfresh hren
      hcollisions.1 hcollisions.2 ha hb heq]
     exact hnodes
   · rw [hrenamed.edges.length_eq,length_map]
     exact hedges

lemma exists_long_name(l:List String):∃w,NodeName w∧∀x∈l,x.toList.length<w.toList.length:=by
 refine ⟨String.ofList (List.replicate ((l.map fun x=>x.toList.length).sum+1) 'a'),?_,?_⟩
 · have hchars:∀c∈(String.ofList (List.replicate
     ((l.map fun x=>x.toList.length).sum+1) 'a')).toList,c = 'a' := by
    intro c hc
    rw [String.toList_ofList] at hc
    exact eq_of_mem_replicate hc
   have hfirst : 'a' ∈ (String.ofList (List.replicate
     ((l.map fun x=>x.toList.length).sum+1) 'a')).toList:=by
    rw [String.toList_ofList]
    simp
   refine ⟨fun hdot=>by simpa using hchars _ hdot,?_,?_,?_⟩
   · intro heq
     rw [heq] at hfirst
     simp at hfirst
   · intro heq
     rw [heq] at hfirst
     revert hfirst
     decide
   · intro heq
     rw [heq] at hfirst
     revert hfirst
     decide
 · intro x hx
   rw [String.toList_ofList,length_replicate]
   have hle:=single_le_sum (l:=l.map fun x=>x.toList.length) (fun _ _=>Nat.zero_le _)
    _ (mem_map_of_mem hx)
   omega

lemma length_generatedName(n inner:String):
  (generatedName n inner).toList.length=n.toList.length+2+inner.toList.length:=by
 simp [generatedName]
 omega

lemma generatedName_left_injective(w:String):Function.Injective fun n=>generatedName n w:=by
 intro a b heq
 have hchars:=congrArg String.toList heq
 simp only [generatedName,String.toList_append,append_cancel_right_eq] at hchars
 exact String.toList_inj.mp hchars

def allNames (g:Graph) (instances:List Instance) : List String :=
 g.nodes.toList.map Prod.fst ++
  instances.flatMap fun i=>i.2.nodes.toList.map fun e=>generatedName i.1 e.1

lemma root_mem_allNames(h:g.nodes.contains k=true):k∈allNames g instances:=by
 obtain ⟨node,hnode⟩:=(contains_iff _).mp h
 refine mem_append_left _ (List.mem_map.mpr ⟨(k,node),?_,rfl⟩)
 exact mem_toList_iff_getElem?_eq_some.mpr hnode

lemma generated_mem_allNames(hi:i∈instances)(h:Generates i.1 i.2 k):k∈allNames g instances:=by
 obtain ⟨inner,hinner,rfl⟩:=h
 obtain ⟨node,hnode⟩:=(contains_iff _).mp hinner
 refine mem_append_right _ (mem_flatMap.mpr ⟨i,hi,List.mem_map.mpr ⟨(inner,node),?_,rfl⟩⟩)
 exact mem_toList_iff_getElem?_eq_some.mpr hnode

/-- One internal node gets a new name. -/
def renameOne (inner w:String) (x:String) : String := if x=inner then w else x

section
variable {inner w:String} (hslots:SlotInstances slots g instances)
 (hd:instances.Pairwise fun i j=>∀k,Generates i.1 i.2 k→¬Generates j.1 j.2 k)
 {i:Instance} (hi:i∈instances) (hinner:i.2.nodes.contains inner=true)
 (hslot:slotOf g.nodes[i.1]?=some s) (hs:slots[s]?=some i.2) (hw:NodeName w)
 (hlong:∀x∈allNames g instances,x.toList.length<w.toList.length)

include hi hlong in
lemma renaming_renameOne(hw:NodeName w):Renaming i.2 (renameOne inner w):=by
 have hnot:∀a,i.2.nodes.contains a=true→a≠w:=by
  rintro a ha rfl
  have hlt:=hlong _ (generated_mem_allNames hi ⟨a,ha,rfl⟩)
  rw [length_generatedName] at hlt
  omega
 refine ⟨?_,?_⟩
 · intro a b ha hb heq
   unfold renameOne at heq
   split at heq
   · next haeq=>
     split at heq
     · next hbeq=>rw [haeq,hbeq]
     · exact absurd heq.symm (hnot b hb)
   · split at heq
     · exact absurd heq (hnot a ha)
     · exact heq
 · intro a _
   unfold renameOne
   split
   · exact .inr hw
   · exact .inl rfl

lemma generates_renamed{j:Instance}(hrho:Renaming j.2 (slotRenaming g s (renameOne inner w) j.1))
  (h:Generates j.1 (renameFragment (slotRenaming g s (renameOne inner w) j.1) j.2) k):
  Generates j.1 j.2 k∨k=generatedName j.1 w:=by
 obtain ⟨x,hx,rfl⟩:=h
 obtain ⟨old,hold,rfl⟩:=(contains_renameFragment hrho x).mp hx
 unfold slotRenaming
 split
 · by_cases heq:old=inner
   · exact .inr (by rw [renameOne,if_pos heq])
   · exact .inl ⟨old,hold,by rw [renameOne,if_neg heq]⟩
 · exact .inl ⟨old,hold,rfl⟩

include hslots hd hlong in
lemma noCollisions_renamed(hfresh:Fresh g instances)
  (hrho:∀j∈instances,Renaming j.2 (slotRenaming g s (renameOne inner w) j.1)):
  NoCollisions g (renamedInstances (slotRenaming g s (renameOne inner w)) instances):=by
 have hnew:∀j:Instance,∀x∈allNames g instances,x≠generatedName j.1 w:=by
  rintro j x hx rfl
  have hlt:=hlong _ hx
  rw [length_generatedName] at hlt
  omega
 refine ⟨?_,?_⟩
 · intro j' hj' k hgen
   obtain ⟨j,hj,rfl⟩:=mem_renamedInstances.mp hj'
   rcases generates_renamed (hrho j hj) hgen with hold|rfl
   · exact hfresh j hj k hold
   · rw [Bool.eq_false_iff]
     intro hroot
     exact hnew j _ (root_mem_allNames hroot) rfl
 · rw [renamedInstances,pairwise_map]
   have hnames:=hslots.names
   rw [nodup_iff_pairwise_ne,pairwise_map] at hnames
   refine (hd.and hnames).imp_of_mem ?_
   intro a b ha hb hab k hka hkb
   obtain ⟨hdisjoint,hne⟩:=hab
   rcases generates_renamed (hrho a ha) hka with hka|rfl
   · rcases generates_renamed (hrho b hb) hkb with hkb|rfl
     · exact hdisjoint k hka hkb
     · exact hnew b _ (generated_mem_allNames ha hka) rfl
   · rcases generates_renamed (hrho b hb) hkb with hkb|heq
     · exact hnew a _ (generated_mem_allNames hb hkb) rfl
     · exact hne (generatedName_left_injective w heq)

include hd hi hinner hslot hlong in
lemma generatedRenaming_ne(k:String):
  generatedRenaming (slotRenaming g s (renameOne inner w)) instances k ≠
   generatedName i.1 inner:=by
 intro heq
 rcases generatedRenaming_cases (slotRenaming g s (renameOne inner w)) instances k with
  ⟨hnone,hfix⟩ | ⟨j,hj,old,hold,rfl,hren⟩
 · rw [hfix] at heq
   exact hnone i hi ⟨inner,hinner,heq⟩
 · rw [hren] at heq
   unfold slotRenaming at heq
   split at heq
   · by_cases hsame:old=inner
     · rw [renameOne,if_pos hsame] at heq
       have hlt:=hlong _ (generated_mem_allNames hi ⟨inner,hinner,rfl⟩)
       rw [←heq,length_generatedName] at hlt
       omega
     · rw [renameOne,if_neg hsame] at heq
       have hij:=generated_unique hd hj hi ⟨old,hold,rfl⟩ ⟨inner,hinner,heq⟩
       subst hij
       exact hsame (generatedName_injective _ heq)
   · next hother=>
     have hij:=generated_unique hd hj hi ⟨old,hold,rfl⟩ ⟨inner,hinner,heq⟩
     subst hij
     exact hother hslot

lemma generatedRenaming_dotless(hw:NodeName w)(hk:Dotless k):
  Dotless (generatedRenaming (slotRenaming g s (renameOne inner w)) instances k):=by
 rcases generatedRenaming_cases (slotRenaming g s (renameOne inner w)) instances k with
  ⟨-,hfix⟩ | ⟨j,hj,old,hold,rfl,hren⟩
 · rw [hfix]
   exact hk
 · obtain ⟨hjdot,holddot⟩:Dotless j.1∧Dotless old:=by
    unfold Dotless generatedName at hk
    rw [String.toList_append,String.toList_append,mem_append,mem_append] at hk
    exact ⟨fun h=>hk (.inl (.inl h)),fun h=>hk (.inr h)⟩
   rw [hren]
   apply hjdot.generatedName
   unfold slotRenaming
   split
   · by_cases heq:old=inner
     · rw [renameOne,if_pos heq]
       exact hw.dotless
     · rw [renameOne,if_neg heq]
       exact holddot
   · exact holddot
end

lemma ownerOf_renamed_ne{x y:String}(hy:y=renameEndpoint sigma x)(hend:IsEndpoint y)
  (hne:∀a,sigma a≠k)(hdot:∀a,Dotless a→Dotless (sigma a)):ownerOf y≠k:=by
 by_cases hx:Dotless x
 · have hsame:renameEndpoint sigma x=x:=by rw [renameEndpoint,partition_eq_none.mpr hx]
   rw [hy,hsame] at hend
   exact absurd hx (isEndpoint_iff_parts.mp hend).1
 · have hjoined:y=sigma (ownerOf x)++"."++portOf x:=by
    rw [hy,renameEndpoint,partition_eq_some hx]
   rw [hjoined,ownerOf_joined (hdot _ (dotless_ownerOf x))]
   exact hne _

section
variable {k:String} {instances':List Instance} {r':Graph}
 (hrenamed:Renamed sigma r r') (hne:∀a,sigma a≠k)
 (hdot:∀a,Dotless a→Dotless (sigma a))

include hrenamed hne hdot

lemma Renamed.edge_owners(hr:∃es,collect edgeOf r.edges=.ok es){value:Value}
  (hvalue:value∈r'.edges)(hread:edgeOf value=.ok e)(hs:IsEndpoint e.1)
  (ht:IsEndpoint e.2):ownerOf e.1≠k∧ownerOf e.2≠k:=by
 obtain ⟨es,hes⟩:=hr
 obtain ⟨old,hold,rfl⟩:=List.mem_map.mp (hrenamed.edges.mem_iff.mp hvalue)
 obtain ⟨e₀,-,hread₀⟩:=collect_mem hes hold
 have heq:e=renameEdge sigma e₀:=Except.ok.inj (hread.symm.trans (edgeOf_renamedEdgeValue hread₀))
 have hsource:e.1=renameEndpoint sigma e₀.1:=congrArg Prod.fst heq
 have htarget:e.2=renameEndpoint sigma e₀.2:=congrArg Prod.snd heq
 exact ⟨ownerOf_renamed_ne hsource hs hne hdot,ownerOf_renamed_ne htarget ht hne hdot⟩

lemma Renamed.when_owner{name reference:String}{node:Value}(hnode:r'.nodes[name]?=some node)
  (hw:whenOf node=some reference)(hend:IsEndpoint reference):ownerOf reference≠k:=by
 obtain ⟨name₀,node₀,-,-,rfl⟩:=(hrenamed.nodes name node).mp hnode
 rw [whenOf_renamedNode] at hw
 obtain ⟨old,-,heq⟩:=Option.map_eq_some_iff.mp hw
 exact ownerOf_renamed_ne heq.symm hend hne hdot

lemma root_edge_owners(hslots':SlotNodes g instances')(hr:∃es,collect edgeOf r.edges=.ok es)
  (h':Expanded g E instances' r')(hnot:k∉instances'.map Prod.fst)
  (hend:∀e∈E,IsEndpoint e.1∧IsEndpoint e.2)(he:e∈E):ownerOf e.1≠k∧ownerOf e.2≠k:=by
 obtain ⟨es',hes',hflat'⟩:=h'.edges
 obtain ⟨target,htrace,htarget⟩:=exists_flatEdge h'.toComposable he
 obtain ⟨value,hvalue,hread⟩:=collect_source hes' (hflat'.mem_iff.mpr htrace)
 have htargetEnd:IsEndpoint target:=by
  rcases flatEdges_cases hslots' h'.toComposable htrace with
   ⟨i,hi,hint⟩ | ⟨e₀,he₀,-,⟨-,heq⟩ | ⟨i,hi,-,hend,-⟩⟩
  · exact (prefixedInternal_spec (hslots'.dotless hi) (h'.consistent i hi) hint).2.1
  · rw [show target=e₀.2 from heq]
    exact (hend e₀ he₀).2
  · exact hend
 have hsourceEnd:=(resolved_source hslots' h'.toComposable he (hend e he).1).1
 obtain ⟨hs,ht⟩:=hrenamed.edge_owners hne hdot hr hvalue hread hsourceEnd htargetEnd
 refine ⟨?_,?_⟩
 · intro heq
   rw [resolved_of_not_mem (heq▸hnot)] at hs
   exact hs heq
 · intro heq
   rw [htarget (heq▸hnot)] at ht
   exact ht heq
end

/-- Give an internal node a name that is longer than all others and expand again. -/
lemma exists_renamed_expansion(h:expandGraph slots g=.ok r)(hinv:RenamingInvariant slots g r)
  (hE:collect edgeOf g.edges=.ok E)(hexp:Expanded g E (instancesOf slots g) r)
  (hfresh:Fresh g (instancesOf slots g))(hi:i∈instancesOf slots g){inner:String}
  (hinner:i.2.nodes.contains inner=true):
  ∃(instances':List Instance) (r':Graph) (sigma:String→String),
   instances'.map Prod.fst=(instancesOf slots g).map Prod.fst∧SlotNodes g instances' ∧
   Expanded g E instances' r'∧Renamed sigma r r' ∧
   (∀a,sigma a≠generatedName i.1 inner)∧∀a,Dotless a→Dotless (sigma a):=by
 have hslots:=(expandGraph_ok.mp h).2.1
 obtain ⟨s,hslot,hs⟩:=slotInstances_slotOf hslots hi
 obtain ⟨w,hw,hlong⟩:=exists_long_name (allNames g (instancesOf slots g))
 have hrho:Renaming i.2 (renameOne inner w):=renaming_renameOne hi hlong hw
 have hren:=slotRenaming_renames hslots hs hrho hexp.distinct
 have hcollisions:=noCollisions_renamed hslots hexp.distinct hlong hfresh hren.inner
 have hinstances:=instancesOf_insert hs (renameOne inner w) g
 rw [←hinstances] at hcollisions
 obtain ⟨r',hr',hrenamed⟩:=hinv s i.2 _ hs hrho hcollisions
 obtain ⟨-,hslots',hrun',-,-⟩:=expandGraph_ok.mp hr'
 refine ⟨instancesOf (slots.insert s (renameFragment (renameOne inner w) i.2)) g,r',
  generatedRenaming (slotRenaming g s (renameOne inner w)) (instancesOf slots g),?_,
  hslots'.slotNodes,expanded_of_spliceAll hslots'.slotNodes hE hrun',hrenamed,
  generatedRenaming_ne hexp.distinct hi hinner hslot hlong,
  fun a ha=>generatedRenaming_dotless hw ha⟩
 rw [hinstances,names_renamedInstances]

/-- A root reference to a generated name survives a renaming of that node. -/
lemma noInternalReference_of_renamingInvariant(h:expandGraph slots g=.ok r)
  (hinv:RenamingInvariant slots g r):NoInternalReference g (instancesOf slots g):=by
 have hslots:=(expandGraph_ok.mp h).2.1.slotNodes
 rcases expandGraph_cases h with ⟨hnil,-⟩|⟨E,-,hE,hexp,hfresh,-⟩
 · refine ⟨?_,?_⟩ <;>simp [hnil]
 have hr:∃es,collect edgeOf r.edges=.ok es:=by
  obtain ⟨es,hes,-⟩:=hexp.edges
  exact ⟨es,hes⟩
 refine ⟨?_,?_⟩
 · intro value hvalue e hread i hi
   obtain ⟨e',he,hread'⟩:=collect_mem hE hvalue
   obtain rfl:e'=e:=Except.ok.inj (hread'.symm.trans hread)
   have hend:∀e∈E,IsEndpoint e.1∧IsEndpoint e.2:=fun e he=>
    ⟨(hexp.ports i hi e he).source,(hexp.ports i hi e he).target⟩
   have hfree:∀inner,i.2.nodes.contains inner=true →
     ownerOf e'.1≠generatedName i.1 inner∧ownerOf e'.2≠generatedName i.1 inner:=by
    intro inner hinner
    obtain ⟨instances',r',sigma,hnames,hslots',hexp',hrenamed,hne,hdot⟩:=
     exists_renamed_expansion h hinv hE hexp hfresh hi hinner
    have hnot:=generated_not_mem hslots hfresh hi ⟨inner,hinner,rfl⟩
    rw [←hnames] at hnot
    exact root_edge_owners hrenamed hne hdot hslots' hr hexp' hnot hend he
   refine ⟨?_,?_⟩
   · rintro ⟨inner,hinner,howner⟩
     exact (hfree inner hinner).1 howner
   · rintro ⟨inner,hinner,howner⟩
     exact (hfree inner hinner).2 howner
 · rintro k reference node hnode hw i hi ⟨inner,hinner,howner⟩
   obtain ⟨instances',r',sigma,hnames,hslots',hexp',hrenamed,hne,hdot⟩:=
    exists_renamed_expansion h hinv hE hexp hfresh hi hinner
   have hnot:=generated_not_mem hslots hfresh hi ⟨inner,hinner,rfl⟩
   rw [←hnames] at hnot
   have hsame:resolvedNode instances' node=node:=by
    simp only [resolvedNode,hw,if_neg (howner.symm▸hnot)]
   have hroot:k∉instances'.map Prod.fst:=by
    intro hmem
    obtain ⟨j,hj,rfl⟩:=List.mem_map.mp hmem
    obtain ⟨slot,hslot,hnone⟩:=hslots'.slot j hj
    rw [hnode] at hslot
    cases hslot
    rw [hw] at hnone
    cases hnone
   have hafter:r'.nodes[k]?=some node:=(hexp'.nodes k node).mpr (.inr ⟨hroot,node,hnode,hsame.symm⟩)
   exact hrenamed.when_owner hne hdot hafter hw (hexp.whens i hi k node hnode reference hw).1 howner

/-- Fragments are encapsulated exactly when the root graph names no generated node. -/
theorem encapsulated_iff_noInternalReference (h : expandGraph slots g=.ok r) :
  (Encapsulated slots g r∧RenamingInvariant slots g r) ↔
   NoInternalReference g (instancesOf slots g) := by
 constructor
 · rintro ⟨-,hinv⟩
   exact noInternalReference_of_renamingInvariant h hinv
 · intro hno
   exact ⟨encapsulated_of_noInternalReference h hno,renamingInvariant_of_noInternalReference h hno⟩

lemma generates_iff:Generates n f k ↔
  (f.nodes.toList.any fun e=>k==generatedName n e.1)=true:=by
 simp only [Generates,any_eq_true,beq_iff_eq]
 constructor
 · rintro ⟨inner,hinner,rfl⟩
   obtain ⟨node,hnode⟩:=(contains_iff _).mp hinner
   exact ⟨(inner,node),mem_toList_iff_getElem?_eq_some.mpr hnode,rfl⟩
 · rintro ⟨e,he,rfl⟩
   exact ⟨e.1,(contains_iff _).mpr ⟨e.2,mem_toList_iff_getElem?_eq_some.mp he⟩,rfl⟩

instance (k:String) : Decidable (Generates n f k) := decidable_of_iff _ generates_iff.symm

def retrieverSlots : StringMap Fragment := ExtTreeMap.ofList [("retriever",retrieverFragment)]

def namesNoInternal (g:Graph) (instances:List Instance) : Bool :=
 (g.edges.all fun value=>
  match edgeOf value with
  | .ok e=>instances.all fun i=>
   !decide (Generates i.1 i.2 (ownerOf e.1)) && !decide (Generates i.1 i.2 (ownerOf e.2))
  | .error _=>true) &&
 g.nodes.toList.all fun entry=>
  match whenOf entry.2 with
  | some reference=>instances.all fun i => !decide (Generates i.1 i.2 (ownerOf reference))
  | none=>true

lemma noInternalReference_of_test(h:namesNoInternal g instances=true):
  NoInternalReference g instances:=by
 simp only [namesNoInternal,Bool.and_eq_true,all_eq_true] at h
 obtain ⟨hedges,hwhens⟩:=h
 refine ⟨?_,?_⟩
 · intro value hvalue e hread i hi
   have htest:=hedges value hvalue
   simp only [hread,all_eq_true,Bool.and_eq_true,Bool.not_eq_true',decide_eq_false_iff_not] at htest
   exact htest i hi
 · intro k reference node hnode hw i hi
   have htest:=hwhens (k,node) (mem_toList_iff_getElem?_eq_some.mpr hnode)
   simp only [hw,all_eq_true,Bool.not_eq_true',decide_eq_false_iff_not] at htest
   exact htest i hi

theorem retriever_encapsulated : ∃r,expandGraph retrieverSlots retrieverGraph=.ok r ∧
  Encapsulated retrieverSlots retrieverGraph r ∧
  RenamingInvariant retrieverSlots retrieverGraph r := by
 have hno:NoInternalReference retrieverGraph (instancesOf retrieverSlots retrieverGraph):=
  noInternalReference_of_test (by decide +kernel)
 cases h:expandGraph retrieverSlots retrieverGraph with
 | error e=>
  have hok:(expandGraph retrieverSlots retrieverGraph).isOk=true:=by decide +kernel
  rw [h] at hok
  cases hok
 | ok r=>exact ⟨r,rfl,(encapsulated_iff_noInternalReference h).mpr hno⟩

/-- The answer also reads the embedding inside the retriever, by its generated name. -/
def leakingGraph : Graph where
 nodes:=ExtTreeMap.ofList
  [("answer",Value.object [("block",.string "answer@1")]),
   ("retrieve",Value.object [("slot",.string "retriever")])]
 edges:=[edgeValue ("$input.query", "retrieve.query"),
  edgeValue ("retrieve.documents", "answer.context"),
  edgeValue ("retrieve__embed.embedding", "answer.vector")]

theorem leakingGraph_not_encapsulated : ∃r,expandGraph retrieverSlots leakingGraph=.ok r ∧
  ¬Encapsulated retrieverSlots leakingGraph r := by
 cases h:expandGraph retrieverSlots leakingGraph with
 | error e=>
  have hok:(expandGraph retrieverSlots leakingGraph).isOk=true:=by decide +kernel
  rw [h] at hok
  cases hok
 | ok r=>
  refine ⟨r,rfl,?_⟩
  intro hencapsulated
  have hinstances:instancesOf retrieverSlots leakingGraph=[("retrieve",retrieverFragment)]:=rfl
  have hedge:edgeValue ("retrieve__embed.embedding", "answer.vector")∈r.edges:=by
   have hrun:(expandGraph retrieverSlots leakingGraph).toOption.any (fun r=>
     decide (edgeValue ("retrieve__embed.embedding", "answer.vector")∈r.edges))=true:=by
    decide +kernel
   rw [h] at hrun
   exact of_decide_eq_true hrun
  obtain ⟨value₀,hvalue₀,e₀,hread₀,hport,harise⟩:=hencapsulated.edges
   ("retrieve",retrieverFragment) (by rw [hinstances];exact mem_singleton_self _) _ hedge
   _ (edgeOf_edgeValue _) (by unfold Crosses;decide +kernel)
  rw [hinstances] at harise
  simp only [leakingGraph,mem_cons,not_mem_nil,or_false] at hvalue₀
  rcases hvalue₀ with rfl|rfl|rfl
  · cases Except.ok.inj ((edgeOf_edgeValue _).symm.trans hread₀)
    have hsource:=harise.1
    revert hsource
    decide +kernel
  · cases Except.ok.inj ((edgeOf_edgeValue _).symm.trans hread₀)
    have hsource:=harise.1
    revert hsource
    decide +kernel
  · cases Except.ok.inj ((edgeOf_edgeValue _).symm.trans hread₀)
    unfold NamesPort at hport
    revert hport
    decide +kernel

end GraphBlocks.Composition
