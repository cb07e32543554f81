import GraphBlocks.CompositionWiring

/-! A renaming of the internal nodes of a fragment renames its nodes, its edges and its `when`
references, and the copies that an instance generates are renamed with them. -/
namespace GraphBlocks.Composition
open Std Json OrderedMap RustStd GraphNormalization Wiring List Option Std.ExtTreeMap

variable {n:String} {f:Fragment} {g r:Graph} {rho sigma:String→String}

def renameEndpoint (rho:String→String) (x:String) : String :=
 match partition x with
 | some (owner,port)=>rho owner ++ "." ++ port
 | none=>x

def renameEdge (rho:String→String) (e:Edge) : Edge :=
 (renameEndpoint rho e.1,renameEndpoint rho e.2)

/-- The ends at the interface keep their names. -/
def renameInnerEdge (rho:String→String) (e:Edge) : Edge :=
 if ownerOf e.1 = "$input" then (e.1,renameEndpoint rho e.2)
 else if ownerOf e.2 = "$output" then (renameEndpoint rho e.1,e.2)
 else renameEdge rho e

def renamedEdgeValue (rename:Edge→Edge) (value:Value) : Value :=
 match edgeOf value with
 | .ok e=>if rename e=e then value else edgeValue (rename e)
 | .error _=>value

def renamedNode (rho:String→String) (node:Value) : Value :=
 match whenOf node with
 | none=>node
 | some reference=>
  if renameEndpoint rho reference=reference then node
  else setWhen (renameEndpoint rho reference) node

variable {x:String}

lemma renameEndpoint_eq(h:IsEndpoint x):renameEndpoint rho x=rho (ownerOf x)++"."++portOf x:=by
 rw [renameEndpoint,partition_eq_some (isEndpoint_iff_parts.mp h).1]

lemma renameEndpoint_of_fixed(hfix:rho (ownerOf x)=ownerOf x): renameEndpoint rho x=x:=by
 unfold renameEndpoint
 by_cases h:Dotless x
 · rw [partition_eq_none.mpr h]
 · rw [partition_eq_some h]
   change rho (ownerOf x)++"."++portOf x=x
   rw [hfix,joined_ownerOf_portOf h]

section
variable (h:IsEndpoint x) (hd:Dotless (rho (ownerOf x)))
include h hd

lemma ownerOf_renameEndpoint:ownerOf (renameEndpoint rho x)=rho (ownerOf x):=by
 rw [renameEndpoint_eq h,ownerOf_joined hd]

lemma portOf_renameEndpoint:portOf (renameEndpoint rho x)=portOf x:=by
 rw [renameEndpoint_eq h,portOf_joined hd]

lemma isEndpoint_renameEndpoint(hne:rho (ownerOf x)≠""):IsEndpoint (renameEndpoint rho x):=by
 rw [renameEndpoint_eq h,isEndpoint_joined hd]
 exact ⟨hne,(isEndpoint_iff_parts.mp h).2.2⟩

end

lemma edgeOf_renamedEdgeValue{rename:Edge→Edge}{value:Value}{e:Edge}
  (h:edgeOf value=.ok e):edgeOf (renamedEdgeValue rename value)=.ok (rename e):=by
 simp only [renamedEdgeValue,h]
 split
 · next heq=>rw [heq,h]
 · exact edgeOf_edgeValue _

lemma renamedEdgeValue_edgeValue(rename:Edge→Edge)(e:Edge):
  renamedEdgeValue rename (edgeValue e)=edgeValue (rename e):=by
 simp only [renamedEdgeValue,edgeOf_edgeValue]
 split
 · next heq=>rw [heq]
 · rfl

variable {node:Value}

lemma whenOf_renamedNode:whenOf (renamedNode rho node)=(whenOf node).map (renameEndpoint rho):=by
 unfold renamedNode
 cases hw:whenOf node with
 | none=>simpa using hw
 | some reference=>
  simp only
  split
  · next heq=>rw [hw,map_some,heq]
  · rw [whenOf_setWhen hw,map_some]

structure NodeName (x:String) : Prop where
 dotless:Dotless x
 ne_empty:x ≠ ""
 ne_input:x ≠ "$input"
 ne_output:x ≠ "$output"

/-- Distinct internal nodes keep distinct names, and every new name is that of an ordinary node. -/
structure Renaming (f:Fragment) (rho:String→String) : Prop where
 injective:∀a b,f.nodes.contains a=true→f.nodes.contains b=true → rho a=rho b→a=b
 named:∀a,f.nodes.contains a=true → rho a=a∨NodeName (rho a)

def renameFragment (rho:String→String) (f:Fragment) : Fragment where
 interface:=f.interface
 nodes:=ExtTreeMap.ofList (f.nodes.toList.map fun e=>(rho e.1,renamedNode rho e.2))
 edges:=f.edges.map (renamedEdgeValue (renameInnerEdge rho))

def FragmentEdge.rename (rho:String→String) : FragmentEdge→FragmentEdge
 | .input port target=>.input port (renameEndpoint rho target)
 | .output source port=>.output (renameEndpoint rho source) port
 | .internal source target=>.internal (renameEndpoint rho source) (renameEndpoint rho target)

section
variable (hrho:Renaming f rho)

include hrho

lemma lookup_renameFragment(k:String)(v:Value):(renameFragment rho f).nodes[k]?=some v ↔
   ∃(inner:String) (node:Value),f.nodes[inner]?=some node∧k=rho inner∧v=renamedNode rho node:=by
 have hkeys:((f.nodes.toList.map fun e=>(rho e.1,renamedNode rho e.2)).map Prod.fst).Nodup:=by
  rw [List.map_map]
  have hnodup:=nodup_keys_toList f.nodes
  rw [show (Prod.fst ∘ fun e:String×Value=>(rho e.1,renamedNode rho e.2)) =
   rho ∘ Prod.fst from rfl,←List.map_map]
  apply hnodup.map_on
  intro a ha b hb heq
  have hin:∀{c:String},c∈f.nodes.toList.map Prod.fst→f.nodes.contains c=true:=by
   intro c hc
   obtain ⟨e,he,rfl⟩:=List.mem_map.mp hc
   exact (contains_iff _).mpr ⟨e.2,mem_toList_iff_getElem?_eq_some.mp he⟩
  exact hrho.injective a b (hin ha) (hin hb) heq
 rw [renameFragment,lookup_ofList_nodup hkeys,List.mem_map]
 constructor
 · rintro ⟨⟨inner,node⟩,hmem,heq⟩
   cases heq
   exact ⟨inner,node,mem_toList_iff_getElem?_eq_some.mp hmem,rfl,rfl⟩
 · rintro ⟨inner,node,hnode,rfl,rfl⟩
   exact ⟨(inner,node),mem_toList_iff_getElem?_eq_some.mpr hnode,rfl⟩

lemma contains_renameFragment(k:String):(renameFragment rho f).nodes.contains k=true ↔
  ∃inner,f.nodes.contains inner=true∧k=rho inner:=by
 simp only [OrderedMap.contains_iff,lookup_renameFragment hrho]
 constructor
 · rintro ⟨_,inner,node,hnode,rfl,rfl⟩
   exact ⟨inner,⟨node,hnode⟩,rfl⟩
 · rintro ⟨inner,⟨node,hnode⟩,rfl⟩
   exact ⟨_,inner,node,hnode,rfl,rfl⟩

variable {x:String} (hx:IsEndpoint x) (hmem:f.nodes.contains (ownerOf x)=true)

include hx hmem

lemma renamed_owner:Dotless (rho (ownerOf x))∧rho (ownerOf x)≠"" ∧
  (ownerOf x≠"$input"→ rho (ownerOf x)≠"$input") ∧
  (ownerOf x≠"$output"→ rho (ownerOf x)≠"$output"):=by
 rcases hrho.named _ hmem with heq|hname
 · rw [heq]
   exact ⟨dotless_ownerOf x,(isEndpoint_iff_parts.mp hx).2.1,id,id⟩
 · exact ⟨hname.dotless,hname.ne_empty,fun _=>hname.ne_input,fun _=>hname.ne_output⟩

lemma renamed_endpoint:IsEndpoint (renameEndpoint rho x) ∧
  ownerOf (renameEndpoint rho x)=rho (ownerOf x) ∧
  portOf (renameEndpoint rho x)=portOf x ∧
  (renameFragment rho f).nodes.contains (ownerOf (renameEndpoint rho x))=true:=by
 obtain ⟨hdot,hne,-,-⟩:=renamed_owner hrho hx hmem
 have howner:=ownerOf_renameEndpoint hx hdot
 refine ⟨isEndpoint_renameEndpoint hx hdot hne,howner,portOf_renameEndpoint hx hdot,?_⟩
 rw [howner,contains_renameFragment hrho]
 exact ⟨_,hmem,rfl⟩

lemma prefixEndpoint_rename(hn:Dotless n)
  (hsigma:sigma (generatedName n (ownerOf x))=generatedName n (rho (ownerOf x))):
  prefixEndpoint (renameEndpoint rho x) n (renameFragment rho f).nodes =
   renameEndpoint sigma (prefixEndpoint x n f.nodes):=by
 obtain ⟨hend,howner,hport,hcontains⟩:=renamed_endpoint hrho hx hmem
 rw [prefixEndpoint_eq hend hcontains,howner,hport,
  renameEndpoint_eq (isEndpoint_prefixEndpoint hn hx hmem),ownerOf_prefixEndpoint hn hx hmem,
  portOf_prefixEndpoint hn hx hmem,hsigma]
end

lemma fragmentEdge_rename(hrho:Renaming f rho){value:Value}{fe:FragmentEdge}
  (h:fragmentEdge f value=.ok fe):
  fragmentEdge (renameFragment rho f) (renamedEdgeValue (renameInnerEdge rho) value) =
   .ok (fe.rename rho):=by
 obtain ⟨e,he,⟨hs,ht⟩,hclass⟩:=fragmentEdge_ok.mp h
 refine fragmentEdge_ok.mpr ⟨_,edgeOf_renamedEdgeValue he,?_⟩
 rcases hclass with ⟨h₁,hport,hmem,rfl⟩|⟨h₁,h₂,hport,hmem,rfl⟩ |
  ⟨⟨h₁,h₃⟩,⟨h₂,h₄⟩,⟨hsmem,htmem⟩,rfl⟩
 · obtain ⟨hend,-,-,hcontains⟩:=renamed_endpoint hrho ht hmem
   rw [renameInnerEdge,if_pos h₁]
   exact ⟨⟨hs,hend⟩,.inl ⟨h₁,hport,hcontains,rfl⟩⟩
 · obtain ⟨hend,howner,-,hcontains⟩:=renamed_endpoint hrho hs hmem
   have hinput:=(renamed_owner hrho hs hmem).2.2.1 h₁
   rw [renameInnerEdge,if_neg h₁,if_pos h₂]
   exact ⟨⟨hend,ht⟩,.inr (.inl ⟨howner▸hinput,h₂,hport,hcontains,rfl⟩)⟩
 · obtain ⟨hsend,hsowner,-,hscontains⟩:=renamed_endpoint hrho hs hsmem
   obtain ⟨htend,htowner,-,htcontains⟩:=renamed_endpoint hrho ht htmem
   obtain ⟨-,-,hsin,hsout⟩:=renamed_owner hrho hs hsmem
   obtain ⟨-,-,htin,htout⟩:=renamed_owner hrho ht htmem
   rw [renameInnerEdge,if_neg h₁,if_neg h₂]
   refine ⟨⟨hsend,htend⟩,.inr (.inr ⟨⟨?_,?_⟩,⟨?_,?_⟩,⟨hscontains,htcontains⟩,rfl⟩)⟩
   · exact hsowner.symm▸hsin h₁
   · exact hsowner.symm▸hsout h₃
   · exact htowner.symm▸htout h₂
   · exact htowner.symm▸htin h₄

lemma inputTargets_rename(edges:List FragmentEdge)(port:String):
  inputTargets (edges.map (FragmentEdge.rename rho)) port =
   (inputTargets edges port).map (renameEndpoint rho):=by
 rw [inputTargets,inputTargets,filterMap_map,map_filterMap]
 apply filterMap_congr
 intro fe _
 cases fe with
 | input p target=>
  simp only [Function.comp_apply,FragmentEdge.rename]
  split <;>rfl
 | output source p=>rfl
 | internal source target=>rfl

lemma outputSources_rename(edges:List FragmentEdge)(port:String):
  outputSources (edges.map (FragmentEdge.rename rho)) port =
   (outputSources edges port).map (renameEndpoint rho):=by
 rw [outputSources,outputSources,filterMap_map,map_filterMap]
 apply filterMap_congr
 intro fe _
 cases fe with
 | input p target=>rfl
 | output source p=>
  simp only [Function.comp_apply,FragmentEdge.rename]
  split <;>rfl
 | internal source target=>rfl

lemma fragmentEdges_rename(hrho:Renaming f rho)(hf:Consistent f):
  fragmentEdges (renameFragment rho f)=.ok ((wiringOf f).map (FragmentEdge.rename rho)):=by
 have hchecked:=hf.checked
 simp only [fragmentEdges,bind_ok] at hchecked ⊢
 obtain ⟨edges,hedges,-,-,-,-,hpure⟩:=hchecked
 obtain rfl:edges=wiringOf f:=Except.ok.inj hpure
 refine ⟨_,?_,(),checkInputs_ok.mpr ?_,(),checkOutputs_ok.mpr ?_,rfl⟩
 · rw [collect_ok,renameFragment,forall₂_map_left_iff,forall₂_map_right_iff]
   exact (collect_ok.mp hedges).imp fun _ _ h=>fragmentEdge_rename hrho h
 · intro port hport
   rw [inputTargets_rename,ne_eq,map_eq_nil_iff]
   exact hf.consumed port hport
 · intro port hport
   obtain ⟨source,hsource⟩:=hf.produced port hport
   exact ⟨_,by rw [outputSources_rename,hsource,map_singleton]⟩

lemma Consistent.rename(hrho:Renaming f rho)(hf:Consistent f):Consistent (renameFragment rho f):=
 consistent_of_fragmentEdges (fragmentEdges_rename hrho hf)

lemma wiringOf_rename(hrho:Renaming f rho)(hf:Consistent f):
  wiringOf (renameFragment rho f)=(wiringOf f).map (FragmentEdge.rename rho):=by
 rw [wiringOf,fragmentEdges_rename hrho hf]

lemma whenInside_rename(hrho:Renaming f rho)(h:WhenInside f node):
  WhenInside (renameFragment rho f) (renamedNode rho node):=by
 intro reference hw
 rw [whenOf_renamedNode] at hw
 obtain ⟨old,hold,rfl⟩:=map_eq_some_iff.mp hw
 obtain ⟨hend,hmem⟩:=h old hold
 obtain ⟨hend',-,-,hcontains⟩:=renamed_endpoint hrho hend hmem
 exact ⟨hend',hcontains⟩

/-- The renaming of the generated names goes along with that of the internal nodes. -/
def Lifts (n:String) (f:Fragment) (rho sigma:String→String) : Prop :=
 ∀inner,f.nodes.contains inner=true→sigma (generatedName n inner)=generatedName n (rho inner)

section
variable (hn:Dotless n) (hf:Consistent f) (hrho:Renaming f rho) (hsigma:Lifts n f rho sigma)

include hn hf hrho hsigma

lemma prefixedInternal_rename:prefixedInternal n (renameFragment rho f) =
  (prefixedInternal n f).map (renameEdge sigma):=by
 rw [prefixedInternal,prefixedInternal,wiringOf_rename hrho hf,filterMap_map,map_filterMap]
 apply filterMap_congr
 intro fe hfe
 cases fe with
 | input p target=>rfl
 | output source p=>rfl
 | internal source target=>
  obtain ⟨⟨hs,hsmem⟩,ht,htmem⟩:=hf.valid _ hfe
  simp only [Function.comp_apply,FragmentEdge.rename,map_some,renameEdge,
   prefixEndpoint_rename hrho hs hsmem hn (hsigma _ hsmem),
   prefixEndpoint_rename hrho ht htmem hn (hsigma _ htmem)]

lemma prefixedInputs_rename:prefixedInputs n (renameFragment rho f) =
  (prefixedInputs n f).map fun x=>(x.1,renameEndpoint sigma x.2):=by
 rw [prefixedInputs,prefixedInputs,wiringOf_rename hrho hf,filterMap_map,map_filterMap]
 apply filterMap_congr
 intro fe hfe
 cases fe with
 | input p target=>
  obtain ⟨-,ht,htmem⟩:=hf.valid _ hfe
  simp only [Function.comp_apply,FragmentEdge.rename,map_some,
   prefixEndpoint_rename hrho ht htmem hn (hsigma _ htmem)]
 | output source p=>rfl
 | internal source target=>rfl

lemma outputProducer_rename{port:String}(hport:port∈f.interface.outputs):
  outputProducer n (renameFragment rho f) (wiringOf (renameFragment rho f)) port =
   renameEndpoint sigma (outputProducer n f (wiringOf f) port):=by
 obtain ⟨source,hsource⟩:=hf.produced port hport
 have hmem:FragmentEdge.output source port∈wiringOf f:=
  mem_outputSources.mp (by rw [hsource];exact mem_singleton_self source)
 obtain ⟨-,hs,hsmem⟩:=hf.valid _ hmem
 rw [outputProducer,outputProducer,wiringOf_rename hrho hf,outputSources_rename,hsource,
  map_singleton,headD_cons,headD_cons,
  prefixEndpoint_rename hrho hs hsmem hn (hsigma _ hsmem)]
end

lemma setWhen_setWhen(a b:String)(node:Value):setWhen a (setWhen b node)=setWhen a node:=by
 cases node with
 | object members=>exact congrArg Value.object (insertKey_insertKey _ _ _ _)
 | _=>rfl

lemma setWhen_renamedNode(a:String)(node:Value):setWhen a (renamedNode rho node)=setWhen a node:=by
 unfold renamedNode
 cases whenOf node with
 | none=>rfl
 | some reference=>
  simp only
  split
  · rfl
  · exact setWhen_setWhen _ _ _

lemma renamedNode_setWhen{old:String}(h:whenOf node=some old)(a:String):
  renamedNode rho (setWhen a node)=setWhen (renameEndpoint rho a) node:=by
 unfold renamedNode
 rw [whenOf_setWhen h]
 simp only
 split
 · next heq=>rw [heq]
 · exact setWhen_setWhen _ _ _

lemma expandedNode_rename(hn:Dotless n)(hrho:Renaming f rho)(hsigma:Lifts n f rho sigma)
  (hinside:WhenInside f node):
  expandedNode n (renameFragment rho f) (renamedNode rho node) =
   renamedNode sigma (expandedNode n f node):=by
 cases hw:whenOf node with
 | none=>
  have hleft:renamedNode rho node=node:=by simp only [renamedNode,hw]
  have hright:expandedNode n f node=node:=by simp only [expandedNode,hw]
  rw [hleft,hright]
  simp only [expandedNode,renamedNode,hw]
 | some reference=>
  obtain ⟨hend,hmem⟩:=hinside reference hw
  have hleft:expandedNode n (renameFragment rho f) (renamedNode rho node) =
    setWhen (prefixEndpoint (renameEndpoint rho reference) n (renameFragment rho f).nodes)
     node:=by
   rw [expandedNode,whenOf_renamedNode,hw,map_some]
   exact setWhen_renamedNode _ _
  have hright:expandedNode n f node=setWhen (prefixEndpoint reference n f.nodes) node:=by
   simp only [expandedNode,hw]
  rw [hleft,hright,renamedNode_setWhen hw,prefixEndpoint_rename hrho hend hmem hn (hsigma _ hmem)]

/-- No root edge and no root `when` reference names a node that an instance generates. -/
structure NoInternalReference (g:Graph) (instances:List Instance) : Prop where
 edges:∀value∈g.edges,∀e,edgeOf value=.ok e → ∀i∈instances,
  ¬Generates i.1 i.2 (ownerOf e.1)∧¬Generates i.1 i.2 (ownerOf e.2)
 whens:∀(k reference:String) (node:Value),g.nodes[k]?=some node →
  whenOf node=some reference → ∀i∈instances,¬Generates i.1 i.2 (ownerOf reference)

structure Renamed (sigma:String→String) (r r':Graph) : Prop where
 nodes:∀(k:String) (v:Value),r'.nodes[k]?=some v ↔
  ∃(k₀:String) (v₀:Value),r.nodes[k₀]?=some v₀∧k=sigma k₀∧v=renamedNode sigma v₀
 edges:r'.edges.Perm (r.edges.map (renamedEdgeValue (renameEdge sigma)))

def renamedInstances (rhos:String→String→String) (instances:List Instance) : List Instance :=
 instances.map fun i=>(i.1,renameFragment (rhos i.1) i.2)

structure RenamesInstances (rhos:String→String→String) (sigma:String→String)
  (instances:List Instance) : Prop where
 inner:∀i∈instances,Renaming i.2 (rhos i.1)
 lifts:∀i∈instances,Lifts i.1 i.2 (rhos i.1) sigma
 fixed:∀k,(∀i∈instances,¬Generates i.1 i.2 k)→sigma k=k

variable {instances:List Instance} {E:List Edge} {rhos:String→String→String}

@[simp] lemma names_renamedInstances(rhos:String→String→String)(instances:List Instance):
  (renamedInstances rhos instances).map Prod.fst=instances.map Prod.fst:=by
 rw [renamedInstances,List.map_map]
 rfl

lemma mem_renamedInstances{j:Instance}:j∈renamedInstances rhos instances ↔
  ∃i∈instances,j=(i.1,renameFragment (rhos i.1) i.2):=by
 rw [renamedInstances,List.mem_map]
 simp only [eq_comm]

lemma SlotNodes.rename (h:SlotNodes g instances) (rhos:String→String→String) :
  SlotNodes g (renamedInstances rhos instances) where
 names:=by
  rw [names_renamedInstances]
  exact h.names
 named j hj:=by
  obtain ⟨i,hi,rfl⟩:=mem_renamedInstances.mp hj
  exact h.named i hi
 slot j hj:=by
  obtain ⟨i,hi,rfl⟩:=mem_renamedInstances.mp hj
  exact h.slot i hi

section
variable (hslots:SlotNodes g instances) (hc:Composable g E instances)
 (hren:RenamesInstances rhos sigma instances)

include hc hren

lemma Composable.rename (hdistinct:(renamedInstances rhos instances).Pairwise fun i j=>
  ∀k,Generates i.1 i.2 k→¬Generates j.1 j.2 k) :
  Composable g E (renamedInstances rhos instances) where
 consistent j hj:=by
  obtain ⟨i,hi,rfl⟩:=mem_renamedInstances.mp hj
  exact (hc.consistent i hi).rename (hren.inner i hi)
 inside j hj k v hv:=by
  obtain ⟨i,hi,rfl⟩:=mem_renamedInstances.mp hj
  obtain ⟨inner,node,hnode,rfl,rfl⟩:=(lookup_renameFragment (hren.inner i hi) k v).mp hv
  exact whenInside_rename (hren.inner i hi) (hc.inside i hi inner node hnode)
 ports j hj e he:=by
  obtain ⟨i,hi,rfl⟩:=mem_renamedInstances.mp hj
  exact hc.ports i hi e he
 single j hj:=by
  obtain ⟨i,hi,rfl⟩:=mem_renamedInstances.mp hj
  exact hc.single i hi
 whens j hj:=by
  obtain ⟨i,hi,rfl⟩:=mem_renamedInstances.mp hj
  exact hc.whens i hi
 distinct:=hdistinct

include hslots

lemma resolved_rename(hport:∀i∈instances,ownerOf x=i.1→portOf x∈i.2.interface.outputs)
  (hfree:∀i∈instances,¬Generates i.1 i.2 (ownerOf x)):
  resolved (renamedInstances rhos instances) x=renameEndpoint sigma (resolved instances x):=by
 by_cases howner:ownerOf x∈instances.map Prod.fst
 · obtain ⟨i,hi,hname⟩:=List.mem_map.mp howner
   have hj:(i.1,renameFragment (rhos i.1) i.2)∈renamedInstances rhos instances:=
    mem_renamedInstances.mpr ⟨i,hi,rfl⟩
   rw [resolved_of_mem (hslots.rename rhos).names hj hname.symm,
    resolved_of_mem hslots.names hi hname.symm]
   exact outputProducer_rename (hslots.dotless hi) (hc.consistent i hi) (hren.inner i hi)
    (hren.lifts i hi) (hport i hi hname.symm)
 · have howner':ownerOf x∉(renamedInstances rhos instances).map Prod.fst:=by
    rwa [names_renamedInstances]
   rw [resolved_of_not_mem howner,resolved_of_not_mem howner',
    renameEndpoint_of_fixed (hren.fixed _ hfree)]

lemma resolvedNode_rename{k:String}(hnode:g.nodes[k]?=some node)
  (hfree:∀reference,whenOf node=some reference→∀i∈instances,
   ¬Generates i.1 i.2 (ownerOf reference)):
  resolvedNode (renamedInstances rhos instances) node =
   renamedNode sigma (resolvedNode instances node):=by
 cases hw:whenOf node with
 | none=>simp only [resolvedNode,renamedNode,hw]
 | some reference=>
  by_cases howner:ownerOf reference∈instances.map Prod.fst
  · have hres:=resolved_rename hslots hc hren (x:=reference)
     (fun i hi=>(hc.whens i hi k node hnode reference hw).2) (hfree reference hw)
    have hright:resolvedNode instances node=setWhen (resolved instances reference) node:=by
     simp only [resolvedNode,hw,if_pos howner]
    rw [hright,renamedNode_setWhen hw,←hres]
    simp only [resolvedNode,hw,names_renamedInstances,if_pos howner]
  · have hright:resolvedNode instances node=node:=by simp only [resolvedNode,hw,if_neg howner]
    have hfix:=renameEndpoint_of_fixed (hren.fixed _ (hfree reference hw))
    rw [hright]
    simp only [resolvedNode,renamedNode,hw,names_renamedInstances,if_neg howner,hfix,if_true]

lemma flatEdges_rename(hfree:∀e∈E,∀i∈instances,
  ¬Generates i.1 i.2 (ownerOf e.1)∧¬Generates i.1 i.2 (ownerOf e.2)):
  flatEdges (renamedInstances rhos instances) E=(flatEdges instances E).map (renameEdge sigma):=by
 have hsource:∀e∈E,resolved (renamedInstances rhos instances) e.1 =
   renameEndpoint sigma (resolved instances e.1):=by
  intro e he
  exact resolved_rename hslots hc hren (fun i hi=>(hc.ports i hi e he).outputPort)
   fun i hi=>(hfree e he i hi).1
 rw [flatEdges_eq,flatEdges_eq,map_append,names_renamedInstances,List.map_map,map_flatMap]
 congr 1
 · apply map_congr_left
   intro e he
   obtain ⟨he,-⟩:=List.mem_filter.mp he
   have htarget:=renameEndpoint_of_fixed (hren.fixed _ fun i hi=>(hfree e he i hi).2)
   simp only [Function.comp_apply,renameEdge,hsource e he,htarget]
 · conv_lhs=>rw [renamedInstances,flatMap_map]
   apply flatMap_congr
   intro i hi
   rw [map_append,prefixedInternal_rename (hslots.dotless hi) (hc.consistent i hi)
    (hren.inner i hi) (hren.lifts i hi),prefixedInputs_rename (hslots.dotless hi)
    (hc.consistent i hi) (hren.inner i hi) (hren.lifts i hi),List.map_map,List.map_map]
   congr 1
   apply map_congr_left
   intro x hx
   obtain ⟨e,he,-,hfrom⟩:=sourceOf_input hslots hc hi hx
   have hres:=hsource e he
   simp only [Function.comp_apply,renameEdge,hfrom]
   rw [←hres]
   rfl
end

lemma Expanded.renamed_nodes{r':Graph}(hslots:SlotNodes g instances)
  (hfresh:Fresh g instances)(hren:RenamesInstances rhos sigma instances)
  (hfree:∀(k reference:String) (node:Value),g.nodes[k]?=some node →
   whenOf node=some reference→∀i∈instances,¬Generates i.1 i.2 (ownerOf reference))
  (h:Expanded g E instances r)(h':Expanded g E (renamedInstances rhos instances) r')
  (k:String)(v:Value):r'.nodes[k]?=some v ↔ ∃(k₀:String) (v₀:Value),
   r.nodes[k₀]?=some v₀∧k=sigma k₀∧v=renamedNode sigma v₀:=by
 have hroot:∀{k:String} {node:Value},g.nodes[k]?=some node→sigma k=k:=by
  intro k node hnode
  apply hren.fixed
  intro i hi hgen
  have hnone:=(contains_eq_false_iff _).mp (hfresh i hi k hgen)
  rw [hnode] at hnone
  cases hnone
 rw [h'.nodes]
 constructor
 · rintro (⟨j,hj,k',node',hnode',rfl,rfl⟩|⟨hk,node,hnode,rfl⟩)
   · obtain ⟨i,hi,rfl⟩:=mem_renamedInstances.mp hj
     obtain ⟨inner,node,hnode,rfl,rfl⟩:=(lookup_renameFragment (hren.inner i hi) k' node').mp hnode'
     refine ⟨_,_,(h.nodes _ _).mpr (.inl ⟨i,hi,inner,node,hnode,rfl,rfl⟩),?_,?_⟩
     · exact (hren.lifts i hi inner ((contains_iff _).mpr ⟨node,hnode⟩)).symm
     · exact expandedNode_rename (hslots.dotless (i:=i) hi) (hren.inner i hi) (hren.lifts i hi)
        (h.inside i hi inner node hnode)
   · rw [names_renamedInstances] at hk
     refine ⟨k,_,(h.nodes _ _).mpr (.inr ⟨hk,node,hnode,rfl⟩),(hroot hnode).symm,?_⟩
     exact resolvedNode_rename hslots h.toComposable hren hnode fun reference hw=>
      hfree k reference node hnode hw
 · rintro ⟨k₀,v₀,hv₀,rfl,rfl⟩
   rcases (h.nodes k₀ v₀).mp hv₀ with ⟨i,hi,inner,node,hnode,rfl,rfl⟩|⟨hk,node,hnode,rfl⟩
   · refine .inl ⟨_,mem_renamedInstances.mpr ⟨i,hi,rfl⟩,rhos i.1 inner,
      renamedNode (rhos i.1) node,?_,?_,?_⟩
     · exact (lookup_renameFragment (hren.inner i hi) _ _).mpr ⟨inner,node,hnode,rfl,rfl⟩
     · exact hren.lifts i hi inner ((contains_iff _).mpr ⟨node,hnode⟩)
     · exact (expandedNode_rename (hslots.dotless hi) (hren.inner i hi) (hren.lifts i hi)
        (h.inside i hi inner node hnode)).symm
   · rw [hroot hnode]
     refine .inr ⟨by rwa [names_renamedInstances],node,hnode,?_⟩
     exact (resolvedNode_rename hslots h.toComposable hren hnode fun reference hw=>
      hfree k₀ reference node hnode hw).symm

lemma generated_unique(hd:instances.Pairwise fun i j=>
  ∀k,Generates i.1 i.2 k→¬Generates j.1 j.2 k){i j:Instance}(hi:i∈instances)
  (hj:j∈instances){k:String}(hik:Generates i.1 i.2 k)(hjk:Generates j.1 j.2 k):
  i=j:=by
 by_contra hne
 have hsymm:Std.Symm fun i j:Instance=>∀k,Generates i.1 i.2 k→¬Generates j.1 j.2 k:=
  ⟨fun _ _ h k hb ha=>h k ha hb⟩
 exact hd.forall hi hj hne k hik hjk

lemma Expanded.renaming_injective(hslots:SlotNodes g instances)(hfresh:Fresh g instances)
  (hren:RenamesInstances rhos sigma instances)
  (hfresh':Fresh g (renamedInstances rhos instances))
  (hdistinct:(renamedInstances rhos instances).Pairwise fun i j=>
   ∀k,Generates i.1 i.2 k→¬Generates j.1 j.2 k)
  (h:Expanded g E instances r){a b:String}(ha:r.nodes.contains a=true)
  (hb:r.nodes.contains b=true)(heq:sigma a=sigma b):a=b:=by
 have hcases:∀{k:String},r.nodes.contains k=true →
   (∃i∈instances,∃inner,i.2.nodes.contains inner=true∧k=generatedName i.1 inner ∧
    sigma k=generatedName i.1 (rhos i.1 inner)) ∨
   (sigma k=k∧g.nodes.contains k=true):=by
  intro k hk
  obtain ⟨v,hv⟩:=(contains_iff _).mp hk
  rcases (h.nodes k v).mp hv with ⟨i,hi,inner,node,hnode,rfl,-⟩|⟨-,node,hnode,-⟩
  · have hinner:=(contains_iff _).mpr ⟨node,hnode⟩
    exact .inl ⟨i,hi,inner,hinner,rfl,hren.lifts i hi inner hinner⟩
  · have hroot:g.nodes.contains k=true:=(contains_iff _).mpr ⟨node,hnode⟩
    refine .inr ⟨hren.fixed k fun i hi hgen=>?_,hroot⟩
    rw [hfresh i hi k hgen] at hroot
    cases hroot
 have hgen:∀{i:Instance} {inner:String},i∈instances→i.2.nodes.contains inner=true →
   Generates i.1 (renameFragment (rhos i.1) i.2) (generatedName i.1 (rhos i.1 inner)):=
  fun {i inner} hi hinner=>
   ⟨_,(contains_renameFragment (hren.inner i hi) _).mpr ⟨inner,hinner,rfl⟩,rfl⟩
 have hmem:∀{i:Instance},i∈instances →
   (i.1,renameFragment (rhos i.1) i.2)∈renamedInstances rhos instances:=
  fun {i} hi=>mem_renamedInstances.mpr ⟨i,hi,rfl⟩
 rcases hcases ha with ⟨i,hi,inner,hinner,rfl,hsa⟩|⟨hsa,hga⟩
 · rcases hcases hb with ⟨j,hj,inner',hinner',rfl,hsb⟩|⟨hsb,hgb⟩
   · rw [hsa,hsb] at heq
     have hsame:=generated_unique hdistinct (hmem hi) (hmem hj) (hgen hi hinner)
      (heq▸hgen hj hinner')
     have hij:i=j:=inj_on_of_nodup_map hslots.names hi hj (Prod.mk.inj hsame).1
     subst hij
     rw [(hren.inner i hi).injective _ _ hinner hinner' (generatedName_injective _ heq)]
   · rw [hsa,hsb] at heq
     have hfree:=hfresh' _ (hmem hi) _ (hgen hi hinner)
     rw [heq,hgb] at hfree
     cases hfree
 · rcases hcases hb with ⟨j,hj,inner',hinner',rfl,hsb⟩|⟨hsb,-⟩
   · rw [hsa,hsb] at heq
     have hfree:=hfresh' _ (hmem hj) _ (hgen hj hinner')
     rw [←heq,hga] at hfree
     cases hfree
   · rw [←hsa,heq,hsb]

lemma Renamed.size_eq{r':Graph}(h:Renamed sigma r r')
  (hinj:∀a b,r.nodes.contains a=true→ r.nodes.contains b=true→sigma a=sigma b→a=b):
  r'.nodes.size=r.nodes.size:=by
 have hperm:r'.nodes.toList.Perm
   (r.nodes.toList.map fun e=>(sigma e.1,renamedNode sigma e.2)):=by
  rw [perm_ext_iff_of_nodup (nodup_toList _)]
  · rintro ⟨k,v⟩
    rw [mem_toList_iff_getElem?_eq_some,h.nodes,List.mem_map]
    constructor
    · rintro ⟨k₀,v₀,hv₀,rfl,rfl⟩
      exact ⟨(k₀,v₀),mem_toList_iff_getElem?_eq_some.mpr hv₀,rfl⟩
    · rintro ⟨⟨k₀,v₀⟩,hmem,heq⟩
      cases heq
      exact ⟨k₀,v₀,mem_toList_iff_getElem?_eq_some.mp hmem,rfl,rfl⟩
  · apply List.Nodup.map_on _ (nodup_toList _)
    rintro ⟨a,v⟩ ha ⟨b,w⟩ hb heq
    rw [mem_toList_iff_getElem?_eq_some] at ha hb
    have hkey:=hinj a b ((contains_iff _).mpr ⟨v,ha⟩) ((contains_iff _).mpr ⟨w,hb⟩)
     (congrArg Prod.fst heq)
    subst hkey
    rw [ha] at hb
    cases hb
    rfl
 have hlength:=hperm.length_eq
 rwa [length_map,ExtTreeMap.length_toList,ExtTreeMap.length_toList] at hlength

end GraphBlocks.Composition
