import GraphBlocks.CompositionSplice

namespace GraphBlocks.Composition
open Json OrderedMap RustStd GraphNormalization Wiring List Option

abbrev Instance := String×Fragment

def components (instances:List Instance) : List (Component String String) :=
 instances.map fun i=>component i.1 i.2

/-- The prefixed producer behind an endpoint of one of the instances. -/
def resolved (instances:List Instance) (x:String) : String :=
 resolve ownerOf (components instances) x

def resolvedNode (instances:List Instance) (node:Value) : Value :=
 match whenOf node with
 | none=>node
 | some reference=>
  if ownerOf reference∈instances.map Prod.fst then setWhen (resolved instances reference) node
  else node

/-- The wiring with all instances in place. -/
def flatEdges (instances:List Instance) (E:List Edge) : List Edge :=
 flatten ownerOf (components instances) E

variable {instances:List Instance} {n:String} {f:Fragment} {g m r:Graph} {E:List Edge}

@[simp] lemma names_components(instances:List Instance):
  (components instances).map Component.name=instances.map Prod.fst:=by
 rw [components,List.map_map]
 rfl

lemma components_concat(instances:List Instance)(n:String)(f:Fragment):
  components (instances++[(n,f)])=components instances++[component n f]:=by
 rw [components,map_append]
 rfl

lemma resolved_of_not_mem{x:String}(h:ownerOf x∉instances.map Prod.fst):resolved instances x=x:=
 resolve_of_not_mem (by rwa [names_components])

variable {i:Instance}

lemma resolved_of_mem(hn:(instances.map Prod.fst).Nodup)(hi:i∈instances){x:String}
  (hx:ownerOf x=i.1):resolved instances x=outputProducer i.1 i.2 (wiringOf i.2) (portOf x):=by
 rw [←names_components] at hn
 exact resolve_of_mem hn (List.mem_map_of_mem hi) hx

@[simp] lemma flatEdges_nil(E:List Edge):flatEdges [] E=E:=by
 simp [flatEdges,Wiring.flatten,components,resolve]

lemma flatEdges_eq(instances:List Instance)(E:List Edge):flatEdges instances E =
  ((E.filter fun e=>ownerOf e.2∉instances.map Prod.fst).map fun e=>
   (resolved instances e.1,e.2)) ++
   instances.flatMap fun i=>prefixedInternal i.1 i.2 ++
    (prefixedInputs i.1 i.2).map fun x=>(resolved instances (sourceOf E x.1),x.2):=by
 have hinterior:((components instances).flatMap
   (interior (resolve ownerOf (components instances)) E)) =
   instances.flatMap fun i=>prefixedInternal i.1 i.2 ++
    (prefixedInputs i.1 i.2).map fun x=>(resolved instances (sourceOf E x.1),x.2):=by
  conv_lhs=>rw [components,flatMap_map]
  rfl
 rw [←hinterior,flatEdges,flatten_eq,names_components]
 rfl

variable {e:Edge}

lemma mem_flatEdges:e∈flatEdges instances E ↔
  (∃e₀∈E,ownerOf e₀.2∉instances.map Prod.fst∧e=(resolved instances e₀.1,e₀.2)) ∨
  ∃i∈instances,e∈prefixedInternal i.1 i.2 ∨
   ∃x∈prefixedInputs i.1 i.2,e=(resolved instances (sourceOf E x.1),x.2):=by
 rw [flatEdges_eq,mem_append,mem_flatMap]
 apply or_congr
 · rw [List.mem_map]
   constructor
   · rintro ⟨e₀,he₀,rfl⟩
     obtain ⟨hmem,howner⟩:=mem_filter.mp he₀
     exact ⟨e₀,hmem,of_decide_eq_true howner,rfl⟩
   · rintro ⟨e₀,hmem,howner,rfl⟩
     exact ⟨e₀,mem_filter.mpr ⟨hmem,decide_eq_true howner⟩,rfl⟩
 · apply exists_congr
   intro i
   rw [mem_append,List.mem_map]
   simp only [eq_comm]

variable {node:Value}

lemma whenOf_setWhen{old:String}(h:whenOf node=some old)
  (reference:String):whenOf (setWhen reference node)=some reference:=by
 unfold whenOf at h
 split at h
 · simp [setWhen,whenOf,lookup_insertKey]
 · cases h

lemma whenOf_expandedNode{reference:String}(h:whenOf (expandedNode n f node)=some reference):
  ∃old,whenOf node=some old∧reference=prefixEndpoint old n f.nodes:=by
 unfold expandedNode at h
 cases hw:whenOf node with
 | none=>
  rw [hw] at h
  simp [hw] at h
 | some old=>
  rw [hw] at h
  have hset:=whenOf_setWhen hw (prefixEndpoint old n f.nodes)
  exact ⟨old,rfl,some.inj (h.symm.trans hset)⟩

lemma whenOf_resolvedNode{reference:String}(h:whenOf (resolvedNode instances node)=some reference):
  ∃old,whenOf node=some old∧reference=resolved instances old:=by
 unfold resolvedNode at h
 cases hw:whenOf node with
 | none=>
  rw [hw] at h
  simp [hw] at h
 | some old=>
  refine ⟨old,rfl,?_⟩
  simp only [hw] at h
  split at h
  · exact some.inj (h.symm.trans (whenOf_setWhen hw _))
  · next howner=>
    rw [hw] at h
    cases h
    exact (resolved_of_not_mem howner).symm

@[simp] lemma resolvedNode_nil(node:Value):resolvedNode [] node=node:=by
 unfold resolvedNode
 cases whenOf node <;>simp

lemma rewrittenNode_of_ne{c:Component String String}
  (h:∀reference,whenOf node=some reference→ ownerOf reference≠c.name):
  rewrittenNode c node=node:=by
 unfold rewrittenNode
 cases hw:whenOf node with
 | none=>rfl
 | some reference=>exact if_neg (h reference hw)

/-- What splicing the instances checks of the root graph and of the fragments. -/
structure Composable (g:Graph) (E:List Edge) (instances:List Instance) : Prop where
 consistent:∀i∈instances,Consistent i.2
 inside:∀i∈instances,∀(inner:String) (node:Value),i.2.nodes[inner]?=some node→WhenInside i.2 node
 ports:∀i∈instances,∀e∈E,KnownPorts i.1 i.2.interface e
 single:∀i∈instances,∀port∈i.2.interface.inputs,∃e,inbound E i.1 port=[e]
 whens:∀i∈instances,∀(k:String) (node:Value),g.nodes[k]?=some node→WhenKnown i.1 i.2 node
 distinct:instances.Pairwise fun i j=>∀k,Generates i.1 i.2 k→¬Generates j.1 j.2 k

/-- The graph after the splices. A generated name may only be that of a slot node that was
spliced before. -/
structure Expanded (g:Graph) (E:List Edge) (instances:List Instance) (r:Graph) :
  Prop extends Composable g E instances where
 edges:∃es,collect edgeOf r.edges=.ok es∧es.Perm (flatEdges instances E)
 nodes:∀(k:String) (v:Value),r.nodes[k]?=some v ↔
  (∃i∈instances,∃(inner:String) (node:Value),i.2.nodes[inner]?=some node ∧
   k=generatedName i.1 inner∧v=expandedNode i.1 i.2 node) ∨
  (k∉instances.map Prod.fst ∧ ∃node:Value,g.nodes[k]?=some node∧v=resolvedNode instances node)
 fresh:∀i∈instances,∀k,Generates i.1 i.2 k → g.nodes.contains k=true→k∈instances.map Prod.fst

structure SlotNodes (g:Graph) (instances:List Instance) : Prop where
 names:(instances.map Prod.fst).Nodup
 named:∀i∈instances,isCompositionName i.1=true
 slot:∀i∈instances,∃node : Value,g.nodes[i.1]?=some node∧whenOf node=none

lemma SlotNodes.dotless(h:SlotNodes g instances)(hi:i∈instances):
  Dotless i.1:=dotless_of_isCompositionName (h.named i hi)

lemma SlotNodes.ne_empty(h:SlotNodes g instances)(hi:i∈instances):
  i.1≠"":=ne_empty_of_isCompositionName (h.named i hi)

lemma SlotNodes.sublist {sub:List Instance} (h:SlotNodes g instances)
  (hsub:sub.Sublist instances) : SlotNodes g sub where
 names:=h.names.sublist (hsub.map _)
 named i hi:=h.named i (hsub.subset hi)
 slot i hi:=h.slot i (hsub.subset hi)

lemma SlotNodes.perm {other:List Instance} (h:SlotNodes g instances)
  (hp:other.Perm instances) : SlotNodes g other where
 names:=(hp.map _).nodup_iff.mpr h.names
 named i hi:=h.named i (hp.mem_iff.mp hi)
 slot i hi:=h.slot i (hp.mem_iff.mp hi)

lemma expanded_nil (hE:collect edgeOf g.edges=.ok E) : Expanded g E [] g where
 consistent:=by simp
 inside:=by simp
 ports:=by simp
 single:=by simp
 whens:=by simp
 distinct:=List.Pairwise.nil
 edges:=⟨E,hE,by simp⟩
 nodes:=by simp
 fresh:=by simp

section
variable (hslots:SlotNodes g instances) (hc:Composable g E instances)

include hslots hc

lemma resolved_cases{x:String}(hx:IsEndpoint x)
  (hport:∀i∈instances,ownerOf x=i.1→portOf x∈i.2.interface.outputs):
  IsEndpoint (resolved instances x)∧((ownerOf x∉instances.map Prod.fst∧resolved instances x=x) ∨
    ∃i∈instances,ownerOf x=i.1∧Generates i.1 i.2 (ownerOf (resolved instances x))):=by
 by_cases howner:ownerOf x∈instances.map Prod.fst
 · obtain ⟨i,hi,hname⟩:=List.mem_map.mp howner
   have hspec:=outputProducer_spec (hslots.dotless hi) (hc.consistent i hi)
    (hport i hi hname.symm)
   rw [resolved_of_mem hslots.names hi hname.symm]
   exact ⟨hspec.1,.inr ⟨i,hi,hname.symm,hspec.2⟩⟩
 · rw [resolved_of_not_mem howner]
   exact ⟨hx,.inl ⟨howner,rfl⟩⟩

lemma resolved_source(he:e∈E)(hx:IsEndpoint e.1):IsEndpoint (resolved instances e.1) ∧
   ((ownerOf e.1∉instances.map Prod.fst∧resolved instances e.1=e.1) ∨ ∃i∈instances,ownerOf e.1=i.1 ∧
     Generates i.1 i.2 (ownerOf (resolved instances e.1))):=
 resolved_cases hslots hc hx fun i hi=>(hc.ports i hi e he).outputPort

lemma sourceOf_input(hi:i∈instances){x:Edge}(hx:x∈prefixedInputs i.1 i.2):
  ∃e∈E,ownerOf e.2=i.1∧sourceOf E x.1=e.1:=by
 obtain ⟨port,target,hmem,rfl⟩:=mem_prefixedInputs.mp hx
 obtain ⟨hport,-,-⟩:=(hc.consistent i hi).valid _ hmem
 obtain ⟨e,he⟩:=hc.single i hi port hport
 have hin:e∈inbound E i.1 port:=by
  rw [he]
  exact mem_singleton_self e
 obtain ⟨heE,htarget⟩:=mem_filter.mp hin
 refine ⟨e,heE,?_,sourceOf_of_inbound he⟩
 rw [decide_eq_true_eq.mp htarget,ownerOf_joined (hslots.dotless hi)]

lemma flatEdges_cases(he:e∈flatEdges instances E):(∃i∈instances,e∈prefixedInternal i.1 i.2) ∨
  ∃e₀∈E,e.1=resolved instances e₀.1∧((ownerOf e₀.2∉instances.map Prod.fst∧e.2=e₀.2) ∨
    ∃i∈instances,ownerOf e₀.2=i.1∧IsEndpoint e.2∧Generates i.1 i.2 (ownerOf e.2)):=by
 rcases mem_flatEdges.mp he with ⟨e₀,he₀,howner,rfl⟩|⟨i,hi,hint|⟨x,hx,rfl⟩⟩
 · exact .inr ⟨e₀,he₀,rfl,.inl ⟨howner,rfl⟩⟩
 · exact .inl ⟨i,hi,hint⟩
 · obtain ⟨e₀,he₀,howner,hsource⟩:=sourceOf_input hslots hc hi hx
   refine .inr ⟨e₀,he₀,by rw [hsource],.inr ⟨i,hi,howner,?_⟩⟩
   exact (prefixedInputs_spec (hslots.dotless hi) (hc.consistent i hi) hx).2

omit hslots in
lemma exists_flatEdge(he:e∈E):∃target,(resolved instances e.1,target)∈flatEdges instances E ∧
   (ownerOf e.2∉instances.map Prod.fst→target=e.2):=by
 by_cases howner:ownerOf e.2∈instances.map Prod.fst
 · obtain ⟨i,hi,hname⟩:=List.mem_map.mp howner
   have hknown:=hc.ports i hi e he
   have hport:=hknown.inputPort hname.symm
   obtain ⟨target,htarget⟩:=exists_mem_of_ne_nil _ ((hc.consistent i hi).consumed _ hport)
   have hx:(i.1++"."++portOf e.2,prefixEndpoint target i.1 i.2.nodes) ∈ prefixedInputs i.1 i.2:=
    mem_prefixedInputs.mpr ⟨_,_,mem_inputTargets.mp htarget,rfl⟩
   have hjoined:e.2=i.1++"."++portOf e.2:=by
    rw [hname]
    exact hknown.target.joined.symm
   obtain ⟨e',he'⟩:=hc.single i hi _ hport
   have hin:e∈inbound E i.1 (portOf e.2):=mem_filter.mpr ⟨he,decide_eq_true hjoined⟩
   have hsource:sourceOf E (i.1++"."++portOf e.2)=e.1:=by
    rw [he',mem_singleton] at hin
    exact (sourceOf_of_inbound he').trans (congrArg Prod.fst hin.symm)
   refine ⟨prefixEndpoint target i.1 i.2.nodes,?_,fun hnot=>absurd howner hnot⟩
   rw [mem_flatEdges]
   refine .inr ⟨i,hi,.inr ⟨_,hx,?_⟩⟩
   rw [hsource]
 · exact ⟨e.2,mem_flatEdges.mpr (.inl ⟨e,he,howner,rfl⟩),fun _=>rfl⟩
end

section
variable (hslots:SlotNodes g (instances++[(n,f)])) (hm:Expanded g E instances m)

include hslots hm

omit hm in
lemma next_not_mem:n∉instances.map Prod.fst:=by
 intro hmem
 have hnodup:=hslots.names
 rw [map_append,map_singleton] at hnodup
 exact (nodup_append.mp hnodup).2.2 n hmem n (mem_singleton_self n) rfl

lemma not_generates_next(hi:i∈instances):¬Generates i.1 i.2 n:=by
 intro hgen
 obtain ⟨node,hnode,-⟩:=hslots.slot (n,f) mem_concat_self
 exact next_not_mem hslots (hm.fresh i hi n hgen ((contains_iff _).mpr ⟨node,hnode⟩))

omit hm in
lemma slotNodes_init:SlotNodes g instances:=hslots.sublist (sublist_append_left _ _)

lemma apart_next:∀d∈components instances,Apart ownerOf d n:=by
 intro d hd
 obtain ⟨i,hi,rfl⟩:=List.mem_map.mp hd
 have hinit:=slotNodes_init hslots
 exact component_apart (hinit.dotless hi) (hm.consistent i hi)
  (hslots.ne_empty (i:=(n,f)) mem_concat_self) (not_generates_next hslots hm hi)

lemma inbound_flatEdges(port:String):(inbound (flatEdges instances E) n port) =
  (inbound E n port).map fun e=>(resolved instances e.1,e.2):=by
 have hn:Dotless n:=hslots.dotless (i:=(n,f)) mem_concat_self
 have hinterior:((components instances).flatMap
   (interior (resolve ownerOf (components instances)) E)).filter
   (fun e=>decide (e.2=n++"."++port))=[]:=by
  rw [filter_eq_nil_iff]
  intro e he htarget
  obtain ⟨d,hd,he⟩:=mem_flatMap.mp he
  refine interior_target (apart_next hslots hm d hd) he ?_
  rw [decide_eq_true_eq.mp htarget,ownerOf_joined hn]
 unfold inbound flatEdges
 rw [flatten_eq,filter_append,hinterior,append_nil,List.filter_map,List.filter_filter]
 congr 1
 apply filter_congr
 intro e _
 rw [Function.comp_apply,names_components]
 by_cases htarget:e.2=n++"."++port
 · have howner:ownerOf e.2∉instances.map Prod.fst:=by
    rw [htarget,ownerOf_joined hn]
    exact next_not_mem hslots
   simp [htarget,htarget▸howner]
 · simp [htarget]

lemma rewrittenNode_expandedNode(hi:i∈instances){inner:String}(hnode:i.2.nodes[inner]?=some node):
  rewrittenNode (component n f) (expandedNode i.1 i.2 node)=expandedNode i.1 i.2 node:=by
 apply rewrittenNode_of_ne
 intro reference hwhen heq
 obtain ⟨old,hold,rfl⟩:=whenOf_expandedNode hwhen
 obtain ⟨hend,hmem⟩:=hm.inside i hi inner node hnode old hold
 rw [ownerOf_prefixEndpoint ((slotNodes_init hslots).dotless hi) hend hmem] at heq
 exact not_generates_next hslots hm hi ⟨_,hmem,heq.symm⟩

lemma rewrittenNode_resolvedNode(node:Value):
  rewrittenNode (component n f) (resolvedNode instances node) =
   resolvedNode (instances++[(n,f)]) node:=by
 cases hw:whenOf node with
 | none=>simp [rewrittenNode,resolvedNode,hw]
 | some reference=>
  by_cases howner:ownerOf reference∈instances.map Prod.fst
  · obtain ⟨i,hi,hname⟩:=List.mem_map.mp howner
    have hin:ownerOf reference∈(instances++[(n,f)]).map Prod.fst:=by
     rw [map_append]
     exact mem_append_left _ howner
    have hleft:resolvedNode instances node=setWhen (resolved instances reference) node:=by
     simp only [resolvedNode,hw,if_pos howner]
    have hsame:resolved (instances++[(n,f)]) reference=resolved instances reference:=by
     rw [resolved_of_mem hslots.names (mem_append_left _ hi) hname.symm,
      resolved_of_mem (slotNodes_init hslots).names hi hname.symm]
    rw [hleft,rewrittenNode_of_ne]
    · simp only [resolvedNode,hw,if_pos hin,hsame]
    · intro after hafter heq
      rw [whenOf_setWhen hw] at hafter
      cases hafter
      rw [resolved_of_mem (slotNodes_init hslots).names hi hname.symm] at heq
      exact (apart_next hslots hm _ (List.mem_map_of_mem hi)).output reference heq
  · have hleft:resolvedNode instances node=node:=by simp only [resolvedNode,hw,if_neg howner]
    rw [hleft]
    by_cases hnext:ownerOf reference=n
    · have hin:ownerOf reference∈(instances++[(n,f)]).map Prod.fst:=by simp [hnext]
      have hres:resolved (instances++[(n,f)]) reference=(component n f).output reference:=
       resolved_of_mem hslots.names mem_concat_self hnext
      have hname:ownerOf reference=(component n f).name:=hnext
      simp only [rewrittenNode,resolvedNode,hw,if_pos hin,if_pos hname,hres]
    · have hout:ownerOf reference∉(instances++[(n,f)]).map Prod.fst:=by
       rw [map_append,map_singleton,mem_append,mem_singleton]
       exact not_or.mpr ⟨howner,hnext⟩
      have hname:ownerOf reference≠(component n f).name:=hnext
      simp only [rewrittenNode,resolvedNode,hw,if_neg hout,if_neg hname]

lemma knownPorts_next{es:List Edge}(hes:es.Perm (flatEdges instances E))
  (hports:∀e∈es,KnownPorts n f.interface e):∀e∈E,KnownPorts n f.interface e:=by
 intro e he
 have hflat:∀{e:Edge},e∈flatEdges instances E→KnownPorts n f.interface e:=
  fun h=>hports _ (hes.mem_iff.mpr h)
 obtain ⟨target,htrace,htarget⟩:=exists_flatEdge hm.toComposable he
 have hsource:ownerOf e.1∉instances.map Prod.fst→ resolved instances e.1=e.1:=resolved_of_not_mem
 have hleft:∀{x:String},ownerOf x=n→ ownerOf x∉instances.map Prod.fst:=
  fun hx=>hx▸next_not_mem hslots
 refine ⟨?_,?_,?_,?_⟩
 · by_cases howner:ownerOf e.1∈instances.map Prod.fst
   · obtain ⟨i,hi,-⟩:=List.mem_map.mp howner
     exact (hm.ports i hi e he).source
   · have:=(hflat htrace).source
     rwa [hsource howner] at this
 · by_cases howner:ownerOf e.2∈instances.map Prod.fst
   · obtain ⟨i,hi,-⟩:=List.mem_map.mp howner
     exact (hm.ports i hi e he).target
   · have:=(hflat htrace).target
     rwa [htarget howner] at this
 · intro hn
   have:=(hflat htrace).inputPort
   rw [htarget (hleft hn)] at this
   exact this hn
 · intro hn
   have:=(hflat htrace).outputPort
   rw [hsource (hleft hn)] at this
   exact this hn

lemma whenKnown_next(hwhens:∀(k:String) (node:Value),k≠n →
  m.nodes[k]?=some node→WhenKnown n f node){k:String}
  (hnode:g.nodes[k]?=some node):WhenKnown n f node:=by
 intro reference hw
 -- A slot node has no `when` reference, so the node is still there.
 have hroot:k∉(instances++[(n,f)]).map Prod.fst:=by
  intro hmem
  obtain ⟨i,hi,rfl⟩:=List.mem_map.mp hmem
  obtain ⟨slot,hslot,hnone⟩:=hslots.slot i hi
  rw [hnode] at hslot
  cases hslot
  rw [hw] at hnone
  cases hnone
 rw [map_append,map_singleton,mem_append,mem_singleton] at hroot
 obtain ⟨hold,hk⟩:=not_or.mp hroot
 by_cases howner:ownerOf reference∈instances.map Prod.fst
 · obtain ⟨i,hi,-⟩:=List.mem_map.mp howner
   refine ⟨(hm.whens i hi k node hnode reference hw).1,?_⟩
   intro hn
   exact absurd (hn▸howner) (next_not_mem hslots)
 · have hsame:resolvedNode instances node=node:=by simp only [resolvedNode,hw,if_neg howner]
   refine hwhens k node hk ?_ reference hw
   exact (hm.nodes k node).mpr (.inr ⟨hold,node,hnode,hsame.symm⟩)

lemma Expanded.concat(h:spliceFragment n f m=.ok r):Expanded g E (instances++[(n,f)]) r:=by
 have hn:Dotless n:=hslots.dotless (i:=(n,f)) mem_concat_self
 obtain ⟨Em,hEm,hf,hs,hnodes,es,hes,hplace⟩:=spliceFragment_ok hn h
 obtain ⟨es',hes',hflat⟩:=hm.edges
 obtain rfl:es'=Em:=Except.ok.inj (hes'.symm.trans hEm)
 have hgen:∀i∈instances,∀k,Generates i.1 i.2 k→m.nodes.contains k=true:=by
  rintro i hi _ ⟨inner,hinner,rfl⟩
  obtain ⟨node,hnode⟩:=(contains_iff _).mp hinner
  exact (contains_iff _).mpr ⟨_,(hm.nodes _ _).mpr (.inl ⟨i,hi,inner,node,hnode,rfl,rfl⟩)⟩
 have hsnoc:∀{P:Instance→Prop},(∀i∈instances,P i)→P (n,f)→∀i∈instances++[(n,f)],P i:=by
  intro P hall hlast i hi
  rcases mem_append.mp hi with hi|hi
  · exact hall i hi
  · rw [mem_singleton.mp hi]
    exact hlast
 refine ⟨⟨hsnoc hm.consistent hf,hsnoc hm.inside hs.inside,
  hsnoc hm.ports (knownPorts_next hslots hm hflat hs.ports),hsnoc hm.single ?_,
  hsnoc hm.whens fun k node hnode=>whenKnown_next hslots hm hs.whens hnode,?_⟩,?_,?_,
  hsnoc ?_ ?_⟩
 case refine_1=>
  intro port hport
  obtain ⟨e,he⟩:=hs.single port hport
  have hperm:(inbound es' n port).Perm (inbound (flatEdges instances E) n port):=hflat.filter _
  rw [he,inbound_flatEdges hslots hm] at hperm
  have hlength:=hperm.length_eq
  rw [length_map,length_singleton] at hlength
  exact length_eq_one_iff.mp hlength.symm
 case refine_2=>
  rw [pairwise_append]
  refine ⟨hm.distinct,pairwise_singleton _ _,?_⟩
  intro i hi j hj k hik hjk
  rw [mem_singleton.mp hj] at hjk
  have hfree:=hs.fresh k hjk
  rw [hgen i hi k hik] at hfree
  cases hfree
 case refine_3=>
  refine ⟨es,by rw [hes,collect_edgeOf_map],hplace.trans ?_⟩
  have hunique:∀i∈(component n f).inputs,∀e∈es',∀e'∈es',e.2=i.1→e'.2=i.1→e.1=e'.1:=by
   intro i hi e he e' he' heq heq'
   obtain ⟨port,target,hmem,rfl⟩:=mem_prefixedInputs.mp hi
   obtain ⟨e₀,he₀⟩:=hs.single port (hf.valid _ hmem).1
   have hin:e∈inbound es' n port:=mem_filter.mpr ⟨he,decide_eq_true heq⟩
   have hin':e'∈inbound es' n port:=mem_filter.mpr ⟨he',decide_eq_true heq'⟩
   rw [he₀,mem_singleton] at hin hin'
   rw [hin,hin']
  refine (place_perm hflat hunique).trans (List.Perm.of_eq ?_)
  unfold flatEdges
  rw [components_concat]
  apply place_flatten
  · rw [names_components]
    exact next_not_mem hslots
  · exact apart_next hslots hm
  · intro i hi
    exact (prefixedInputs_spec hn hf hi).1.1
 case refine_4=>
  intro k v
  rw [hnodes]
  constructor
  · rintro (⟨inner,node,hnode,rfl,rfl⟩|⟨hk,before,hbefore,rfl⟩)
    · exact .inl ⟨(n,f),mem_concat_self,inner,node,hnode,rfl,rfl⟩
    · rcases (hm.nodes k before).mp hbefore with
       ⟨i,hi,inner,node,hnode,rfl,rfl⟩ | ⟨hold,node,hnode,rfl⟩
      · refine .inl ⟨i,mem_append_left _ hi,inner,node,hnode,rfl,?_⟩
        exact rewrittenNode_expandedNode hslots hm hi hnode
      · refine .inr ⟨?_,node,hnode,rewrittenNode_resolvedNode hslots hm node⟩
        rw [map_append,map_singleton,mem_append,mem_singleton]
        exact not_or.mpr ⟨hold,hk⟩
  · rintro (⟨i,hi,inner,node,hnode,rfl,rfl⟩|⟨hk,node,hnode,rfl⟩)
    · rcases mem_append.mp hi with hi|hi
      · refine .inr ⟨?_,_,(hm.nodes _ _).mpr (.inl ⟨i,hi,inner,node,hnode,rfl,rfl⟩),?_⟩
        · intro heq
          exact not_generates_next hslots hm hi
           ⟨inner,(contains_iff _).mpr ⟨node,hnode⟩,heq.symm⟩
        · exact (rewrittenNode_expandedNode hslots hm hi hnode).symm
      · rw [mem_singleton.mp hi] at hnode ⊢
        exact .inl ⟨inner,node,hnode,rfl,rfl⟩
    · rw [map_append,map_singleton,mem_append,mem_singleton] at hk
      obtain ⟨hold,hk⟩:=not_or.mp hk
      exact .inr ⟨hk,_,(hm.nodes _ _).mpr (.inr ⟨hold,node,hnode,rfl⟩),
       (rewrittenNode_resolvedNode hslots hm node).symm⟩
 case refine_5=>
  intro i hi k hik hk
  rw [map_append]
  exact mem_append_left _ (hm.fresh i hi k hik hk)
 case refine_6=>
  intro k hgenk hk
  by_contra hnot
  rw [map_append,map_singleton,mem_append,mem_singleton] at hnot
  obtain ⟨hold,hkn⟩:=not_or.mp hnot
  obtain ⟨node,hnode⟩:=(contains_iff _).mp hk
  have hfree:=(contains_eq_false_iff _).mp (hs.fresh k hgenk)
  rw [(hm.nodes k _).mpr (.inr ⟨hold,node,hnode,rfl⟩)] at hfree
  cases hfree

lemma Expanded.success(hc:Composable g E (instances++[(n,f)]))
  (hfresh:∀k,Generates n f k→ g.nodes.contains k=false):∃r,spliceFragment n f m=.ok r:=by
 have hinit:=slotNodes_init hslots
 have hlast:(n,f)∈instances++[(n,f)]:=mem_concat_self
 have hn:Dotless n:=hslots.dotless hlast
 obtain ⟨es,hes,hflat⟩:=hm.edges
 refine spliceFragment_success hn (hc.consistent _ hlast) hes
  ⟨?_,?_,?_,hc.inside _ hlast,?_⟩
 case refine_1=>
  intro e he
  rcases flatEdges_cases hinit hm.toComposable (hflat.mem_iff.mp he) with
   ⟨i,hi,hint⟩ | ⟨e₀,he₀,hsource,htarget⟩
  · have hspec:=prefixedInternal_spec (hinit.dotless hi) (hm.consistent i hi) hint
    refine ⟨hspec.1.1,hspec.2.1,?_,?_⟩
    · exact fun heq=>absurd (heq▸hspec.2.2) (not_generates_next hslots hm hi)
    · exact fun heq=>absurd (heq▸hspec.1.2) (not_generates_next hslots hm hi)
  · have hknown:=hc.ports _ hlast e₀ he₀
    obtain ⟨hend,hres⟩:=resolved_source hinit hm.toComposable he₀ hknown.source
    rw [←hsource] at hend hres
    refine ⟨hend,?_,?_,?_⟩
    · rcases htarget with ⟨-,htarget⟩|⟨i,hi,-,hend₂,-⟩
      · rw [htarget]
        exact hknown.target
      · exact hend₂
    · intro heq
      rcases htarget with ⟨-,htarget⟩|⟨i,hi,-,-,hgen⟩
      · rw [htarget] at heq ⊢
        exact hknown.inputPort heq
      · exact absurd (heq▸hgen) (not_generates_next hslots hm hi)
    · intro heq
      rcases hres with ⟨-,hsame⟩|⟨i,hi,-,hgen⟩
      · rw [hsame] at heq ⊢
        exact hknown.outputPort heq
      · exact absurd (heq▸hgen) (not_generates_next hslots hm hi)
 case refine_2=>
  intro port hport
  obtain ⟨e,he⟩:=hc.single _ hlast port hport
  have hperm:(inbound es n port).Perm (inbound (flatEdges instances E) n port):=hflat.filter _
  rw [inbound_flatEdges hslots hm,he] at hperm
  exact ⟨_,hperm.eq_singleton⟩
 case refine_3=>
  intro k hgen
  rw [contains_eq_false_iff,←not_isSome_iff_eq_none,isSome_iff_exists]
  rintro ⟨v,hv⟩
  rcases (hm.nodes k v).mp hv with ⟨i,hi,inner,node,hnode,rfl,-⟩|⟨-,node,hnode,-⟩
  · have hpair:=(pairwise_append.mp hc.distinct).2.2 i hi (n,f) (mem_singleton_self _)
    exact hpair _ ⟨inner,(contains_iff _).mpr ⟨node,hnode⟩,rfl⟩ hgen
  · have hfree:=(contains_eq_false_iff _).mp (hfresh k hgen)
    rw [hnode] at hfree
    cases hfree
 case refine_4=>
  intro k v _ hv reference hw
  rcases (hm.nodes k v).mp hv with ⟨i,hi,inner,node,hnode,rfl,rfl⟩|⟨-,node,hnode,rfl⟩
  · obtain ⟨old,hold,rfl⟩:=whenOf_expandedNode hw
    obtain ⟨hend,hmem⟩:=hm.inside i hi inner node hnode old hold
    refine ⟨isEndpoint_prefixEndpoint (hinit.dotless hi) hend hmem,?_⟩
    intro heq
    rw [ownerOf_prefixEndpoint (hinit.dotless hi) hend hmem] at heq
    exact absurd ⟨_,hmem,heq.symm⟩ (not_generates_next hslots hm hi)
  · obtain ⟨old,hold,rfl⟩:=whenOf_resolvedNode hw
    obtain ⟨hend,hport⟩:=hc.whens _ hlast k node hnode old hold
    obtain ⟨hend',hres⟩:=resolved_cases hinit hm.toComposable hend fun i hi=>
     (hm.whens i hi k node hnode old hold).2
    refine ⟨hend',?_⟩
    intro heq
    rcases hres with ⟨-,hsame⟩|⟨i,hi,-,hgen⟩
    · rw [hsame] at heq ⊢
      exact hport heq
    · exact absurd (heq▸hgen) (not_generates_next hslots hm hi)
end

lemma spliceAll_append{is js:List Instance}:
  spliceAll (is++js) g=spliceAll is g >>= spliceAll js:=by
 induction is generalizing g with
 | nil=>rfl
 | cons i is ih=>
  obtain ⟨n,f⟩:=i
  rw [cons_append,spliceAll,spliceAll]
  cases h:spliceFragment n f g with
  | error e=>rfl
  | ok m=>exact ih

lemma spliceAll_concat:spliceAll (instances++[(n,f)]) g=.ok r ↔
  ∃m,spliceAll instances g=.ok m∧spliceFragment n f m=.ok r:=by
 rw [spliceAll_append,bind_ok]
 simp only [spliceAll,bind_ok]
 constructor
 · rintro ⟨m,hm,r',hr,heq⟩
   cases heq
   exact ⟨m,hm,hr⟩
 · rintro ⟨m,hm,hr⟩
   exact ⟨m,hm,r,hr,rfl⟩

lemma expanded_of_spliceAll(hslots:SlotNodes g instances)(hE:collect edgeOf g.edges=.ok E)
  (h:spliceAll instances g=.ok r):Expanded g E instances r:=by
 induction instances using List.reverseRecOn generalizing r with
 | nil=>
  cases h
  exact expanded_nil hE
 | append_singleton instances i ih=>
  obtain ⟨n,f⟩:=i
  obtain ⟨m,hm,hr⟩:=spliceAll_concat.mp h
  have hinit:=ih (slotNodes_init hslots) hm
  exact hinit.concat hslots hr

lemma edges_of_spliceAll(hne:instances≠[])(hslots:SlotNodes g instances)
  (h:spliceAll instances g=.ok r):∃E,collect edgeOf g.edges=.ok E:=by
 obtain _|⟨⟨n,f⟩,rest⟩:=instances
 · exact absurd rfl hne
 · simp only [spliceAll,bind_ok] at h
   obtain ⟨m,hm,-⟩:=h
   obtain ⟨E,hE,-⟩:=spliceFragment_ok (hslots.dotless (i:=(n,f)) mem_cons_self) hm
   exact ⟨E,hE⟩

lemma Composable.sublist {sub:List Instance} (hc:Composable g E instances)
  (hsub:sub.Sublist instances) : Composable g E sub where
 consistent i hi:=hc.consistent i (hsub.subset hi)
 inside i hi:=hc.inside i (hsub.subset hi)
 ports i hi:=hc.ports i (hsub.subset hi)
 single i hi:=hc.single i (hsub.subset hi)
 whens i hi:=hc.whens i (hsub.subset hi)
 distinct:=hc.distinct.sublist hsub

lemma Composable.perm {other:List Instance} (hc:Composable g E instances)
  (hp:other.Perm instances) : Composable g E other where
 consistent i hi:=hc.consistent i (hp.mem_iff.mp hi)
 inside i hi:=hc.inside i (hp.mem_iff.mp hi)
 ports i hi:=hc.ports i (hp.mem_iff.mp hi)
 single i hi:=hc.single i (hp.mem_iff.mp hi)
 whens i hi:=hc.whens i (hp.mem_iff.mp hi)
 distinct:=(hp.pairwise_iff fun h k hj hi=>h k hi hj).mpr hc.distinct

def Fresh (g:Graph) (instances:List Instance) : Prop :=
 ∀i∈instances,∀k,Generates i.1 i.2 k → g.nodes.contains k=false

lemma spliceAll_success(hslots:SlotNodes g instances)(hE:collect edgeOf g.edges=.ok E)
  (hc:Composable g E instances)(hfresh:Fresh g instances):∃r,spliceAll instances g=.ok r:=by
 induction instances using List.reverseRecOn with
 | nil=>exact ⟨g,rfl⟩
 | append_singleton instances i ih=>
  obtain ⟨n,f⟩:=i
  obtain ⟨m,hm⟩:=ih (slotNodes_init hslots) (hc.sublist (sublist_append_left _ _))
   fun i hi=>hfresh i (mem_append_left _ hi)
  have hexpanded:=expanded_of_spliceAll (slotNodes_init hslots) hE hm
  obtain ⟨r,hr⟩:=hexpanded.success hslots hc (hfresh _ mem_concat_self)
  exact ⟨r,spliceAll_concat.mpr ⟨m,hm,hr⟩⟩

end GraphBlocks.Composition
