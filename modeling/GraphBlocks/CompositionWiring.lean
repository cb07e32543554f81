import GraphBlocks.CompositionExpansion

namespace GraphBlocks.Composition
open Std Json OrderedMap RustStd GraphNormalization Wiring List Std.ExtTreeMap

variable {slots:StringMap Fragment} {instances:List Instance} {n:String} {f:Fragment}
 {g m r:Graph} {E:List Edge}

structure SlotInstances (slots:StringMap Fragment) (g:Graph) (instances:List Instance) : Prop where
 names:(instances.map Prod.fst).Nodup
 named:∀i∈instances,isCompositionName i.1=true
 bound:∀i∈instances,slotFragment slots i.1 g.nodes[i.1]?=.ok i.2

variable {name:String}

lemma slotFragment_ok{value:Option Value}(h:slotFragment slots name value=.ok f):
  ∃(members:Members) (slot:String),value=some (.object members) ∧
   (∀e∈members,e.1="slot")∧members.lookup "slot"=some (.string slot) ∧
   slots[slot]?=some f:=by
 unfold slotFragment at h
 split at h
 · next members=>
   split at h
   · next hall=>
     split at h
     · next slot hslot=>
       split at h
       · next f' hf=>
         cases h
         exact ⟨members,slot,rfl,by simpa using hall,hslot,hf⟩
       · cases h
     · cases h
   · cases h
 · cases h

lemma whenOf_eq_none_of_slot{members:Members}(h:∀e∈members,e.1="slot"):
  whenOf (.object members)=none:=by
 have hnone:members.lookup "when"=none:=by
  rw [lookup_eq_none_iff_notMem]
  intro hmem
  obtain ⟨e,he,hkey⟩:=List.mem_map.mp hmem
  have:=(h e he).symm.trans hkey
  revert this
  decide
 simp [whenOf,hnone]

lemma SlotInstances.slotNodes (h:SlotInstances slots g instances) : SlotNodes g instances where
 names:=h.names
 named:=h.named
 slot i hi:=by
  obtain ⟨members,slot,hvalue,hall,-⟩:=slotFragment_ok (h.bound i hi)
  exact ⟨_,hvalue,whenOf_eq_none_of_slot hall⟩

variable {other:List Instance}

section
variable (hslots:SlotNodes g instances) (hp:instances.Perm other)
include hslots hp

lemma resolved_perm(x:String):resolved instances x=resolved other x:=by
 have hn:((components instances).map Component.name).Nodup:=by
  rw [names_components]
  exact hslots.names
 exact resolve_perm hn (hp.map _) x

lemma resolvedNode_perm(node:Value):resolvedNode instances node=resolvedNode other node:=by
 unfold resolvedNode
 cases whenOf node with
 | none=>rfl
 | some reference=>
  have hiff:ownerOf reference∈instances.map Prod.fst↔ownerOf reference∈other.map Prod.fst:=
   (hp.map _).mem_iff
  simp only [hiff,resolved_perm hslots hp]

lemma flatEdges_perm:(flatEdges instances E).Perm (flatEdges other E):=by
 have hn:((components instances).map Component.name).Nodup:=by
  rw [names_components]
  exact hslots.names
 exact flatten_perm hn (hp.map _)

end

lemma Expanded.nodes_eq{r':Graph}(hslots:SlotNodes g instances)(hp:instances.Perm other)
  (h:Expanded g E instances r)(h':Expanded g E other r'):r.nodes=r'.nodes:=by
 apply ExtTreeMap.ext_getElem?
 intro k
 apply Option.ext
 intro v
 rw [h.nodes,h'.nodes,(hp.map Prod.fst).mem_iff]
 simp only [hp.mem_iff,resolvedNode_perm hslots hp]

lemma edges_eq_of_spliceAll(hne:instances≠[])(hslots:SlotNodes g instances)
  (h:spliceAll instances g=.ok r):∃es : List Edge,r.edges=es.map edgeValue:=by
 obtain ⟨init,⟨n,f⟩,rfl⟩:∃init i,instances=init++[i]:=⟨_,_,(dropLast_append_getLast hne).symm⟩
 obtain ⟨m,-,hr⟩:=spliceAll_concat.mp h
 obtain ⟨-,-,-,-,-,es,hes,-⟩:=spliceFragment_ok (hslots.dotless (i:=(n,f)) mem_concat_self) hr
 exact ⟨es,hes⟩

lemma spliceAll_order{r':Graph}(hslots:SlotNodes g instances)(hp:instances.Perm other)
  (h:spliceAll instances g=.ok r)(h':spliceAll other g=.ok r'):
  r.nodes=r'.nodes∧r.edges.Perm r'.edges:=by
 by_cases hne:instances=[]
 · subst hne
   rw [hp.nil_eq] at h
   rw [h] at h'
   cases h'
   exact ⟨rfl,List.Perm.refl _⟩
 · have hslots':=hslots.perm hp.symm
   have hne':other≠[]:=fun heq=>hne (by rw [heq] at hp;exact hp.eq_nil)
   obtain ⟨E,hE⟩:=edges_of_spliceAll hne hslots h
   have hexp:=expanded_of_spliceAll hslots hE h
   have hexp':=expanded_of_spliceAll hslots' hE h'
   refine ⟨hexp.nodes_eq hslots hp hexp',?_⟩
   obtain ⟨es,hes⟩:=edges_eq_of_spliceAll hne hslots h
   obtain ⟨es',hes'⟩:=edges_eq_of_spliceAll hne' hslots' h'
   obtain ⟨fs,hfs,hflat⟩:=hexp.edges
   obtain ⟨fs',hfs',hflat'⟩:=hexp'.edges
   rw [hes,collect_edgeOf_map] at hfs
   rw [hes',collect_edgeOf_map] at hfs'
   cases hfs
   cases hfs'
   rw [hes,hes']
   exact (hflat.trans ((flatEdges_perm hslots hp).trans hflat'.symm)).map _

lemma lt_generatedName(n inner:String):n<generatedName n inner:=by
 rw [String.lt_iff_toList_lt,generatedName,String.append_assoc,String.toList_append]
 have hne:("__"++inner).toList≠[]:=by simp
 generalize ("__"++inner).toList=suffix at hne
 induction n.toList with
 | nil=>
  cases suffix with
  | nil=>exact absurd rfl hne
  | cons c cs=>exact nil_lt_cons c cs
 | cons c cs ih=>exact cons_lt_cons_self.mpr ih

lemma fresh_of_ascending(hslots:SlotNodes g instances)(hE:collect edgeOf g.edges=.ok E)
  (hsorted:(instances.map Prod.fst).Pairwise (· < ·))(h:spliceAll instances g=.ok r):
  Fresh g instances:=by
 induction instances using List.reverseRecOn generalizing r with
 | nil=>simp [Fresh]
 | append_singleton instances i ih=>
  obtain ⟨n,f⟩:=i
  obtain ⟨m,hm,hr⟩:=spliceAll_concat.mp h
  rw [map_append,map_singleton,pairwise_append] at hsorted
  have hinit:=ih (slotNodes_init hslots) hsorted.1 hm
  have hexp:=expanded_of_spliceAll hslots hE h
  intro i hi
  rcases mem_append.mp hi with hi|hi
  · exact hinit i hi
  · rw [mem_singleton.mp hi]
    rintro _ ⟨inner,hinner,rfl⟩
    rw [Bool.eq_false_iff]
    intro hk
    have hlt:=lt_generatedName n inner
    have hmem:=hexp.fresh (n,f) mem_concat_self _ ⟨inner,hinner,rfl⟩ hk
    rw [map_append,map_singleton,mem_append,mem_singleton] at hmem
    rcases hmem with hmem|heq
    · exact lt_asymm hlt (hsorted.2.2 _ hmem n (mem_singleton_self n))
    · exact lt_irrefl _ (heq▸hlt)

/-- The root edges that touch no slot. -/
def untouchedEdges (instances:List Instance) (E:List Edge) : List Edge :=
 E.filter fun e=>ownerOf e.1∉instances.map Prod.fst∧ownerOf e.2∉instances.map Prod.fst

def inputEdges (instances:List Instance) (E:List Edge) (i:Instance) : List Edge :=
 (prefixedInputs i.1 i.2).map fun x=>(resolved instances (sourceOf E x.1),x.2)

/-- The root edges from the instance out of every slot, led from the prefixed producers. -/
def outputEdges (instances:List Instance) (E:List Edge) (i:Instance) : List Edge :=
 (E.filter fun e=>ownerOf e.1=i.1∧ownerOf e.2∉instances.map Prod.fst).map fun e=>
  (outputProducer i.1 i.2 (wiringOf i.2) (portOf e.1),e.2)

def hierarchicalEdges (instances:List Instance) (E:List Edge) : List Edge :=
 untouchedEdges instances E++(instances.flatMap fun i=>prefixedInternal i.1 i.2) ++
  instances.flatMap (inputEdges instances E)++instances.flatMap (outputEdges instances E)

lemma untouchedEdges_eq:untouchedEdges instances E =
  ((E.filter fun e=>ownerOf e.2∉instances.map Prod.fst).filter fun e=>
   ownerOf e.1∉instances.map Prod.fst).map fun e=>(resolved instances e.1,e.2):=by
 rw [untouchedEdges,filter_filter]
 have hself:∀l:List Edge,l=l.map id:=fun l=>(List.map_id l).symm
 rw [hself (E.filter _)]
 have hfilter:(E.filter fun e=>decide (ownerOf e.1∉instances.map Prod.fst ∧
   ownerOf e.2∉instances.map Prod.fst))=E.filter fun e=>
    decide (ownerOf e.1∉instances.map Prod.fst)&&decide (ownerOf e.2∉instances.map Prod.fst):=by
  apply filter_congr
  intro e _
  rw [Bool.decide_and]
 rw [hfilter]
 apply map_congr_left
 intro e he
 have hboth:=(List.mem_filter.mp he).2
 rw [Bool.and_eq_true,decide_eq_true_eq] at hboth
 rw [resolved_of_not_mem hboth.1]
 rfl

lemma outputEdges_perm(hslots:SlotNodes g instances):
  (instances.flatMap (outputEdges instances E)).Perm
   (((E.filter fun e=>ownerOf e.2∉instances.map Prod.fst).filter fun e=>
    ¬ownerOf e.1∉instances.map Prod.fst).map fun e=>(resolved instances e.1,e.2)):=by
 have hgroup:=group_perm hslots.names (fun e:Edge=>ownerOf e.1)
  (l:=(E.filter fun e=>ownerOf e.2∉instances.map Prod.fst).filter fun e=>
   ¬ownerOf e.1∉instances.map Prod.fst) (by
   intro e he
   simpa using (List.mem_filter.mp he).2)
 have hmap:=hgroup.map fun e=>(resolved instances e.1,e.2)
 rw [map_flatMap,flatMap_map] at hmap
 refine List.Perm.trans (List.Perm.of_eq ?_) hmap
 apply flatMap_congr
 intro i hi
 rw [outputEdges,filter_filter,filter_filter]
 have hfilter:(E.filter fun e=>decide (ownerOf e.1=i.1 ∧
   ownerOf e.2∉instances.map Prod.fst))=E.filter fun e=>decide (ownerOf e.1=i.1) &&
    decide (¬ownerOf e.1∉instances.map Prod.fst)&&decide (ownerOf e.2∉instances.map Prod.fst):=by
  apply filter_congr
  intro e _
  by_cases howner:ownerOf e.1=i.1
  · have hmem:i.1∈instances.map Prod.fst:=mem_map_of_mem hi
    simp only [howner,hmem,not_true_eq_false,not_false_eq_true,decide_true,Bool.true_and,true_and]
  · simp [howner]
 rw [hfilter]
 apply map_congr_left
 intro e he
 have hboth:=(List.mem_filter.mp he).2
 rw [Bool.and_eq_true,Bool.and_eq_true,decide_eq_true_eq] at hboth
 rw [resolved_of_mem hslots.names hi hboth.1.1]

lemma hierarchicalEdges_perm(hslots:SlotNodes g instances):
  (hierarchicalEdges instances E).Perm (flatEdges instances E):=by
 have hsplit:=filter_append_perm
  (fun e:Edge=>decide (ownerOf e.1∉instances.map Prod.fst))
  (E.filter fun e=>ownerOf e.2∉instances.map Prod.fst)
 have houtside:(untouchedEdges instances E++instances.flatMap (outputEdges instances E)).Perm
   ((E.filter fun e=>ownerOf e.2∉instances.map Prod.fst).map fun e=>
    (resolved instances e.1,e.2)):=by
  rw [untouchedEdges_eq]
  refine ((outputEdges_perm hslots).append_left _).trans ?_
  rw [←map_append]
  apply List.Perm.map
  simpa using hsplit
 have hinterior:((instances.flatMap fun i=>prefixedInternal i.1 i.2) ++
   instances.flatMap (inputEdges instances E)).Perm
   ((components instances).flatMap (interior (resolved instances) E)):=by
  rw [components,flatMap_map]
  exact flatMap_append_perm _ _ _
 unfold hierarchicalEdges flatEdges
 rw [flatten_eq,names_components,append_assoc,append_assoc]
 refine List.Perm.trans ?_ (houtside.append hinterior)
 rw [append_assoc]
 refine List.Perm.append_left _ ?_
 rw [←append_assoc]
 exact perm_append_comm

section
variable (hslots:SlotNodes g instances) (hfresh:Fresh g instances)

include hslots hfresh

lemma generated_not_mem{i:Instance}(hi:i∈instances){k:String}
  (hgen:Generates i.1 i.2 k):k∉instances.map Prod.fst:=by
 intro hmem
 obtain ⟨j,hj,rfl⟩:=List.mem_map.mp hmem
 obtain ⟨node,hnode,-⟩:=hslots.slot j hj
 have hfree:=(contains_eq_false_iff _).mp (hfresh i hi _ hgen)
 rw [hnode] at hfree
 cases hfree

lemma flatEdges_owners(hc:Composable g E instances){e:Edge}(he:e∈flatEdges instances E):
  ownerOf e.1∉instances.map Prod.fst∧ownerOf e.2∉instances.map Prod.fst:=by
 rcases flatEdges_cases hslots hc he with ⟨i,hi,hint⟩|⟨e₀,he₀,hsource,htarget⟩
 · have hspec:=prefixedInternal_spec (hslots.dotless hi) (hc.consistent i hi) hint
   exact ⟨generated_not_mem hslots hfresh hi hspec.1.2,generated_not_mem hslots hfresh hi hspec.2.2⟩
 · refine ⟨?_,?_⟩
   · rw [hsource]
     by_cases howner:ownerOf e₀.1∈instances.map Prod.fst
     · obtain ⟨i,hi,hname⟩:=List.mem_map.mp howner
       have hport:=(hc.ports i hi e₀ he₀).outputPort hname.symm
       rw [resolved_of_mem hslots.names hi hname.symm]
       exact generated_not_mem hslots hfresh hi
        (outputProducer_spec (hslots.dotless hi) (hc.consistent i hi) hport).2
     · rw [resolved_of_not_mem howner]
       exact howner
   · rcases htarget with ⟨howner,heq⟩|⟨i,hi,-,-,hgen⟩
     · rw [heq]
       exact howner
     · exact generated_not_mem hslots hfresh hi hgen

lemma Expanded.when_owners(h:Expanded g E instances r){k reference:String}{node:Value}
  (hnode:r.nodes[k]?=some node)(hw:whenOf node=some reference):
  ownerOf reference∉instances.map Prod.fst:=by
 rcases (h.nodes k node).mp hnode with ⟨i,hi,inner,old,hold,rfl,rfl⟩|⟨-,old,hold,rfl⟩
 · obtain ⟨before,hbefore,rfl⟩:=whenOf_expandedNode hw
   obtain ⟨hend,hmem⟩:=h.inside i hi inner old hold before hbefore
   rw [ownerOf_prefixEndpoint (hslots.dotless hi) hend hmem]
   exact generated_not_mem hslots hfresh hi ⟨_,hmem,rfl⟩
 · obtain ⟨before,hbefore,rfl⟩:=whenOf_resolvedNode hw
   by_cases howner:ownerOf before∈instances.map Prod.fst
   · obtain ⟨i,hi,hname⟩:=List.mem_map.mp howner
     have hport:=(h.whens i hi k old hold before hbefore).2 hname.symm
     rw [resolved_of_mem hslots.names hi hname.symm]
     exact generated_not_mem hslots hfresh hi
      (outputProducer_spec (hslots.dotless hi) (h.consistent i hi) hport).2
   · rw [resolved_of_not_mem howner]
     exact howner
end

/-- A slot node has no `when` reference, so a splice of another instance keeps it. -/
lemma slotFragment_spliced{f':Fragment}(hs:SplicedNodes n f g.nodes m.nodes)
  (hne:name≠n){node:Value}(hnode:g.nodes[name]?=some node):
  slotFragment slots name m.nodes[name]?=.ok f'↔slotFragment slots name g.nodes[name]?=.ok f':=by
 have hafter:m.nodes[name]?=some (rewrittenNode (component n f) node):=
  (hs _ _).mpr (.inr ⟨hne,node,hnode,rfl⟩)
 have hno:∀{v:Value} {reference:String},whenOf v=some reference →
   slotFragment slots name (some v) ≠ .ok f':=by
  intro v reference hw h
  obtain ⟨members,-,hvalue,hall,-⟩:=slotFragment_ok h
  cases hvalue
  rw [whenOf_eq_none_of_slot hall] at hw
  cases hw
 rw [hafter,hnode]
 cases hw:whenOf node with
 | none=>
  have hsame:rewrittenNode (component n f) node=node:=
   rewrittenNode_of_ne fun reference hsome=>by simp [hw] at hsome
  rw [hsame]
 | some reference=>
  have hstill:∃after,whenOf (rewrittenNode (component n f) node)=some after:=by
   simp only [rewrittenNode,hw]
   split
   · exact ⟨_,whenOf_setWhen hw _⟩
   · exact ⟨_,hw⟩
  obtain ⟨after,hafter⟩:=hstill
  exact ⟨fun h=>absurd h (hno hafter),fun h=>absurd h (hno hw)⟩

lemma slotInstances_cons{rest:List Instance}:
  SlotInstances slots g ((n,f)::rest)↔n∉rest.map Prod.fst∧isCompositionName n=true ∧
   slotFragment slots n g.nodes[n]?=.ok f∧SlotInstances slots g rest:=by
 constructor
 · intro h
   have hnames:=nodup_cons.mp h.names
   exact ⟨hnames.1,h.named _ mem_cons_self,h.bound _ mem_cons_self,hnames.2,
    fun i hi=>h.named i (mem_cons_of_mem _ hi),
    fun i hi=>h.bound i (mem_cons_of_mem _ hi)⟩
 · rintro ⟨hnot,hnamed,hbound,h⟩
   refine ⟨nodup_cons.mpr ⟨hnot,h.names⟩,?_,?_⟩
   · intro i hi
     rcases mem_cons.mp hi with rfl|hi
     · exact hnamed
     · exact h.named i hi
   · intro i hi
     rcases mem_cons.mp hi with rfl|hi
     · exact hbound
     · exact h.bound i hi

lemma expandSlots_ok{names:List String}(hnodup:names.Nodup)
  (hmem:∀name∈names,g.nodes.contains name=true):
  expandSlots slots names g=.ok r ↔ ∃instances : List Instance,
   instances.map Prod.fst=names∧SlotInstances slots g instances∧spliceAll instances g=.ok r:=by
 induction names generalizing g with
 | nil=>
  constructor
  · intro h
    exact ⟨[],rfl,⟨nodup_nil,by simp,by simp⟩,h⟩
  · rintro ⟨instances,hnames,-,h⟩
    rw [map_eq_nil_iff.mp hnames] at h
    exact h
 | cons name names ih=>
  obtain ⟨hnot,hrestNodup⟩:=nodup_cons.mp hnodup
  have hnext:∀{f:Fragment} {m:Graph},isCompositionName name=true→spliceFragment name f g=.ok m →
    (∀k∈names,m.nodes.contains k=true)∧∀k∈names,∀f',
     slotFragment slots k m.nodes[k]?=.ok f'↔slotFragment slots k g.nodes[k]?=.ok f':=by
   intro f m hnamed hm
   obtain ⟨-,-,-,-,hs,-⟩:=spliceFragment_ok (dotless_of_isCompositionName hnamed) hm
   refine ⟨?_,?_⟩
   · intro k hk
     obtain ⟨node,hnode⟩:=(contains_iff _).mp (hmem k (mem_cons_of_mem _ hk))
     have hne:k≠name:=fun heq=>hnot (heq▸hk)
     exact (contains_iff _).mpr ⟨_,(hs _ _).mpr (.inr ⟨hne,node,hnode,rfl⟩)⟩
   · intro k hk f'
     obtain ⟨node,hnode⟩:=(contains_iff _).mp (hmem k (mem_cons_of_mem _ hk))
     exact slotFragment_spliced hs (fun heq=>hnot (heq▸hk)) hnode
  simp only [expandSlots,bind_ok,ensure_ok]
  constructor
  · rintro ⟨_,hnamed,f,hf,m,hm,hrest⟩
    obtain ⟨hcontains,hslot⟩:=hnext hnamed hm
    obtain ⟨rest,hrestNames,hrestSlots,hr⟩:=(ih hrestNodup hcontains).mp hrest
    refine ⟨(name,f)::rest,by rw [map_cons,hrestNames],?_,?_⟩
    · rw [slotInstances_cons,hrestNames]
      refine ⟨hnot,hnamed,hf,hrestSlots.names,hrestSlots.named,?_⟩
      intro i hi
      exact (hslot i.1 (hrestNames▸mem_map_of_mem hi) _).mp (hrestSlots.bound i hi)
    · simp only [spliceAll,bind_ok]
      exact ⟨m,hm,hr⟩
  · rintro ⟨instances,hnames,hslots,hr⟩
    obtain _|⟨⟨n,f⟩,rest⟩:=instances
    · cases hnames
    · rw [map_cons,List.cons.injEq] at hnames
      obtain ⟨rfl,hrestNames⟩:=hnames
      obtain ⟨-,hnamed,hf,hrestSlots⟩:=slotInstances_cons.mp hslots
      simp only [spliceAll,bind_ok] at hr
      obtain ⟨m,hm,hr⟩:=hr
      obtain ⟨hcontains,hslot⟩:=hnext hnamed hm
      refine ⟨(),hnamed,f,hf,m,hm,(ih hrestNodup hcontains).mpr ⟨rest,hrestNames,?_,hr⟩⟩
      refine ⟨hrestSlots.names,hrestSlots.named,?_⟩
      intro i hi
      exact (hslot i.1 (hrestNames▸mem_map_of_mem hi) _).mpr (hrestSlots.bound i hi)

def instancesOf (slots:StringMap Fragment) (g:Graph) : List Instance :=
 (slotNames g).filterMap fun name=>
  match slotFragment slots name g.nodes[name]? with
  | .ok f=>some (name,f)
  | .error _=>none

lemma slotNames_ascending(g:Graph):(slotNames g).Pairwise (· < ·):=by
 rw [slotNames,pairwise_map]
 have hsorted:=g.nodes.ordered_keys_toList
 exact (hsorted.imp fun h=>compare_lt_iff_lt.mp h).filter _

lemma slotNames_contains(h:name∈slotNames g):g.nodes.contains name=true:=by
 obtain ⟨e,he,rfl⟩:=List.mem_map.mp h
 have hmem:=(List.mem_filter.mp he).1
 exact (contains_iff _).mpr ⟨e.2,mem_toList_iff_getElem?_eq_some.mp hmem⟩

lemma instancesOf_eq{names:List String}(h:SlotInstances slots g instances)
  (hnames:instances.map Prod.fst=names):
  (names.filterMap fun name=>
   match slotFragment slots name g.nodes[name]? with
   | .ok f=>some (name,f)
   | .error _=>none)=instances:=by
 subst hnames
 rw [filterMap_map]
 conv_rhs=>rw [←filterMap_some (l:=instances)]
 apply filterMap_congr
 intro i hi
 rw [Function.comp_apply,h.bound i hi]

lemma expandGraph_ok:expandGraph slots g=.ok r↔(instancesOf slots g).map Prod.fst=slotNames g ∧
   SlotInstances slots g (instancesOf slots g) ∧
   spliceAll (instancesOf slots g) g=.ok r ∧
   r.nodes.size≤ maxExpandedNodes∧r.edges.length≤ maxExpandedEdges:=by
 have hnodup:(slotNames g).Nodup:=(slotNames_ascending g).imp fun h=>h.ne
 simp only [expandGraph,bind_ok,ensure_ok,
  expandSlots_ok hnodup fun name h=>slotNames_contains h,decide_eq_true_eq]
 constructor
 · rintro ⟨_,⟨instances,hnames,hslots,h⟩,_,hn,_,he,hr⟩
   cases hr
   have heq:instancesOf slots g=instances:=instancesOf_eq hslots hnames
   rw [heq]
   exact ⟨hnames,hslots,h,hn,he⟩
 · rintro ⟨hnames,hslots,h,hn,he⟩
   exact ⟨r,⟨_,hnames,hslots,h⟩,(),hn,(),he,rfl⟩

theorem expansion_is_hierarchical_wiring (hslots : SlotInstances slots g instances) :
  (∀(order order':List Instance) (r r':Graph),order.Perm instances →
   order'.Perm instances→spliceAll order g=.ok r→spliceAll order' g=.ok r' →
   r.nodes=r'.nodes∧r.edges.Perm r'.edges) ∧
  (∀(order:List Instance) (r:Graph),order.Perm instances→spliceAll order g=.ok r →
   (instances≠[] → ∃E,collect edgeOf g.edges=.ok E) ∧
   ∀E,collect edgeOf g.edges=.ok E → ∃es,collect edgeOf r.edges=.ok es ∧
    es.Perm (hierarchicalEdges instances E)) ∧
  (∀(order:List Instance) (r:Graph),order.Perm instances →
   (order.map Prod.fst).Pairwise (· < ·)→spliceAll order g=.ok r →
   (∀order':List Instance,order'.Perm instances → ∃r',spliceAll order' g=.ok r') ∧
   (∀value∈r.edges,∀e,edgeOf value=.ok e →
    ownerOf e.1∉instances.map Prod.fst∧ownerOf e.2∉instances.map Prod.fst) ∧
   ∀(k reference:String) (node:Value),r.nodes[k]?=some node →
    whenOf node=some reference → ownerOf reference∉instances.map Prod.fst) := by
 have hnodes:=hslots.slotNodes
 refine ⟨?_,?_,?_⟩
 · intro order order' r r' hp hp' h h'
   exact spliceAll_order (hnodes.perm hp) (hp.trans hp'.symm) h h'
 · intro order r hp h
   have hslots':=hnodes.perm hp
   refine ⟨?_,?_⟩
   · intro hne
     exact edges_of_spliceAll (fun heq=>hne (by rw [heq] at hp;exact hp.symm.eq_nil)) hslots' h
   · intro E hE
     obtain ⟨es,hes,hflat⟩:=(expanded_of_spliceAll hslots' hE h).edges
     refine ⟨es,hes,hflat.trans ?_⟩
     exact (flatEdges_perm hslots' hp).trans (hierarchicalEdges_perm hnodes).symm
 · intro order r hp hsorted h
   have hslots':=hnodes.perm hp
   by_cases hne:order=[]
   · subst hne
     cases h
     have hnil:instances=[]:=hp.symm.eq_nil
     subst hnil
     refine ⟨?_,by simp,by simp⟩
     intro order' hp'
     rw [hp'.eq_nil]
     exact ⟨g,rfl⟩
   · obtain ⟨E,hE⟩:=edges_of_spliceAll hne hslots' h
     have hexp:=expanded_of_spliceAll hslots' hE h
     have hfresh:=fresh_of_ascending hslots' hE hsorted h
     have hnames:∀k,k∈order.map Prod.fst↔k∈instances.map Prod.fst:=fun k=>(hp.map _).mem_iff
     refine ⟨?_,?_,?_⟩
     · intro order' hp'
       have hp'':=hp'.trans hp.symm
       exact spliceAll_success (hnodes.perm hp') hE (hexp.toComposable.perm hp'')
        fun i hi=>hfresh i (hp''.mem_iff.mp hi)
     · intro value hvalue e he
       obtain ⟨es,hes,hflat⟩:=hexp.edges
       obtain ⟨e',he',hread⟩:=collect_mem hes hvalue
       obtain rfl:e'=e:=Except.ok.inj (hread.symm.trans he)
       have howners:=flatEdges_owners hslots' hfresh hexp.toComposable (hflat.mem_iff.mp he')
       rw [hnames,hnames] at howners
       exact howners
     · intro k reference node hnode hw
       have howner:=hexp.when_owners hslots' hfresh hnode hw
       rw [hnames] at howner
       exact howner

def retrieverFragment : Fragment where
 interface:=⟨["query"],["documents"],nodup_singleton _,nodup_singleton _⟩
 nodes:=ExtTreeMap.ofList
  [("embed",Value.object [("block",.string "embed@1")]),
   ("search",Value.object [("block",.string "search@1"),("when",.string "embed.ready")])]
 edges:=[edgeValue ("$input.query", "embed.text"),edgeValue ("embed.embedding", "search.vector"),
  edgeValue ("search.documents", "$output.documents")]

/-- Two instances of the fragment, the second fed by the first. -/
def retrieverGraph : Graph where
 nodes:=ExtTreeMap.ofList
  [("answer",Value.object [("block",.string "answer@1"),("when",.string "retrieve.documents")]),
   ("refine",Value.object [("slot",.string "retriever")]),
   ("retrieve",Value.object [("slot",.string "retriever")])]
 edges:=[edgeValue ("$input.query", "retrieve.query"),
  edgeValue ("retrieve.documents", "refine.query"),
  edgeValue ("refine.documents", "answer.context")]

def retrieverInstances : List Instance :=
 [("refine",retrieverFragment),("retrieve",retrieverFragment)]

lemma retrieverInstances_slots : SlotInstances
  (ExtTreeMap.ofList [("retriever",retrieverFragment)]) retrieverGraph retrieverInstances where
 names:=by decide
 named:=by decide
 bound:=by
  intro i hi
  simp only [retrieverInstances,mem_cons,not_mem_nil,or_false] at hi
  rcases hi with rfl|rfl
  · rfl
  · rfl

theorem retriever_expands_in_any_order : ∃r r' : Graph,
  spliceAll retrieverInstances retrieverGraph=.ok r ∧
  spliceAll retrieverInstances.reverse retrieverGraph=.ok r' ∧
  r.nodes=r'.nodes∧r.edges.Perm r'.edges := by
 have hall:=expansion_is_hierarchical_wiring retrieverInstances_slots
 cases h:spliceAll retrieverInstances retrieverGraph with
 | error e=>
  have hok:(spliceAll retrieverInstances retrieverGraph).isOk=true:=by decide +kernel
  rw [h] at hok
  cases hok
 | ok r=>
  obtain ⟨r',h'⟩:=(hall.2.2 _ _ (List.Perm.refl _) (by decide) h).1 _ (reverse_perm _)
  exact ⟨r,r',rfl,h',hall.1 _ _ _ _ (List.Perm.refl _) (reverse_perm _) h h'⟩

end GraphBlocks.Composition
