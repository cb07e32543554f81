import GraphBlocks.CompositionEndpoints
import GraphBlocks.Wiring

namespace GraphBlocks.Composition
open Std Json OrderedMap RustStd GraphNormalization Wiring List Std.ExtTreeMap

variable {n:String} {f:Fragment} {g r:Graph}

def ValidFragmentEdge (f:Fragment) : FragmentEdge→Prop
 | .input port target=>
  port∈f.interface.inputs∧IsEndpoint target∧f.nodes.contains (ownerOf target)=true
 | .output source port=>
  port∈f.interface.outputs∧IsEndpoint source∧f.nodes.contains (ownerOf source)=true
 | .internal source target=>
  (IsEndpoint source∧f.nodes.contains (ownerOf source)=true) ∧
   (IsEndpoint target∧f.nodes.contains (ownerOf target)=true)

def ClassifiedEdge (f:Fragment) (e:Edge) (fe:FragmentEdge) : Prop :=
 (ownerOf e.1 = "$input" ∧ portOf e.1∈f.interface.inputs ∧
  f.nodes.contains (ownerOf e.2)=true∧fe=.input (portOf e.1) e.2) ∨
 (ownerOf e.1 ≠ "$input" ∧ ownerOf e.2 = "$output" ∧ portOf e.2∈f.interface.outputs ∧
  f.nodes.contains (ownerOf e.1)=true∧fe=.output e.1 (portOf e.2)) ∨
 ((ownerOf e.1 ≠ "$input" ∧ ownerOf e.1 ≠ "$output") ∧
  (ownerOf e.2 ≠ "$output" ∧ ownerOf e.2 ≠ "$input") ∧
  (f.nodes.contains (ownerOf e.1)=true∧f.nodes.contains (ownerOf e.2)=true) ∧
  fe=.internal e.1 e.2)

variable {value:Value}

lemma fragmentEdge_ok{fe:FragmentEdge}:fragmentEdge f value=.ok fe ↔ ∃e,edgeOf value=.ok e ∧
   (IsEndpoint e.1∧IsEndpoint e.2)∧ClassifiedEdge f e fe:=by
 simp only [fragmentEdge,bind_ok]
 apply exists_congr
 intro e
 apply and_congr_right
 intro _
 constructor
 · rintro ⟨⟨so,sp⟩,hs,⟨o,p⟩,ht,h⟩
   have hsource:IsEndpoint e.1:=⟨_,_,hs⟩
   have htarget:IsEndpoint e.2:=⟨_,_,ht⟩
   obtain ⟨-,-,-,rfl,rfl⟩:=endpoint_ok.mp hs
   obtain ⟨-,-,-,rfl,rfl⟩:=endpoint_ok.mp ht
   refine ⟨⟨hsource,htarget⟩,?_⟩
   split at h
   · next h₁=>
     simp only [bind_ok,ensure_ok,List.contains_iff_mem] at h
     obtain ⟨_,hport,_,hmem,h⟩:=h
     cases h
     exact .inl ⟨h₁,hport,hmem,rfl⟩
   · next h₁=>
     split at h
     · next h₂=>
       simp only [bind_ok,ensure_ok,List.contains_iff_mem] at h
       obtain ⟨_,hport,_,hmem,h⟩:=h
       cases h
       exact .inr (.inl ⟨h₁,h₂,hport,hmem,rfl⟩)
     · next h₂=>
       split at h
       · cases h
       · next h₃=>
         simp only [bind_ok,ensure_ok,Bool.and_eq_true] at h
         obtain ⟨_,hmem,h⟩:=h
         cases h
         obtain ⟨h₃,h₄⟩:=not_or.mp h₃
         exact .inr (.inr ⟨⟨h₁,h₃⟩,⟨h₂,h₄⟩,hmem,rfl⟩)
 · rintro ⟨⟨hsource,htarget⟩,h⟩
   refine ⟨_,isEndpoint_iff.mp hsource,_,isEndpoint_iff.mp htarget,?_⟩
   rcases h with ⟨h₁,hport,hmem,rfl⟩|⟨h₁,h₂,hport,hmem,rfl⟩ |
    ⟨⟨h₁,h₃⟩,⟨h₂,h₄⟩,hmem,rfl⟩
   · rw [if_pos h₁]
     simp only [bind_ok,ensure_ok,List.contains_iff_mem]
     exact ⟨(),hport,(),hmem,rfl⟩
   · rw [if_neg h₁,if_pos h₂]
     simp only [bind_ok,ensure_ok,List.contains_iff_mem]
     exact ⟨(),hport,(),hmem,rfl⟩
   · rw [if_neg h₁,if_neg h₂,if_neg (not_or.mpr ⟨h₃,h₄⟩)]
     simp only [bind_ok,ensure_ok,Bool.and_eq_true]
     exact ⟨(),hmem,rfl⟩

lemma fragmentEdge_valid{fe:FragmentEdge}(h:fragmentEdge f value=.ok fe):ValidFragmentEdge f fe:=by
 obtain ⟨e,-,⟨hs,ht⟩,⟨-,hport,hmem,rfl⟩|⟨-,-,hport,hmem,rfl⟩|⟨-,-,hmem,rfl⟩⟩:=fragmentEdge_ok.mp h
 · exact ⟨hport,ht,hmem⟩
 · exact ⟨hport,hs,hmem⟩
 · exact ⟨⟨hs,hmem.1⟩,ht,hmem.2⟩

def wiringOf (f:Fragment) : List FragmentEdge :=
 match fragmentEdges f with
 | .ok edges=>edges
 | .error _=>[]

/-- Every edge stays inside or on the interface, every input is consumed, and every output has
one producer. -/
structure Consistent (f:Fragment) : Prop where
 checked:fragmentEdges f=.ok (wiringOf f)
 valid:∀e∈wiringOf f,ValidFragmentEdge f e
 consumed:∀port∈f.interface.inputs,inputTargets (wiringOf f) port≠[]
 produced:∀port∈f.interface.outputs,∃source,outputSources (wiringOf f) port=[source]

variable {edges:List FragmentEdge} {u:Unit}

lemma checkInputs_ok:
  checkInputs f edges=.ok u ↔ ∀port∈f.interface.inputs,inputTargets edges port≠[]:=by
 unfold checkInputs
 split
 · next port hport=>
   have hmem:=mem_of_find?_eq_some hport
   have hempty:inputTargets edges port=[]:=by simpa using List.find?_some hport
   simp only [reduceCtorEq,false_iff,not_forall,not_not]
   exact ⟨port,hmem,hempty⟩
 · next hnone=>simpa using hnone

lemma checkOutputs_ok:checkOutputs f edges=.ok u ↔
   ∀port∈f.interface.outputs,∃source,outputSources edges port=[source]:=by
 unfold checkOutputs
 split
 · next port hport=>
   have hmem:=mem_of_find?_eq_some hport
   have hlength:(outputSources edges port).length≠1:=by simpa using List.find?_some hport
   simp only [reduceCtorEq,false_iff,not_forall]
   refine ⟨port,hmem,?_⟩
   rintro ⟨source,hsource⟩
   exact hlength (by rw [hsource];rfl)
 · next hnone=>simpa [length_eq_one_iff] using hnone

lemma consistent_of_fragmentEdges(h:fragmentEdges f=.ok edges):Consistent f:=by
 have hwiring:wiringOf f=edges:=by rw [wiringOf,h]
 subst hwiring
 have hparts:=h
 simp only [fragmentEdges,bind_ok,checkInputs_ok,checkOutputs_ok] at hparts
 obtain ⟨edges,hedges,_,hinputs,_,houtputs,hpure⟩:=hparts
 cases hpure
 refine ⟨h,?_,hinputs,houtputs⟩
 intro e he
 obtain ⟨value,-,hvalue⟩:=collect_source hedges he
 exact fragmentEdge_valid hvalue

def prefixedInternal (n:String) (f:Fragment) : List Edge :=
 (wiringOf f).filterMap fun
  | .internal source target=>some (prefixEndpoint source n f.nodes,prefixEndpoint target n f.nodes)
  | _=>none

def prefixedInputs (n:String) (f:Fragment) : List Edge :=
 (wiringOf f).filterMap fun
  | .input port target=>some (n ++ "." ++ port,prefixEndpoint target n f.nodes)
  | _=>none

def component (n:String) (f:Fragment) : Component String String where
 name:=n
 output x:=outputProducer n f (wiringOf f) (portOf x)
 internal:=prefixedInternal n f
 inputs:=prefixedInputs n f

variable {e:Edge}

lemma mem_prefixedInternal:
  e∈prefixedInternal n f ↔ ∃source target,.internal source target∈wiringOf f ∧
   e=(prefixEndpoint source n f.nodes,prefixEndpoint target n f.nodes):=by
 simp only [prefixedInternal,List.mem_filterMap]
 constructor
 · rintro ⟨fe,hfe,h⟩
   split at h
   · next source target=>exact ⟨source,target,hfe,(Option.some.inj h).symm⟩
   · cases h
 · rintro ⟨source,target,hfe,rfl⟩
   exact ⟨_,hfe,rfl⟩

lemma mem_prefixedInputs{i:Edge}:
  i∈prefixedInputs n f ↔ ∃port target,.input port target∈wiringOf f ∧
   i=(n++"."++port,prefixEndpoint target n f.nodes):=by
 simp only [prefixedInputs,List.mem_filterMap]
 constructor
 · rintro ⟨fe,hfe,h⟩
   split at h
   · next port target=>exact ⟨port,target,hfe,(Option.some.inj h).symm⟩
   · cases h
 · rintro ⟨port,target,hfe,rfl⟩
   exact ⟨_,hfe,rfl⟩

variable {port:String}

lemma mem_inputTargets{target:String}:target∈inputTargets edges port ↔ .input port target∈edges:=by
 simp only [inputTargets,List.mem_filterMap]
 constructor
 · rintro ⟨fe,hfe,h⟩
   split at h
   · next p t=>
     split at h
     · next hp=>cases h;exact hp▸hfe
     · cases h
   · cases h
 · intro hfe
   exact ⟨_,hfe,by simp⟩

lemma mem_outputSources{source:String}:
  source∈outputSources edges port ↔ .output source port∈edges:=by
 simp only [outputSources,List.mem_filterMap]
 constructor
 · rintro ⟨fe,hfe,h⟩
   split at h
   · next s p=>
     split at h
     · next hp=>cases h;exact hp▸hfe
     · cases h
   · cases h
 · intro hfe
   exact ⟨_,hfe,by simp⟩

def Generates (n:String) (f:Fragment) (k:String) : Prop :=
 ∃inner,f.nodes.contains inner=true∧k=generatedName n inner

section
variable (hn:Dotless n) (hf:Consistent f)

include hn hf

lemma outputProducer_spec(h:port∈f.interface.outputs):
  IsEndpoint (outputProducer n f (wiringOf f) port) ∧
   Generates n f (ownerOf (outputProducer n f (wiringOf f) port)):=by
 obtain ⟨source,hsource⟩:=hf.produced port h
 have hmem:FragmentEdge.output source port∈wiringOf f:=
  mem_outputSources.mp (by rw [hsource];exact mem_singleton_self source)
 obtain ⟨-,hend,hin⟩:=hf.valid _ hmem
 rw [outputProducer,hsource,headD_cons,ownerOf_prefixEndpoint hn hend hin]
 exact ⟨isEndpoint_prefixEndpoint hn hend hin,_,hin,rfl⟩

lemma ownerOf_outputProducer(port:String):ownerOf (outputProducer n f (wiringOf f) port)="" ∨
   Generates n f (ownerOf (outputProducer n f (wiringOf f) port)):=by
 unfold outputProducer
 cases hs:outputSources (wiringOf f) port with
 | nil=>exact .inl rfl
 | cons source rest=>
  have hmem:FragmentEdge.output source port∈wiringOf f:=
   mem_outputSources.mp (by rw [hs];exact mem_cons_self)
  obtain ⟨-,hend,hin⟩:=hf.valid _ hmem
  rw [headD_cons,ownerOf_prefixEndpoint hn hend hin]
  exact .inr ⟨_,hin,rfl⟩

lemma prefixedInternal_spec(he:e∈prefixedInternal n f):
  (IsEndpoint e.1∧Generates n f (ownerOf e.1))∧(IsEndpoint e.2∧Generates n f (ownerOf e.2)):=by
 obtain ⟨source,target,hmem,rfl⟩:=mem_prefixedInternal.mp he
 obtain ⟨⟨hs,hsin⟩,ht,htin⟩:=hf.valid _ hmem
 refine ⟨⟨isEndpoint_prefixEndpoint hn hs hsin,?_⟩,isEndpoint_prefixEndpoint hn ht htin,?_⟩
 · exact ⟨_,hsin,ownerOf_prefixEndpoint hn hs hsin⟩
 · exact ⟨_,htin,ownerOf_prefixEndpoint hn ht htin⟩

lemma prefixedInputs_spec{i:Edge}(hi:i∈prefixedInputs n f):
  (ownerOf i.1=n∧portOf i.1∈f.interface.inputs)∧(IsEndpoint i.2∧Generates n f (ownerOf i.2)):=by
 obtain ⟨port,target,hmem,rfl⟩:=mem_prefixedInputs.mp hi
 obtain ⟨hport,ht,htin⟩:=hf.valid _ hmem
 refine ⟨⟨ownerOf_joined hn,?_⟩,isEndpoint_prefixEndpoint hn ht htin,?_⟩
 · rw [portOf_joined hn]
   exact hport
 · exact ⟨_,htin,ownerOf_prefixEndpoint hn ht htin⟩

lemma component_apart {m:String} (hm:m≠"") (hfree:¬Generates n f m) :
  Apart ownerOf (component n f) m where
 output x heq:=by
  rcases ownerOf_outputProducer hn hf (portOf x) with hempty|hgen
  · exact hm (heq▸hempty)
  · exact hfree (heq▸hgen)
 internalSource e he heq:=hfree (heq▸(prefixedInternal_spec hn hf he).1.2)
 internalTarget e he heq:=hfree (heq▸(prefixedInternal_spec hn hf he).2.2)
 consumer i hi heq:=hfree (heq▸(prefixedInputs_spec hn hf hi).2.2)
end

/-- The `when` reference, if any, names an internal node. -/
def WhenInside (f:Fragment) (node:Value) : Prop :=
 ∀reference,whenOf node=some reference →
  IsEndpoint reference∧f.nodes.contains (ownerOf reference)=true

/-- The `when` reference, if any, names the instance only by a declared output. -/
def WhenKnown (n:String) (f:Fragment) (node:Value) : Prop :=
 ∀reference,whenOf node=some reference →
  IsEndpoint reference∧(ownerOf reference=n→portOf reference∈f.interface.outputs)

def expandedNode (n:String) (f:Fragment) (node:Value) : Value :=
 match whenOf node with
 | none=>node
 | some reference=>setWhen (prefixEndpoint reference n f.nodes) node

/-- The node with its `when` reference led inside the component. -/
def rewrittenNode (c:Component String String) (node:Value) : Value :=
 match whenOf node with
 | none=>node
 | some reference=>if ownerOf reference=c.name then setWhen (c.output reference) node else node

lemma expandNode_ok{node v:Value}:
  expandNode n f node=.ok v↔WhenInside f node∧v=expandedNode n f node:=by
 unfold expandNode expandedNode WhenInside
 cases whenOf node with
 | none=>
  simp only [Except.ok.injEq,reduceCtorEq,false_implies,implies_true,true_and]
  exact eq_comm
 | some reference=>
  simp only [bind_ok,ensure_ok,Option.some.injEq,forall_eq']
  constructor
  · rintro ⟨⟨owner,port⟩,hend,_,hmem,hv⟩
    cases hv
    obtain ⟨-,-,-,rfl,-⟩:=endpoint_ok.mp hend
    exact ⟨⟨⟨_,_,hend⟩,hmem⟩,rfl⟩
  · rintro ⟨⟨hend,hmem⟩,rfl⟩
    exact ⟨_,isEndpoint_iff.mp hend,(),hmem,rfl⟩

lemma rewriteNode_ok{node v:Value}:rewriteNode n f (wiringOf f) node=.ok v ↔
   WhenKnown n f node∧v=rewrittenNode (component n f) node:=by
 unfold rewriteNode rewrittenNode WhenKnown
 cases whenOf node with
 | none=>
  simp only [Except.ok.injEq,reduceCtorEq,false_implies,implies_true,true_and]
  exact eq_comm
 | some reference=>
  simp only [bind_ok,Option.some.injEq,forall_eq']
  by_cases howner:ownerOf reference=n
  · constructor
    · rintro ⟨⟨owner,port⟩,hend,h⟩
      obtain ⟨-,-,-,rfl,rfl⟩:=endpoint_ok.mp hend
      simp only [howner,ne_eq,not_true_eq_false,↓reduceIte,bind_ok,ensure_ok] at h
      obtain ⟨_,hport,hv⟩:=h
      cases hv
      refine ⟨⟨⟨_,_,hend⟩,fun _=>by simpa using hport⟩,?_⟩
      exact (if_pos howner).symm
    · rintro ⟨⟨hend,hport⟩,rfl⟩
      refine ⟨_,isEndpoint_iff.mp hend,?_⟩
      have hname:ownerOf reference=(component n f).name:=howner
      rw [if_neg (not_not.mpr howner),if_pos hname]
      simp only [bind_ok,ensure_ok]
      exact ⟨(),by simpa using hport howner,rfl⟩
  · constructor
    · rintro ⟨⟨owner,port⟩,hend,h⟩
      obtain ⟨-,-,-,rfl,rfl⟩:=endpoint_ok.mp hend
      simp only [ne_eq,howner,not_false_eq_true,↓reduceIte] at h
      cases h
      exact ⟨⟨⟨_,_,hend⟩,fun heq=>absurd heq howner⟩,(if_neg howner).symm⟩
    · rintro ⟨⟨hend,-⟩,rfl⟩
      refine ⟨_,isEndpoint_iff.mp hend,?_⟩
      simp only [ne_eq,howner,not_false_eq_true,↓reduceIte]
      exact (congrArg Except.ok (if_neg howner)).symm

variable {nodes:StringMap Value} {entries:List (String×Value)}

lemma expandNodes_ok(hkeys:(entries.map Prod.fst).Nodup){expanded result:StringMap Value}
  (hfresh:∀e∈entries,expanded.contains (generatedName n e.1)=false)
  (h:expandNodes n f nodes entries expanded=.ok result):
  (∀e∈entries,nodes.contains (generatedName n e.1)=false∧WhenInside f e.2) ∧
   ∀k v,result[k]?=some v↔expanded[k]?=some v ∨
    ∃e∈entries,k=generatedName n e.1∧v=expandedNode n f e.2:=by
 induction entries generalizing expanded with
 | nil=>
  cases h
  simp
 | cons entry entries ih=>
  obtain ⟨inner,node⟩:=entry
  obtain ⟨hnot,hkeys⟩:=nodup_cons.mp hkeys
  rw [expandNodes] at h
  split at h
  · cases h
  · next hcollision=>
    simp only [bind_ok,expandNode_ok] at h
    obtain ⟨_,⟨hwhen,rfl⟩,h⟩:=h
    obtain ⟨hfree,hfreeExpanded⟩ : nodes.contains (generatedName n inner)=false ∧
       expanded.contains (generatedName n inner)=false:=by
     rw [Bool.or_eq_true,not_or] at hcollision
     exact ⟨Bool.eq_false_iff.mpr hcollision.1,Bool.eq_false_iff.mpr hcollision.2⟩
    have hrest:∀e∈entries,(expanded.insert (generatedName n inner)
      (expandedNode n f node)).contains (generatedName n e.1)=false:=by
     intro e he
     rw [contains_eq_false_iff,lookup_insert_ne,←contains_eq_false_iff]
     · exact hfresh e (mem_cons_of_mem _ he)
     · intro heq
       exact hnot (List.mem_map.mpr ⟨e,he,(generatedName_injective n heq).symm⟩)
    obtain ⟨hall,hlookup⟩:=ih hkeys hrest h
    refine ⟨?_,?_⟩
    · intro e he
      rcases mem_cons.mp he with rfl|he
      · exact ⟨hfree,hwhen⟩
      · exact hall e he
    · intro k v
      rw [hlookup,lookup_insert]
      by_cases hk:generatedName n inner=k
      · subst hk
        rw [if_pos rfl,(contains_eq_false_iff _).mp hfreeExpanded]
        simp [eq_comm]
      · rw [if_neg hk]
        simp [Ne.symm hk]

lemma expandNodes_success(hkeys:(entries.map Prod.fst).Nodup){expanded:StringMap Value}
  (hfresh:∀e∈entries,expanded.contains (generatedName n e.1)=false)
  (hall:∀e∈entries,nodes.contains (generatedName n e.1)=false∧WhenInside f e.2):
  ∃result,expandNodes n f nodes entries expanded=.ok result:=by
 induction entries generalizing expanded with
 | nil=>exact ⟨expanded,rfl⟩
 | cons entry entries ih=>
  obtain ⟨inner,node⟩:=entry
  obtain ⟨hnot,hkeys⟩:=nodup_cons.mp hkeys
  have hhead:=hall _ mem_cons_self
  have hrest:∀e∈entries,(expanded.insert (generatedName n inner)
    (expandedNode n f node)).contains (generatedName n e.1)=false:=by
   intro e he
   rw [contains_eq_false_iff,lookup_insert_ne,←contains_eq_false_iff]
   · exact hfresh e (mem_cons_of_mem _ he)
   · intro heq
     exact hnot (List.mem_map.mpr ⟨e,he,(generatedName_injective n heq).symm⟩)
  obtain ⟨result,hresult⟩:=ih hkeys hrest fun e he=>hall e (mem_cons_of_mem _ he)
  refine ⟨result,?_⟩
  rw [expandNodes,if_neg]
  · simp only [bind_ok,expandNode_ok]
    exact ⟨_,⟨hhead.2,rfl⟩,hresult⟩
  · simp [hhead.1,hfresh _ mem_cons_self]

def rootOf (n:String) (e:Edge) : RootEdge where
 edge:=e
 inputPort:=if ownerOf e.2=n then some (portOf e.2) else none
 outputPort:=if ownerOf e.1=n then some (portOf e.1) else none

/-- A root edge between endpoints that uses the instance by its declared ports. -/
structure KnownPorts (n:String) (i:Interface) (e:Edge) : Prop where
 source:IsEndpoint e.1
 target:IsEndpoint e.2
 inputPort:ownerOf e.2=n→portOf e.2∈i.inputs
 outputPort:ownerOf e.1=n→portOf e.1∈i.outputs

variable {i:Interface}

lemma rootEdge_ok{root:RootEdge}:rootEdge n i value=.ok root ↔
   ∃e,edgeOf value=.ok e∧KnownPorts n i e∧root=rootOf n e:=by
 simp only [rootEdge,bind_ok,ensure_ok,Bool.or_eq_true,Bool.not_eq_true',
  beq_eq_false_iff_ne,List.contains_iff_mem]
 constructor
 · rintro ⟨e,he,⟨_,_⟩,ht,⟨_,_⟩,hs,_,hin,_,hout,hroot⟩
   cases hroot
   obtain ⟨-,-,-,rfl,rfl⟩:=endpoint_ok.mp ht
   obtain ⟨-,-,-,rfl,rfl⟩:=endpoint_ok.mp hs
   exact ⟨e,he,⟨⟨_,_,hs⟩,⟨_,_,ht⟩,fun h=>hin.resolve_left (not_not.mpr h),
    fun h=>hout.resolve_left (not_not.mpr h)⟩,rfl⟩
 · rintro ⟨e,he,hknown,rfl⟩
   refine ⟨e,he,_,isEndpoint_iff.mp hknown.target,_,isEndpoint_iff.mp hknown.source,(),?_,(),?_,rfl⟩
   · exact or_iff_not_imp_left.mpr fun h=>hknown.inputPort (not_not.mp h)
   · exact or_iff_not_imp_left.mpr fun h=>hknown.outputPort (not_not.mp h)

lemma collect_rootEdge_ok{values:List Value}{roots:List RootEdge}:
  collect (rootEdge n i) values=.ok roots ↔ ∃E,collect edgeOf values=.ok E∧(∀e∈E,KnownPorts n i e) ∧
    roots=E.map (rootOf n):=
 collect_ok_of_iff fun _ _=>rootEdge_ok

variable {E:List Edge}

def inbound (E:List Edge) (n port:String) : List Edge := E.filter fun e=>e.2=n ++ "." ++ port

lemma incoming_map_rootOf(hn:Dotless n)(hE:∀e∈E,IsEndpoint e.2)(port:String):
  incoming (E.map (rootOf n)) port=(inbound E n port).map (rootOf n):=by
 rw [incoming,List.filter_map,inbound]
 congr 1
 apply filter_congr
 intro e he
 have hiff:e.2=n++"."++port↔ownerOf e.2=n∧portOf e.2=port:=(hE e he).eq_joined_iff hn
 rw [Bool.eq_iff_iff,decide_eq_true_iff,hiff,Function.comp_apply,beq_iff_eq]
 unfold rootOf
 by_cases howner:ownerOf e.2=n
 · simp [howner]
 · simp [howner]

lemma checkIncoming_ok(hn:Dotless n)(hE:∀e∈E,IsEndpoint e.2):
  checkIncoming n i (E.map (rootOf n))=.ok u ↔ ∀port∈i.inputs,∃e,inbound E n port=[e]:=by
 unfold checkIncoming
 have hlength:∀port,(incoming (E.map (rootOf n)) port).length=(inbound E n port).length:=by
  intro port
  rw [incoming_map_rootOf hn hE,length_map]
 simp only [hlength]
 split
 · next port hport=>
   have hmem:=mem_of_find?_eq_some hport
   have hne:(inbound E n port).length≠1:=by simpa using List.find?_some hport
   simp only [reduceCtorEq,false_iff,not_forall]
   refine ⟨port,hmem,?_⟩
   rintro ⟨e,he⟩
   exact hne (by rw [he];rfl)
 · next hnone=>simpa [length_eq_one_iff] using hnone

lemma sourceOf_of_inbound(h:inbound E n port=[e]):sourceOf E (n++"."++port)=e.1:=by
 rw [sourceOf,←List.head?_filter]
 change ((inbound E n port).head?.map Prod.fst).getD _=_
 rw [h]
 rfl

/-- The graph uses the instance by its interface, and the generated names are free. -/
structure Spliceable (n:String) (f:Fragment) (nodes:StringMap Value) (E:List Edge) : Prop where
 ports:∀e∈E,KnownPorts n f.interface e
 single:∀port∈f.interface.inputs,∃e,inbound E n port=[e]
 fresh:∀k,Generates n f k→nodes.contains k=false
 inside:∀(inner:String) (node:Value),f.nodes[inner]?=some node→WhenInside f node
 whens:∀(k:String) (node:Value),k≠n→nodes[k]?=some node→WhenKnown n f node

lemma externalSource_eq(hn:Dotless n)(hE:∀e∈E,IsEndpoint e.2)(h:inbound E n port=[e]):
  externalSource n f (wiringOf f) (E.map (rootOf n)) port =
   producer ownerOf (component n f) (sourceOf E (n++"."++port)):=by
 rw [externalSource,incoming_map_rootOf hn hE,h,sourceOf_of_inbound h,producer]
 simp only [map_cons,map_nil,List.head?_cons,rootOf]
 by_cases howner:ownerOf e.1=n
 · rw [if_pos howner,if_pos (show ownerOf e.1=(component n f).name from howner)]
   rfl
 · rw [if_neg howner,if_neg (show ownerOf e.1≠(component n f).name from howner)]

lemma inputEdges_perm(hn:Dotless n)(hf:Consistent f)(hs:Spliceable n f g.nodes E):
  (f.interface.inputs.flatMap fun port=>(inputTargets (wiringOf f) port).map fun target=>
   (externalSource n f (wiringOf f) (E.map (rootOf n)) port,prefixEndpoint target n f.nodes)).Perm
   ((prefixedInputs n f).map fun i=>
    (producer ownerOf (component n f) (sourceOf E i.1),i.2)):=by
 have hgroup:=group_perm f.interface.inputs_nodup (fun i:Edge=>portOf i.1)
  (l:=prefixedInputs n f) fun i hi=>(prefixedInputs_spec hn hf hi).1.2
 have hmap:=hgroup.map fun i=>(producer ownerOf (component n f) (sourceOf E i.1),i.2)
 rw [map_flatMap] at hmap
 refine List.Perm.trans (List.Perm.of_eq ?_) hmap
 apply flatMap_congr
 intro port hport
 obtain ⟨e,he⟩:=hs.single port hport
 have hsource:=externalSource_eq (f:=f) hn (fun e he=>(hs.ports e he).target) he
 rw [hsource,inputTargets,prefixedInputs,map_filterMap,filter_filterMap,map_filterMap]
 apply filterMap_congr
 intro fe _
 cases fe with
 | input p target=>
  by_cases hp:p=port
  · simp [hp,portOf_joined hn]
  · simp [hp,portOf_joined hn]
 | output source p=>rfl
 | internal source target=>rfl

lemma unrelatedEdges_eq(E:List Edge):
  ((E.map (rootOf n)).filter fun e=>e.inputPort.isNone&&e.outputPort.isNone).map
    RootEdge.edge =
   ((E.filter fun e=>ownerOf e.2≠n).filter fun e=>ownerOf e.1≠n).map fun e=>
    (producer ownerOf (component n f) e.1,e.2):=by
 rw [List.filter_map,List.map_map,List.filter_filter]
 have hpred:(E.filter ((fun e:RootEdge=>e.inputPort.isNone&&e.outputPort.isNone) ∘
   rootOf n))=E.filter fun e=>decide (ownerOf e.1≠n)&&decide (ownerOf e.2≠n):=by
  apply filter_congr
  intro e _
  by_cases h₁:ownerOf e.1=n <;>by_cases h₂:ownerOf e.2=n <;>simp [rootOf,h₁,h₂]
 rw [hpred]
 apply map_congr_left
 intro e he
 have hboth:=(List.mem_filter.mp he).2
 simp only [Bool.and_eq_true,decide_eq_true_eq] at hboth
 have hne:ownerOf e.1≠(component n f).name:=hboth.1
 rw [producer,if_neg hne]
 rfl

lemma outgoingEdges_perm(hs:Spliceable n f g.nodes E):(f.interface.outputs.flatMap fun port=>
   ((E.map (rootOf n)).filter fun e=>e.outputPort==some port&&e.inputPort.isNone).map
    fun e=>(outputProducer n f (wiringOf f) port,e.edge.2)).Perm
   (((E.filter fun e=>ownerOf e.2≠n).filter fun e=>¬ownerOf e.1≠n).map fun e=>
    (producer ownerOf (component n f) e.1,e.2)):=by
 have hgroup:=group_perm f.interface.outputs_nodup (fun e:Edge=>portOf e.1)
  (l:=(E.filter fun e=>ownerOf e.2≠n).filter fun e=>¬ownerOf e.1≠n) (by
   intro e he
   obtain ⟨hmem,howner⟩:=List.mem_filter.mp he
   exact (hs.ports e (List.mem_filter.mp hmem).1).outputPort (by simpa using howner))
 have hmap:=hgroup.map fun e=>(producer ownerOf (component n f) e.1,e.2)
 rw [map_flatMap] at hmap
 refine List.Perm.trans (List.Perm.of_eq ?_) hmap
 apply flatMap_congr
 intro port _
 rw [List.filter_map,List.map_map,List.filter_filter,List.filter_filter]
 have hpred:(E.filter ((fun e:RootEdge=>e.outputPort==some port&&e.inputPort.isNone) ∘
   rootOf n))=E.filter fun e=>decide (portOf e.1=port)&&decide (¬ownerOf e.1≠n) &&
    decide (ownerOf e.2≠n):=by
  apply filter_congr
  intro e _
  by_cases h₁:ownerOf e.1=n <;>by_cases h₂:ownerOf e.2=n <;>by_cases h₃:portOf e.1=port <;>
   simp [rootOf,h₁,h₂,h₃]
 rw [hpred]
 apply map_congr_left
 intro e he
 have hboth:=(List.mem_filter.mp he).2
 simp only [ne_eq,not_not,Bool.and_eq_true,decide_eq_true_eq] at hboth
 have hname:ownerOf e.1=(component n f).name:=hboth.1.2
 rw [producer,if_pos hname,←hboth.1.1]
 rfl

lemma splicedEdges_perm(hn:Dotless n)(hf:Consistent f)(hs:Spliceable n f g.nodes E):
  (splicedEdges n f (wiringOf f) (E.map (rootOf n))).Perm
   (place ownerOf (component n f) E):=by
 have hin:=inputEdges_perm hn hf hs
 have hsplit:=filter_append_perm (fun e:Edge=>decide (ownerOf e.1≠n))
  (E.filter fun e=>ownerOf e.2≠n)
 have hout:(((E.map (rootOf n)).filter fun e=>e.inputPort.isNone&&e.outputPort.isNone).map
   RootEdge.edge++f.interface.outputs.flatMap fun port=>
    ((E.map (rootOf n)).filter fun e=>e.outputPort==some port&&e.inputPort.isNone).map
     fun e=>(outputProducer n f (wiringOf f) port,e.edge.2)).Perm
   ((E.filter fun e=>ownerOf e.2≠n).map fun e=>
    (producer ownerOf (component n f) e.1,e.2)):=by
  rw [unrelatedEdges_eq E]
  refine ((outgoingEdges_perm hs).append_left _).trans ?_
  rw [←map_append]
  apply List.Perm.map
  simpa using hsplit
 unfold splicedEdges place
 rw [append_assoc,append_assoc]
 refine List.Perm.trans ?_ (hout.append ((List.Perm.refl (prefixedInternal n f)).append hin))
 rw [append_assoc]
 refine List.Perm.append_left _ ?_
 rw [←append_assoc]
 exact perm_append_comm

def SplicedNodes (n:String) (f:Fragment) (before after:StringMap Value) : Prop :=
 ∀(k:String) (v:Value),after[k]?=some v↔(∃(inner:String) (node:Value),f.nodes[inner]?=some node ∧
   k=generatedName n inner∧v=expandedNode n f node) ∨
  (k≠n ∧ ∃node:Value,before[k]?=some node∧v=rewrittenNode (component n f) node)

lemma rewrittenNodes_ok:
  collect (fun e=>(rewriteNode n f (wiringOf f) e.2).map fun node=>(e.1,node)) nodes.toList =
   .ok entries↔(∀(k:String) (node:Value),nodes[k]?=some node→WhenKnown n f node) ∧
    entries=nodes.toList.map fun e=>(e.1,rewrittenNode (component n f) e.2):=by
 have hbody:∀e b,(rewriteNode n f (wiringOf f) e.2).map (fun node=>(e.1,node))=.ok b ↔
   ∃c:String×Value,(Except.ok e:Except CompositionError _)=.ok c ∧
    WhenKnown n f c.2∧b=(c.1,rewrittenNode (component n f) c.2):=by
  intro e b
  simp only [except_map_ok,rewriteNode_ok,Except.ok.injEq,exists_eq_left']
  constructor
  · rintro ⟨_,⟨hwhen,rfl⟩,rfl⟩
    exact ⟨hwhen,rfl⟩
  · rintro ⟨hwhen,rfl⟩
    exact ⟨_,⟨hwhen,rfl⟩,rfl⟩
 have hself:collect (fun e=>(Except.ok e:Except CompositionError _)) nodes.toList =
   .ok nodes.toList:=by
  simpa using collect_map (f:=fun e=>(Except.ok e:Except CompositionError _)) (g:=id)
   (l:=nodes.toList) fun _ _=>rfl
 rw [collect_ok_of_iff hbody,hself]
 simp only [Except.ok.injEq,exists_eq_left']
 constructor
 · rintro ⟨hall,rfl⟩
   exact ⟨fun k node h=>hall (k,node) (mem_toList_iff_getElem?_eq_some.mpr h),rfl⟩
 · rintro ⟨hall,rfl⟩
   exact ⟨fun e he=>hall e.1 e.2 (mem_toList_iff_getElem?_eq_some.mp he),rfl⟩

lemma lookup_rewrittenNodes(nodes:StringMap Value)(h:Value→Value)(k:String)
  (v:Value):(ExtTreeMap.ofList (nodes.toList.map fun e=>(e.1,h e.2)))[k]?=some v ↔
   ∃node : Value,nodes[k]?=some node∧v=h node:=by
 have hkeys:((nodes.toList.map fun e=>(e.1,h e.2)).map Prod.fst).Nodup:=by
  rw [List.map_map]
  exact nodup_keys_toList nodes
 rw [lookup_ofList_nodup hkeys,List.mem_map]
 constructor
 · rintro ⟨⟨k',node⟩,hmem,heq⟩
   cases heq
   exact ⟨node,mem_toList_iff_getElem?_eq_some.mp hmem,rfl⟩
 · rintro ⟨node,hnode,rfl⟩
   exact ⟨(k,node),mem_toList_iff_getElem?_eq_some.mpr hnode,rfl⟩

lemma lookup_erase(m:StringMap Value)(k j:String)(v:Value):
  (m.erase k)[j]?=some v↔j≠k∧m[j]?=some v:=by
 rw [ExtTreeMap.getElem?_erase]
 by_cases h:k=j
 · simp [h]
 · simp [h,Ne.symm h,LawfulEqCmp.compare_eq_iff_eq]

lemma spliceFragment_ok(hn:Dotless n)(h:spliceFragment n f g=.ok r):
  ∃E,collect edgeOf g.edges=.ok E∧Consistent f∧Spliceable n f g.nodes E ∧
   SplicedNodes n f g.nodes r.nodes ∧
   ∃es : List Edge,r.edges=es.map edgeValue∧es.Perm (place ownerOf (component n f) E):=by
 simp only [spliceFragment,bind_ok,collect_rootEdge_ok] at h
 obtain ⟨_,⟨E,hE,hports,rfl⟩,_,hsingle,edges,hedges,expanded,hexpanded,rewritten,hrewritten,hr⟩:=h
 have hf:=consistent_of_fragmentEdges hedges
 have hwiring:edges=wiringOf f:=Except.ok.inj (hedges.symm.trans hf.checked)
 subst hwiring
 rw [checkIncoming_ok hn fun e he=>(hports e he).target] at hsingle
 obtain ⟨hwhens,rfl⟩:=rewrittenNodes_ok.mp hrewritten
 obtain ⟨hentries,hlookup⟩:=expandNodes_ok (nodup_keys_toList f.nodes) (by simp) hexpanded
 have hs:Spliceable n f g.nodes E:=by
  refine ⟨hports,hsingle,?_,?_,?_⟩
  · rintro _ ⟨inner,hinner,rfl⟩
    obtain ⟨node,hnode⟩:=(contains_iff _).mp hinner
    exact (hentries (inner,node) (mem_toList_iff_getElem?_eq_some.mpr hnode)).1
  · intro inner node hnode
    exact (hentries (inner,node) (mem_toList_iff_getElem?_eq_some.mpr hnode)).2
  · intro k node hk hnode
    exact hwhens k node ((lookup_erase _ _ _ _).mpr ⟨hk,hnode⟩)
 cases hr
 refine ⟨E,hE,hf,hs,?_,_,rfl,splicedEdges_perm hn hf hs⟩
 have hgenerated:∀(k:String) (v:Value),expanded[k]?=some v ↔
   ∃(inner:String) (node:Value),f.nodes[inner]?=some node ∧
    k=generatedName n inner∧v=expandedNode n f node:=by
  intro k v
  rw [hlookup]
  simp [mem_toList_iff_getElem?_eq_some]
 have hroot:∀(k:String) (v:Value),(ExtTreeMap.ofList ((g.nodes.erase n).toList.map
   fun e=>(e.1,rewrittenNode (component n f) e.2)))[k]?=some v ↔
   k≠n∧∃node:Value,g.nodes[k]?=some node∧v=rewrittenNode (component n f) node:=by
  intro k v
  rw [lookup_rewrittenNodes]
  simp only [lookup_erase,and_assoc,exists_and_left]
 intro k v
 rw [ExtTreeMap.getElem?_union,Option.or_eq_some_iff,hgenerated,hroot]
 constructor
 · rintro (hgen|⟨-,hold⟩)
   · exact .inl hgen
   · exact .inr hold
 · rintro (hgen|hold)
   · exact .inl hgen
   · refine .inr ⟨?_,hold⟩
     -- A generated name is not the name of a root node.
     rw [←Option.not_isSome_iff_eq_none,Option.isSome_iff_exists]
     rintro ⟨w,hw⟩
     obtain ⟨inner,node,hnode,rfl,-⟩:=(hgenerated k w).mp hw
     obtain ⟨old,hlookupOld,-⟩:=hold.2
     have hfree:=hs.fresh _ ⟨inner,(contains_iff _).mpr ⟨node,hnode⟩,rfl⟩
     rw [(contains_eq_false_iff _).mp hfree] at hlookupOld
     cases hlookupOld

lemma spliceFragment_success(hn:Dotless n)(hf:Consistent f)(hE:collect edgeOf g.edges=.ok E)
  (hs:Spliceable n f g.nodes E):∃r,spliceFragment n f g=.ok r:=by
 have hempty:∀e∈f.nodes.toList,(∅:StringMap Value).contains (generatedName n e.1)=false:=by simp
 have hentries:∀e∈f.nodes.toList,g.nodes.contains (generatedName n e.1)=false∧WhenInside f e.2:=by
  rintro ⟨inner,node⟩ he
  have hnode:=mem_toList_iff_getElem?_eq_some.mp he
  exact ⟨hs.fresh _ ⟨inner,(contains_iff _).mpr ⟨node,hnode⟩,rfl⟩,hs.inside inner node hnode⟩
 obtain ⟨expanded,hexpanded⟩:=expandNodes_success (nodup_keys_toList f.nodes) hempty hentries
 have hwhens:∀(k:String) (node:Value),(g.nodes.erase n)[k]?=some node→WhenKnown n f node:=by
  intro k node hnode
  obtain ⟨hk,hnode⟩:=(lookup_erase _ _ _ _).mp hnode
  exact hs.whens k node hk hnode
 have hincoming:checkIncoming n f.interface (E.map (rootOf n))=.ok ():=
  (checkIncoming_ok hn fun e he=>(hs.ports e he).target).mpr hs.single
 simp only [spliceFragment,bind_ok,collect_rootEdge_ok]
 exact ⟨_,_,⟨E,hE,hs.ports,rfl⟩,(),hincoming,_,hf.checked,expanded,hexpanded,_,
  rewrittenNodes_ok.mpr ⟨hwhens,rfl⟩,rfl⟩

end GraphBlocks.Composition
