import Mathlib.Data.List.Basic
import Mathlib.Data.List.Perm.Basic
import Mathlib.Tactic

namespace GraphBlocks.Wiring
open List

variable {ε ν:Type} [DecidableEq ν]

/-- A component behind one name: the internal producer of each output endpoint, its internal
edges, and its inputs, each an input endpoint with an internal consumer. -/
structure Component (ε ν:Type) where
 name:ν
 output:ε→ε
 internal:List (ε×ε)
 inputs:List (ε×ε)

variable (owner:ε→ν)

def producer (c:Component ε ν) (x:ε) : ε := if owner x=c.name then c.output x else x

/-- The internal producer behind an endpoint, if the endpoint belongs to a component. -/
def resolve (cs:List (Component ε ν)) (x:ε) : ε :=
 match cs.find? fun c=>c.name=owner x with
 | some c=>c.output x
 | none=>x

/-- Nothing inside the component is owned by the name. -/
structure Apart (c:Component ε ν) (n:ν) : Prop where
 output:∀x,owner (c.output x)≠n
 internalSource:∀e∈c.internal,owner e.1≠n
 internalTarget:∀e∈c.internal,owner e.2≠n
 consumer:∀i∈c.inputs,owner i.2≠n

variable {owner} {n:ν} {c:Component ε ν} {cs:List (Component ε ν)} {edges:List (ε×ε)} {x:ε}

lemma resolve_of_not_mem(h:owner x∉cs.map Component.name):resolve owner cs x=x:=by
 have hnone:(cs.find? fun c=>c.name=owner x)=none:=by
  rw [List.find?_eq_none]
  intro c hc heq
  exact h (mem_map.mpr ⟨c,hc,by simpa using heq⟩)
 rw [resolve,hnone]

lemma resolve_of_mem(hn:(cs.map Component.name).Nodup)(hc:c∈cs)
  (hx:owner x=c.name):resolve owner cs x=c.output x:=by
 unfold resolve
 cases hf:cs.find? fun c=>c.name=owner x with
 | none=>
  have:=List.find?_eq_none.mp hf c hc
  simp [hx] at this
 | some c'=>
  have hname:c'.name=c.name:=by
   have:=List.find?_some hf
   simpa [hx] using this
  rw [inj_on_of_nodup_map hn (mem_of_find?_eq_some hf) hc hname]

lemma resolve_cases(cs:List (Component ε ν))(x:ε):
  (owner x∉cs.map Component.name∧resolve owner cs x=x) ∨
   ∃c∈cs,owner x=c.name∧resolve owner cs x=c.output x:=by
 unfold resolve
 cases hf:cs.find? fun c=>c.name=owner x with
 | none=>
  refine .inl ⟨?_,rfl⟩
  intro hmem
  obtain ⟨c,hc,hname⟩:=mem_map.mp hmem
  have:=List.find?_eq_none.mp hf c hc
  simp [hname] at this
 | some c=>
  refine .inr ⟨c,mem_of_find?_eq_some hf,?_,rfl⟩
  have:=List.find?_some hf
  simpa [eq_comm] using this

lemma producer_resolve(hapart:∀d∈cs,Apart owner d c.name)(x:ε):
  producer owner c (resolve owner cs x)=resolve owner (cs++[c]) x:=by
 have hconcat:resolve owner (cs++[c]) x=match cs.find? fun c=>c.name=owner x with
   | some d=>d.output x
   | none=>producer owner c x:=by
  unfold resolve producer
  rw [List.find?_append]
  cases cs.find? fun c=>c.name=owner x with
  | some d=>rfl
  | none=>
   by_cases hx:owner x=c.name
   · simp [hx]
   · simp [hx,Ne.symm hx]
 rw [hconcat,resolve]
 cases hf:cs.find? fun c=>c.name=owner x with
 | none=>rfl
 | some d=>exact if_neg ((hapart d (mem_of_find?_eq_some hf)).output x)

variable {cs':List (Component ε ν)}

lemma resolve_perm(hn:(cs.map Component.name).Nodup)
  (hp:cs.Perm cs')(x:ε):resolve owner cs x=resolve owner cs' x:=by
 have hn':(cs'.map Component.name).Nodup:=(hp.map _).nodup_iff.mp hn
 rcases @resolve_cases ε ν _ owner cs x with ⟨hx,hr⟩|⟨c,hc,hx,hr⟩
 · rw [hr,resolve_of_not_mem fun hmem=>hx ((hp.map _).mem_iff.mpr hmem)]
 · rw [hr,resolve_of_mem hn' (hp.mem_iff.mp hc) hx]

variable [DecidableEq ε]

/-- Where the edge into an endpoint comes from. -/
def sourceOf (edges:List (ε×ε)) (x:ε) : ε := ((edges.find? fun e=>e.2=x).map Prod.fst).getD x

lemma sourceOf_mem{y:ε}(hx:(y,x)∈edges)(hunique:∀e∈edges,e.2=x→e.1=y):sourceOf edges x=y:=by
 unfold sourceOf
 cases hf:edges.find? fun e=>e.2=x with
 | none=>
  have:=List.find?_eq_none.mp hf _ hx
  simp at this
 | some e=>
  have htarget:e.2=x:=by simpa using List.find?_some hf
  simpa using hunique e (mem_of_find?_eq_some hf) htarget

lemma sourceOf_perm{edges':List (ε×ε)}(hp:edges.Perm edges')
  (hunique:∀e∈edges,∀e'∈edges,e.2=x→e'.2=x→e.1=e'.1):sourceOf edges x=sourceOf edges' x:=by
 cases hf:edges.find? fun e=>e.2=x with
 | none=>
  have hf':(edges'.find? fun e=>e.2=x)=none:=by
   rw [List.find?_eq_none] at hf ⊢
   exact fun e he=>hf e (hp.mem_iff.mpr he)
  rw [sourceOf,sourceOf,hf,hf']
 | some e=>
  have he:=mem_of_find?_eq_some hf
  have htarget:e.2=x:=by simpa using List.find?_some hf
  rw [sourceOf,hf]
  symm
  apply sourceOf_mem
  · rw [←htarget]
    exact hp.mem_iff.mp he
  · intro e' he' htarget'
    exact hunique e' (hp.mem_iff.mpr he') e he htarget' htarget

lemma sourceOf_append_of_not_target{rest:List (ε×ε)}
  (h:∀e∈rest,e.2≠x):sourceOf (edges++rest) x=sourceOf edges x:=by
 have hnone:(rest.find? fun e=>e.2=x)=none:=by
  rw [List.find?_eq_none]
  intro e he
  simpa using h e he
 rw [sourceOf,sourceOf,List.find?_append,hnone,Option.or_none]

lemma sourceOf_rewritten{f:ε→ε}{p:ε×ε→Bool}(hx:f x=x)(hp:∀e:ε×ε,e.2=x→p e=true):
  sourceOf ((edges.filter p).map fun e=>(f e.1,e.2)) x=f (sourceOf edges x):=by
 induction edges with
 | nil=>simp [sourceOf,hx]
 | cons e edges ih=>
  by_cases htarget:e.2=x
  · simp [sourceOf,hp e htarget,htarget]
  · have hskip:sourceOf (e::edges) x=sourceOf edges x:=by simp [sourceOf,htarget]
    rw [hskip,←ih,filter_cons]
    split
    · simp [sourceOf,htarget]
    · rfl

variable (owner) in
def place (c:Component ε ν) (edges:List (ε×ε)) : List (ε×ε) :=
 ((edges.filter fun e=>owner e.2≠c.name).map fun e=>(producer owner c e.1,e.2)) ++
  (c.internal++c.inputs.map fun i=>(producer owner c (sourceOf edges i.1),i.2))

variable (owner) in
def flatten (cs:List (Component ε ν)) (edges:List (ε×ε)) : List (ε×ε) :=
 ((edges.filter fun e=>owner e.2∉cs.map Component.name).map
  fun e=>(resolve owner cs e.1,e.2)) ++
  cs.flatMap fun c=>c.internal ++c.inputs.map fun i=>(resolve owner cs (sourceOf edges i.1),i.2)

/-- What the components bring along themselves. -/
def interior (resolve:ε→ε) (edges:List (ε×ε)) (c:Component ε ν) : List (ε×ε) :=
 c.internal++c.inputs.map fun i=>(resolve (sourceOf edges i.1),i.2)

lemma flatten_eq:flatten owner cs edges=((edges.filter fun e=>owner e.2∉cs.map Component.name).map
   fun e=>(resolve owner cs e.1,e.2)) ++
   cs.flatMap (interior (resolve owner cs) edges):=rfl

omit [DecidableEq ν] in
lemma interior_target(hapart:Apart owner c n){f:ε→ε}{e:ε×ε}
  (he:e∈interior f edges c):owner e.2≠n:=by
 rcases mem_append.mp he with he|he
 · exact hapart.internalTarget e he
 · obtain ⟨i,hi,rfl⟩:=mem_map.mp he
   exact hapart.consumer i hi

lemma interior_producer{d:Component ε ν}(hapart:Apart owner d c.name){f:ε→ε}:
  ((interior f edges d).map fun e=>(producer owner c e.1,e.2)) =
   interior (fun x=>producer owner c (f x)) edges d:=by
 unfold interior
 rw [map_append,map_map]
 congr 1
 conv_rhs=>rw [←map_id d.internal]
 apply map_congr_left
 intro e he
 rw [producer,if_neg (hapart.internalSource e he)]
 rfl

lemma place_flatten(hname:c.name∉cs.map Component.name)
  (hapart:∀d∈cs,Apart owner d c.name)(hinputs:∀i∈c.inputs,owner i.1=c.name):
  place owner c (flatten owner cs edges)=flatten owner (cs++[c]) edges:=by
 have hresolve:(fun x=>producer owner c (resolve owner cs x))=resolve owner (cs++[c]):=
  funext (producer_resolve hapart)
 have htarget:∀e∈cs.flatMap (interior (resolve owner cs) edges),owner e.2≠c.name:=by
  intro e he
  obtain ⟨d,hd,he⟩:=mem_flatMap.mp he
  exact interior_target (hapart d hd) he
 have hsource:∀i∈c.inputs,sourceOf (flatten owner cs edges) i.1 =
   resolve owner cs (sourceOf edges i.1):=by
  intro i hi
  have howner:owner i.1∉cs.map Component.name:=hinputs i hi▸hname
  rw [flatten_eq,sourceOf_append_of_not_target]
  · apply sourceOf_rewritten (resolve_of_not_mem howner)
    intro e he
    simpa [he] using howner
  · intro e he heq
    exact htarget e he (heq▸hinputs i hi)
 have houtside:((flatten owner cs edges).filter fun e=>owner e.2≠c.name) =
   ((edges.filter fun e=>owner e.2∉(cs++[c]).map Component.name).map
    fun e=>(resolve owner cs e.1,e.2)) ++
    cs.flatMap (interior (resolve owner cs) edges):=by
  rw [flatten_eq,filter_append,filter_map,filter_filter]
  congr 1
  · congr 1
    apply filter_congr
    intro e _
    rw [map_append,map_cons,map_nil,Function.comp_apply]
    simp only [ne_eq,mem_append,mem_singleton,not_or,Bool.decide_and]
    rw [Bool.and_comm]
  · rw [filter_eq_self]
    intro e he
    simpa using htarget e he
 have hlast:(c.internal++c.inputs.map fun i=>
   (producer owner c (sourceOf (flatten owner cs edges) i.1),i.2)) =
   interior (resolve owner (cs++[c])) edges c:=by
  rw [interior,←hresolve]
  congr 1
  apply map_congr_left
  intro i hi
  rw [hsource i hi]
 rw [place,houtside,hlast,flatten_eq,flatMap_append,map_append,map_map,append_assoc,←hresolve]
 congr 1
 congr 1
 · rw [map_flatMap]
   apply flatMap_congr
   intro d hd
   exact interior_producer (hapart d hd)
 · rw [flatMap_singleton]

lemma place_perm{edges':List (ε×ε)}(hp:edges.Perm edges')
  (hunique:∀i∈c.inputs,∀e∈edges,∀e'∈edges,e.2=i.1→e'.2=i.1→e.1=e'.1):
  (place owner c edges).Perm (place owner c edges'):=by
 unfold place
 refine ((hp.filter _).map _).append ?_
 have hinputs:(c.inputs.map fun i=>(producer owner c (sourceOf edges i.1),i.2)) =
   c.inputs.map fun i=>(producer owner c (sourceOf edges' i.1),i.2):=by
  apply map_congr_left
  intro i hi
  rw [sourceOf_perm hp (hunique i hi)]
 rw [hinputs]

lemma flatten_perm(hn:(cs.map Component.name).Nodup)
  (hp:cs.Perm cs'):(flatten owner cs edges).Perm (flatten owner cs' edges):=by
 have hresolve:resolve owner cs=resolve owner cs':=funext (resolve_perm hn hp)
 have hfilter:(edges.filter fun e=>owner e.2∉cs.map Component.name) =
   edges.filter fun e=>owner e.2∉cs'.map Component.name:=by
  apply filter_congr
  intro e _
  rw [decide_eq_decide,(hp.map _).mem_iff]
 rw [flatten_eq,flatten_eq,hresolve,hfilter]
 exact (hp.flatMap_right _).append_left _

lemma group_perm{α κ:Type}[DecidableEq κ]{ks:List κ}(hk:ks.Nodup)(key:α→κ){l:List α}
  (h:∀a∈l,key a∈ks):(ks.flatMap fun k=>l.filter fun a=>key a=k).Perm l:=by
 induction ks generalizing l with
 | nil=>
  cases l with
  | nil=>exact List.Perm.nil
  | cons a l=>exact absurd (h a mem_cons_self) not_mem_nil
 | cons k ks ih=>
  obtain ⟨hk₁,hk₂⟩:=nodup_cons.mp hk
  have hrest:(ks.flatMap fun k'=>l.filter fun a=>key a=k') =
    ks.flatMap fun k'=>(l.filter fun a=>key a≠k).filter fun a=>key a=k':=by
   apply flatMap_congr
   intro k' hk'
   rw [filter_filter]
   apply filter_congr
   intro a _
   have hne:k'≠k:=fun heq=>hk₁ (heq▸hk')
   by_cases ha:key a=k'
   · simp [ha,hne]
   · simp [ha]
  rw [flatMap_cons,hrest]
  have hrec:=ih hk₂ (l:=l.filter fun a=>key a≠k) (by
   intro a ha
   obtain ⟨hal,hne⟩:=mem_filter.mp ha
   rcases mem_cons.mp (h a hal) with heq|hmem
   · simp [heq] at hne
   · exact hmem)
  refine (hrec.append_left _).trans ?_
  have hsplit:=filter_append_perm (fun a=>decide (key a=k)) l
  simpa using hsplit

end GraphBlocks.Wiring
