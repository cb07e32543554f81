import GraphBlocks.CycleSearch

namespace GraphBlocks.CycleSearch
open Std OrderedMap List Option Std.ExtTreeMap

universe u

variable {κ:Type u} [Ord κ] [TransOrd κ] [LawfulEqOrd κ] (byNode:ExtTreeMap κ (List κ))

def Edge (a b:κ) : Prop := ∃index,neighborAt byNode a index=some b

/-- Every chain of edges from the node ends. -/
def Settled (node:κ) : Prop := Acc (fun b a=>Edge byNode a b) node

def Frames : List (κ×ℕ)→Option κ→Prop
 | [], _=>True
 | (node,next)::below, above=>
  (∀index<next,∀neighbor,neighborAt byNode node index=some neighbor →
   Settled byNode neighbor∨above=some neighbor)∧Frames below (some node)

omit [LawfulEqOrd κ] in
lemma Frames.settle{stack:List (κ×ℕ)}{above:κ}(h:Frames byNode stack (some above))
  (hsettled:Settled byNode above):Frames byNode stack none:=by
 cases stack with
 | nil=>trivial
 | cons frame below=>
  obtain ⟨node,next⟩:=frame
  refine ⟨?_,h.2⟩
  intro index hindex neighbor hneighbor
  rcases h.1 index hindex neighbor hneighbor with hn|hn
  · exact Or.inl hn
  · exact Or.inl (some.inj hn▸hsettled)

variable {neighbor:κ}

omit [LawfulEqOrd κ] in
lemma Frames.advance{node:κ}{next:ℕ}{below:List (κ×ℕ)}{above:Option κ}
  (h:Frames byNode ((node,next)::below) none)(hneighbor:neighborAt byNode node next=some neighbor)
  (hnew:Settled byNode neighbor∨above=some neighbor):
  Frames byNode ((node,next+1)::below) above:=by
 refine ⟨?_,h.2⟩
 intro index hindex other hother
 rcases Nat.lt_succ_iff_lt_or_eq.mp hindex with hlt|rfl
 · rcases h.1 index hlt other hother with hs|hs
   · exact Or.inl hs
   · cases hs
 · rw [hneighbor] at hother
   obtain rfl:=some.inj hother
   exact hnew

structure Tracks (s:Search κ) : Prop where
 stack_path:s.stack.map Prod.fst=s.path.reverse
 nodup:s.path.Nodup
 chain:s.path.IsChain (Edge byNode)
 visiting:∀node,s.states[node]?=some .visiting↔node∈s.path
 done:∀node,s.states[node]?=some .done→Settled byNode node
 position:∀(index:ℕ) (node:κ),s.path[index]?=some node→s.positions[node]?=some index
 frames:Frames byNode s.stack none

structure ClosedWalk (walk:List κ) : Prop where
 edges:walk.IsChain (Edge byNode)
 long:2≤walk.length
 closed:walk.head?=walk.getLast?
 distinct:walk.dropLast.Nodup

variable {byNode} {s:Search κ} {current:κ} {next:ℕ} {below:List (κ×ℕ)}

section
variable (h:Tracks byNode s) (hstack:s.stack=(current,next)::below)
include h hstack

omit [LawfulEqOrd κ] in
lemma Tracks.path_eq:∃before,s.path=before++[current]∧below.map Prod.fst=before.reverse:=by
 have hpath:=h.stack_path
 rw [hstack,map_cons] at hpath
 refine ⟨s.path.dropLast,?_,?_⟩
 · have hreverse:=congrArg List.reverse hpath
   rw [reverse_reverse,reverse_cons] at hreverse
   rw [←hreverse,dropLast_concat]
 · have htail:=congrArg List.tail hpath
   rw [tail_cons,tail_reverse] at htail
   exact htail

lemma Tracks.finish
  (hend:neighborAt byNode current next=none):Tracks byNode (s.finish current below):=by
 classical
 obtain ⟨before,hpath,hbelow⟩:=h.path_eq hstack
 have hframes:=h.frames
 rw [hstack] at hframes
 have hsettled:Settled byNode current:=by
  constructor
  rintro neighbor ⟨index,hindex⟩
  have hlt:index<next:=by
   by_contra hge
   unfold neighborAt at hend hindex
   cases hnode:byNode[current]? with
   | none=>rw [hnode] at hindex;cases hindex
   | some neighbors=>
    rw [hnode,bind_some] at hend hindex
    have hlen:=List.getElem?_eq_none_iff.mp hend
    have hin:=(List.getElem?_eq_some_iff.mp hindex).1
    omega
  rcases hframes.1 index hlt neighbor hindex with hs|hs
  · exact hs
  · cases hs
 have hnotin:current∉before:=by
  have hnodup:=h.nodup
  rw [hpath] at hnodup
  intro hmem
  exact (nodup_append.mp hnodup).2.2 current hmem current mem_cons_self rfl
 have hdrop:(s.finish current below).path=before:=by simp [Search.finish,hpath]
 refine ⟨?_,?_,?_,?_,?_,?_,Frames.settle byNode hframes.2 hsettled⟩
 · rw [hdrop]
   exact hbelow
 · rw [hdrop]
   exact (nodup_append.mp (hpath▸h.nodup)).1
 · rw [hdrop]
   exact (hpath▸h.chain).left_of_append
 · intro node
   rw [hdrop]
   simp only [Search.finish,lookup_insert]
   split
   · next heq=>
     subst heq
     simp [hnotin]
   · next hne=>
     rw [h.visiting,hpath]
     simp [Ne.symm hne]
 · intro node hnode
   simp only [Search.finish,lookup_insert] at hnode
   split at hnode
   · next heq=>exact heq▸hsettled
   · exact h.done node hnode
 · intro index node hnode
   rw [hdrop] at hnode
   have hne:current≠node:=by
    rintro rfl
    exact hnotin (mem_of_getElem? hnode)
   have hcompare:compare current node ≠ .eq:=fun heq=>hne (LawfulEqCmp.eq_of_compare heq)
   simp only [Search.finish]
   rw [ExtTreeMap.getElem?_erase,if_neg hcompare]
   apply h.position
   rw [hpath]
   exact List.getElem?_append_left (List.getElem?_eq_some_iff.mp hnode).1▸hnode

lemma Tracks.push
  (hneighbor:neighborAt byNode current next=some neighbor)(hnew:s.states[neighbor]?=none):
  Tracks byNode (s.push neighbor ((current,next+1)::below)):=by
 classical
 obtain ⟨before,hpath,hbelow⟩:=h.path_eq hstack
 have hframes:=h.frames
 rw [hstack] at hframes
 have hnotin:neighbor∉s.path:=by
  intro hmem
  rw [(h.visiting neighbor).mpr hmem] at hnew
  cases hnew
 refine ⟨?_,?_,?_,?_,?_,?_,?_⟩
 · simp [Search.push,hpath,hbelow]
 · exact nodup_append.mpr ⟨h.nodup,nodup_singleton _,by
    rintro a ha b hb rfl
    exact hnotin (mem_singleton.mp hb▸ha)⟩
 · refine List.IsChain.append h.chain (isChain_singleton _) ?_
   intro a ha b hb
   rw [hpath] at ha
   simp only [List.getLast?_append,List.getLast?_singleton,some_or,mem_def,
    Option.some.injEq,List.head?_cons] at ha hb
   subst ha hb
   exact ⟨next,hneighbor⟩
 · intro node
   simp only [Search.push,lookup_insert,mem_append,mem_singleton]
   split
   · next heq=>simp [heq]
   · next hne=>simp [h.visiting,Ne.symm hne]
 · intro node hnode
   simp only [Search.push,lookup_insert] at hnode
   split at hnode
   · cases hnode
   · exact h.done node hnode
 · intro index node hnode
   simp only [Search.push,lookup_insert] at hnode ⊢
   rw [List.getElem?_append] at hnode
   split at hnode
   · have hne:neighbor≠node:=by
      rintro rfl
      exact hnotin (mem_of_getElem? hnode)
     rw [if_neg hne]
     exact h.position index node hnode
   · next hge=>
     obtain ⟨hlt,heq⟩:=List.getElem?_eq_some_iff.mp hnode
     rw [length_singleton] at hlt
     have hindex:index=s.path.length:=by omega
     subst hindex
     simp only [Nat.sub_self,getElem_cons_zero] at heq
     rw [if_pos heq]
 · exact ⟨fun index hindex=>absurd hindex (Nat.not_lt_zero _),
    Frames.advance byNode hframes hneighbor (Or.inr rfl)⟩

end

omit [LawfulEqOrd κ] in
lemma Tracks.skip(h:Tracks byNode s)(hstack:s.stack=(current,next)::below)
  (hneighbor:neighborAt byNode current next=some neighbor)(hdone:s.states[neighbor]?=some .done):
  Tracks byNode { s with stack:=(current,next+1)::below }:=by
 have hframes:=h.frames
 rw [hstack] at hframes
 refine ⟨?_,h.nodup,h.chain,h.visiting,h.done,h.position,
  Frames.advance byNode hframes hneighbor (Or.inl (h.done neighbor hdone))⟩
 have hpath:=h.stack_path
 rw [hstack] at hpath
 exact hpath

omit [LawfulEqOrd κ] in
lemma Tracks.close(h:Tracks byNode s)(hstack:s.stack=(current,next)::below)
  (hneighbor:neighborAt byNode current next=some neighbor)
  (hvisiting:s.states[neighbor]?=some .visiting):
  ∃walk,s.close neighbor ((current,next+1)::below)=.cycle walk∧ClosedWalk byNode walk:=by
 obtain ⟨before,hpath,-⟩:=h.path_eq hstack
 obtain ⟨start,hstart⟩:=mem_iff_getElem?.mp ((h.visiting neighbor).mp hvisiting)
 obtain ⟨hlt,heq⟩:=List.getElem?_eq_some_iff.mp hstart
 have hclose:s.close neighbor ((current,next+1)::below)=.cycle (s.path.drop start++[neighbor]):=by
  simp only [Search.close,h.position start neighbor hstart,if_pos hlt.le]
 refine ⟨_,hclose,?_,?_,?_,?_⟩
 · refine List.IsChain.append (h.chain.drop start) (isChain_singleton _) ?_
   intro a ha b hb
   have hlast:(s.path.drop start).getLast?=some current:=by
    rw [List.getLast?_drop,if_neg (by omega),hpath]
    simp
   rw [hlast] at ha
   obtain rfl:=some.inj ha
   obtain rfl:=some.inj hb
   exact ⟨next,hneighbor⟩
 · simp only [length_append,length_drop,length_singleton]
   omega
 · rw [List.head?_append,List.head?_drop,hstart]
   simp
 · rw [dropLast_concat]
   exact h.nodup.sublist (drop_sublist _ _)

lemma Tracks.visit(h:Tracks byNode s)(hstack:s.stack=(current,next)::below):
  (∃t,visit byNode s current next below=.more t∧Tracks byNode t ∧
   ∀node:κ,s.states[node]?≠none→t.states[node]?≠none) ∨
   ∃walk,visit byNode s current next below=.cycle walk∧ClosedWalk byNode walk:=by
 classical
 have hkept:∀(node:κ) (mark:Mark) (other:κ),s.states[other]?≠none →
   (s.states.insert node mark)[other]?≠none:=by
  intro node mark other hother
  rw [lookup_insert]
  split
  · exact some_ne_none _
  · exact hother
 unfold CycleSearch.visit
 cases hneighbor:neighborAt byNode current next with
 | none=>exact Or.inl ⟨_,rfl,h.finish hstack hneighbor,hkept current .done⟩
 | some neighbor=>
  simp only
  cases hstate:s.states[neighbor]? with
  | none=>exact Or.inl ⟨_,rfl,h.push hstack hneighbor hstate,hkept neighbor .visiting⟩
  | some mark=>
   cases mark with
   | visiting=>
    obtain ⟨walk,hclose,hwalk⟩:=h.close hstack hneighbor hstate
    exact Or.inr ⟨walk,hclose,hwalk⟩
   | done=>exact Or.inl ⟨_,rfl,h.skip hstack hneighbor hstate,fun _ hnode=>hnode⟩

lemma search_spec(h:Tracks byNode s):
  (∀walk,(search byNode s).2=some walk→ClosedWalk byNode walk)∧((search byNode s).2=none →
    (∀(node:κ) (mark:Mark),(search byNode s).1[node]?=some mark→mark=.done∧Settled byNode node) ∧
     ∀node:κ,s.states[node]?≠none→(search byNode s).1[node]?≠none):=by
 fun_induction search byNode s with
 | case1 s hstack=>
  constructor
  · intro _ hwalk
    cases hwalk
  · refine fun _=>⟨?_,fun _ hnode=>hnode⟩
    intro node mark hnode
    cases mark with
    | done=>exact ⟨rfl,h.done node hnode⟩
    | visiting=>
     have hmem:=(h.visiting node).mp hnode
     have hpath:=h.stack_path
     rw [hstack,map_nil,eq_comm,reverse_eq_nil_iff] at hpath
     rw [hpath] at hmem
     cases hmem
 | case2 s current next below hstack path hvisit=>
  refine ⟨?_,nofun⟩
  rintro walk hwalk
  obtain rfl:=some.inj hwalk
  rcases h.visit hstack with ⟨t,ht,-⟩|⟨walk,hcycle,hwalk⟩
  · rw [hvisit] at ht
    cases ht
  · rw [hvisit] at hcycle
    obtain rfl:=Progress.cycle.inj hcycle
    exact hwalk
 | case3 s current next below hstack t hvisit ih=>
  rcases h.visit hstack with ⟨t',ht,htracks,hmarked⟩|⟨walk,hcycle,-⟩
  · rw [hvisit] at ht
    obtain rfl:=Progress.more.inj ht
    obtain ⟨hsome,hnone⟩:=ih htracks
    refine ⟨hsome,fun h=>⟨(hnone h).1,?_⟩⟩
    intro node hnode
    exact (hnone h).2 node (hmarked node hnode)
  · rw [hvisit] at hcycle
    cases hcycle

variable {states:ExtTreeMap κ Mark}

lemma tracks_startAt(root:κ)(hsettled:∀(node:κ) (mark:Mark),states[node]?=some mark →
   mark=.done∧Settled byNode node):
  Tracks byNode (startAt states root):=by
 classical
 refine ⟨rfl,nodup_singleton _,isChain_singleton _,?_,?_,?_,?_⟩
 · intro node
   simp only [startAt,lookup_insert,mem_singleton]
   split
   · next heq=>simp [heq]
   · next hne=>
     constructor
     · intro hnode
       cases (hsettled node _ hnode).1
     · intro heq
       exact absurd heq.symm hne
 · intro node hnode
   simp only [startAt,lookup_insert] at hnode
   split at hnode
   · cases hnode
   · exact (hsettled node _ hnode).2
 · intro index node hnode
   obtain ⟨hlt,heq⟩:=List.getElem?_eq_some_iff.mp hnode
   simp only [startAt,length_singleton] at hlt
   obtain rfl:index=0:=by omega
   simp only [startAt,getElem_cons_zero] at heq ⊢
   subst heq
   have hnodup:([(root,0)].map Prod.fst).Nodup:=nodup_singleton root
   exact (lookup_ofList_nodup hnodup root 0).mpr mem_cons_self
 · exact ⟨fun index hindex=>absurd hindex (Nat.not_lt_zero _),trivial⟩

lemma searchRoots_spec(roots:List κ)(hsettled:∀(node:κ) (mark:Mark),states[node]?=some mark →
   mark=.done∧Settled byNode node):
  (∀walk,searchRoots byNode roots states=some walk→ClosedWalk byNode walk) ∧
   (searchRoots byNode roots states=none→∀root∈roots,Settled byNode root):=by
 have hmain:(∀walk,searchRoots byNode roots states=some walk→ClosedWalk byNode walk) ∧
   (searchRoots byNode roots states=none →
    ∀root:κ,root∈roots∨states[root]?≠none→Settled byNode root):=by
  have hmarked:∀{states:ExtTreeMap κ Mark},(∀(node:κ) (mark:Mark),states[node]?=some mark →
     mark=.done∧Settled byNode node) →
    ∀node:κ,states[node]?≠none→Settled byNode node:=by
   intro states hsettled node hnode
   obtain ⟨mark,hmark⟩:=ne_none_iff_exists'.mp hnode
   exact (hsettled node mark hmark).2
  induction roots generalizing states with
  | nil=>
   constructor
   · intro _ h
     cases h
   · intro _ root hroot
     rcases hroot with hroot|hroot
     · cases hroot
     · exact hmarked hsettled root hroot
  | cons root roots ih=>
   rw [searchRoots]
   split
   · next hcontains=>
     obtain ⟨hsome,hnone⟩:=ih hsettled
     refine ⟨hsome,fun h node hnode=>hnone h node ?_⟩
     rcases hnode with hnode|hnode
     · rcases mem_cons.mp hnode with rfl|hnode
       · obtain ⟨mark,hmark⟩:=(contains_iff states).mp hcontains
         exact Or.inr (by rw [hmark];exact some_ne_none _)
       · exact Or.inl hnode
     · exact Or.inr hnode
   · obtain ⟨hsome,hnone⟩:=search_spec (tracks_startAt root hsettled)
     split
     · next cycle hsearch=>
       refine ⟨?_,nofun⟩
       intro walk hwalk
       obtain rfl:=some.inj hwalk
       exact hsome _ (congrArg Prod.snd hsearch)
     · next after hsearch=>
       obtain ⟨hafter,hkept⟩:=hnone (congrArg Prod.snd hsearch)
       rw [hsearch] at hafter hkept
       obtain ⟨hsome',hnone'⟩:=ih hafter
       refine ⟨hsome',fun h node hnode=>hnone' h node ?_⟩
       have hstart:∀other:κ,other=root∨states[other]?≠none →
         (startAt states root).states[other]?≠none:=by
        classical
        intro other hother
        simp only [startAt,lookup_insert]
        split
        · exact some_ne_none _
        · next hne=>
          rcases hother with heq|hother
          · exact absurd heq.symm hne
          · exact hother
       rcases hnode with hnode|hnode
       · rcases mem_cons.mp hnode with heq|hnode
         · exact Or.inr (hkept node (hstart node (Or.inl heq)))
         · exact Or.inl hnode
       · exact Or.inr (hkept node (hstart node (Or.inr hnode)))
 exact ⟨hmain.1,fun h root hroot=>hmain.2 h root (Or.inl hroot)⟩

/-- An edge of the graph: the second node is among the dependents of the first. -/
def Depends (dependencyGraph:ExtTreeMap κ (ExtTreeSet κ)) (a b:κ) : Prop :=
 ∃dependents,dependencyGraph[a]?=some dependents∧b∈dependents

/-- The dependencies have a cycle. -/
def Cyclic (dependencyGraph:ExtTreeMap κ (ExtTreeSet κ)) : Prop :=
 ∃node,Relation.TransGen (Depends dependencyGraph) node node

lemma edge_iff(dependencyGraph:ExtTreeMap κ (ExtTreeSet κ))(a b:κ):
  Edge (dependenciesByNode dependencyGraph) a b↔Depends dependencyGraph a b:=by
 unfold Edge Depends neighborAt dependenciesByNode
 rw [ExtTreeMap.getElem?_map]
 cases dependencyGraph[a]? with
 | none=>simp
 | some dependents=>
  simp only [map_some,bind_some,Option.some.injEq,exists_eq_left']
  rw [←ExtTreeSet.mem_toList,mem_iff_getElem?]

omit [Ord κ] [TransOrd κ] [LawfulEqOrd κ] in
lemma transGen_of_isChain{r:κ→κ→Prop}{a b:κ}{l:List κ}
  (h:(a::l).IsChain r)(hlast:l.getLast?=some b):Relation.TransGen r a b:=by
 induction l generalizing a with
 | nil=>cases hlast
 | cons c l ih=>
  obtain ⟨hac,hrest⟩:=isChain_cons_cons.mp h
  cases l with
  | nil=>
   obtain rfl:c=b:=by simpa using hlast
   exact .single hac
  | cons d l=>exact .head hac (ih hrest (by simpa using hlast))

omit [LawfulEqOrd κ] in
lemma ClosedWalk.cyclic{walk:List κ}(h:ClosedWalk byNode walk):
  ∃node,Relation.TransGen (Edge byNode) node node:=by
 obtain ⟨hedges,hlong,hclosed,-⟩:=h
 cases walk with
 | nil=>simp at hlong
 | cons node walk=>
  refine ⟨node,transGen_of_isChain hedges ?_⟩
  cases walk with
  | nil=>simp at hlong
  | cons other walk=>simpa using hclosed.symm

omit [LawfulEqOrd κ] in
lemma not_settled_of_cycle{node:κ}(h:Relation.TransGen (Edge byNode) node node):
  ¬Settled byNode node:=by
 intro hsettled
 have hacc:Acc (Relation.TransGen fun b a=>Edge byNode a b) node:=Acc.transGen hsettled
 have hself:Relation.TransGen (fun b a=>Edge byNode a b) node node:=Relation.transGen_swap.mpr h
 induction hacc with
 | intro node _ ih=>exact ih node hself h hsettled hself

lemma findCycle_spec(dependencyGraph:ExtTreeMap κ (ExtTreeSet κ)):
  ((∃walk,findCycle dependencyGraph=some walk)↔Cyclic dependencyGraph) ∧
   ∀walk,findCycle dependencyGraph=some walk→walk.IsChain (Depends dependencyGraph)∧2≤walk.length ∧
     walk.head?=walk.getLast?∧walk.dropLast.Nodup:=by
 have hedge:Edge (dependenciesByNode dependencyGraph)=Depends dependencyGraph:=by
  funext a b
  exact propext (edge_iff dependencyGraph a b)
 have hempty:∀(node:κ) (mark:Mark),(∅:ExtTreeMap κ Mark)[node]?=some mark →
   mark=.done∧Settled (dependenciesByNode dependencyGraph) node:=by
  intro node mark h
  simp at h
 obtain ⟨hsome,hnone⟩:=searchRoots_spec (dependenciesByNode dependencyGraph).keys hempty
 refine ⟨⟨?_,?_⟩,?_⟩
 · rintro ⟨walk,hwalk⟩
   obtain ⟨node,hnode⟩:=ClosedWalk.cyclic (hsome walk hwalk)
   exact ⟨node,hedge▸hnode⟩
 · rintro ⟨node,hnode⟩
   by_contra hfound
   have hresult:findCycle dependencyGraph=none:=by
    cases hcycle:findCycle dependencyGraph with
    | none=>rfl
    | some walk=>exact absurd ⟨walk,hcycle⟩ hfound
   rw [←hedge] at hnode
   have hkey:node∈(dependenciesByNode dependencyGraph).keys:=by
    obtain ⟨next,hnext,-⟩:=Relation.TransGen.head'_iff.mp hnode
    obtain ⟨dependents,hdependents,-⟩:=(edge_iff dependencyGraph node next).mp hnext
    rw [ExtTreeMap.mem_keys,dependenciesByNode,ExtTreeMap.mem_map,←isSome_getElem?_iff_mem,
     hdependents]
    rfl
   exact not_settled_of_cycle hnode (hnone hresult node hkey)
 · intro walk hwalk
   obtain ⟨hedges,hlong,hclosed,hdistinct⟩:=hsome walk hwalk
   exact ⟨hedge▸hedges,hlong,hclosed,hdistinct⟩

/-- The compiler reports a cycle exactly when the dependencies have one, and the walk it
reports follows them, ends where it starts and repeats no other node. -/
theorem dependency_cycle_sound_complete (dependencyGraph : ExtTreeMap String (ExtTreeSet String)) :
  ((∃walk,dependencyCycle dependencyGraph=some walk)↔Cyclic dependencyGraph) ∧
   ∀walk,dependencyCycle dependencyGraph=some walk →
    walk.IsChain (Depends dependencyGraph)∧2≤walk.length ∧
     walk.head?=walk.getLast?∧walk.dropLast.Nodup :=
 findCycle_spec dependencyGraph

end GraphBlocks.CycleSearch
