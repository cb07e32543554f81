import GraphBlocks.CycleSearchProofs
import GraphBlocks.DependencyOrder

namespace GraphBlocks.DepthFirstSearch
open DependencyOrder List

universe u

/-- The successors of finitely many nodes; of other nodes nothing is known. -/
structure Graph (α:Type u) where
 nodes:List α
 next:α→Option (List α)
 mem_nodes:∀{node:α} {successors:List α},next node=some successors→node∈nodes

/-- Why a search stops: at an unknown node, or at a node of the path it came along. -/
inductive Fault (α:Type u) where
 | unknown (node:α)
 | cycle (path:List α) (node:α)

variable {α:Type u} [DecidableEq α]

def Graph.unseen (g:Graph α) (path:List α) : ℕ := (g.nodes.filter fun node=>node∉path).length

variable {successors:List α}

lemma Graph.unseen_lt(g:Graph α){path:List α}{node:α}(hpath:node∉path)
  (hnext:g.next node=some successors):g.unseen (path++[node])<g.unseen path:=by
 have hsub:(g.nodes.filter fun other=>other∉path++[node]).Sublist
   (g.nodes.filter fun other=>other∉path):=by
  apply monotone_filter_right
  intro other hother
  simp only [mem_append,not_or,decide_eq_true_eq] at hother ⊢
  exact hother.1
 refine Nat.lt_of_le_of_ne hsub.length_le ?_
 intro heq
 have hmem:node∈g.nodes.filter fun other=>other∉path:=
  mem_filter.mpr ⟨g.mem_nodes hnext,decide_eq_true hpath⟩
 rw [←hsub.eq_of_length heq] at hmem
 simpa using (mem_filter.mp hmem).2

/-- The nodes done, in this order, after the search of one more node. -/
def Graph.visit (g:Graph α) (path done:List α) (node:α) : Except (Fault α) (List α) :=
 if node∈done then .ok done
 else if _hpath : node∈path then .error (.cycle path node)
 else
  match _hnext : g.next node with
  | none=>.error (.unknown node)
  | some successors=>
   (successors.foldlM (fun done successor=>g.visit (path++[node]) done successor) done).map
    (·++[node])
termination_by g.unseen path
decreasing_by exact g.unseen_lt _hpath _hnext

def Graph.visitAll (g:Graph α) (path nodes done:List α) : Except (Fault α) (List α) :=
 nodes.foldlM (g.visit path) done

def Graph.search (g:Graph α) (roots:List α) : Except (Fault α) (List α) := g.visitAll [] roots []

variable {g:Graph α} {path done roots:List α} {node:α}

lemma Graph.visit_done(h:node∈done):g.visit path done node=.ok done:=by
 rw [Graph.visit,if_pos h]

lemma Graph.visit_cycle(hdone:node∉done)(hpath:node∈path):
  g.visit path done node=.error (.cycle path node):=by
 rw [Graph.visit,if_neg hdone,dif_pos hpath]

lemma Graph.visit_unknown(hdone:node∉done)(hpath:node∉path)
  (hnext:g.next node=none):g.visit path done node=.error (.unknown node):=by
 rw [Graph.visit,if_neg hdone,dif_neg hpath]
 split
 · rfl
 · next hsome=>cases hnext.symm.trans hsome

lemma Graph.visit_enter(hdone:node∉done)(hpath:node∉path)(hnext:g.next node=some successors):
  g.visit path done node=(g.visitAll (path++[node]) successors done).map (·++[node]):=by
 rw [Graph.visit,if_neg hdone,dif_neg hpath]
 split
 · next hnone=>cases hnext.symm.trans hnone
 · next others hsome=>
   obtain rfl:=Option.some.inj (hnext.symm.trans hsome)
   rfl

def Graph.Edge (g:Graph α) (a b:α) : Prop := ∃successors,g.next a=some successors∧b∈successors

abbrev Graph.Reach (g:Graph α) : α→α→Prop := Relation.ReflTransGen g.Edge

/-- What is done: known nodes, each after all its successors. -/
structure Graph.Settled (g:Graph α) (done:List α) : Prop where
 nodup:done.Nodup
 ordered:Ordered (fun node=>(g.next node).getD []) done
 closed:∀a∈done,∃successors,g.next a=some successors ∧ ∀b∈successors,b∈done

/-- What the search of `roots` along `path` may end in. -/
def Graph.Outcome (g:Graph α) (path done roots:List α) : Except (Fault α) (List α)→Prop
 | .ok later=>done <+: later∧(∀r∈roots,r∈later)∧(g.Settled done → g.Settled later) ∧
   ∀a∈later,a∉done→a∉path ∧ ∃r∈roots,g.Reach r a
 | .error (.unknown a)=>g.next a=none ∧ ∃r∈roots,g.Reach r a
 | .error (.cycle trail a)=>a∈trail ∧ ∃r∈roots,path++[r] <+: trail++[a] ∧
   ((path++[r]).IsChain g.Edge→(trail++[a]).IsChain g.Edge)

lemma Graph.Outcome.cons{rest:List α}{first:Except (Fault α) (List α)}
  {second:List α→Except (Fault α) (List α)}(h:g.Outcome path done [node] first)
  (ih:∀done,g.Outcome path done rest (second done)):
  g.Outcome path done (node::rest) (first >>= second):=by
 cases first with
 | error fault=>
  cases fault with
  | unknown a=>exact ⟨h.1,by simpa using .inl (by simpa using h.2)⟩
  | cycle trail a=>
   obtain ⟨hmem,r,hr,hchain⟩:=h
   exact ⟨hmem,r,by simpa using .inl (by simpa using hr),hchain⟩
 | ok middle=>
  obtain ⟨hpre,hnode,hsettled,hadded⟩:=h
  have hrest:=ih middle
  show g.Outcome path done (node::rest) (second middle)
  generalize second middle=result at hrest ⊢
  cases result with
  | error fault=>
   cases fault with
   | unknown a=>
    obtain ⟨hnone,r,hr,hreach⟩:=hrest
    exact ⟨hnone,r,mem_cons_of_mem _ hr,hreach⟩
   | cycle trail a=>
    obtain ⟨hmem,r,hr,hchain⟩:=hrest
    exact ⟨hmem,r,mem_cons_of_mem _ hr,hchain⟩
  | ok later=>
   obtain ⟨hpre',hroots,hsettled',hadded'⟩:=hrest
   refine ⟨hpre.trans hpre',?_,hsettled' ∘ hsettled,?_⟩
   · intro r hr
     rcases mem_cons.mp hr with rfl|hr
     · exact hpre'.subset (hnode r (mem_singleton_self r))
     · exact hroots r hr
   · intro a ha hdone
     by_cases hmiddle:a∈middle
     · obtain ⟨hpath,r,hr,hreach⟩:=hadded a hmiddle hdone
       exact ⟨hpath,r,by simpa using .inl (by simpa using hr),hreach⟩
     · obtain ⟨hpath,r,hr,hreach⟩:=hadded' a ha hmiddle
       exact ⟨hpath,r,mem_cons_of_mem _ hr,hreach⟩

lemma Graph.Outcome.visitAll(h:∀done,∀r,g.Outcome path done [r] (g.visit path done r)):
  g.Outcome path done roots (g.visitAll path roots done):=by
 induction roots generalizing done with
 | nil=>exact ⟨prefix_rfl,by simp,id,fun a ha hdone=>absurd ha hdone⟩
 | cons r roots ih=>
  rw [Graph.visitAll,foldlM_cons]
  exact (h done r).cons fun done=>ih

lemma Graph.Outcome.enter{result:Except (Fault α) (List α)}
  (hdone:node∉done)(hpath:node∉path)(hnext:g.next node=some successors)
  (h:g.Outcome (path++[node]) done successors result):
  g.Outcome path done [node] (result.map (·++[node])):=by
 have hedge:∀r∈successors,g.Edge node r:=fun r hr=>⟨successors,hnext,hr⟩
 cases result with
 | error fault=>
  cases fault with
  | unknown a=>
   obtain ⟨hnone,r,hr,hreach⟩:=h
   exact ⟨hnone,node,mem_singleton_self _,hreach.head (hedge r hr)⟩
  | cycle trail a=>
   obtain ⟨hmem,r,hr,hpre,hchain⟩:=h
   refine ⟨hmem,node,mem_singleton_self _,(prefix_append _ _).trans hpre,?_⟩
   intro hwalk
   apply hchain
   exact isChain_append.mpr ⟨hwalk,.singleton r,by simpa using hedge r hr⟩
 | ok later=>
  obtain ⟨hpre,hroots,hsettled,hadded⟩:=h
  have hnode:node∉later:=by
   intro hmem
   exact (hadded node hmem hdone).1 (by simp)
  refine ⟨hpre.trans (prefix_append _ _),by simp,?_,?_⟩
  · intro hstart
    have hlater:=hsettled hstart
    refine ⟨?_,?_,?_⟩
    · exact nodup_append.mpr ⟨hlater.nodup,nodup_singleton _,by
       rintro a ha b hb rfl
       exact hnode (by simpa [←mem_singleton.mp hb] using ha)⟩
    · apply hlater.ordered.concat hnode
      intro d hd
      rw [hnext] at hd
      exact hroots d hd
    · intro a ha
      rcases mem_append.mp ha with ha|ha
      · obtain ⟨others,hothers,hclosed⟩:=hlater.closed a ha
        exact ⟨others,hothers,fun b hb=>mem_append_left _ (hclosed b hb)⟩
      · obtain rfl:=mem_singleton.mp ha
        exact ⟨successors,hnext,fun b hb=>mem_append_left _ (hroots b hb)⟩
  · intro a ha hnew
    rcases mem_append.mp ha with ha|ha
    · obtain ⟨haway,r,hr,hreach⟩:=hadded a ha hnew
      have haway':a∉path:=fun hmem=>haway (mem_append_left _ hmem)
      exact ⟨haway',node,mem_singleton_self _,hreach.head (hedge r hr)⟩
    · obtain rfl:=mem_singleton.mp ha
      exact ⟨hpath,a,mem_singleton_self _,.refl⟩

lemma Graph.visit_outcome(path done:List α)(node:α):
  g.Outcome path done [node] (g.visit path done node):=by
 by_cases hdone:node∈done
 · rw [Graph.visit_done hdone]
   exact ⟨prefix_rfl,by simpa using hdone,id,fun a ha hnew=>absurd ha hnew⟩
 by_cases hpath:node∈path
 · rw [Graph.visit_cycle hdone hpath]
   exact ⟨hpath,node,mem_singleton_self _,prefix_rfl,id⟩
 cases hnext:g.next node with
 | none=>
  rw [Graph.visit_unknown hdone hpath hnext]
  exact ⟨hnext,node,mem_singleton_self _,.refl⟩
 | some successors=>
  rw [Graph.visit_enter hdone hpath hnext]
  exact Graph.Outcome.enter hdone hpath hnext
   (.visitAll fun done r=>Graph.visit_outcome (path++[node]) done r)
termination_by g.unseen path
decreasing_by exact g.unseen_lt hpath hnext

lemma Graph.search_outcome(g:Graph α)(roots:List α):
  g.Outcome [] [] roots (g.search roots):=Graph.Outcome.visitAll (g.visit_outcome [])

/-- A search that ends well has done what its roots reach, everything after its successors. -/
lemma Graph.search_ok(h:g.search roots=.ok done):
  g.Settled done∧∀a,a∈done ↔ ∃r∈roots,g.Reach r a:=by
 have hspec:=g.search_outcome roots
 rw [h] at hspec
 obtain ⟨-,hroots,hsettled,hadded⟩:=hspec
 have hdone:=hsettled ⟨.nil,by simp [Ordered],by simp⟩
 refine ⟨hdone,fun a=>⟨fun ha=>(hadded a ha (by simp)).2,?_⟩⟩
 rintro ⟨r,hr,hreach⟩
 induction hreach with
 | refl=>exact hroots r hr
 | tail _ hedge ih=>
  obtain ⟨successors,hnext,hmem⟩:=hedge
  obtain ⟨others,hothers,hclosed⟩:=hdone.closed _ ih
  obtain rfl:=Option.some.inj (hnext.symm.trans hothers)
  exact hclosed _ hmem

lemma Graph.Settled.descends(h:g.Settled done){a b:α}(ha:a∈done)
  (hwalk:Relation.TransGen g.Edge a b):b∈done∧done.idxOf b<done.idxOf a:=by
 have hedge:∀{a b:α},a∈done→ g.Edge a b→b∈done∧done.idxOf b<done.idxOf a:=by
  rintro a b ha ⟨successors,hnext,hb⟩
  obtain ⟨others,hothers,hclosed⟩:=h.closed a ha
  obtain rfl:=Option.some.inj (hnext.symm.trans hothers)
  exact ⟨hclosed b hb,h.ordered a ha b (by simpa [hnext] using hb)⟩
 induction hwalk with
 | single hab=>exact hedge ha hab
 | tail _ hbc ih=>
  have hlast:=hedge ih.1 hbc
  exact ⟨hlast.1,hlast.2.trans ih.2⟩

def Graph.ClosedWalk (g:Graph α) (walk:List α) : Prop :=
 walk.IsChain g.Edge∧2≤walk.length∧walk.head?=walk.getLast?

omit [DecidableEq α] in
lemma Graph.ClosedWalk.cyclic{walk:List α}(h:g.ClosedWalk walk):
  ∃a,walk.head?=some a∧Relation.TransGen g.Edge a a:=by
 obtain ⟨hchain,hlong,hclosed⟩:=h
 match walk, hlong with
 | a::b::walk, _=>exact ⟨a,rfl,CycleSearch.transGen_of_isChain hchain (by simpa using hclosed.symm)⟩

lemma Graph.search_cycle{trail:List α}(h:g.search roots=.error (.cycle trail node)):
  g.ClosedWalk (trail.drop (trail.idxOf node)++[node])∧∃r∈roots,g.Reach r node:=by
 have hspec:=g.search_outcome roots
 rw [h] at hspec
 obtain ⟨hmem,r,hr,hpre,hchain⟩:=hspec
 have hwalk:(trail++[node]).IsChain g.Edge:=hchain (.singleton r)
 have hindex:=idxOf_lt_length_iff.mpr hmem
 have hdrop:(trail.drop (trail.idxOf node)).head?=some node:=by
  rw [List.head?_drop,List.getElem?_idxOf hmem]
 refine ⟨⟨?_,?_,?_⟩,r,hr,?_⟩
 · have hsuffix:=drop_suffix (trail.idxOf node) (trail++[node])
   rw [drop_append_of_le_length hindex.le] at hsuffix
   exact hwalk.suffix hsuffix
 · rw [length_append,length_drop,length_singleton]
   omega
 · rw [List.head?_append,hdrop,List.getLast?_append]
   rfl
 · obtain ⟨first,rest,rfl⟩:=exists_cons_of_ne_nil (ne_nil_of_mem hmem)
   obtain rfl:r=first:=by simpa using prefix_cons_iff.mp hpre
   exact (CycleSearch.transGen_of_isChain hwalk (by simp)).to_reflTransGen

lemma Graph.search_unknown(h:g.search roots=.error (.unknown node)):
  g.next node=none∧∃r∈roots,g.Reach r node:=by
 have hspec:=g.search_outcome roots
 rw [h] at hspec
 exact hspec

lemma Graph.search_ok_iff:(∃done,g.search roots=.ok done) ↔ ∀r∈roots,∀a,g.Reach r a →
   (∃successors,g.next a=some successors)∧¬Relation.TransGen g.Edge a a:=by
 constructor
 · rintro ⟨done,h⟩ r hr a hreach
   obtain ⟨hsettled,hmem⟩:=Graph.search_ok h
   have ha:=(hmem a).mpr ⟨r,hr,hreach⟩
   obtain ⟨successors,hnext,-⟩:=hsettled.closed a ha
   exact ⟨⟨successors,hnext⟩,fun hcycle=>Nat.lt_irrefl _ (hsettled.descends ha hcycle).2⟩
 · intro h
   cases hsearch:g.search roots with
   | ok done=>exact ⟨done,rfl⟩
   | error fault=>
    cases fault with
    | unknown a=>
     obtain ⟨hnone,r,hr,hreach⟩:=Graph.search_unknown hsearch
     obtain ⟨⟨successors,hnext⟩,-⟩:=h r hr a hreach
     cases hnone.symm.trans hnext
    | cycle trail a=>
     obtain ⟨hwalk,r,hr,hreach⟩:=Graph.search_cycle hsearch
     obtain ⟨b,hhead,hcycle⟩:=hwalk.cyclic
     have hmem:=g.search_outcome roots
     rw [hsearch] at hmem
     rw [List.head?_append,List.head?_drop,List.getElem?_idxOf hmem.1] at hhead
     obtain rfl:a=b:=by simpa using hhead
     exact absurd hcycle (h r hr a hreach).2

end GraphBlocks.DepthFirstSearch
