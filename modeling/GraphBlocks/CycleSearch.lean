import GraphBlocks.OrderedMap
import Std.Data.ExtTreeSet
import Mathlib.Logic.Relation

namespace GraphBlocks.CycleSearch
open Std OrderedMap List Option

universe u

variable {κ:Type u} [Ord κ] [TransOrd κ] [LawfulEqOrd κ]

/-- The values of `dependency_states`, `1` and `2` in the source. -/
inductive Mark where
 | visiting
 | done

/-- The state of the search below one root. The stack has its top first. -/
structure Search (κ:Type u) [Ord κ] where
 states:ExtTreeMap κ Mark
 path:List κ
 positions:ExtTreeMap κ ℕ
 stack:List (κ×ℕ)

inductive Progress (κ:Type u) [Ord κ] where
 | more (s:Search κ)
 | cycle (path:List κ)

variable (byNode:ExtTreeMap κ (List κ))

/-- `dependencies_by_node.get(node).and_then(|neighbors| neighbors.get(index))`. -/
def neighborAt (node:κ) (index:ℕ) : Option κ := byNode[node]?.bind fun neighbors=>neighbors[index]?

def Search.finish (s:Search κ) (current:κ) (below:List (κ×ℕ)) : Search κ :=
 { states:=s.states.insert current .done,path:=s.path.dropLast,positions:=s.positions.erase current
   stack:=below }

def Search.push (s:Search κ) (neighbor:κ) (stack:List (κ×ℕ)) : Search κ :=
 { states:=s.states.insert neighbor .visiting,path:=s.path++[neighbor]
   positions:=s.positions.insert neighbor s.path.length,stack:=(neighbor,0)::stack }

def Search.close (s:Search κ) (neighbor:κ) (stack:List (κ×ℕ)) : Progress κ :=
 match s.positions[neighbor]? with
 | none=>.more { s with stack }
 | some cycleStart=>
  if cycleStart≤ s.path.length then .cycle (s.path.drop cycleStart++[neighbor])
  else .more { s with stack }

/-- One iteration of the loop: `(current, next)` is the top of the stack. -/
def visit (s:Search κ) (current:κ) (next:ℕ) (below:List (κ×ℕ)) : Progress κ :=
 match neighborAt byNode current next with
 | none=>.more (s.finish current below)
 | some neighbor=>
  match s.states[neighbor]? with
  | none=>.more (s.push neighbor ((current,next+1)::below))
  | some .visiting=>s.close neighbor ((current,next+1)::below)
  | some .done=>.more { s with stack:=(current,next+1)::below }

def targets : List κ := byNode.toList.flatMap fun entry=>entry.2

/-- The neighbors that are not marked yet. -/
def unmarked (s:Search κ) : ℕ := ((targets byNode).filter fun node=>s.states[node]?=none).length

/-- The iterations that the frames of the stack still need when no node is pushed. -/
def remaining (s:Search κ) : ℕ :=
 (s.stack.map fun frame=>(byNode[frame.1]?.getD []).length-frame.2+1).sum

lemma mem_targets{node neighbor:κ}{index:ℕ}
  (h:neighborAt byNode node index=some neighbor):neighbor∈targets byNode:=by
 obtain ⟨neighbors,hnode,hindex⟩:=bind_eq_some_iff.mp h
 refine mem_flatMap.mpr ⟨(node,neighbors),?_,mem_of_getElem? hindex⟩
 exact ExtTreeMap.mem_toList_iff_getElem?_eq_some.mpr hnode

lemma unmarked_insert_le(s:Search κ)(node:κ)(mark:Mark)(t:Search κ)
  (ht:t.states=s.states.insert node mark):unmarked byNode t≤unmarked byNode s:=by
 classical
 unfold unmarked
 apply List.Sublist.length_le
 apply monotone_filter_right
 intro other hother
 rw [decide_eq_true_eq,ht,lookup_insert] at hother
 rw [decide_eq_true_eq]
 split at hother
 · cases hother
 · exact hother

lemma unmarked_insert_lt{s:Search κ}{node:κ}{mark:Mark}{t:Search κ}
  (ht:t.states=s.states.insert node mark)(hnode:s.states[node]?=none)
  (hmem:node∈targets byNode):unmarked byNode t<unmarked byNode s:=by
 classical
 have hsub:((targets byNode).filter fun node=>t.states[node]?=none).Sublist
   ((targets byNode).filter fun node=>s.states[node]?=none):=by
  apply monotone_filter_right
  intro other hother
  rw [decide_eq_true_eq,ht,lookup_insert] at hother
  rw [decide_eq_true_eq]
  split at hother
  · cases hother
  · exact hother
 refine Nat.lt_of_le_of_ne hsub.length_le ?_
 intro heq
 have hlists:=hsub.eq_of_length heq
 have hin:node∈(targets byNode).filter fun node=>s.states[node]?=none:=
  mem_filter.mpr ⟨hmem,decide_eq_true hnode⟩
 rw [←hlists] at hin
 have hmarked:=of_decide_eq_true (mem_filter.mp hin).2
 rw [ht,lookup_insert_self] at hmarked
 cases hmarked

lemma visit_decreases{s t:Search κ}{current:κ}{next:ℕ}{below:List (κ×ℕ)}
  (hstack:s.stack=(current,next)::below)(h:visit byNode s current next below=.more t):
  Prod.Lex (· < ·) (· < ·) (unmarked byNode t,remaining byNode t)
   (unmarked byNode s,remaining byNode s):=by
 have hadvance:∀{neighbor:κ},neighborAt byNode current next=some neighbor →
   ∀t:Search κ,t.states=s.states→t.stack=(current,next+1)::below →
    Prod.Lex (· < ·) (· < ·) (unmarked byNode t,remaining byNode t)
     (unmarked byNode s,remaining byNode s):=by
  intro neighbor hneighbor t hstates ht
  have hsame:unmarked byNode t=unmarked byNode s:=by rw [unmarked,unmarked,hstates]
  rw [hsame]
  apply Prod.Lex.right
  obtain ⟨neighbors,hnode,hindex⟩:=bind_eq_some_iff.mp hneighbor
  have hlt:next<neighbors.length:=(List.getElem?_eq_some_iff.mp hindex).1
  simp only [remaining,ht,hstack,map_cons,sum_cons,hnode,getD_some]
  omega
 unfold visit at h
 split at h
 · obtain rfl:=Progress.more.inj h
   rcases Nat.lt_or_eq_of_le (unmarked_insert_le byNode s current .done
    (s.finish current below) rfl) with hlt | heq
   · exact Prod.Lex.left _ _ hlt
   · rw [heq]
     apply Prod.Lex.right
     simp only [remaining,Search.finish,hstack,map_cons,sum_cons]
     omega
 · next neighbor hneighbor=>
   split at h
   · next hnone=>
     obtain rfl:=Progress.more.inj h
     exact Prod.Lex.left _ _ (unmarked_insert_lt byNode rfl hnone (mem_targets byNode hneighbor))
   · unfold Search.close at h
     split at h
     · obtain rfl:=Progress.more.inj h
       exact hadvance hneighbor _ rfl rfl
     · split at h
       · cases h
       · obtain rfl:=Progress.more.inj h
         exact hadvance hneighbor _ rfl rfl
   · obtain rfl:=Progress.more.inj h
     exact hadvance hneighbor _ rfl rfl

/-- The loop below one root: the marks it leaves, and the cycle it found. -/
def search {κ:Type u} [Ord κ] [TransOrd κ] [LawfulEqOrd κ]
  (byNode:ExtTreeMap κ (List κ)) (s:Search κ) : ExtTreeMap κ Mark×Option (List κ) :=
 match _hstack : s.stack with
 | []=>(s.states,none)
 | (current,next)::below=>
  match _h : visit byNode s current next below with
  | .cycle path=>(s.states,some path)
  | .more t=>search byNode t
termination_by (unmarked byNode s,remaining byNode s)
decreasing_by exact visit_decreases byNode _hstack _h

def startAt (states:ExtTreeMap κ Mark) (root:κ) : Search κ :=
 { states:=states.insert root .visiting,path:=[root],positions:=ExtTreeMap.ofList [(root,0)]
   stack:=[(root,0)] }

def searchRoots : List κ→ExtTreeMap κ Mark→Option (List κ)
 | [], _=>none
 | root::roots, states=>
  if states.contains root then searchRoots roots states
  else
   match search byNode (startAt states root) with
   | (_,some cycle)=>some cycle
   | (states,none)=>searchRoots roots states

def dependenciesByNode (dependencyGraph:ExtTreeMap κ (ExtTreeSet κ)) : ExtTreeMap κ (List κ) :=
 dependencyGraph.map fun _ dependents=>dependents.toList

def findCycle (dependencyGraph:ExtTreeMap κ (ExtTreeSet κ)) : Option (List κ) :=
 searchRoots (dependenciesByNode dependencyGraph) (dependenciesByNode dependencyGraph).keys ∅

/-- The `dependency_cycle` of the compiler: nodes, by name, with the nodes that depend on them. -/
def dependencyCycle (dependencyGraph:ExtTreeMap String (ExtTreeSet String)) :
  Option (List String) :=
 findCycle dependencyGraph

end GraphBlocks.CycleSearch
