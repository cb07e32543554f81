import GraphBlocks.GraphNormalization

namespace GraphBlocks.GraphNormalization

open Json List Option

section
variable (emit:String→String→Edge)

mutual

/-- The edges below one port, in document order. -/
def leaves : String→Value→List Edge
 | path, .string text=>[emit path text]
 | path, .object values=>leavesMembers path values
 | path, .array values=>leavesItems path 0 values
 | _, .null | _, .bool _ | _, .number _=>[]

def leavesMembers : String→Members→List Edge
 | _, []=>[]
 | path, (k,v)::values=>leaves (path ++ "." ++ k) v++leavesMembers path values

def leavesItems : String→ℕ→List Value→List Edge
 | _, _, []=>[]
 | path, index, v::values=>
  leaves (path ++ "." ++ toString index) v++leavesItems path (index+1) values
end

def stackLeaves (stack:List (String×Value)) : List Edge :=
 stack.flatMap (fun e=>leaves emit e.1 e.2)

lemma leavesMembers_eq(path:String)(values:Members):
  leavesMembers emit path values=stackLeaves emit (nestedMembers path values):=by
 induction values with
 | nil=>rfl
 | cons e values ih=>simp [leavesMembers,ih,stackLeaves,nestedMembers]

lemma leavesItems_eq(path:String)(index:ℕ)(values:List Value):
  leavesItems emit path index values=stackLeaves emit (nestedItems path index values):=by
 induction values generalizing index with
 | nil=>rfl
 | cons v values ih=>simp [leavesItems,ih,stackLeaves,nestedItems]

lemma weightMembers_nestedMembers(path:String)(values:Members):
  weightMembers (nestedMembers path values)=weightMembers values:=by
 induction values with
 | nil=>rfl
 | cons e values ih=>
  change weight e.2+weightMembers (nestedMembers path values)=weight e.2+weightMembers values
  rw [ih]

lemma weightMembers_nestedItems(path:String)(index:ℕ)(values:List Value):
  weightMembers (nestedItems path index values)=weightItems values:=by
 induction values generalizing index with
 | nil=>rfl
 | cons v values ih=>simp [nestedItems,weightMembers,weightItems,ih]

lemma stackLeaves_perm{a b:List (String×Value)}(h:a.Perm b):
  (stackLeaves emit a).Perm (stackLeaves emit b):=
 h.flatMap_right _

lemma stackLeaves_append(a b:List (String×Value)):
  stackLeaves emit (a++b)=stackLeaves emit a++stackLeaves emit b:=
 flatMap_append

variable {iter:Members→Members}

lemma shorthandLoop_perm(hiter:∀m,(iter m).Perm m)(fuel:ℕ)
  (stack:List (String×Value))(edges:List Edge)(hw:weightMembers stack≤fuel):
  (shorthandLoop iter emit fuel stack edges).Perm (edges++stackLeaves emit stack):=by
 induction fuel generalizing stack edges with
 | zero=>
  cases stack with
  | nil=>simp [shorthandLoop,stackLeaves]
  | cons e stack=>
   obtain ⟨path,value⟩:=e
   have hpos:=weight_pos value
   simp only [weightMembers] at hw
   omega
 | succ fuel ih=>
  cases stack with
  | nil=>simp [shorthandLoop,stackLeaves]
  | cons e stack=>
   obtain ⟨path,value⟩:=e
   have hcons:stackLeaves emit ((path,value)::stack) =
     leaves emit path value++stackLeaves emit stack:=rfl
   rw [hcons]
   simp only [weightMembers] at hw
   -- What a popped container pushes has one unit of weight less than the container.
   have hpush (nested:List (String×Value)) (h:leaves emit path value =
     stackLeaves emit nested) (hn:weightMembers nested+1=weight value)
     {pushed:List (String×Value)} (hp:pushed.Perm nested) :
     (shorthandLoop iter emit fuel (pushed.reverse++stack) edges).Perm
      (edges++(leaves emit path value++stackLeaves emit stack)):=by
    have hrev:pushed.reverse.Perm nested:=pushed.reverse_perm.trans hp
    have hle:weightMembers (pushed.reverse++stack)≤fuel:=by
     rw [weightMembers_append,weightMembers_perm hrev]
     omega
    apply (ih _ _ hle).trans
    rw [stackLeaves_append,h]
    exact ((stackLeaves_perm emit hrev).append_right _).append_left _
   cases value with
   | null=>simpa [shorthandLoop,leaves] using ih stack edges (by simp [weight] at hw;omega)
   | bool b=>simpa [shorthandLoop,leaves] using ih stack edges (by simp [weight] at hw;omega)
   | number t=>simpa [shorthandLoop,leaves] using ih stack edges (by simp [weight] at hw;omega)
   | string text=>
    simpa [shorthandLoop,leaves] using
     ih stack (edges++[emit path text]) (by simp [weight] at hw;omega)
   | array values=>
    apply hpush (nestedItems path 0 values) (leavesItems_eq emit path 0 values) _ (.refl _)
    rw [weightMembers_nestedItems,weight]
    omega
   | object values=>
    apply hpush (nestedMembers path values) (leavesMembers_eq emit path values)
    · rw [weightMembers_nestedMembers,weight]
      omega
    · exact (hiter values).map _

lemma shorthandEdges_perm{iter':Members→Members}(hiter:∀m,(iter m).Perm m)
  (hiter':∀m,(iter' m).Perm m)(ports:Option Value):
  (shorthandEdges iter emit ports).Perm (shorthandEdges iter' emit ports):=by
 have key (f:Members→Members) (hf:∀m,(f m).Perm m) (members:Members) :
   (shorthandLoop f emit (weightMembers members) (f members).reverse []).Perm
    (stackLeaves emit members):=by
  have hp:(f members).reverse.Perm members:=(reverse_perm _).trans (hf members)
  have h:=shorthandLoop_perm emit hf (weightMembers members) (f members).reverse []
   (weightMembers_perm hp).le
  exact h.trans (stackLeaves_perm emit hp)
 match ports with
 | some (.object members)=>exact (key iter hiter members).trans (key iter' hiter' members).symm
 | none | some .null | some (.bool _) | some (.number _) | some (.string _) | some (.array _)=>
  exact .refl _
end

lemma addUnrepresented_eq(represented:Finset Edge)(edges extra:List Edge):
  addUnrepresented represented edges extra=edges++addUnrepresented represented [] extra:=by
 induction extra generalizing represented edges with
 | nil=>simp [addUnrepresented]
 | cons e extra ih=>
  simp only [addUnrepresented]
  split
  · exact ih represented edges
  · rw [ih _ (edges++[e]),ih _ ([]++[e])]
    simp

lemma mem_addUnrepresented(represented:Finset Edge)(extra:List Edge)(e:Edge):
  e∈addUnrepresented represented [] extra↔e∈extra∧e∉represented:=by
 induction extra generalizing represented with
 | nil=>simp [addUnrepresented]
 | cons f extra ih=>
  simp only [addUnrepresented]
  split
  · rw [ih]
    grind
  · rw [addUnrepresented_eq,mem_append,ih]
    grind

lemma nodup_addUnrepresented(represented:Finset Edge)(extra:List Edge):
  (addUnrepresented represented [] extra).Nodup:=by
 induction extra generalizing represented with
 | nil=>simp [addUnrepresented]
 | cons f extra ih=>
  simp only [addUnrepresented]
  split
  · exact ih represented
  · rw [addUnrepresented_eq]
    apply List.Nodup.append (by simp) (ih _)
    intro e he hm
    have hf:e=f:=by simpa using he
    have hn:=((mem_addUnrepresented _ _ _).mp hm).2
    exact hn (by simp [hf])

lemma addUnrepresented_perm(represented:Finset Edge)(edges:List Edge){a b:List Edge}(h:a.Perm b):
  (addUnrepresented represented edges a).Perm (addUnrepresented represented edges b):=by
 rw [addUnrepresented_eq _ edges a,addUnrepresented_eq _ edges b]
 apply List.Perm.append_left
 apply (perm_ext_iff_of_nodup (nodup_addUnrepresented _ _) (nodup_addUnrepresented _ _)).mpr
 intro e
 rw [mem_addUnrepresented,mem_addUnrepresented,h.mem_iff]

instance : Std.Total edgeLe where
 total a b:=by
  unfold edgeLe
  rcases lt_trichotomy a.1 b.1 with h|h|h
  · exact .inl (.inl h)
  · rcases le_total a.2 b.2 with h'|h'
    · exact .inl (.inr ⟨h,h'⟩)
    · exact .inr (.inr ⟨h.symm,h'⟩)
  · exact .inr (.inl h)

instance : IsTrans Edge edgeLe where
 trans a b c hab hbc:=by
  unfold edgeLe at *
  rcases hab with h|⟨h,h'⟩ <;>rcases hbc with g|⟨g,g'⟩
  · exact .inl (h.trans g)
  · exact .inl (g▸h)
  · exact .inl (h▸g)
  · exact .inr ⟨h.trans g,h'.trans g'⟩

instance : Std.Antisymm edgeLe where
 antisymm a b hab hba:=by
  unfold edgeLe at *
  rcases hab with h|⟨h,h'⟩
  · rcases hba with g|⟨g,-⟩
    · exact absurd (h.trans g) (lt_irrefl _)
    · exact absurd (g▸h) (lt_irrefl _)
  · rcases hba with g|⟨-,g'⟩
    · exact absurd (h▸g) (lt_irrefl _)
    · exact Prod.ext h (le_antisymm h' g')

lemma edgesValue_perm{a b:List Edge}(h:a.Perm b):edgesValue a=edgesValue b:=by
 have hsort:a.insertionSort edgeLe=b.insertionSort edgeLe:=by
  have hp:=((perm_insertionSort edgeLe a).trans h).trans
   (perm_insertionSort edgeLe b).symm
  exact hp.eq_of_pairwise' (pairwise_insertionSort _ _) (pairwise_insertionSort _ _)
 unfold edgesValue
 rw [hsort]

lemma sortedNames_perm{a b:List String}(h:a.Perm b):sortedNames a=sortedNames b:=by
 have hp:=((perm_insertionSort (· ≤ ·) a).trans h).trans
  (perm_insertionSort (· ≤ ·) b).symm
 exact hp.eq_of_pairwise' (pairwise_insertionSort _ _) (pairwise_insertionSort _ _)

def rewriteValue (rewriteNode:String→Members→NodeForm) (name:String) : Value→Value
 | .object node=>.object (rewriteNode name node).node
 | v=>v

def nodeEdges (part:NodeForm→List Edge) (rewriteNode:String→Members→NodeForm)
  (nodes:Members) (name:String) : List Edge :=
 match nodes.lookup name with
 | some (.object node)=>part (rewriteNode name node)
 | _=>[]

variable {names:List String} {node:Members}

section
variable (rewriteNode:String→Members→NodeForm)

/-- `t` is `s` with each named node rewritten and its edges collected in the order of `names`. -/
structure NodesRewritten (names:List String) (s t:NodesState) : Prop where
 lookup_nodes:∀k,t.nodes.lookup k =
  if k∈names then (s.nodes.lookup k).map (rewriteValue rewriteNode k) else s.nodes.lookup k
 inputEdges_eq:t.inputEdges =
  s.inputEdges++names.flatMap (nodeEdges NodeForm.inputs rewriteNode s.nodes)
 outputEdges_eq:t.outputEdges =
  s.outputEdges++names.flatMap (nodeEdges NodeForm.outputs rewriteNode s.nodes)

variable {rewriteNode}

lemma NodesRewritten.skip{name:String}{s t:NodesState}
  (hskip:∀node,s.nodes.lookup name≠some (.object node))(h:NodesRewritten rewriteNode names s t):
  NodesRewritten rewriteNode (name::names) s t:=by
 have hkept:(s.nodes.lookup name).map (rewriteValue rewriteNode name)=s.nodes.lookup name:=by
  cases hv:s.nodes.lookup name with
  | none=>rfl
  | some v=>
   cases v with
   | object node=>exact absurd hv (hskip node)
   | _=>rfl
 have hnone (part:NodeForm→List Edge):nodeEdges part rewriteNode s.nodes name=[]:=by
  unfold nodeEdges
  split
  · next node hv=>exact absurd hv (hskip node)
  · rfl
 constructor
 · intro k
   rw [h.lookup_nodes]
   by_cases hk:k=name
   · subst hk
     simp [hkept]
   · simp [hk]
 · rw [h.inputEdges_eq,flatMap_cons,hnone,nil_append]
 · rw [h.outputEdges_eq,flatMap_cons,hnone,nil_append]

lemma NodesRewritten.rewrite{name:String}{s t:NodesState}
  (hv:s.nodes.lookup name=some (.object node))(hfresh:name∉names)
  (h:NodesRewritten rewriteNode names
   { nodes:=insertKey s.nodes name (.object (rewriteNode name node).node)
     inputEdges:=s.inputEdges++(rewriteNode name node).inputs
     outputEdges:=s.outputEdges++(rewriteNode name node).outputs } t):
  NodesRewritten rewriteNode (name::names) s t:=by
 have hother (k:String) (hk:k≠name) :
   (insertKey s.nodes name (.object (rewriteNode name node).node)).lookup k=s.nodes.lookup k:=by
  rw [lookup_insertKey,if_neg hk]
 have hrest (part:NodeForm→List Edge) : names.flatMap (nodeEdges part rewriteNode
    (insertKey s.nodes name (.object (rewriteNode name node).node))) =
   names.flatMap (nodeEdges part rewriteNode s.nodes):=by
  apply flatMap_congr
  intro k hk
  have hne:k≠name:=fun heq=>hfresh (heq▸hk)
  simp only [nodeEdges,hother k hne]
 have hhead (part:NodeForm→List Edge) :
   nodeEdges part rewriteNode s.nodes name=part (rewriteNode name node):=by
  simp [nodeEdges,hv]
 constructor
 · intro k
   rw [h.lookup_nodes]
   by_cases hk:k=name
   · subst hk
     simp [hfresh,lookup_insertKey,hv,rewriteValue]
   · simp [hk,hother k hk]
 · rw [h.inputEdges_eq,hrest,flatMap_cons,hhead,append_assoc]
 · rw [h.outputEdges_eq,hrest,flatMap_cons,hhead,append_assoc]

lemma normalizeNodes_rewritten(names:List String)(hnames:names.Nodup)(s:NodesState):
  NodesRewritten rewriteNode names s (normalizeNodes rewriteNode names s):=by
 induction names generalizing s with
 | nil=>constructor <;>simp [normalizeNodes]
 | cons name names ih=>
  have hn:=nodup_cons.mp hnames
  cases hv:s.nodes.lookup name with
  | none=>simpa [normalizeNodes,hv] using (ih hn.2 s).skip (by simp [hv])
  | some v=>
   cases v with
   | object node=>simpa [normalizeNodes,hv] using (ih hn.2 _).rewrite hv hn.1
   | _=>simpa [normalizeNodes,hv] using (ih hn.2 s).skip (by simp [hv])
end

lemma lookup_moveNodes(names:List String)(nodes sortedNodes:Members)(k:String):
  (moveNodes names nodes sortedNodes).lookup k =
   if k∈names then (nodes.lookup k).or (sortedNodes.lookup k) else sortedNodes.lookup k:=by
 induction names generalizing nodes sortedNodes with
 | nil=>simp [moveNodes]
 | cons name names ih=>
  simp only [moveNodes]
  split
  · next node hv=>
    rw [ih,lookup_insertKey,lookup_removeKey]
    by_cases hk:k=name
    · subst hk
      simp [hv]
    · simp [hk]
  · next hv=>
    rw [ih]
    by_cases hk:k=name
    · subst hk
      simp [hv]
    · simp [hk]

lemma nodup_moveNodes(names:List String)(nodes:Members){sortedNodes:Members}
  (h:(keys sortedNodes).Nodup):(keys (moveNodes names nodes sortedNodes)).Nodup:=by
 induction names generalizing nodes sortedNodes with
 | nil=>exact h
 | cons name names ih=>
  simp only [moveNodes]
  split
  · exact ih _ (nodup_insertKey h _ _)
  · exact ih _ h

lemma lookup_collected(names:List String)(nodes:Members)(k:String):
  List.lookup k (names.filterMap (fun name=>(nodes.lookup name).map (name,·))) =
   if k∈names then nodes.lookup k else none:=by
 induction names with
 | nil=>simp
 | cons name names ih=>
  cases hv:nodes.lookup name with
  | none=>
   rw [filterMap_cons_none (by simp [hv]),ih]
   by_cases hk:k=name
   · subst hk
     simp [hv]
   · simp [hk]
  | some v=>
   rw [filterMap_cons_some (b:=(name,v)) (by simp [hv]),lookup_cons_eq,ih]
   by_cases hk:k=name
   · subst hk
     simp [hv]
   · simp [hk]

/-- What both loop bodies keep of a node. -/
def keptMembers (node:Members) : Members :=
 removeKey (removeKey (removeKey node "inputs") "outputs") "connection"

lemma uniqueKeys_keptMembers(h:(Value.object node).UniqueKeys):
  (Value.object (keptMembers node)).UniqueKeys:=
 uniqueKeys_removeKey (uniqueKeys_removeKey (uniqueKeys_removeKey h _) _) _

lemma lookup_bindings_keptMembers(node:Members):
  (keptMembers node).lookup "bindings"=node.lookup "bindings":=by
 simp [keptMembers,lookup_removeKey]

lemma rustNode_node(order:MapOrder)(name:String)(node:Members):
  (rustNode order name node).node=match node.lookup "connection" with
   | some connection=>
    if hasKey node "bindings" then keptMembers node
    else insertKey (keptMembers node) "bindings" (.object [("default",connection)])
   | none=>keptMembers node:=by
 have hc:(removeKey (removeKey node "inputs") "outputs").lookup "connection" =
   node.lookup "connection" := by
  simp [lookup_removeKey]
 have hb:hasKey (keptMembers node) "bindings"=hasKey node "bindings" :=
  congrArg Option.isSome (lookup_bindings_keptMembers node)
 simp only [rustNode,hc]
 rw [←hb]
 rfl

lemma pythonNode_node(name:String)(node:Members):(pythonNode name node).node =
   if (node.lookup "connection").getD .null ≠ .null∧hasKey node "bindings"=false then
    insertKey (keptMembers node) "bindings"
     (.object [("default",(node.lookup "connection").getD .null)])
   else keptMembers node:=by
 have hc:(removeKey (removeKey node "inputs") "outputs").lookup "connection" =
   node.lookup "connection" := by
  simp [lookup_removeKey]
 have hb:hasKey (keptMembers node) "bindings"=hasKey node "bindings" :=
  congrArg Option.isSome (lookup_bindings_keptMembers node)
 simp only [pythonNode,hc]
 rw [←hb]
 rfl

lemma node_same_iff(order:MapOrder)(name:String)(h:(Value.object node).UniqueKeys):
  Same Eq (.object (rustNode order name node).node) (.object (pythonNode name node).node) ↔
   bareNullConnection (.object node)=false:=by
 have hkept:=uniqueKeys_keptMembers h
 have hrefl (v:Value) (hv:v.UniqueKeys):Same Eq v v:=Same.refl (fun _=>rfl) v hv
 rw [rustNode_node,pythonNode_node]
 cases hc:node.lookup "connection" with
 | none=>simpa [bareNullConnection,hc] using hrefl _ hkept
 | some connection=>
  cases hb:hasKey node "bindings" with
  | true=>simpa [bareNullConnection,hc,hb] using hrefl _ hkept
  | false=>
   by_cases hnull:connection=.null
   · subst hnull
     have hnone:(keptMembers node).lookup "bindings"=none:=by
      rw [lookup_bindings_keptMembers]
      simpa [hasKey] using hb
     simp only [bareNullConnection,hc,hb,getD_some,ne_eq,not_true_eq_false,
      false_and,if_false,Bool.false_eq_true,decide_true,Bool.not_false,Bool.and_self,
      iff_false,Bool.true_eq_false]
     intro hs
     have hrel:=(same_object_iff Eq (nodup_insertKey hkept.1 _ _)).mp hs "bindings"
     rw [lookup_insertKey,hnone] at hrel
     cases hrel
   · have hdefault:(Value.object [("default",connection)]).UniqueKeys:=
      ⟨by simp [Json.keys],h.2.lookup hc,trivial⟩
     simpa [bareNullConnection,hc,hb,hnull] using
      hrefl _ (uniqueKeys_insertKey hkept "bindings" hdefault)

lemma nodeEdges_perm(order:MapOrder)(nodes:Members)(name:String):
  (nodeEdges NodeForm.inputs (rustNode order) nodes name).Perm
   (nodeEdges NodeForm.inputs pythonNode nodes name) ∧
  (nodeEdges NodeForm.outputs (rustNode order) nodes name).Perm
   (nodeEdges NodeForm.outputs pythonNode nodes name):=by
 unfold nodeEdges
 split
 · exact ⟨shorthandEdges_perm _ order.perm (fun m=>.refl m) _,
    shorthandEdges_perm _ order.perm (fun m=>.refl m) _⟩
 · exact ⟨.refl _,.refl _⟩

def nodesAfter (rewriteNode:String→Members→NodeForm) (nodes:Members) : NodesState :=
 normalizeNodes rewriteNode (sortedNames (keys nodes)) ⟨nodes,[],[]⟩

lemma mem_sortedNames(names:List String)(k:String):k∈sortedNames names↔k∈names:=
 mem_insertionSort _

lemma nodup_sortedNames(h:names.Nodup):(sortedNames names).Nodup:=
 (perm_insertionSort _ _).nodup_iff.mpr h

def movedNodes (order:MapOrder) (nodes:Members) : Members :=
 moveNodes (sortedNames (keys nodes)) (nodesAfter (rustNode order) nodes).nodes []

def collectedNodes (nodes:Members) : Members :=
 (sortedNames (keys (nodesAfter pythonNode nodes).nodes)).filterMap
  (fun name=>((nodesAfter pythonNode nodes).nodes.lookup name).map (name,·))

def specEdges (rewriteNode:String→Members→NodeForm) (spec:Members) : List Edge :=
 let explicit:=explicitEdges (spec.lookup "edges")
 let s:=nodesAfter rewriteNode (objectOrEmpty (spec.lookup "nodes"))
 addUnrepresented explicit.toFinset explicit (s.inputEdges++s.outputEdges)

section
variable {nodes:Members}

lemma nodesAfter_rewritten(rewriteNode:String→Members→NodeForm)(hn:(keys nodes).Nodup):
  NodesRewritten rewriteNode (sortedNames (keys nodes)) ⟨nodes,[],[]⟩
   (nodesAfter rewriteNode nodes):=
 normalizeNodes_rewritten _ (nodup_sortedNames hn) _

lemma lookup_nodesAfter(rewriteNode:String→Members→NodeForm)(hn:(keys nodes).Nodup)
  (k:String):(nodesAfter rewriteNode nodes).nodes.lookup k =
   (nodes.lookup k).map (rewriteValue rewriteNode k):=by
 rw [(nodesAfter_rewritten rewriteNode hn).lookup_nodes]
 simp only [mem_sortedNames]
 split
 · rfl
 · next hk=>simp [(lookup_eq_none_iff_notMem nodes k).mpr hk]

lemma collectedEdges_perm(order:MapOrder)(hn:(keys nodes).Nodup):
  ((nodesAfter (rustNode order) nodes).inputEdges ++
   (nodesAfter (rustNode order) nodes).outputEdges).Perm
  ((nodesAfter pythonNode nodes).inputEdges++(nodesAfter pythonNode nodes).outputEdges):=by
 have hr:=nodesAfter_rewritten (rustNode order) hn
 have hp:=nodesAfter_rewritten pythonNode hn
 rw [hr.inputEdges_eq,hr.outputEdges_eq,hp.inputEdges_eq,hp.outputEdges_eq]
 simp only [nil_append]
 apply List.Perm.append
 · exact List.Perm.flatMap_left _ (fun name _=>(nodeEdges_perm order nodes name).1)
 · exact List.Perm.flatMap_left _ (fun name _=>(nodeEdges_perm order nodes name).2)

lemma rewriteValue_same_iff(order:MapOrder)(name:String){v:Value}(h:v.UniqueKeys):
  Same Eq (rewriteValue (rustNode order) name v) (rewriteValue pythonNode name v) ↔
   bareNullConnection v=false:=by
 cases v with
 | object node=>exact node_same_iff order name h
 | _=>simpa [rewriteValue,bareNullConnection] using Same.refl (fun _=>rfl) _ h

lemma lookup_movedNodes(order:MapOrder)(hn:(keys nodes).Nodup)(k:String):
  (movedNodes order nodes).lookup k=(nodes.lookup k).map (rewriteValue (rustNode order) k):=by
 unfold movedNodes
 rw [lookup_moveNodes,lookup_nodesAfter _ hn]
 simp only [mem_sortedNames,lookup_nil,or_none]
 split
 · rfl
 · next hk=>simp [(lookup_eq_none_iff_notMem nodes k).mpr hk]

lemma lookup_collectedNodes(hn:(keys nodes).Nodup)(k:String):
  (collectedNodes nodes).lookup k=(nodes.lookup k).map (rewriteValue pythonNode k):=by
 unfold collectedNodes
 rw [lookup_collected,←lookup_nodesAfter pythonNode hn]
 simp only [mem_sortedNames]
 split
 · rfl
 · next hk=>exact ((lookup_eq_none_iff_notMem _ k).mpr hk).symm

lemma nodes_same_iff(order:MapOrder)(hn:(Value.object nodes).UniqueKeys):
  Same Eq (.object (movedNodes order nodes)) (.object (collectedNodes nodes)) ↔
   ∀e∈nodes,bareNullConnection e.2=false:=by
 have hmoved:(keys (movedNodes order nodes)).Nodup:=nodup_moveNodes _ _ (by simp [Json.keys])
 rw [same_object_iff Eq hmoved]
 simp only [lookup_movedNodes order hn.1,lookup_collectedNodes hn.1]
 constructor
 · rintro h ⟨k,v⟩ he
   have hk:=h k
   rw [(lookup_eq_some_iff_mem hn.1 k v).mpr he] at hk
   cases hk with
   | some hs=>exact (rewriteValue_same_iff order k ((uniqueMembers_iff nodes).mp hn.2 _ he)).mp hs
 · intro h k
   cases hv:nodes.lookup k with
   | none=>exact .none
   | some v=>
    exact .some ((rewriteValue_same_iff order k (hn.2.lookup hv)).mpr (h _ (mem_of_lookup hv)))
end

lemma objectOrEmpty_unique{o:Option Value}(h:∀v,o=some v→v.UniqueKeys):
  (Value.object (objectOrEmpty o)).UniqueKeys:=by
 unfold objectOrEmpty
 split
 · exact h _ rfl
 · exact ⟨by simp [Json.keys],trivial⟩

lemma lookup_normalizeSpec(order:MapOrder)(spec:Members)(k:String):
  (normalizeSpec order spec).lookup k =
   if k="edges" then some (edgesValue (specEdges (rustNode order) spec))
   else if k="nodes" then some (.object (movedNodes order (objectOrEmpty (spec.lookup "nodes"))))
   else spec.lookup k:=by
 have hnames:sortedNames (keys (order.iter (objectOrEmpty (spec.lookup "nodes")))) =
   sortedNames (keys (objectOrEmpty (spec.lookup "nodes"))):=
  sortedNames_perm ((order.perm _).map Prod.fst)
 simp only [normalizeSpec,lookup_insertKey,lookup_removeKey,if_false,String.reduceEq,hnames]
 by_cases he:k="edges"
 · simp [he,nodesAfter,specEdges]
 · by_cases hk:k="nodes" <;>simp [he,hk,nodesAfter,movedNodes]

lemma nodup_normalizeSpec(order:MapOrder){spec:Members}(h:(keys spec).Nodup):
  (keys (normalizeSpec order spec)).Nodup:=
 nodup_insertKey (nodup_insertKey (nodup_removeKey (nodup_removeKey h _) _) _ _) _ _

lemma lookup_normalizeSpecUnchecked(spec:Members)(k:String):
  (normalizeSpecUnchecked spec).lookup k =
   if k="edges" then some (edgesValue (specEdges pythonNode spec))
   else if k="nodes" then some (.object (collectedNodes (objectOrEmpty (spec.lookup "nodes"))))
   else spec.lookup k:=by
 simp only [normalizeSpecUnchecked,lookup_insertKey,String.reduceEq,if_false]
 by_cases he:k="edges"
 · simp [he,nodesAfter,specEdges]
 · by_cases hk:k="nodes" <;>simp [he,hk,nodesAfter,collectedNodes]

lemma spec_same_iff(order:MapOrder){spec:Members}(h:(Value.object spec).UniqueKeys):
  Same Eq (.object (normalizeSpec order spec)) (.object (normalizeSpecUnchecked spec)) ↔
   ∀e∈objectOrEmpty (spec.lookup "nodes"),bareNullConnection e.2=false:=by
 have hn:(Value.object (objectOrEmpty (spec.lookup "nodes"))).UniqueKeys:=
  objectOrEmpty_unique (fun v hv=>h.2.lookup hv)
 have hedges:edgesValue (specEdges (rustNode order) spec)=edgesValue (specEdges pythonNode spec):=
  edgesValue_perm (addUnrepresented_perm _ _ (collectedEdges_perm order hn.1))
 have hunique:(edgesValue (specEdges pythonNode spec)).UniqueKeys:=by
  apply (uniqueItems_iff _).mpr
  intro v hv
  obtain ⟨e,-,rfl⟩:=List.mem_map.mp hv
  exact ⟨by simp [Json.keys],trivial,trivial,trivial⟩
 rw [←nodes_same_iff order hn,same_object_iff Eq (nodup_normalizeSpec order h.1)]
 simp only [lookup_normalizeSpec,lookup_normalizeSpecUnchecked,hedges]
 constructor
 · intro hall
   have hk:=hall "nodes"
   simp only [String.reduceEq,if_false,if_true] at hk
   cases hk with
   | some hs=>exact hs
 · intro hs k
   split
   · exact .some (Same.refl (fun _=>rfl) _ hunique)
   · split
     · exact .some hs
     · exact optionRel_refl (fun _=>rfl) (fun v hv=>h.2.lookup hv)

/-- The root with an empty `spec` where it has none. -/
def withSpec (root:Members) : Members :=
 if hasKey root "spec" then root else insertKey root "spec" (.object [])

lemma uniqueKeys_withSpec{root:Members}(h:(Value.object root).UniqueKeys):
  (Value.object (withSpec root)).UniqueKeys:=by
 unfold withSpec
 split
 · exact h
 · exact uniqueKeys_insertKey h _ ⟨by simp [Json.keys],trivial⟩

lemma specNodes_withSpec(root:Members):specNodes (withSpec root)=specNodes root:=by
 unfold withSpec
 split
 · rfl
 · next h=>
   have hnone:root.lookup "spec"=none:=by
    rw [lookup_eq_none_iff_notMem,←hasKey_iff_mem]
    exact h
   simp [specNodes,lookup_insertKey,hnone,objectOrEmpty]

/-- The two normalizations agree exactly when no node object has a null
connection and no bindings. -/
theorem normalize_graph_agrees_iff (order : MapOrder) (document : GraphDocument) :
  Same Eq (normalizeGraph order (.object document.root))
   (.object (normalizeGraphUnchecked document.root)) ↔
   ∀e∈specNodes document.root,bareNullConnection e.2=false := by
 have hu:=uniqueKeys_withSpec document.unique
 have hrefl:=Same.refl (R:=Eq) (fun _=>rfl) (.object (withSpec document.root)) hu
 rw [←specNodes_withSpec]
 simp only [normalizeGraph,Value.get,document.kind,normalizeGraphUnchecked,ne_eq,
  not_true_eq_false,if_false]
 change Same Eq (match (withSpec document.root).lookup "spec" with
  | some (.object spec)=>
   .object (insertKey (withSpec document.root) "spec" (.object (normalizeSpec order spec)))
  | _=>.object (withSpec document.root))
  (.object (match (withSpec document.root).lookup "spec" with
  | some (.object spec)=>
   insertKey (withSpec document.root) "spec" (.object (normalizeSpecUnchecked spec))
  | _=>withSpec document.root)) ↔ _
 cases hs:(withSpec document.root).lookup "spec" with
 | none=>simpa [specNodes,hs] using hrefl
 | some v=>
  cases v with
  | object spec=>
   simp only [specNodes,hs]
   rw [same_insertKey_iff (fun _=>rfl) hu]
   exact spec_same_iff order (hu.2.lookup hs)
  | _=>simpa [specNodes,hs] using hrefl

/-- The iteration order of a map without `preserve_order`. -/
def sortedOrder : MapOrder where
 iter m:=m.insertionSort (fun a b=>a.1≤b.1)
 perm:=perm_insertionSort _

def nullConnectionGraph (node:Members) : Members :=
 [("kind",.string "Graph"),("spec",.object [("nodes",.object [("a",.object node)])])]

def normalizedGraph (node:Members) : Members :=
 [("kind",.string "Graph"),
  ("spec",.object [("nodes",.object [("a",.object node)]),("edges",.array [])])]

theorem null_connection_normalizes_differently :
  (Value.object (nullConnectionGraph [("connection",.null)])).UniqueKeys ∧
  normalizeGraph sortedOrder (.object (nullConnectionGraph [("connection",.null)])) =
   .object (normalizedGraph [("bindings",.object [("default",.null)])]) ∧
  normalizeGraphUnchecked (nullConnectionGraph [("connection",.null)])=normalizedGraph [] ∧
  ¬Same Eq (normalizeGraph sortedOrder (.object (nullConnectionGraph [("connection",.null)])))
   (.object (normalizeGraphUnchecked (nullConnectionGraph [("connection",.null)]))) := by
 have hrust:normalizeGraph sortedOrder (.object (nullConnectionGraph [("connection",.null)])) =
   .object (normalizedGraph [("bindings",.object [("default",.null)])]):=by decide +kernel
 have hpython:normalizeGraphUnchecked (nullConnectionGraph [("connection",.null)]) =
   normalizedGraph []:=by decide +kernel
 refine ⟨?_,hrust,hpython,?_⟩
 · simp [nullConnectionGraph,Value.UniqueKeys,UniqueMembers,Json.keys]
 · rw [hrust,hpython]
   intro hs
   obtain ⟨spec,hspec,hs⟩:=hs.lookup (k := "spec") rfl
   obtain rfl:=some.inj hspec
   obtain ⟨nodes,hnodes,hs⟩:=hs.lookup (k := "nodes") rfl
   obtain rfl:=some.inj hnodes
   obtain ⟨node,hnode,hs⟩:=hs.lookup (k := "a") rfl
   obtain rfl:=some.inj hnode
   obtain ⟨bindings,hbindings,-⟩:=hs.lookup (k := "bindings") rfl
   cases hbindings

end GraphBlocks.GraphNormalization
