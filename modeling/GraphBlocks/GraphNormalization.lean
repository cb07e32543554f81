import GraphBlocks.JsonObjects
import Mathlib.Data.Finset.Basic

/-! `normalize_graph` of the compiler crate and `_normalize_graph_unchecked` of the Python
package, each on a document that migration has already handled. -/
namespace GraphBlocks.GraphNormalization

open Json

/-- The endpoints `from` and `to`. -/
abbrev Edge := String×String

/-- The order in which a `serde_json::Map` yields its members: sorted by key, or
by insertion when the `preserve_order` feature is on. -/
structure MapOrder where
 iter:Members→Members
 perm:∀m,(iter m).Perm m

def explicitEdge : Value→Option Edge
 | .object edge=>
  match edge.lookup "from", edge.lookup "to" with
  | some (.string source), some (.string target)=>some (source,target)
  | _, _=>none
 | _=>none

def explicitEdges : Option Value→List Edge
 | some (.array edges)=>edges.filterMap explicitEdge
 | _=>[]

def nestedMembers (path:String) (values:Members) : List (String×Value) :=
 values.map (fun e=>(path ++ "." ++ e.1,e.2))

def nestedItems (path:String) : ℕ→List Value→List (String×Value)
 | _, []=>[]
 | index, v::values=>(path ++ "." ++ toString index,v)::nestedItems path (index+1) values

/-- The `while` loop over the shorthand stack; the head of the list is the top
of the stack and `fuel` bounds the number of pops. -/
def shorthandLoop (iter:Members→Members) (emit:String→String→Edge) :
  ℕ→List (String×Value)→List Edge→List Edge
 | 0, _, edges=>edges
 | _+1, [], edges=>edges
 | fuel+1, (path,value)::stack, edges=>
  match value with
  | .string text=>shorthandLoop iter emit fuel stack (edges++[emit path text])
  | .object values=>
   shorthandLoop iter emit fuel ((nestedMembers path (iter values)).reverse++stack) edges
  | .array values=>shorthandLoop iter emit fuel ((nestedItems path 0 values).reverse++stack) edges
  | .null | .bool _ | .number _=>shorthandLoop iter emit fuel stack edges

def shorthandEdges (iter:Members→Members) (emit:String→String→Edge) : Option Value→List Edge
 | some (.object ports)=>shorthandLoop iter emit (weightMembers ports) (iter ports).reverse []
 | _=>[]

def inputEdge (nodeName portPath source:String) : Edge := (source,nodeName ++ "." ++ portPath)

def outputEdge (nodeName portPath target:String) : Edge := (nodeName ++ "." ++ portPath,target)

def addUnrepresented : Finset Edge→List Edge→List Edge→List Edge
 | _, edges, []=>edges
 | represented, edges, edge::rest=>
  if edge∈represented then addUnrepresented represented edges rest
  else addUnrepresented (insert edge represented) (edges++[edge]) rest

def edgeLe (a b:Edge) : Prop := a.1<b.1∨a.1=b.1∧a.2≤b.2

instance : DecidableRel edgeLe := fun a b=>inferInstanceAs (Decidable (a.1<b.1∨a.1=b.1∧a.2≤b.2))

def edgeValue (e:Edge) : Value := .object [("from",.string e.1),("to",.string e.2)]

def edgesValue (edges:List Edge) : Value := .array ((edges.insertionSort edgeLe).map edgeValue)

structure NodeForm where
 node:Members
 inputs:List Edge
 outputs:List Edge

structure NodesState where
 nodes:Members
 inputEdges:List Edge
 outputEdges:List Edge

/-- The `for` loop over the sorted node names; a node that is no object is skipped. -/
def normalizeNodes (rewriteNode:String→Members→NodeForm) : List String→NodesState→NodesState
 | [], s=>s
 | name::names, s=>
  match s.nodes.lookup name with
  | some (.object node)=>
   normalizeNodes rewriteNode names
    { nodes:=insertKey s.nodes name (.object (rewriteNode name node).node)
      inputEdges:=s.inputEdges++(rewriteNode name node).inputs
      outputEdges:=s.outputEdges++(rewriteNode name node).outputs }
  | _=>normalizeNodes rewriteNode names s

/-- The loop body of `normalize_graph` on one node object. -/
def rustNode (order:MapOrder) (nodeName:String) (node:Members) : NodeForm :=
 let inputs:=node.lookup "inputs"
 let node:=removeKey node "inputs"
 let outputs:=node.lookup "outputs"
 let node:=removeKey node "outputs"
 let connection:=node.lookup "connection"
 let node:=removeKey node "connection"
 { node:=
    match connection with
    | some connection=>
     if hasKey node "bindings" then node
     else insertKey node "bindings" (.object [("default",connection)])
    | none=>node
   inputs:=shorthandEdges order.iter (inputEdge nodeName) inputs
   outputs:=shorthandEdges order.iter (outputEdge nodeName) outputs }

/-- The loop body of `_normalize_graph_unchecked`: `pop` reads an absent
connection as `None`. -/
def pythonNode (nodeName:String) (node:Members) : NodeForm :=
 let inputs:=node.lookup "inputs"
 let node:=removeKey node "inputs"
 let outputs:=node.lookup "outputs"
 let node:=removeKey node "outputs"
 let connection:=(node.lookup "connection").getD .null
 let node:=removeKey node "connection"
 { node:=
    if connection ≠ .null∧hasKey node "bindings" = false then
     insertKey node "bindings" (.object [("default",connection)])
    else node
   inputs:=shorthandEdges id (inputEdge nodeName) inputs
   outputs:=shorthandEdges id (outputEdge nodeName) outputs }

def sortedNames (names:List String) : List String := names.insertionSort (· ≤ ·)

def moveNodes : List String→Members→Members→Members
 | [], _, sortedNodes=>sortedNodes
 | name::names, nodes, sortedNodes=>
  match nodes.lookup name with
  | some node=>moveNodes names (removeKey nodes name) (insertKey sortedNodes name node)
  | none=>moveNodes names nodes sortedNodes

def objectOrEmpty : Option Value→Members
 | some (.object members)=>members
 | _=>[]

/-- `normalize_graph` on the object that the document's `spec` holds. -/
def normalizeSpec (order:MapOrder) (spec:Members) : Members :=
 let explicit:=explicitEdges (spec.lookup "edges")
 let spec:=removeKey spec "edges"
 let nodes:=objectOrEmpty (spec.lookup "nodes")
 let spec:=removeKey spec "nodes"
 let nodeNames:=sortedNames (keys (order.iter nodes))
 let s:=normalizeNodes (rustNode order) nodeNames ⟨nodes,[],[]⟩
 let edges:=addUnrepresented explicit.toFinset explicit (s.inputEdges++s.outputEdges)
 let sortedNodes:=moveNodes nodeNames s.nodes []
 let spec:=insertKey spec "nodes" (.object sortedNodes)
 insertKey spec "edges" (edgesValue edges)

/-- `normalize_graph` after migration. -/
def normalizeGraph (order:MapOrder) (document:Value) : Value :=
 if document.get "kind" ≠ some (.string "Graph") then document
 else
  match document with
  | .object root=>
   let root:=if hasKey root "spec" then root else insertKey root "spec" (.object [])
   match root.lookup "spec" with
   | some (.object spec)=>.object (insertKey root "spec" (.object (normalizeSpec order spec)))
   | _=>.object root
  | document=>document

/-- `_normalize_graph_unchecked` on the dictionary that the document's `spec` holds. -/
def normalizeSpecUnchecked (spec:Members) : Members :=
 let nodes:=objectOrEmpty (spec.lookup "nodes")
 let spec:=insertKey spec "nodes" (.object nodes)
 let explicit:=explicitEdges (spec.lookup "edges")
 let s:=normalizeNodes pythonNode (sortedNames (keys nodes)) ⟨nodes,[],[]⟩
 let edges:=addUnrepresented explicit.toFinset explicit (s.inputEdges++s.outputEdges)
 let sortedNodes:=
  (sortedNames (keys s.nodes)).filterMap (fun name=>(s.nodes.lookup name).map (name,·))
 let spec:=insertKey spec "nodes" (.object sortedNodes)
 insertKey spec "edges" (edgesValue edges)

def normalizeGraphUnchecked (document:Members) : Members :=
 if document.lookup "kind" ≠ some (.string "Graph") then document
 else
  let normalized:=
   if hasKey document "spec" then document else insertKey document "spec" (.object [])
  match normalized.lookup "spec" with
  | some (.object spec)=>insertKey normalized "spec" (.object (normalizeSpecUnchecked spec))
  | _=>normalized

/-- A JSON document of kind `Graph`. -/
structure GraphDocument where
 root:Members
 unique:(Value.object root).UniqueKeys
 kind:root.lookup "kind" = some (.string "Graph")

def specNodes (root:Members) : Members :=
 match root.lookup "spec" with
 | some (.object spec)=>objectOrEmpty (spec.lookup "nodes")
 | _=>[]

def bareNullConnection : Value→Bool
 | .object node=>node.lookup "connection" = some .null && !hasKey node "bindings"
 | _=>false

end GraphBlocks.GraphNormalization
