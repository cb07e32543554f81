import GraphBlocks.GraphNormalization
import GraphBlocks.OrderedMap
import GraphBlocks.RustStd

/-! `_splice_fragment` and the expansion loop of `_expand_graph` of the Python package, on a root
graph and fragments that were already normalized and resolved. -/
namespace GraphBlocks.Composition
open Std Json RustStd GraphNormalization

abbrev StringMap (α:Type) := ExtTreeMap String α

inductive CompositionError where
 | invalidEdge
 | invalidEndpoint (value:String)
 | unknownInputPort (instanceName port:String)
 | unknownOutputPort (instanceName port:String)
 | inputNotSingle (instanceName port:String)
 | undeclaredInput (port:String)
 | inputTarget
 | undeclaredOutput (port:String)
 | outputSource
 | interfaceDirection
 | ordinaryEndpoint
 | inputNotConsumed (port:String)
 | outputNotSingle (port:String)
 | nodeCollision (name:String)
 | fragmentWhen
 | unknownWhenPort (instanceName port:String)
 | instanceName (name:String)
 | slotFields (name:String)
 | unknownSlot (name:String)
 | tooManyNodes
 | tooManyEdges
deriving DecidableEq

def CompositionError.code : CompositionError→String
 | .nodeCollision _=>"CompositionNodeCollision"
 | .unknownSlot _=>"CompositionUnknownSlot"
 | .tooManyNodes | .tooManyEdges=>"CompositionLimitExceeded"
 | _=>"CompositionInvalidWiring"

/-- `value.partition(".")`, none without a separator. -/
def partition (value:String) : Option (String×String) :=
 match value.toList.dropWhile (· != '.') with
 | []=>none
 | _::port=>some (String.ofList (value.toList.takeWhile (· != '.')),String.ofList port)

def endpoint (value:String) : Except CompositionError (String×String) :=
 match partition value with
 | some (owner,port)=>
  if owner = "" ∨ port = "" then .error (.invalidEndpoint value) else .ok (owner,port)
 | none=>.error (.invalidEndpoint value)

def generatedName (instanceName inner:String) : String := instanceName ++ "__" ++ inner

def prefixEndpoint (value instanceName:String) (innerNames:StringMap Value) : String :=
 match partition value with
 | some (owner,port)=>
  if innerNames.contains owner then generatedName instanceName owner ++ "." ++ port else value
 | none=>value

/-- Exactly the string members `from` and `to`. -/
def edgeOf : Value→Except CompositionError Edge
 | .object members=>
  match members.lookup "from", members.lookup "to" with
  | some (.string source), some (.string target)=>
   if members.all fun e=>e.1 == "from" || e.1 == "to" then .ok (source,target)
   else .error .invalidEdge
  | _, _=>.error .invalidEdge
 | _=>.error .invalidEdge

structure Interface where
 inputs:List String
 outputs:List String
 inputs_nodup:inputs.Nodup
 outputs_nodup:outputs.Nodup

/-- A resolved slot: the interface and the nodes and edges of the normalized fragment. -/
structure Fragment where
 interface:Interface
 nodes:StringMap Value
 edges:List Value

structure Graph where
 nodes:StringMap Value
 edges:List Value

inductive FragmentEdge where
 | input (port target:String)
 | output (source port:String)
 | internal (source target:String)

def fragmentEdge (f:Fragment) (value:Value) : Except CompositionError FragmentEdge := do
 let edge ← edgeOf value
 let source ← endpoint edge.1
 let target ← endpoint edge.2
 if source.1 = "$input" then
  ensure (f.interface.inputs.contains source.2) (.undeclaredInput source.2)
  ensure (f.nodes.contains target.1) .inputTarget
  return .input source.2 edge.2
 else if target.1 = "$output" then
  ensure (f.interface.outputs.contains target.2) (.undeclaredOutput target.2)
  ensure (f.nodes.contains source.1) .outputSource
  return .output edge.1 target.2
 else if source.1 = "$output" ∨ target.1 = "$input" then .error .interfaceDirection
 else
  ensure (f.nodes.contains source.1&&f.nodes.contains target.1) .ordinaryEndpoint
  return .internal edge.1 edge.2

def inputTargets (edges:List FragmentEdge) (port:String) : List String :=
 edges.filterMap fun
  | .input p target=>if p=port then some target else none
  | _=>none

def outputSources (edges:List FragmentEdge) (port:String) : List String :=
 edges.filterMap fun
  | .output source p=>if p=port then some source else none
  | _=>none

def checkInputs (f:Fragment) (edges:List FragmentEdge) : Except CompositionError Unit :=
 match f.interface.inputs.find? fun port=>(inputTargets edges port).isEmpty with
 | some port=>.error (.inputNotConsumed port)
 | none=>.ok ()

def checkOutputs (f:Fragment) (edges:List FragmentEdge) : Except CompositionError Unit :=
 match f.interface.outputs.find? fun port=>(outputSources edges port).length != 1 with
 | some port=>.error (.outputNotSingle port)
 | none=>.ok ()

def fragmentEdges (f:Fragment) : Except CompositionError (List FragmentEdge) := do
 let edges ← collect (fragmentEdge f) f.edges
 checkInputs f edges
 checkOutputs f edges
 return edges

/-- `node.get("when")` of a mapping, when it is a string. -/
def whenOf : Value→Option String
 | .object members=>
  match members.lookup "when" with
  | some (.string reference)=>some reference
  | _=>none
 | _=>none

def setWhen (reference:String) : Value→Value
 | .object members=>.object (insertKey members "when" (.string reference))
 | value=>value

def expandNode (instanceName:String) (f:Fragment) (node:Value) : Except CompositionError Value :=
 match whenOf node with
 | none=>.ok node
 | some reference=>do
  let owner ← endpoint reference
  ensure (f.nodes.contains owner.1) .fragmentWhen
  return setWhen (prefixEndpoint reference instanceName f.nodes) node

def expandNodes (instanceName:String) (f:Fragment) (nodes:StringMap Value) :
  List (String×Value)→StringMap Value→Except CompositionError (StringMap Value)
 | [], expanded=>.ok expanded
 | (inner,node)::rest, expanded=>
  if nodes.contains (generatedName instanceName inner) ||
    expanded.contains (generatedName instanceName inner) then
   .error (.nodeCollision (generatedName instanceName inner))
  else do
   let node ← expandNode instanceName f node
   expandNodes instanceName f nodes rest (expanded.insert (generatedName instanceName inner) node)

def outputProducer (instanceName:String) (f:Fragment) (edges:List FragmentEdge)
  (port:String) : String :=
 prefixEndpoint ((outputSources edges port).headD "") instanceName f.nodes

def rewriteNode (instanceName:String) (f:Fragment) (edges:List FragmentEdge)
  (node:Value) : Except CompositionError Value :=
 match whenOf node with
 | none=>.ok node
 | some reference=>do
  let target ← endpoint reference
  if target.1≠instanceName then return node
  else do
   ensure (f.interface.outputs.contains target.2) (.unknownWhenPort instanceName target.2)
   return setWhen (outputProducer instanceName f edges target.2) node

structure RootEdge where
 edge:Edge
 inputPort:Option String
 outputPort:Option String

def rootEdge (instanceName:String) (i:Interface) (value:Value) :
  Except CompositionError RootEdge := do
 let edge ← edgeOf value
 let target ← endpoint edge.2
 let source ← endpoint edge.1
 ensure (!(target.1==instanceName)||i.inputs.contains target.2)
  (.unknownInputPort instanceName target.2)
 ensure (!(source.1==instanceName)||i.outputs.contains source.2)
  (.unknownOutputPort instanceName source.2)
 return { edge,inputPort:=if target.1=instanceName then some target.2 else none
          outputPort:=if source.1=instanceName then some source.2 else none }

def incoming (edges:List RootEdge) (port:String) : List RootEdge :=
 edges.filter fun e=>e.inputPort==some port

def checkIncoming (instanceName:String) (i:Interface) (edges:List RootEdge) :
  Except CompositionError Unit :=
 match i.inputs.find? fun port=>(incoming edges port).length != 1 with
 | some port=>.error (.inputNotSingle instanceName port)
 | none=>.ok ()

/-- The producer of an input port; an output of the same instance is led inside. -/
def externalSource (instanceName:String) (f:Fragment) (edges:List FragmentEdge)
  (roots:List RootEdge) (port:String) : String :=
 match (incoming roots port).head? with
 | some root=>
  match root.outputPort with
  | some output=>outputProducer instanceName f edges output
  | none=>root.edge.1
 | none=>""

def splicedEdges (instanceName:String) (f:Fragment) (edges:List FragmentEdge)
  (roots:List RootEdge) : List Edge :=
 (roots.filter fun e=>e.inputPort.isNone&&e.outputPort.isNone).map RootEdge.edge ++
 (edges.filterMap fun
  | .internal source target=>some (prefixEndpoint source instanceName f.nodes,
    prefixEndpoint target instanceName f.nodes)
  | _=>none) ++
 (f.interface.inputs.flatMap fun port=>(inputTargets edges port).map fun target=>
  (externalSource instanceName f edges roots port,prefixEndpoint target instanceName f.nodes)) ++
 (f.interface.outputs.flatMap fun port=>
  (roots.filter fun e=>e.outputPort==some port&&e.inputPort.isNone).map fun e=>
   (outputProducer instanceName f edges port,e.edge.2))

def spliceFragment (instanceName:String) (f:Fragment) (g:Graph) :
  Except CompositionError Graph := do
 let roots ← collect (rootEdge instanceName f.interface) g.edges
 checkIncoming instanceName f.interface roots
 let edges ← fragmentEdges f
 let expanded ← expandNodes instanceName f g.nodes f.nodes.toList ∅
 let rewritten ← collect (fun e=>(rewriteNode instanceName f edges e.2).map fun node=>(e.1,node))
  (g.nodes.erase instanceName).toList
 return { nodes:=ExtTreeMap.ofList rewritten ∪ expanded
          edges:=(splicedEdges instanceName f edges roots).map edgeValue }

/-- Splices one after another. -/
def spliceAll : List (String×Fragment)→Graph→Except CompositionError Graph
 | [], g=>.ok g
 | (instanceName,f)::instances, g=>do
  let g ← spliceFragment instanceName f g
  spliceAll instances g

/-- `^[A-Za-z][A-Za-z0-9_-]*$`. -/
def isCompositionName (name:String) : Bool :=
 match name.toList with
 | []=>false
 | c::cs=>c.isAlpha&&cs.all fun c=>c.isAlphanum||c == '_' || c == '-'

def isSlotNode : Value→Bool
 | .object members=>hasKey members "slot"
 | _=>false

def slotNames (g:Graph) : List String := (g.nodes.toList.filter fun e=>isSlotNode e.2).map Prod.fst

def slotFragment (slots:StringMap Fragment) (name:String) :
  Option Value→Except CompositionError Fragment
 | some (.object members)=>
  if members.all fun e=>e.1 == "slot" then
   match members.lookup "slot" with
   | some (.string slot)=>
    match slots[slot]? with
    | some f=>.ok f
    | none=>.error (.unknownSlot name)
   | _=>.error (.unknownSlot name)
  else .error (.slotFields name)
 | _=>.error (.slotFields name)

def expandSlots (slots:StringMap Fragment) : List String→Graph→Except CompositionError Graph
 | [], g=>.ok g
 | name::names, g=>do
  ensure (isCompositionName name) (.instanceName name)
  let f ← slotFragment slots name g.nodes[name]?
  let g ← spliceFragment name f g
  expandSlots slots names g

def maxExpandedNodes : ℕ := 10000

def maxExpandedEdges : ℕ := 50000

/-- The expansion loop of `_expand_graph` and its limits. -/
def expandGraph (slots:StringMap Fragment) (g:Graph) : Except CompositionError Graph := do
 let expanded ← expandSlots slots (slotNames g) g
 ensure (expanded.nodes.size≤ maxExpandedNodes) .tooManyNodes
 ensure (expanded.edges.length≤ maxExpandedEdges) .tooManyEdges
 return expanded

end GraphBlocks.Composition
