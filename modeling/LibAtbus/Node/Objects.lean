/-
Module: LibAtbus.Node.Objects
Layer: Node
Purpose: A node with its endpoints as objects, from `src/atbus_node.cpp`: the tables and the list of
  endpoints to check hold references to objects, which have connections, while lookups and removals
  go by the ids the objects were created with. Two objects may have one id. `disconnect`, and the
  check of the list in `proc`, reset endpoints and change the tables; every object that leaves a
  table is reported.
Trusted boundary: human-reviewed spec
Main exports: ObjectCollection, NodeObjects, NodeObjects.available, NodeObjects.addEndpoint,
  NodeObjects.removeEndpoint, NodeObjects.disconnect, NodeObjects.procCheckList, ObjectEvent,
  NodeObjects.handle, objectStep, NodeObjects.notices
-/
import LibAtbus.Foundation.ChangeLog
import LibAtbus.Node.Binding
import LibAtbus.Node.Registry

namespace LibAtbus.Node

open ChangeLog

universe u v

variable {ε : Type u} {κ : Type v} {view : ε → Endpoint}

/-! ### Tables of objects -/

/-- `endpoint_collection_t`, of objects: `view` gives what an object was created with. -/
structure ObjectCollection (view : ε → Endpoint) where
  map : OrderedMap BusId ε
  keyed : ∀ entry ∈ map.entries,
    entry.1 = childrenMaxId (view entry.2).id (view entry.2).childrenMask

namespace ObjectCollection

/-- No objects. -/
def empty : ObjectCollection view := ⟨.empty, fun _ member => absurd member List.not_mem_nil⟩

/-- The objects of a collection. -/
def objects (collection : ObjectCollection view) : List ε := collection.map.entries.map Prod.snd

/-- `coll[maskv] = ep`. -/
def store (collection : ObjectCollection view) (e : ε) : ObjectCollection view where
  map := collection.map.insert (childrenMaxId (view e).id (view e).childrenMask) e
  keyed entry member := by
    rcases OrderedMap.mem_insert.mp member with rfl | ⟨old, -⟩
    · rfl
    · exact collection.keyed entry old

/-- `erase` of the entry under a key. -/
def drop (collection : ObjectCollection view) (key : BusId) : ObjectCollection view where
  map := collection.map.erase key
  keyed entry member := collection.keyed entry (OrderedMap.mem_erase.mp member).1

/-- `node::find_child`. -/
def findChild (collection : ObjectCollection view) (id : BusId) : Option ε :=
  match collection.map.lowerBound id with
  | none => none
  | some (_, e) =>
      if (view e).id = id then some e
      else if (view e).isChildNode id then some e
      else none

/-- `node::insert_child`. -/
def insertChild (collection : ObjectCollection view) (e : ε) : Bool × ObjectCollection view :=
  match collection.map.lowerBound (view e).id with
  | none =>
      if collection.map.last.any fun last => (view e).isChildNode (view last.2).id
        then (false, collection)
      else (true, collection.store e)
  | some (_, iter) =>
      if (view iter).id = (view e).id then (false, collection)
      else if (view iter).isChildNode (view e).id || (view e).isChildNode (view iter).id
        then (false, collection)
      else if (collection.map.before (view e).id).any fun prev =>
        (view e).isChildNode (view prev.2).id then
        (false, collection)
      else (true, collection.store e)

/-- `node::remove_child`, with the object `on_endpoint_removed` is called for. -/
def removeChild (collection : ObjectCollection view) (id : BusId) :
    Option ε × ObjectCollection view :=
  match collection.map.lowerBound id with
  | none => (none, collection)
  | some (key, e) => if (view e).id ≠ id then (none, collection) else (some e, collection.drop key)

end ObjectCollection

/-- `node`: what it was created with, its tables, the connections of all endpoint objects, and the
    list of those to check. -/
structure NodeObjects (view : ε → Endpoint) (κ : Type v) where
  self : Endpoint
  father : Option ε
  brother : ObjectCollection view
  children : ObjectCollection view
  conns : Bindings ε κ
  checkList : List ε

/-- `connection::is_running`. -/
def ConnState.isRunning (state : ConnState) : Bool :=
  state = .connecting || state = .handshaking || state = .connected

/-- An object that was taken out of a table, and whether it was available then. -/
structure Removal (ε : Type u) where
  object : ε
  available : Bool
deriving DecidableEq, Repr

namespace NodeObjects

/-- The object is in a table. -/
def Registered (n : NodeObjects view κ) (e : ε) : Prop :=
  n.father = some e ∨ e ∈ n.brother.objects ∨ e ∈ n.children.objects

/-- `node::is_parent_node`. -/
def isParentNode (n : NodeObjects view κ) (id : BusId) : Bool :=
  n.father.any fun father => Node.isParentNode id (view father).id

/-- `node::is_brother_node`. -/
def isBrotherNode (n : NodeObjects view κ) (id : BusId) : Bool :=
  n.self.isBrotherNode id ((n.father.map fun father => (view father).childrenMask).getD 0)

/-- `node::is_child_node`. -/
def isChildNode (n : NodeObjects view κ) (id : BusId) : Bool := n.self.isChildNode id

/-- `endpoint::is_available`. -/
def available (n : NodeObjects view κ) (e : ε) : Bool :=
  (n.conns.endpoints e).ctrl.isSome && (n.conns.endpoints e).data.any fun c =>
    (n.conns.conns c).state.isRunning

/-- `node::get_endpoint`. -/
def getEndpoint (n : NodeObjects view κ) (tid : BusId) : Option ε :=
  if n.isParentNode tid then n.father
  else if n.isBrotherNode tid then (n.brother.findChild tid).filter fun res => (view res).id == tid
  else if n.isChildNode tid then (n.children.findChild tid).filter fun res => (view res).id == tid
  else none

/-- `node::add_endpoint`. -/
def addEndpoint (n : NodeObjects view κ) (e : ε) : ErrorType × NodeObjects view κ :=
  if n.self.childrenMask < (view e).childrenMask ∧ (view e).isChildNode n.self.id then
    match n.father with
    | none => (.success, { n with father := some e })
    | some _ => (.atnodeInvalidId, n)
  else if n.isBrotherNode (view e).id then
    match n.brother.insertChild e with
    | (true, brother) => (.success, { n with brother := brother })
    | (false, _) => (.atnodeMaskConflict, n)
  else if n.isChildNode (view e).id then
    match n.children.insertChild e with
    | (true, children) => (.success, { n with children := children })
    | (false, _) => (.atnodeMaskConflict, n)
  else (.atnodeInvalidId, n)

/-- `node::remove_endpoint`, with the object `on_endpoint_removed` is called for. -/
def removeEndpoint (n : NodeObjects view κ) (tid : BusId) :
    ErrorType × Option ε × NodeObjects view κ :=
  if n.isParentNode tid then (.success, n.father, { n with father := none })
  else if n.isBrotherNode tid then
    match n.brother.removeChild tid with
    | (some e, brother) => (.success, some e, { n with brother := brother })
    | (none, _) => (.atnodeNotFound, none, n)
  else if n.isChildNode tid then
    match n.children.removeChild tid with
    | (some e, children) => (.success, some e, { n with children := children })
    | (none, _) => (.atnodeNotFound, none, n)
  else (.atnodeInvalidId, none, n)

/-- `node::add_check_list`. -/
def addCheckList (n : NodeObjects view κ) (added : List ε) : NodeObjects view κ :=
  { n with checkList := n.checkList ++ added }

variable [DecidableEq ε] [DecidableEq κ]

/-- `endpoint::reset`: an endpoint that is reset is to be checked. -/
def resetEndpoint (n : NodeObjects view κ) (e : ε) : Except BindingFault (NodeObjects view κ) :=
  if (n.conns.endpoints e).resetting then .ok n
  else
    (n.conns.resetEndpoint nesting e).map fun conns => { n with
      conns := conns, checkList := n.checkList ++ [e] }

/-- `node::disconnect`, with the objects `on_endpoint_removed` is called for. The entry that is
    removed for a child is looked for among the brothers. -/
def disconnect (n : NodeObjects view κ) (id : BusId) :
    Except BindingFault (ErrorType × List ε × NodeObjects view κ) :=
  match n.father.filter fun father => id = (view father).id with
  | some father => do
      let reset ← n.resetEndpoint father
      return (.success, [], { reset with father := none })
  | none =>
      match (n.brother.findChild id).filter fun ep => (view ep).id = id with
      | some ep => do
          let reset ← n.resetEndpoint ep
          let removed := reset.brother.removeChild id
          return (.success, removed.1.toList, { reset with brother := removed.2 })
      | none =>
          match (n.children.findChild id).filter fun ep => (view ep).id = id with
          | some ep => do
              let reset ← n.resetEndpoint ep
              let removed := reset.brother.removeChild id
              return (.success, removed.1.toList, { reset with brother := removed.2 })
          | none => return (.atnodeNotFound, [], n)

/-- `node::proc` on one endpoint of the list. -/
def checkOne (n : NodeObjects view κ) (e : ε) :
    Except BindingFault (List (Removal ε) × NodeObjects view κ) :=
  if n.available e then .ok ([], n)
  else do
    let reset ← n.resetEndpoint e
    let (_, removed, after) := reset.removeEndpoint (view e).id
    return (removed.toList.map fun object => ⟨object, reset.available object⟩, after)

/-- The loop of `node::proc` over the list. -/
def checkAll :
    NodeObjects view κ → List ε → Except BindingFault (List (Removal ε) × NodeObjects view κ)
  | n, [] => .ok ([], n)
  | n, e :: rest => do
      let (removed, after) ← n.checkOne e
      let (others, final) ← checkAll after rest
      return (removed ++ others, final)

/-- The part of `node::proc` that checks the list. The list is taken before, and what the resets add
    to it is dropped after. -/
def procCheckList (n : NodeObjects view κ) :
    Except BindingFault (List (Removal ε) × NodeObjects view κ) := do
  let (removed, after) ← checkAll { n with checkList := [] } n.checkList
  return (removed, { after with checkList := [] })

end NodeObjects

/-! ### Events -/

section

variable [DecidableEq ε] [DecidableEq κ]

/-- The endpoint that a connection takes with it when it is removed: it is its control connection,
    or its last data connection. -/
def Bindings.takesDown (w : Bindings ε κ) (c : κ) : List ε :=
  match (w.conns c).binding with
  | none => []
  | some e =>
      if (w.endpoints e).resetting then []
      else if (w.endpoints e).ctrl = some c then [e]
      else if c ∈ (w.endpoints e).data ∧ ((w.endpoints e).data.erase c).isEmpty then [e]
      else []

/-- The endpoints that a call resets. -/
def BindingCall.resets (w : Bindings ε κ) : BindingCall ε κ → List ε
  | .addConnection _ _ _ => []
  | .removeConnection e (some c) => if (w.conns c).binding = some e then w.takesDown c else []
  | .removeConnection _ none => []
  | .resetEndpoint e => if (w.endpoints e).resetting then [] else [e]
  | .resetConnection c => if (w.conns c).resetting then [] else w.takesDown c
  | .disconnect _ => []
  | .onConnected c failed regFailed =>
      if (failed || regFailed) && !(w.conns c).resetting then w.takesDown c else []
  | .onDisconnected c => if (w.conns c).resetting then [] else w.takesDown c

/-- What happens to a node: calls on endpoints and connections, an endpoint is added, removed by its
    id, disconnected or put on the list, one that nothing refers to any more is destroyed, all
    tables are dropped in a reset of the node, and the list is checked. -/
inductive ObjectEvent (ε : Type u) (κ : Type v) where
  | call (call : BindingCall ε κ)
  | addEndpoint (e : ε)
  | removeEndpoint (tid : BusId)
  | disconnect (id : BusId)
  | addCheckList (e : ε)
  | destroy (e : ε)
  | clear
  | proc

/-- The node after an event. -/
def NodeObjects.handle (n : NodeObjects view κ) :
    ObjectEvent ε κ → Except BindingFault (NodeObjects view κ)
  | .call call => (n.conns.call call).map fun conns => { n with
      conns := conns }.addCheckList (call.resets n.conns)
  | .addEndpoint e => .ok (n.addEndpoint e).2
  | .removeEndpoint tid => .ok (n.removeEndpoint tid).2.2
  | .disconnect id => (n.disconnect id).map fun done => done.2.2
  | .addCheckList e => .ok (n.addCheckList [e])
  | .destroy e => (n.conns.resetEndpoint nesting e).map fun conns => { n with conns := conns }
  | .clear => .ok { n with father := none, brother := .empty, children := .empty, checkList := [] }
  | .proc => n.procCheckList.map Prod.snd

/-- One event. -/
def objectStep (n : NodeObjects view κ) (event : ObjectEvent ε κ)
    (after : NodeObjects view κ) : Prop :=
  n.handle event = .ok after

/-- A node that was created: its tables are empty and nothing is bound. -/
structure NodeObjects.Initial (n : NodeObjects view κ) : Prop where
  father : n.father = none
  brother : n.brother = .empty
  children : n.children = .empty
  conns : n.conns.Initial
  checkList : n.checkList = []

end

/-! ### Notices -/

/-- The objects that `on_endpoint_added` and `on_endpoint_removed` are called for, in order. A reset
    of the node drops the parent, the brothers and the children. -/
def NodeObjects.notices [DecidableEq ε] [DecidableEq κ] (n : NodeObjects view κ) :
    ObjectEvent ε κ → List (Change ε)
  | .call _ | .addCheckList _ | .destroy _ => []
  | .addEndpoint e => if (n.addEndpoint e).1 = .success then [.added e] else []
  | .removeEndpoint tid => (n.removeEndpoint tid).2.1.toList.map .removed
  | .disconnect id =>
      match n.disconnect id with
      | .ok done => done.2.1.map .removed
      | .error _ => []
  | .clear => (n.father.toList ++ n.brother.objects ++ n.children.objects).map .removed
  | .proc =>
      match n.procCheckList with
      | .ok done => done.1.map fun removal => .removed removal.object
      | .error _ => []

/-! ### The values of the objects -/

/-- The collection of what the objects were created with. -/
def ObjectCollection.values (collection : ObjectCollection view) : EndpointCollection where
  map := collection.map.mapValues view
  keyed entry member := by
    obtain ⟨e, stored, found⟩ := OrderedMap.mem_mapValues.mp member
    rw [← found]
    exact collection.keyed (entry.1, e) stored

end LibAtbus.Node
