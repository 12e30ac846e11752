/-
Module: LibAtbus.Node.Registry
Layer: Node
Purpose: The tables of a node as they change, from `src/atbus_node.cpp`: `insert_child` and
  `remove_child` on a collection of sub-domains, and `add_endpoint` and `remove_endpoint`, which
  decide each time anew whether an id is that of the parent, of a sibling or of a child. The added
  and removed callbacks are made exactly when an operation succeeds.
Trusted boundary: human-reviewed spec
Main exports: EndpointCollection.insertChild, EndpointCollection.removeChild, BusNode.addEndpoint,
  BusNode.removeEndpoint, CollectionCall, RegistryCall
-/
import LibAtbus.Node.Routing

namespace LibAtbus.Node

/-! ### Collections -/

namespace EndpointCollection

/-- No endpoints. -/
def empty : EndpointCollection := ⟨.empty, fun _ member => absurd member List.not_mem_nil⟩

@[simp] theorem endpoints_empty : empty.endpoints = [] := rfl

/-- `coll[maskv] = ep`, where `maskv` is the greatest id of the endpoint's domain. -/
def store (collection : EndpointCollection) (endpoint : Endpoint) : EndpointCollection where
  map := collection.map.insert (childrenMaxId endpoint.id endpoint.childrenMask) endpoint
  keyed entry member := by
    rcases OrderedMap.mem_insert.mp member with rfl | ⟨old, -⟩
    · rfl
    · exact collection.keyed entry old

/-- `erase` of the entry under a key. -/
def drop (collection : EndpointCollection) (key : BusId) : EndpointCollection where
  map := collection.map.erase key
  keyed entry member := collection.keyed entry (OrderedMap.mem_erase.mp member).1

/-- `node::insert_child`. -/
def insertChild (collection : EndpointCollection) (endpoint : Endpoint) :
    Bool × EndpointCollection :=
  match collection.map.lowerBound endpoint.id with
  | none =>
      -- all stored domains end below the new id; the new domain may still cover the last of them
      if collection.map.last.any fun last => endpoint.isChildNode last.2.id then (false, collection)
      else (true, collection.store endpoint)
  | some (_, iter) =>
      if iter.id = endpoint.id then (false, collection)
      else if iter.isChildNode endpoint.id || endpoint.isChildNode iter.id then (false, collection)
      else if (collection.map.before endpoint.id).any fun prev => endpoint.isChildNode prev.2.id
        then
        (false, collection)
      else (true, collection.store endpoint)

/-- `node::remove_child`. -/
def removeChild (collection : EndpointCollection) (id : BusId) : Bool × EndpointCollection :=
  match collection.map.lowerBound id with
  | none => (false, collection)
  | some (key, endpoint) =>
      if endpoint.id ≠ id then (false, collection) else (true, collection.drop key)

end EndpointCollection

/-- A call on a collection. -/
inductive CollectionCall where
  | insert (endpoint : Endpoint)
  | remove (id : BusId)
deriving DecidableEq, Repr

/-- The collection after a call. -/
def EndpointCollection.call (collection : EndpointCollection) : CollectionCall → EndpointCollection
  | .insert endpoint => (collection.insertChild endpoint).2
  | .remove id => (collection.removeChild id).2

/-- Calls bring endpoints with a children mask of at most 30. -/
def CollectionCall.MaskLe : CollectionCall → Prop
  | .insert endpoint => endpoint.childrenMask ≤ 30
  | .remove _ => True

/-- One call. -/
def collectionStep (collection : EndpointCollection) (call : CollectionCall)
    (after : EndpointCollection) : Prop :=
  call.MaskLe ∧ after = collection.call call

/-! ### The tables of a node -/

namespace BusNode

/-- The test of `add_endpoint` for a parent: a larger mask, and the node in the endpoint's
    domain. -/
def isParentShaped (node : BusNode) (endpoint : Endpoint) : Bool :=
  decide (node.self.childrenMask < endpoint.childrenMask) && endpoint.isChildNode node.id

/-- `node::add_endpoint`, of an endpoint the node owns. -/
def addEndpoint (node : BusNode) (endpoint : Endpoint) : ErrorType × BusNode :=
  if node.isParentShaped endpoint then
    match node.father with
    | none => (.success, { node with father := some endpoint })
    | some _ => (.atnodeInvalidId, node)
  else if node.isBrotherNode endpoint.id then
    match node.brother.insertChild endpoint with
    | (true, brother) => (.success, { node with brother := brother })
    | (false, _) => (.atnodeMaskConflict, node)
  else if node.isChildNode endpoint.id then
    match node.children.insertChild endpoint with
    | (true, children) => (.success, { node with children := children })
    | (false, _) => (.atnodeMaskConflict, node)
  else (.atnodeInvalidId, node)

/-- `node::remove_endpoint`, as far as the tables go. -/
def removeEndpoint (node : BusNode) (tid : BusId) : ErrorType × BusNode :=
  if node.isParentNode tid then (.success, { node with father := none })
  else if node.isBrotherNode tid then
    match node.brother.removeChild tid with
    | (true, brother) => (.success, { node with brother := brother })
    | (false, _) => (.atnodeNotFound, node)
  else if node.isChildNode tid then
    match node.children.removeChild tid with
    | (true, children) => (.success, { node with children := children })
    | (false, _) => (.atnodeNotFound, node)
  else (.atnodeInvalidId, node)

end BusNode

/-- A call on the tables of a node. -/
inductive RegistryCall where
  | add (endpoint : Endpoint)
  | remove (id : BusId)
deriving DecidableEq, Repr

/-- A node with the endpoints that were added with success and whose ids were not removed since. -/
structure Registry where
  node : BusNode
  added : List Endpoint

/-- The registry after a call. -/
def Registry.call (registry : Registry) : RegistryCall → Registry
  | .add endpoint =>
      { node := (registry.node.addEndpoint endpoint).2
        added :=
          if (registry.node.addEndpoint endpoint).1 = .success then registry.added ++ [endpoint]
          else registry.added }
  | .remove id =>
      { node := (registry.node.removeEndpoint id).2
        added := registry.added.filter fun endpoint => endpoint.id ≠ id }

/-- Calls bring endpoints with a children mask of at most 30. -/
def RegistryCall.MaskLe : RegistryCall → Prop
  | .add endpoint => endpoint.childrenMask ≤ 30
  | .remove _ => True

/-- One call. -/
def registryStep (registry : Registry) (call : RegistryCall) (after : Registry) : Prop :=
  call.MaskLe ∧ after = registry.call call

/-- A node whose tables are empty. -/
structure Registry.Initial (registry : Registry) : Prop where
  mask : registry.node.self.childrenMask ≤ 30
  father : registry.node.father = none
  brother : registry.node.brother = .empty
  children : registry.node.children = .empty
  added : registry.added = []

end LibAtbus.Node
