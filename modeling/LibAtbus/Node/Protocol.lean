/-
Module: LibAtbus.Node.Protocol
Layer: Node
Purpose: The messages nodes exchange, from `include/detail/libatbus_protocol.h`: the head of a
  message, its bodies, and the flags of a forwarded message. A body pointer is an `Option`. A
  command is a declared one or any other value the enumeration can be made to hold.
Trusted boundary: human-reviewed spec
Main exports: BusId, ProtocolCmd, MsgHead, ForwardData, ConnData, NodeTree, PingData, RegData,
  CustomCommandData, MsgBody, Msg, Msg.init
-/
import Mathlib.Logic.Basic

namespace LibAtbus.Node

/-- `bus_id_t`. -/
abbrev BusId := BitVec 64

/-- The enumerators of `ATBUS_PROTOCOL_CMD` below `ATBUS_CMD_MAX`. -/
def declaredCmds : List (BitVec 32) :=
  [0#32, 1#32, 2#32, 3#32, 9#32, 10#32, 11#32, 12#32, 13#32, 14#32, 15#32]

/-- `ATBUS_PROTOCOL_CMD`, with the values that have no name. -/
inductive ProtocolCmd where
  | invalid
  | dataTransformReq
  | dataTransformRsp
  | customCmdReq
  | nodeSyncReq
  | nodeSyncRsp
  | nodeRegReq
  | nodeRegRsp
  | nodeConnSyn
  | nodePing
  | nodePong
  | other (value : BitVec 32) (undeclared : value ∉ declaredCmds)
deriving DecidableEq, Repr

/-- `msg_head`. -/
structure MsgHead where
  cmd : ProtocolCmd
  type : Int
  ret : Int
  sequence : BitVec 32
  srcBusId : BusId
deriving DecidableEq, Repr

/-- `forward_data`: `router` has the nodes the message was sent on by, in order. -/
structure ForwardData where
  fromId : BusId
  toId : BusId
  router : List BusId
  content : List UInt8
  flags : BitVec 32
deriving DecidableEq, Repr

/-- `FLAG_REQUIRE_RSP`. -/
def flagRequireRsp : Nat := 0

/-- `check_flag`. -/
def ForwardData.checkFlag (data : ForwardData) (flag : Nat) : Bool :=
  0#32 != data.flags &&& 1#32 <<< flag

/-- `set_flag`. -/
def ForwardData.setFlag (data : ForwardData) (flag : Nat) : ForwardData :=
  { data with flags := data.flags ||| 1#32 <<< flag }

/-- `conn_data`, with the address of its `channel_data`. -/
structure ConnData where
  address : String
deriving DecidableEq, Repr

/-- `node_data`: a node with the nodes below it. -/
structure NodeData where
  busId : BusId
  overwrite : Bool
  hasGlobalTree : Bool
  childrenIdMask : BusId
  children : List NodeData
deriving Repr

mutual

/-- Equality of trees. -/
def NodeData.decEq : (first second : NodeData) → Decidable (first = second)
  | ⟨busId, overwrite, hasGlobalTree, childrenIdMask, children⟩,
    ⟨busId', overwrite', hasGlobalTree', childrenIdMask', children'⟩ =>
      match NodeData.decEqList children children' with
      | .isTrue same =>
          decidable_of_iff (busId = busId' ∧ overwrite = overwrite' ∧
            hasGlobalTree = hasGlobalTree' ∧ childrenIdMask = childrenIdMask') (by simp [same])
      | .isFalse different => .isFalse (by simp [different])

/-- Equality of lists of trees. -/
def NodeData.decEqList : (first second : List NodeData) → Decidable (first = second)
  | [], [] => .isTrue rfl
  | [], _ :: _ => .isFalse (by simp)
  | _ :: _, [] => .isFalse (by simp)
  | node :: nodes, node' :: nodes' =>
      match NodeData.decEq node node', NodeData.decEqList nodes nodes' with
      | .isTrue same, .isTrue same' => .isTrue (by rw [same, same'])
      | .isFalse different, _ => .isFalse (by simp [different])
      | _, .isFalse different => .isFalse (by simp [different])

end

instance : DecidableEq NodeData := NodeData.decEq

/-- `node_tree`. -/
structure NodeTree where
  nodes : List NodeData
deriving DecidableEq, Repr

/-- `ping_data`; `time_point` is an `int64_t`. -/
structure PingData where
  timePoint : BitVec 64
deriving DecidableEq, Repr

/-- `channel_data`. -/
structure ChannelData where
  address : String
deriving DecidableEq, Repr

/-- `reg_data`; `pid` is an `int32_t`. -/
structure RegData where
  busId : BusId
  pid : BitVec 32
  hostname : String
  channels : List ChannelData
  childrenIdMask : BitVec 32
  hasGlobalTree : Bool
deriving DecidableEq, Repr

/-- `custom_command_data`. -/
structure CustomCommandData where
  fromId : BusId
  commands : List (List UInt8)
deriving DecidableEq, Repr

/-- `msg_body`. -/
structure MsgBody where
  forward : Option ForwardData := none
  sync : Option NodeTree := none
  ping : Option PingData := none
  reg : Option RegData := none
  conn : Option ConnData := none
  custom : Option CustomCommandData := none
deriving DecidableEq, Repr

/-- `msg`. -/
structure Msg where
  head : MsgHead
  body : MsgBody
deriving DecidableEq, Repr

/-- `msg::init`, which leaves the body as it is. -/
def Msg.init (m : Msg) (srcBusId : BusId) (cmd : ProtocolCmd) (type ret : Int)
    (sequence : BitVec 32) : Msg :=
  { m with
    head :=
      { cmd := cmd
        type := type
        ret := ret
        sequence := sequence
        srcBusId := srcBusId } }

end LibAtbus.Node
