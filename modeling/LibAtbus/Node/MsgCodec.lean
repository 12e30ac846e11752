/-
Module: LibAtbus.Node.MsgCodec
Layer: Node
Purpose: How messages are packed and converted, from `include/detail/libatbus_protocol.h`. What
  MSGPACK_DEFINE lists is a record, packed as the array of its fields in order. A message is packed
  as a map of two entries, whose body depends on the command; the entries may be converted in any
  order.
Trusted boundary: human-reviewed spec
Main exports: ProtocolCmd.value, ProtocolCmd.ofValue, MsgHead.codec, ForwardData.codec,
  NodeData.codec, packMsg, objectMsg, convertMsg
-/
import LibAtbus.Foundation.Packing
import LibAtbus.Node.Protocol

namespace LibAtbus.Node

open Packing

/-! ### Commands -/

/-- The commands that are declared, with `ATBUS_CMD_INVALID`. -/
def ProtocolCmd.named : List ProtocolCmd :=
  [.invalid, .dataTransformReq, .dataTransformRsp, .customCmdReq, .nodeSyncReq, .nodeSyncRsp,
    .nodeRegReq, .nodeRegRsp, .nodeConnSyn, .nodePing, .nodePong]

/-- The value of an enumerator. -/
def ProtocolCmd.value : ProtocolCmd → BitVec 32
  | .invalid => 0#32
  | .dataTransformReq => 1#32
  | .dataTransformRsp => 2#32
  | .customCmdReq => 3#32
  | .nodeSyncReq => 9#32
  | .nodeSyncRsp => 10#32
  | .nodeRegReq => 11#32
  | .nodeRegRsp => 12#32
  | .nodeConnSyn => 13#32
  | .nodePing => 14#32
  | .nodePong => 15#32
  | .other value _ => value

/-- The command of a value. -/
def ProtocolCmd.ofValue (value : BitVec 32) : ProtocolCmd :=
  if declared : value ∈ declaredCmds then (named.find? fun cmd => cmd.value = value).getD .invalid
  else .other value declared

/-- `MSGPACK_ADD_ENUM(ATBUS_PROTOCOL_CMD)`. -/
def ProtocolCmd.codec : Codec ProtocolCmd :=
  .ranged (-2 ^ 31) (2 ^ 31 - 1) (fun cmd => cmd.value.toInt)
    (fun value => ofValue (BitVec.ofInt 32 value)) .invalid

/-! ### Fields -/

/-- `bin_data_block`, whose size is packed as a `uint32_t`. -/
def binDataBlock : Codec (List UInt8) where
  pack block := [.bin (block.take (block.length % 2 ^ 32))]
  convert object _ :=
    match object with
    | .bin bytes => .ok bytes
    | _ => .error .mismatch
  fresh := []

/-- An `int32_t` of the head. -/
def int32 : Codec Int := .ranged (-2 ^ 31) (2 ^ 31 - 1) id id 0

/-- `msg_head`. -/
def MsgHead.codec : Codec MsgHead :=
  .record
    [.of ProtocolCmd.codec (·.cmd) fun head cmd => { head with cmd := cmd },
      .of int32 (·.type) fun head type => { head with type := type },
      .of int32 (·.ret) fun head ret => { head with ret := ret },
      .of (.unsigned 32) (·.sequence) fun head sequence => { head with sequence := sequence },
      .of (.unsigned 64) (·.srcBusId) fun head srcBusId => { head with srcBusId := srcBusId }]
    { cmd := .invalid
      type := 0
      ret := 0
      sequence := 0
      srcBusId := 0 }

/-- `custom_command_data`. -/
def CustomCommandData.codec : Codec CustomCommandData :=
  .record
    [.of (.unsigned 64) (·.fromId) fun data fromId => { data with fromId := fromId },
      .of (.vector binDataBlock) (·.commands) fun data commands => { data with
        commands := commands }]
    ⟨0, []⟩

/-- `forward_data`. -/
def ForwardData.codec : Codec ForwardData :=
  .record
    [.of (.unsigned 64) (·.fromId) fun data fromId => { data with fromId := fromId },
      .of (.unsigned 64) (·.toId) fun data toId => { data with toId := toId },
      .of (.vector (.unsigned 64)) (·.router) fun data router => { data with router := router },
      .of binDataBlock (·.content) fun data content => { data with content := content },
      .of (.signed 32) (·.flags) fun data flags => { data with flags := flags }]
    ⟨0, 0, [], [], 0⟩

/-- `channel_data`. -/
def ChannelData.codec : Codec ChannelData :=
  .record [.of .str (·.address) fun _ address => ⟨address⟩] ⟨""⟩

/-- `conn_data`, whose field is a `channel_data`. -/
def ConnData.codec : Codec ConnData :=
  .record [.of ChannelData.codec (fun data => ⟨data.address⟩) fun _ channel => ⟨channel.address⟩]
    ⟨""⟩

/-- `ping_data`. -/
def PingData.codec : Codec PingData :=
  .record [.of (.signed 64) (·.timePoint) fun _ timePoint => ⟨timePoint⟩] ⟨0⟩

/-- `reg_data`. -/
def RegData.codec : Codec RegData :=
  .record
    [.of (.unsigned 64) (·.busId) fun data busId => { data with busId := busId },
      .of (.signed 32) (·.pid) fun data pid => { data with pid := pid },
      .of .str (·.hostname) fun data hostname => { data with hostname := hostname },
      .of (.vector ChannelData.codec) (·.channels) fun data channels => { data with
        channels := channels },
      .of (.unsigned 32) (·.childrenIdMask) fun data childrenIdMask => { data with
        childrenIdMask := childrenIdMask },
      .of .bool (·.hasGlobalTree) fun data hasGlobalTree => { data with
        hasGlobalTree := hasGlobalTree }]
    ⟨0, 0, "", [], 0, false⟩

/-! ### Trees of nodes -/

/-- The fields of `node_data` before its children. -/
def NodeData.fields : List (Packing.Field NodeData) :=
  [.of (.unsigned 64) (·.busId) fun node busId => { node with busId := busId },
    .of .bool (·.overwrite) fun node overwrite => { node with overwrite := overwrite },
    .of .bool (·.hasGlobalTree) fun node hasGlobalTree => { node with
      hasGlobalTree := hasGlobalTree },
    .of (.unsigned 64) (·.childrenIdMask) fun node childrenIdMask => { node with
      childrenIdMask := childrenIdMask }]

/-- A new `node_data`. -/
def NodeData.fresh : NodeData := ⟨0, false, false, 0, []⟩

mutual

/-- The packing of `node_data`. -/
def NodeData.pack : NodeData → List Token
  | ⟨busId, overwrite, hasGlobalTree, childrenIdMask, children⟩ =>
      .array 5 ::
        (fields.flatMap fun field => field.pack ⟨busId, overwrite, hasGlobalTree, childrenIdMask,
          children⟩) ++
        .array children.length :: NodeData.packList children

/-- The packing of the children of a `node_data`. -/
def NodeData.packList : List NodeData → List Token
  | [] => []
  | node :: nodes => node.pack ++ NodeData.packList nodes

end

mutual

/-- The conversion to a `node_data`. -/
def NodeData.convert : PackedObject → NodeData → Except TypeError NodeData
  | .array items, node => NodeData.convertItems fields items node
  | _, _ => .error .mismatch

/-- The conversion to the fields of a `node_data`, of which the children come last. -/
def NodeData.convertItems : List (Packing.Field NodeData) → List PackedObject → NodeData →
    Except TypeError NodeData
  | _, [], node => .ok node
  | field :: rest, item :: items, node => do
      let node ← field.convert item node
      NodeData.convertItems rest items node
  | [], item :: _, node => do
      let children ← NodeData.convertChildren item node.children
      return { node with children := children }

/-- The conversion to the children of a `node_data`. -/
def NodeData.convertChildren : PackedObject → List NodeData → Except TypeError (List NodeData)
  | .array items, nodes => NodeData.convertNodes items nodes
  | _, _ => .error .mismatch

/-- The conversion to children, each over the one that is there. -/
def NodeData.convertNodes : List PackedObject → List NodeData → Except TypeError (List NodeData)
  | [], _ => .ok []
  | item :: items, nodes => do
      let node ← NodeData.convert item (nodes.headD .fresh)
      let rest ← NodeData.convertNodes items nodes.tail
      return node :: rest

end

/-- `node_data`. -/
def NodeData.codec : Codec NodeData where
  pack := NodeData.pack
  convert := NodeData.convert
  fresh := .fresh

/-- `node_tree`. -/
def NodeTree.codec : Codec NodeTree :=
  .record [.of (.vector NodeData.codec) (·.nodes) fun _ nodes => ⟨nodes⟩] ⟨[]⟩

/-! ### Messages -/

universe u

/-- The packing of a body that may be missing. -/
def packPointer {α : Type u} (codec : Codec α) (pointer : Option α) : List Token :=
  match pointer with
  | none => [.nil]
  | some data => codec.pack data

/-- The packing of a body, by the command. -/
def packBody (cmd : ProtocolCmd) (body : MsgBody) : List Token :=
  match cmd with
  | .dataTransformReq | .dataTransformRsp => packPointer ForwardData.codec body.forward
  | .customCmdReq => packPointer CustomCommandData.codec body.custom
  | .nodeSyncRsp => packPointer NodeTree.codec body.sync
  | .nodeRegReq | .nodeRegRsp => packPointer RegData.codec body.reg
  | .nodeConnSyn => packPointer ConnData.codec body.conn
  | .nodePing | .nodePong => packPointer PingData.codec body.ping
  | .invalid | .nodeSyncReq | .other _ _ => []

/-- `pack<atbus::protocol::msg>`. -/
def packMsg (m : Msg) : List Token :=
  .map 2 :: .int 1 :: (MsgHead.codec.pack m.head ++ .int 2 :: packBody m.head.cmd m.body)

/-- The object of a body that may be missing. -/
def objectPointer {α : Type u} (codec : Codec α) (pointer : Option α) : PackedObject :=
  match pointer with
  | none => .nil
  | some data => codec.object data

/-- The object of a body, by the command; without a case for the command nothing is written. -/
def objectBody (cmd : ProtocolCmd) (body : MsgBody) : Option PackedObject :=
  match cmd with
  | .dataTransformReq | .dataTransformRsp => some (objectPointer ForwardData.codec body.forward)
  | .customCmdReq => some (objectPointer CustomCommandData.codec body.custom)
  | .nodeSyncRsp => some (objectPointer NodeTree.codec body.sync)
  | .nodeRegReq | .nodeRegRsp => some (objectPointer RegData.codec body.reg)
  | .nodeConnSyn => some (objectPointer ConnData.codec body.conn)
  | .nodePing | .nodePong => some (objectPointer PingData.codec body.ping)
  | .invalid | .nodeSyncReq | .other _ _ => none

/-- `object_with_zone<atbus::protocol::msg>`, which gives both entries the key 1. -/
def objectMsg (m : Msg) : Option PackedObject :=
  (objectBody m.head.cmd m.body).map fun body =>
    .map [(.int 1, MsgHead.codec.object m.head), (.int 1, body)]

/-- The conversion to a body, which is made when it is missing. -/
def convertPointer {α : Type u} (codec : Codec α) (object : PackedObject) (pointer : Option α) :
    Except TypeError (Option α) :=
  (codec.convert object (pointer.getD codec.fresh)).map some

/-- The conversion to the body that the command selects. -/
def convertBody (cmd : ProtocolCmd) (object : PackedObject) (body : MsgBody) :
    Except TypeError MsgBody :=
  match cmd with
  | .dataTransformReq | .dataTransformRsp =>
      (convertPointer ForwardData.codec object body.forward).map fun forward => { body with
        forward := forward }
  | .customCmdReq =>
      (convertPointer CustomCommandData.codec object body.custom).map fun custom => { body with
        custom := custom }
  | .nodeSyncRsp => (convertPointer NodeTree.codec object body.sync).map fun sync => { body with
      sync := sync }
  | .nodeRegReq | .nodeRegRsp =>
      (convertPointer RegData.codec object body.reg).map fun reg => { body with reg := reg }
  | .nodeConnSyn => (convertPointer ConnData.codec object body.conn).map fun conn => { body with
      conn := conn }
  | .nodePing | .nodePong =>
      (convertPointer PingData.codec object body.ping).map fun ping => { body with ping := ping }
  | .invalid | .nodeSyncReq | .other _ _ => .ok body

/-- `via.u64` of a key; one that is not an integer has none. -/
def viaU64 : PackedObject → Option Nat
  | .int value => some (value % 2 ^ 64).toNat
  | _ => none

/-- One entry of the map: the head is converted, the object of the body is kept. -/
def convertEntry (head : MsgHead) (bodyObj : PackedObject) (key val : PackedObject) :
    Except TypeError (MsgHead × PackedObject) :=
  if viaU64 key = some 1 then (MsgHead.codec.convert val head).map fun head => (head, bodyObj)
  else if viaU64 key = some 2 then .ok (head, val)
  else .ok (head, bodyObj)

/-- The entries of the map, in order. -/
def convertEntries : List (PackedObject × PackedObject) → MsgHead × PackedObject →
    Except TypeError (MsgHead × PackedObject)
  | [], found => .ok found
  | (key, val) :: entries, (head, bodyObj) => do
      let found ← convertEntry head bodyObj key val
      convertEntries entries found

/-- The end of the conversion: the object of the body is converted if there is one. -/
def convertFound (cmd : ProtocolCmd) (bodyObj : PackedObject) (body : MsgBody) :
    Except TypeError MsgBody :=
  match bodyObj with
  | .nil => .ok body
  | object => convertBody cmd object body

/-- `convert<atbus::protocol::msg>`, over a message. -/
def convertMsg (object : PackedObject) (m : Msg) : Except TypeError Msg :=
  match object with
  | .map entries => do
      let (head, bodyObj) ← convertEntries entries (m.head, .nil)
      let body ← convertFound head.cmd bodyObj m.body
      return ⟨head, body⟩
  | _ => .error .mismatch

/-- A new message; its `src_bus_id` is whatever was in its memory. -/
def Msg.fresh (srcBusId : BusId) : Msg where
  head := { MsgHead.codec.fresh with srcBusId := srcBusId }
  body := {}

end LibAtbus.Node
