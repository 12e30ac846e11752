/-
Module: LibAtbus.Proofs.CodecRoundTrip
Layer: Proofs
Purpose: A message with a declared command is packed as exactly one object, from which its head and
  the body of its command come back, in whichever order the two entries stand; but for
  NODE_SYNC_REQ, which is packed as a map of two entries whose second value is missing.
Trusted boundary: none
Main exports: Msg.Packable, RoundTrips, NodeData.carries, packMsg_roundTrips_iff,
  nodeSyncReq_not_packed
-/
import LibAtbus.Node.MsgCodec

namespace LibAtbus.Node

open Packing

/-- The body that belongs to a command. -/
def MsgBody.forCmd (body : MsgBody) : ProtocolCmd → MsgBody
  | .dataTransformReq | .dataTransformRsp => { forward := body.forward }
  | .customCmdReq => { custom := body.custom }
  | .nodeSyncRsp => { sync := body.sync }
  | .nodeRegReq | .nodeRegRsp => { reg := body.reg }
  | .nodeConnSyn => { conn := body.conn }
  | .nodePing | .nodePong => { ping := body.ping }
  | .invalid | .nodeSyncReq | .other _ _ => {}

/-- The command is declared, and is neither INVALID nor MAX. -/
def ProtocolCmd.Declared (cmd : ProtocolCmd) : Prop := cmd ∈ named ∧ cmd ≠ .invalid

instance (cmd : ProtocolCmd) : Decidable cmd.Declared := inferInstanceAs (Decidable (_ ∧ _))

/-- The entries of a map in the opposite order. -/
def swapEntries : PackedObject → PackedObject
  | .map entries => .map entries.reverse
  | object => object

/-- The value is one of an `int32_t`. -/
def IsInt32 (value : Int) : Prop := -2 ^ 31 ≤ value ∧ value ≤ 2 ^ 31 - 1

instance (value : Int) : Decidable (IsInt32 value) := inferInstanceAs (Decidable (_ ∧ _))

/-- The fields of the head are of their types, and the binary blocks of the body of the command are
    shorter than `2 ^ 32` bytes. -/
structure Msg.Packable (m : Msg) : Prop where
  type : IsInt32 m.head.type
  ret : IsInt32 m.head.ret
  content : ∀ data, (m.body.forCmd m.head.cmd).forward = some data → data.content.length < 2 ^ 32
  commands : ∀ data, (m.body.forCmd m.head.cmd).custom = some data → ∀ command ∈ data.commands,
    command.length < 2 ^ 32

/-- The message is packed as exactly one object; converted, also with its entries swapped, it gives
    the head and the body of the command, and no other body. -/
def RoundTrips (m : Msg) : Prop :=
  ∃ object, unpack [] (packMsg m) = some (object, []) ∧ ∀ srcBusId,
    convertMsg object (.fresh srcBusId) = .ok ⟨m.head, m.body.forCmd m.head.cmd⟩ ∧
      convertMsg (swapEntries object) (.fresh srcBusId) = .ok ⟨m.head, m.body.forCmd m.head.cmd⟩

/-! ### Fields -/

theorem ProtocolCmd.ofValue_value (cmd : ProtocolCmd) : ofValue cmd.value = cmd := by
  cases cmd with
  | other value undeclared => exact dif_neg undeclared
  | _ => rfl

theorem ProtocolCmd.carries (cmd : ProtocolCmd) : ProtocolCmd.codec.Carries cmd := by
  have least := BitVec.le_toInt cmd.value
  have greatest := BitVec.toInt_lt (x := cmd.value)
  refine Codec.carries_ranged least ?_ ?_
  · exact Int.le_sub_one_of_lt greatest
  · rw [BitVec.ofInt_toInt]
    exact cmd.ofValue_value

theorem int32_carries {value : Int} (range : IsInt32 value) : int32.Carries value :=
  Codec.carries_ranged range.1 range.2 rfl

theorem binDataBlock_carries {block : List UInt8} (short : block.length < 2 ^ 32) :
    binDataBlock.Carries block := by
  have whole : block.length % 2 ^ 32 = block.length := Nat.mod_eq_of_lt short
  refine ⟨.bin block, ?_, fun _ => rfl⟩
  simp only [binDataBlock, PackedObject.tokens, whole, List.take_length]

theorem MsgHead.carries {head : MsgHead} (type : IsInt32 head.type) (ret : IsInt32 head.ret) :
    MsgHead.codec.Carries head := by
  refine Codec.carries_record ?_ fun _ => rfl
  simp only [List.forall_mem_cons, List.not_mem_nil, false_imp_iff, implies_true, and_true]
  exact ⟨Field.carries_of head.cmd.carries, Field.carries_of (int32_carries type),
    Field.carries_of (int32_carries ret), Field.carries_of (Codec.carries_unsigned _),
    Field.carries_of (Codec.carries_unsigned _)⟩

theorem ForwardData.carries {data : ForwardData} (short : data.content.length < 2 ^ 32) :
    ForwardData.codec.Carries data := by
  refine Codec.carries_record ?_ fun _ => rfl
  simp only [List.forall_mem_cons, List.not_mem_nil, false_imp_iff, implies_true, and_true]
  exact ⟨Field.carries_of (Codec.carries_unsigned _), Field.carries_of (Codec.carries_unsigned _),
    Field.carries_of (Codec.carries_vector fun _ _ => Codec.carries_unsigned _),
    Field.carries_of (binDataBlock_carries short), Field.carries_of (Codec.carries_signed _)⟩

theorem CustomCommandData.carries {data : CustomCommandData}
    (short : ∀ command ∈ data.commands, command.length < 2 ^ 32) :
    CustomCommandData.codec.Carries data := by
  refine Codec.carries_record ?_ fun _ => rfl
  simp only [List.forall_mem_cons, List.not_mem_nil, false_imp_iff, implies_true, and_true]
  exact ⟨Field.carries_of (Codec.carries_unsigned _),
    Field.carries_of
      (Codec.carries_vector fun command member => binDataBlock_carries (short command member))⟩

theorem ChannelData.carries (data : ChannelData) : ChannelData.codec.Carries data := by
  refine Codec.carries_record ?_ fun _ => rfl
  simp only [List.forall_mem_cons, List.not_mem_nil, false_imp_iff, implies_true, and_true]
  exact Field.carries_of (Codec.carries_str _)

theorem ConnData.carries (data : ConnData) : ConnData.codec.Carries data := by
  refine Codec.carries_record ?_ fun _ => rfl
  simp only [List.forall_mem_cons, List.not_mem_nil, false_imp_iff, implies_true, and_true]
  exact Field.carries_of (ChannelData.carries _)

theorem PingData.carries (data : PingData) : PingData.codec.Carries data := by
  refine Codec.carries_record ?_ fun _ => rfl
  simp only [List.forall_mem_cons, List.not_mem_nil, false_imp_iff, implies_true, and_true]
  exact Field.carries_of (Codec.carries_signed _)

theorem RegData.carries (data : RegData) : RegData.codec.Carries data := by
  refine Codec.carries_record ?_ fun _ => rfl
  simp only [List.forall_mem_cons, List.not_mem_nil, false_imp_iff, implies_true, and_true]
  exact ⟨Field.carries_of (Codec.carries_unsigned _), Field.carries_of (Codec.carries_signed _),
    Field.carries_of (Codec.carries_str _),
    Field.carries_of (Codec.carries_vector fun channel _ => channel.carries),
    Field.carries_of (Codec.carries_unsigned _), Field.carries_of (Codec.carries_bool _)⟩

/-! ### Trees of nodes -/

/-- The children are converted after the other fields. -/
theorem NodeData.convertItems_append (last : PackedObject) :
    ∀ (fields : List (Packing.Field NodeData)) (items : List PackedObject) (node : NodeData),
      items.length = fields.length →
      NodeData.convertItems fields (items ++ [last]) node =
        (convertFields fields items node).bind (NodeData.convertItems [] [last])
  | [], [], node, _ => by
      rw [convertFields]
      rfl
      all_goals simp
  | field :: fields, item :: items, node, length => by
      have later :=
  fun node => NodeData.convertItems_append last fields items node (Nat.succ.inj length)
      rw [List.cons_append, NodeData.convertItems, convertFields]
      cases field.convert item node with
      | error different => rfl
      | ok node => exact later node

theorem NodeData.fields_carried (node : NodeData) :
    ∀ field ∈ NodeData.fields, field.Carries node := by
  simp only [NodeData.fields, List.forall_mem_cons, List.not_mem_nil, false_imp_iff, implies_true,
    and_true]
  exact ⟨Field.carries_of (Codec.carries_unsigned _), Field.carries_of (Codec.carries_bool _),
    Field.carries_of (Codec.carries_bool _), Field.carries_of (Codec.carries_unsigned _)⟩

mutual

/-- A tree is carried: its children are. -/
theorem NodeData.carries : ∀ node : NodeData, NodeData.codec.Carries node
  | ⟨busId, overwrite, hasGlobalTree, childrenIdMask, children⟩ => by
      obtain ⟨nodes, size, packed, back⟩ := NodeData.carries_list children
      obtain ⟨items, length, packs, backs⟩ :=
        carries_fields
          (NodeData.fields_carried ⟨busId, overwrite, hasGlobalTree, childrenIdMask, children⟩)
      have five : (items ++ [PackedObject.array nodes]).length = 5 := by
        rw [List.length_append, length]
        rfl
      refine ⟨.array (items ++ [.array nodes]), ?_, fun old => ?_⟩
      · have tokens : NodeData.codec.pack ⟨busId, overwrite, hasGlobalTree, childrenIdMask,
            children⟩ =
            .array 5 ::
              (tokensList items ++ .array children.length :: NodeData.packList children) := by
          rw [← packs]
          change NodeData.pack _ = _
          rw [NodeData.pack]
          rfl
        rw [tokens, PackedObject.tokens, five, tokensList_append, packed, ← size]
        simp [tokensList, PackedObject.tokens]
      · have converted :=
          NodeData.convertItems_append (.array nodes) NodeData.fields items old length
        rw [backs] at converted
        refine converted.trans ?_
        simp only [Except.bind, NodeData.convertItems, NodeData.convertChildren, back]
        rfl

/-- Trees are carried one after the other. -/
theorem NodeData.carries_list : ∀ nodes : List NodeData, ∃ items, items.length = nodes.length ∧
    NodeData.packList nodes = tokensList items ∧ ∀ old, NodeData.convertNodes items old = .ok nodes
  | [] => ⟨[], rfl, by rw [NodeData.packList, tokensList], fun old => by rw [NodeData.convertNodes]⟩
  | node :: nodes => by
      obtain ⟨item, packed, back⟩ := NodeData.carries node
      obtain ⟨items, length, packs, backs⟩ := NodeData.carries_list nodes
      refine ⟨item :: items, by simp [length], ?_, fun old => ?_⟩
      · rw [NodeData.packList, tokensList, ← packed, packs]
        rfl
      · have first : NodeData.convert item (old.headD .fresh) = .ok node := back _
        rw [NodeData.convertNodes, first, backs]
        rfl

end

theorem NodeTree.carries (tree : NodeTree) : NodeTree.codec.Carries tree := by
  refine Codec.carries_record ?_ fun _ => rfl
  simp only [List.forall_mem_cons, List.not_mem_nil, false_imp_iff, implies_true, and_true]
  exact Field.carries_of (Codec.carries_vector fun node _ => node.carries)

/-! ### Bodies -/

universe u

/-- A body that may be missing is packed as one object, and comes back where the command keeps
    it. -/
theorem packPointer_found {α : Type u} {fields : List (Packing.Field α)} {fresh : α}
    {pointer : Option α} {cmd : ProtocolCmd} (keep : Option α → MsgBody) (missing : keep none = {})
    (converts : ∀ object,
      convertBody cmd object {} = (convertPointer (.record fields fresh) object none).map keep)
    (carried : ∀ data, pointer = some data → (Codec.record fields fresh).Carries data) :
    ∃ object, packPointer (.record fields fresh) pointer = object.tokens ∧
      convertFound cmd object {} = .ok (keep pointer) := by
  cases pointer with
  | none =>
      exact ⟨.nil, by simp [packPointer, PackedObject.tokens], congrArg Except.ok missing.symm⟩
  | some data =>
      obtain ⟨object, packed, back⟩ := carried data rfl
      have found : convertFound cmd object {} = convertBody cmd object {} := by
        cases object with
        | nil => simp [Codec.record, PackedObject.tokens] at packed
        | _ => rfl
      refine ⟨object, packed, ?_⟩
      rw [found, converts, convertPointer, back]
      rfl

/-- The body of a declared command other than NODE_SYNC_REQ is packed as one object and comes
    back. -/
theorem packBody_carried {m : Msg} (packable : m.Packable) (declared : m.head.cmd.Declared)
    (handled : m.head.cmd ≠ .nodeSyncReq) :
    ∃ object, packBody m.head.cmd m.body = object.tokens ∧
      convertFound m.head.cmd object {} = .ok (m.body.forCmd m.head.cmd) := by
  have content := packable.content
  have commands := packable.commands
  cases command : m.head.cmd with
  | invalid => exact absurd command declared.2
  | nodeSyncReq => exact absurd command handled
  | other value undeclared =>
      have named := declared.1
      rw [command] at named
      simp [ProtocolCmd.named] at named
  | dataTransformReq =>
      rw [command] at content
      exact packPointer_found (fun forward => { forward := forward }) rfl (fun _ => rfl)
        fun data known => ForwardData.carries (content data known)
  | dataTransformRsp =>
      rw [command] at content
      exact packPointer_found (fun forward => { forward := forward }) rfl (fun _ => rfl)
        fun data known => ForwardData.carries (content data known)
  | customCmdReq =>
      rw [command] at commands
      exact packPointer_found (fun custom => { custom := custom }) rfl (fun _ => rfl)
        fun data known => CustomCommandData.carries (commands data known)
  | nodeSyncRsp =>
      exact packPointer_found (fun sync => { sync := sync }) rfl (fun _ => rfl) fun data _ =>
        data.carries
  | nodeRegReq =>
      exact packPointer_found (fun reg => { reg := reg }) rfl (fun _ => rfl) fun data _ =>
        data.carries
  | nodeRegRsp =>
      exact packPointer_found (fun reg => { reg := reg }) rfl (fun _ => rfl) fun data _ =>
        data.carries
  | nodeConnSyn =>
      exact packPointer_found (fun conn => { conn := conn }) rfl (fun _ => rfl) fun data _ =>
        data.carries
  | nodePing =>
      exact packPointer_found (fun ping => { ping := ping }) rfl (fun _ => rfl) fun data _ =>
        data.carries
  | nodePong =>
      exact packPointer_found (fun ping => { ping := ping }) rfl (fun _ => rfl) fun data _ =>
        data.carries

/-! ### Messages -/

/-- The map of a message converts to the message, in either order of its entries. -/
theorem convertMsg_map {m : Msg} {headObj bodyObj : PackedObject} {body : MsgBody}
    (headBack : ∀ old, MsgHead.codec.convert headObj old = .ok m.head)
    (bodyBack : convertFound m.head.cmd bodyObj {} = .ok body) (srcBusId : BusId) :
    convertMsg (.map [(.int 1, headObj), (.int 2, bodyObj)]) (.fresh srcBusId) =
      .ok ⟨m.head, body⟩ ∧
      convertMsg (.map [(.int 2, bodyObj), (.int 1, headObj)]) (.fresh srcBusId) =
        .ok ⟨m.head, body⟩ := by
  have headEntry : ∀ head found,
      convertEntry head found (.int 1) headObj = .ok (m.head, found) := by
    intro head found
    rw [convertEntry, if_pos (by decide), headBack]
    rfl
  have bodyEntry : ∀ head found,
      convertEntry head found (.int 2) bodyObj = .ok (head, bodyObj) := by
    intro head found
    rw [convertEntry, if_neg (by decide), if_pos (by decide)]
  have first :
      convertEntries [(.int 1, headObj), (.int 2, bodyObj)] ((Msg.fresh srcBusId).head, .nil) =
        .ok (m.head, bodyObj) := by
    rw [convertEntries, headEntry]
    exact congrArg (· >>= convertEntries []) (bodyEntry m.head .nil)
  have second :
      convertEntries [(.int 2, bodyObj), (.int 1, headObj)] ((Msg.fresh srcBusId).head, .nil) =
        .ok (m.head, bodyObj) := by
    rw [convertEntries, bodyEntry]
    exact congrArg (· >>= convertEntries []) (headEntry _ bodyObj)
  have converted : ∀ entries,
      convertEntries entries ((Msg.fresh srcBusId).head, .nil) = .ok (m.head, bodyObj) →
      convertMsg (.map entries) (.fresh srcBusId) = .ok ⟨m.head, body⟩ := by
    intro entries found
    have same : (Msg.fresh srcBusId).body = {} := rfl
    simp only [convertMsg, found, same, bind, Except.bind, bodyBack]
    rfl
  exact ⟨converted _ first, converted _ second⟩

/-- The tokens of a message of two entries are exactly its map. -/
theorem packMsg_tokens {m : Msg} {headObj bodyObj : PackedObject}
    (head : MsgHead.codec.pack m.head = headObj.tokens)
    (body : packBody m.head.cmd m.body = bodyObj.tokens) :
    packMsg m = (PackedObject.map [(.int 1, headObj), (.int 2, bodyObj)]).tokens := by
  simp [packMsg, head, body, PackedObject.tokens, tokensEntries]

/-- A request of a synchronisation is packed as the beginning of a map, which no object is. -/
theorem nodeSyncReq_incomplete {m : Msg} (packable : m.Packable)
    (command : m.head.cmd = .nodeSyncReq) : unpack [] (packMsg m) = none := by
  obtain ⟨headObj, packed, -⟩ := MsgHead.carries packable.type packable.ret
  have body : packBody m.head.cmd m.body = [] := by
    rw [command]
    rfl
  have unpacked := unpack_tokens headObj [.map 1 [] (some (.int 1))] [.int 2]
  simpa [packMsg, body, packed, feed, place, unpack] using unpacked

/-- A message with a declared command is packed as one object and comes back whole, exactly when its
    command is not NODE_SYNC_REQ. -/
theorem packMsg_roundTrips_iff (m : Msg) (packable : m.Packable) (declared : m.head.cmd.Declared) :
    RoundTrips m ↔ m.head.cmd ≠ .nodeSyncReq := by
  constructor
  · rintro ⟨object, unpacked, -⟩ command
    rw [nodeSyncReq_incomplete packable command] at unpacked
    cases unpacked
  · intro handled
    obtain ⟨headObj, headPacked, headBack⟩ := MsgHead.carries packable.type packable.ret
    obtain ⟨bodyObj, bodyPacked, bodyBack⟩ := packBody_carried packable declared handled
    refine ⟨.map [(.int 1, headObj), (.int 2, bodyObj)], ?_, convertMsg_map headBack bodyBack⟩
    rw [packMsg_tokens headPacked bodyPacked]
    exact unpack_tokens_nil _

/-- A registration, with a channel. -/
theorem packMsg_roundTrips_iff_reg :
    RoundTrips
      { head :=
          { cmd := .nodeRegReq
            type := 0
            ret := -1
            sequence := 7#32
            srcBusId := 0x12345678#64 }
        body :=
          { reg := some
              { busId := 0x12345678#64
                pid := 42#32
                hostname := "host"
                channels := [⟨"ipv4://127.0.0.1:16387"⟩]
                childrenIdMask := 8#32
                hasGlobalTree := true } } } := by
  refine (packMsg_roundTrips_iff _ ⟨by decide, by decide, ?_, ?_⟩ (by decide)).mpr (by decide)
  · intro data known
    cases known
  · intro data known
    cases known

/-- A request of a synchronisation is not packed as an object. -/
theorem nodeSyncReq_not_packed :
    let m : Msg :=
      { head :=
          { cmd := .nodeSyncReq
            type := 0
            ret := 0
            sequence := 1#32
            srcBusId := 0x12345678#64 }
        body := {} }
    unpack [] (packMsg m) = none ∧ ¬RoundTrips m := by
  intro m
  have incomplete : unpack [] (packMsg m) = none := by decide
  refine ⟨incomplete, ?_⟩
  rintro ⟨object, unpacked, -⟩
  rw [incomplete] at unpacked
  cases unpacked

end LibAtbus.Node
