/-
Module: LibAtbus.Proofs.ObjectEncoding
Layer: Proofs
Purpose: The object that is built for a message has the key 1 twice, while the second key of what is
  packed is 2. So the two never agree, and the body never comes back from the object.
Trusted boundary: none
Main exports: EncodingsAgree, convertMsg_sameKey, encodings_never_agree
-/
import LibAtbus.Node.MsgCodec
import LibAtbus.Proofs.CodecRoundTrip

namespace LibAtbus.Node

open Packing

/-- `pack<atbus::protocol::msg>` has a case for the body of the command. -/
def ProtocolCmd.HasBody : ProtocolCmd → Prop
  | .dataTransformReq | .dataTransformRsp | .customCmdReq | .nodeSyncRsp | .nodeRegReq | .nodeRegRsp
  | .nodeConnSyn | .nodePing | .nodePong => True
  | .invalid | .nodeSyncReq | .other _ _ => False

/-- The object built for a message is the one it is packed as, and converts to the message. -/
def EncodingsAgree (m : Msg) : Prop :=
  ∃ object, objectMsg m = some object ∧ unpack [] (packMsg m) = some (object, []) ∧
    ∀ srcBusId, convertMsg object (.fresh srcBusId) = .ok ⟨m.head, m.body.forCmd m.head.cmd⟩

/-- The head is packed as the array of its fields, whatever they are. -/
theorem MsgHead.exists_packed (head : MsgHead) : ∃ object :
    PackedObject, MsgHead.codec.pack head = object.tokens := by
  refine ⟨.array [.int head.cmd.value.toInt, .int head.type, .int head.ret,
    .int head.sequence.toNat, .int head.srcBusId.toNat], ?_⟩
  simp [PackedObject.tokens, tokensList, codec, Codec.record, Field.of, ProtocolCmd.codec, int32,
    Codec.unsigned, Codec.ranged]

/-- The second key of what a message is packed as is 2. -/
theorem packMsg_key {m : Msg} {object : PackedObject} {rest : List Token}
    (unpacked : unpack [] (packMsg m) = some (object, rest)) :
    ∃ head body, object = .map [(.int 1, head), (.int 2, body)] := by
  obtain ⟨head, packed⟩ := m.head.exists_packed
  have upToBody : unpack [] (packMsg m) =
      unpack ([] ++ [.map 0 [(.int 1, head)] (some (.int 2))]) (packBody m.head.cmd m.body) := by
    have heads :=
      unpack_tokens head [.map 1 [] (some (.int 1))] (.int 2 :: packBody m.head.cmd m.body)
    simp only [packMsg, packed, unpack_cons, feed, place, resume_more, heads]
    rfl
  rw [upToBody] at unpacked
  obtain ⟨body, rfl⟩ := unpack_overMap [] unpacked
  exact ⟨head, body, rfl⟩

/-- A missing body is no head. -/
theorem convertHead_nil (head : MsgHead) : MsgHead.codec.convert .nil head = .error .mismatch := rfl

/-- With the key 1 twice both values are taken for the head: the body stays missing, and a missing
    one is refused. -/
theorem convertMsg_sameKey {headObj bodyObj : PackedObject} {srcBusId : BusId} {m : Msg}
    (converted :
      convertMsg (.map [(.int 1, headObj), (.int 1, bodyObj)]) (.fresh srcBusId) = .ok m) :
    m.body = {} ∧ bodyObj ≠ .nil := by
  have entry : ∀ head found val, convertEntry head found (.int 1) val =
      (MsgHead.codec.convert val head).map fun head => (head, found) := by
    intro head found val
    rw [convertEntry, if_pos (by decide)]
  cases first : MsgHead.codec.convert headObj (Msg.fresh srcBusId).head with
  | error different =>
      simp [convertMsg, convertEntries, entry, first, bind, Except.bind, Except.map] at converted
  | ok head =>
      cases second : MsgHead.codec.convert bodyObj head with
      | error different =>
          simp [convertMsg, convertEntries, entry, first, second, bind, Except.bind,
            Except.map] at converted
      | ok head' =>
          simp [convertMsg, convertEntries, entry, first, second, bind, Except.bind, Except.map,
            convertFound, pure, Except.pure] at converted
          subst converted
          refine ⟨rfl, ?_⟩
          rintro rfl
          rw [convertHead_nil] at second
          cases second

/-- The object of a body is not nil unless the body is missing. -/
theorem exists_of_objectPointer {α : Type} {codec : Codec α} {pointer : Option α}
    (there : objectPointer codec pointer ≠ .nil) : ∃ data, pointer = some data := by
  cases pointer with
  | none => exact absurd rfl there
  | some data => exact ⟨data, rfl⟩

/-- The body of a command is not missing when its object is not nil. -/
theorem forCmd_ne_of_objectBody {cmd : ProtocolCmd} {body : MsgBody} {bodyObj : PackedObject}
    (built : objectBody cmd body = some bodyObj) (there : bodyObj ≠ .nil) :
    body.forCmd cmd ≠ {} := by
  cases cmd with
  | invalid | nodeSyncReq | other _ _ => cases built
  | _ =>
      cases built
      obtain ⟨data, known⟩ := exists_of_objectPointer there
      simp [MsgBody.forCmd, known]

/-- Every command with a body has a case in both encoders. -/
theorem objectBody_of_hasBody {cmd : ProtocolCmd} (hasBody : cmd.HasBody) (body : MsgBody) :
    ∃ bodyObj, objectBody cmd body = some bodyObj := by
  cases cmd with
  | invalid | nodeSyncReq | other _ _ => exact absurd hasBody id
  | _ => exact ⟨_, rfl⟩

/-- For no message whose command has a body the two encodings agree: they differ in the second key,
    and the object does not convert to the message. -/
theorem encodings_never_agree (m : Msg) (hasBody : m.head.cmd.HasBody) :
    ¬EncodingsAgree m ∧ ∃ object, objectMsg m = some object ∧
      (∀ rest, unpack [] (packMsg m) ≠ some (object, rest)) ∧
      ∀ srcBusId, convertMsg object (.fresh srcBusId) ≠ .ok ⟨m.head, m.body.forCmd m.head.cmd⟩ := by
  obtain ⟨bodyObj, isBody⟩ := objectBody_of_hasBody hasBody m.body
  have built :
      objectMsg m = some (.map [(.int 1, MsgHead.codec.object m.head), (.int 1, bodyObj)]) := by
    rw [objectMsg, isBody]
    rfl
  have differ : ∀ rest, unpack [] (packMsg m) ≠
      some (.map [(.int 1, MsgHead.codec.object m.head), (.int 1, bodyObj)], rest) := by
    intro rest unpacked
    obtain ⟨head, body, keys⟩ := packMsg_key unpacked
    simp at keys
  have notBack : ∀ srcBusId,
      convertMsg (.map [(.int 1, MsgHead.codec.object m.head), (.int 1, bodyObj)])
      (.fresh srcBusId) ≠ .ok ⟨m.head, m.body.forCmd m.head.cmd⟩ := by
    intro srcBusId converted
    obtain ⟨missing, there⟩ := convertMsg_sameKey converted
    exact forCmd_ne_of_objectBody isBody there missing
  refine ⟨?_, _, built, differ, notBack⟩
  rintro ⟨object, built', unpacked, -⟩
  cases built.symm.trans built'
  exact differ [] unpacked

/-- A ping. -/
def pingSample : Msg where
  head :=
    { cmd := .nodePing
      type := 0
      ret := 0
      sequence := 1#32
      srcBusId := 0x12345678#64 }
  body := { ping := some ⟨7#64⟩ }

/-- The ping has no body in its object, whose second value is refused as a head. -/
theorem encodings_never_agree_ping :
    ¬EncodingsAgree pingSample ∧ ∃ object, objectMsg pingSample = some object ∧
      (∀ rest, unpack [] (packMsg pingSample) ≠ some (object, rest)) ∧
      ∀ srcBusId, convertMsg object (.fresh srcBusId) ≠
        .ok ⟨pingSample.head, pingSample.body.forCmd pingSample.head.cmd⟩ :=
  encodings_never_agree pingSample trivial

/-- The keys of a ping are 1 and 1 in the one encoding, 1 and 2 in the other. -/
theorem ping_encodings_differ : ¬∀ m : Msg, m.head.cmd.HasBody → EncodingsAgree m := by
  intro claimed
  obtain ⟨object, built, unpacked, -⟩ := claimed pingSample trivial
  have packed : unpack [] (packMsg pingSample) =
      some (.map [(.int 1, MsgHead.codec.object pingSample.head),
      (.int 2, PingData.codec.object ⟨7#64⟩)], []) := rfl
  have object' : objectMsg pingSample = some (.map [(.int 1, MsgHead.codec.object pingSample.head),
      (.int 1, PingData.codec.object ⟨7#64⟩)]) := rfl
  rw [built] at object'
  rw [packed] at unpacked
  cases object'
  simp at unpacked

end LibAtbus.Node
