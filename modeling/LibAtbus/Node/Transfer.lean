/-
Module: LibAtbus.Node.Transfer
Layer: Node
Purpose: Data transfer in a network. The messages in flight are delivered in any order; at each step
  the links of the node that acts are arbitrary, so a send may succeed or fail at any point. A step
  hands what a node transmits to the nodes its endpoints stand for. Only the messages of data
  transfer are delivered; the tables stay as they are. The life of a single request is followed on
  its own, from node to node.
Trusted boundary: human-reviewed spec
Main exports: System, System.after, Transfer, System.Step, System.generated, System.reported,
  System.responding, Life, Network.life
-/
import LibAtbus.Node.MsgHandler
import LibAtbus.Node.Network

namespace LibAtbus.Node

universe u

/-- The messages in flight, with the nodes they go to, and the callbacks made so far, with their
    nodes. -/
structure System (ι : Type u) where
  inFlight : List (ι × Msg) := []
  events : List (ι × NodeEvent) := []

/-- What one step is about: an application sends data, or a node handles a request or a response. -/
inductive Transfer (ι : Type u) where
  | send (v : ι) (links : Links) (sequence : BitVec 32) (tid : BusId) (type : Int)
      (content : List UInt8) (requireRsp : Bool)
  | request (v : ι) (links : Links) (sequence : BitVec 32) (m : Msg)
  | response (v : ι) (m : Msg)

/-- The messages a node transmitted, with the nodes they go to. -/
def Network.packets {ι : Type u} (net : Network ι) (sent : List (Endpoint × Msg)) :
    List (ι × Msg) :=
  sent.filterMap fun packet => (net.locate packet.1.id).map fun w => (w, packet.2)

namespace System

variable {ι : Type u}

/-- A node did something, with the other messages still in flight. -/
def after (s : System ι) (net : Network ι) (v : ι) (rest : List (ι × Msg)) (handled : Handled) :
    System ι :=
  { inFlight := rest ++ net.packets handled.sent
    events := s.events ++ handled.events.map fun event => (v, event) }

/-- One step. -/
inductive Step (net : Network ι) : System ι → Transfer ι → System ι → Prop where
  | send {s : System ι} (v : ι) (links : Links) (sequence : BitVec 32) (tid : BusId) (type : Int)
      (content : List UInt8) (requireRsp : Bool) :
      Step net s (.send v links sequence tid type content requireRsp)
        (s.after net v s.inFlight
          (sendData (net.node v) links sequence tid type content requireRsp))
  | request {s : System ι} {v : ι} {m : Msg} {rest : List (ι × Msg)} (links : Links)
      (sequence : BitVec 32)
      (arrives : s.inFlight.Perm ((v, m) :: rest)) (command : m.head.cmd = .dataTransformReq) :
      Step net s (.request v links sequence m)
        (s.after net v rest (onRecvDataTransferReq (net.node v) links sequence true m))
  | response {s : System ι} {v : ι} {m : Msg} {rest : List (ι × Msg)}
      (arrives : s.inFlight.Perm ((v, m) :: rest)) (command : m.head.cmd = .dataTransformRsp) :
      Step net s (.response v m) (s.after net v rest (onRecvDataTransferRsp true m))

/-- The responses in flight. -/
def responding (s : System ι) : List (ι × Msg) :=
  s.inFlight.filter fun packet => packet.2.head.cmd = .dataTransformRsp

/-- The responses the nodes generated, as they were first sent. -/
def generated (s : System ι) (net : Network ι) : List Msg :=
  s.events.filterMap fun event =>
    match event with
    | (v, .transferRsp rsp) => some (rsp.stamp (net.id v))
    | _ => none

/-- The responses reported with `on_send_data_failed`, and where. -/
def reported (s : System ι) : List (ι × Msg) :=
  s.events.filterMap fun event =>
    match event with
    | (v, .sendDataFailed m) => some (v, m)
    | _ => none

end System

/-! ### The life of one request -/

/-- How many responses the nodes that a request visited generated, and whether it was delivered. -/
structure Life where
  responses : Nat
  delivered : Bool
deriving DecidableEq, Repr

/-- The responses asked for: one for a request that fails, and for one that is delivered when it
    asks for it. -/
def Life.expected (life : Life) (asked : Bool) : Nat :=
  if life.delivered then (if asked then 1 else 0) else 1

/-- The life of a request from the node that receives it on, with the links of each hop; `none` when
    it visits more nodes than there is room for. -/
def Network.life {ι : Type u} (net : Network ι) (links : Nat → Links)
    (sequences : Nat → BitVec 32) :
    Nat → Nat → ι → Msg → Option Life
  | 0, _, _, _ => none
  | room + 1, hop, v, m =>
      let handled := onRecvDataTransferReq (net.node v) (links hop) (sequences hop) true m
      match net.packets handled.onward with
      | [] =>
          some { responses := handled.responses.length, delivered := !handled.deliveries.isEmpty }
      | (w, marked) :: _ =>
          (life net links sequences room (hop + 1) w marked).map fun later =>
            { later with responses := handled.responses.length + later.responses }

end LibAtbus.Node
