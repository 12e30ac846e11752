/-
Module: LibAtbus.Channel.StreamSetup
Layer: Channel
Purpose: How a stream channel sets up its connections, from `src/channel_io_stream.cpp`:
  `io_stream_listen` and `io_stream_connect`, the continuations of a name lookup and of a connect,
  and the callbacks of a listener. What libuv returns, and what is in a channel when one of its
  callbacks runs, is given. The calls that `connection::listen` and `connection::connect` make of
  them, with the data they pass along, are a transition system.
Trusted boundary: human-reviewed spec; `new` throws and does not return NULL
Main exports: StreamChannel, UvOutcome, StreamReport, StreamSetup, ioStreamListen, ioStreamConnect,
  ioStreamAllConnectedCb, ioStreamDnsConnectionCb, ioStreamDnsConnectCb, ioStreamTcpConnectionCb,
  ioStreamPipeConnectionCb, StreamCall, StreamCallStep
-/
import LibAtbus.Channel.Address
import LibAtbus.Detail.ErrorType

namespace LibAtbus.Channel

/-- `io_stream_channel`: whether `EN_CF_CLOSING` is set, and whether it has a loop or gets one. -/
structure StreamChannel where
  closing : Bool := false
  loop : Bool := true
deriving DecidableEq, Repr

/-- What libuv returns in one call of a function of the channel, as far as that makes it. -/
structure UvOutcome where
  /-- `uv_tcp_bind` or `uv_pipe_bind` -/
  bind : Int := 0
  listen : Int := 0
  accept : Int := 0
  /-- `uv_tcp_connect`; `uv_pipe_connect` returns nothing -/
  connect : Int := 0
  getaddrinfo : Int := 0
  /-- the descriptor that `uv_fileno` finds -/
  fileno : Option Nat := some 0
deriving DecidableEq, Repr

/-- A callback: its connection, where `none` is NULL, and its status. -/
structure StreamReport where
  conn : Option Nat
  errcode : ErrorType
deriving DecidableEq, Repr

inductive StreamOp where
  | listen
  | connect
deriving DecidableEq, Repr

/-- A request that libuv has accepted. -/
inductive UvRequest where
  | connecting (pipe : Bool)
  | resolving (op : StreamOp) (addr : ChannelAddress)
deriving DecidableEq, Repr

/-- What a function of the channel does: its return code, its calls of the callback it was given,
    and the requests it leaves with libuv. -/
structure StreamSetup where
  res : ErrorType
  reports : List StreamReport := []
  requests : List UvRequest := []
deriving DecidableEq, Repr

/-! ### Listening and connecting -/

/-- Both functions return at once without a channel, when it is closing, and without a loop. -/
def refusal : Option StreamChannel → Option ErrorType
  | none => some .params
  | some channel =>
      if channel.closing then some .channelClosing else if channel.loop then none else some .malloc

/-- `io_stream_make_connection`: it fails without a descriptor. -/
def ioStreamMakeConnection (uv : UvOutcome) : Option Nat := uv.fileno

/-- A listening socket or pipe. Its callback is called before the call returns. -/
def listenOn (bindFailed listenFailed : ErrorType) (uv : UvOutcome) : StreamSetup :=
  if uv.bind ≠ 0 then { res := bindFailed }
  else if uv.listen ≠ 0 then { res := listenFailed }
  else
    match ioStreamMakeConnection uv with
    | none => { res := .malloc }
    | some conn => { res := .success, reports := [⟨some conn, .success⟩] }

/-- Looks a name up. -/
def resolve (op : StreamOp) (addr : ChannelAddress) (uv : UvOutcome) : StreamSetup :=
  if uv.getaddrinfo ≠ 0 then { res := .dnsGetaddrFailed }
  else { res := .success, requests := [.resolving op addr] }

/-- `io_stream_listen`. The family of the socket address is of no influence here. -/
def ioStreamListen (channel : Option StreamChannel) (addr : ChannelAddress) (uv : UvOutcome) :
    StreamSetup :=
  match refusal channel with
  | some res => { res := res }
  | none =>
      if schemeBegins "ipv4" addr.scheme || schemeBegins "ipv6" addr.scheme then
        listenOn .sockBindFailed .sockListenFailed uv
      else if schemeBegins "unix" addr.scheme then listenOn .pipeBindFailed .pipeListenFailed uv
      else if schemeBegins "dns" addr.scheme then resolve .listen addr uv
      else { res := .scheme }

/-- `io_stream_connect`. -/
def ioStreamConnect (channel : Option StreamChannel) (addr : ChannelAddress) (uv : UvOutcome) :
    StreamSetup :=
  match refusal channel with
  | some res => { res := res }
  | none =>
      if schemeBegins "ipv4" addr.scheme || schemeBegins "ipv6" addr.scheme then
        if uv.connect ≠ 0 then { res := .sockConnectFailed }
        else { res := .success, requests := [.connecting false] }
      else if schemeBegins "unix" addr.scheme
        then { res := .success, requests := [.connecting true] }
      else if schemeBegins "dns" addr.scheme then resolve .connect addr uv
      else { res := .success }

/-! ### Continuations -/

/-- `io_stream_all_connected_cb`: the callback it makes. -/
def ioStreamAllConnectedCb (channel : StreamChannel) (pipe : Bool) (status : Int) (uv : UvOutcome) :
    StreamReport :=
  if status ≠ 0 then ⟨none, if pipe then .pipeConnectFailed else .sockConnectFailed⟩
  else if channel.closing then ⟨none, .channelClosing⟩
  else
    match ioStreamMakeConnection uv with
    | none => ⟨none, .malloc⟩
    | some conn => ⟨some conn, .success⟩

/-- The first address a lookup finds: its family with its text. -/
inductive AddrInfo where
  | inet (ip : List Char)
  | inet6 (ip : List Char)
  | other
deriving DecidableEq, Repr

/-- The continuation of a lookup, which calls the function that asked for it again. It makes the
    callback itself when that does not succeed. -/
def dnsContinue (again : Option StreamChannel → ChannelAddress → UvOutcome → StreamSetup)
    (channel : StreamChannel) (addr : ChannelAddress) (status : Int) (res : Option AddrInfo)
    (uv : UvOutcome) : StreamSetup :=
  let failed : StreamSetup := { res := .dnsGetaddrFailed, reports := [⟨none, .dnsGetaddrFailed⟩] }
  let continued (scheme : String) (ip : List Char) : StreamSetup :=
    let setup := again (some channel) (makeAddressOf scheme.toList ip addr.port) uv
    if setup.res = .success then setup
    else { setup with reports := setup.reports ++ [⟨none, .dnsGetaddrFailed⟩] }
  if status ≠ 0 then failed
  else
    match res with
    | some (.inet ip) => continued "ipv4" ip
    | some (.inet6 ip) => continued "ipv6" ip
    | some .other | none => failed

/-- `io_stream_dns_connection_cb`, of a listen. -/
def ioStreamDnsConnectionCb := dnsContinue ioStreamListen

/-- `io_stream_dns_connect_cb`, of a connect. -/
def ioStreamDnsConnectCb := dnsContinue ioStreamConnect

/-! ### Accepting -/

/-- `io_stream_tcp_connection_common`: the connection of an accepted socket. -/
def ioStreamTcpConnectionCommon (channel : StreamChannel) (status : Int) (uv : UvOutcome) :
    Option Nat :=
  if status ≠ 0 then none
  else if uv.accept ≠ 0 then none
  else if channel.closing then none  -- after the accept, so that the new connection is closed
  else ioStreamMakeConnection uv

/-- `io_stream_tcp_connection_cb`: the accepted callback it makes. -/
def ioStreamTcpConnectionCb (channel : StreamChannel) (status : Int) (uv : UvOutcome) :
    StreamReport :=
  match ioStreamTcpConnectionCommon channel status uv with
  | none => ⟨none, if channel.closing then .channelClosing else .sockConnectFailed⟩
  | some conn => ⟨some conn, .success⟩

/-- `io_stream_pipe_connection_cb`. -/
def ioStreamPipeConnectionCb (channel : StreamChannel) (status : Int) (uv : UvOutcome) :
    StreamReport :=
  if status ≠ 0 then ⟨none, .pipeConnectFailed⟩
  else if uv.accept ≠ 0 then ⟨none, .pipeConnectFailed⟩
  else if channel.closing then ⟨none, .channelClosing⟩
  else
    match ioStreamMakeConnection uv with
    | none => ⟨none, .pipeConnectFailed⟩
    | some conn => ⟨some conn, .success⟩

/-! ### Calls -/

/-- The function a caller calls. -/
def StreamOp.call : StreamOp → Option StreamChannel → ChannelAddress → UvOutcome → StreamSetup
  | .listen => ioStreamListen
  | .connect => ioStreamConnect

/-- The continuation of a lookup. -/
def StreamOp.dnsCb : StreamOp → StreamChannel → ChannelAddress → Int → Option AddrInfo → UvOutcome →
    StreamSetup
  | .listen => ioStreamDnsConnectionCb
  | .connect => ioStreamDnsConnectCb

/-- A call that `connection::listen` or `connection::connect` has made, with the channel as it was
    then and what has come of the call so far. The `connection_async_data` it passed is freed by the
    caller when the call failed, and by each callback. -/
structure StreamCall where
  op : StreamOp
  channel : Option StreamChannel
  addr : ChannelAddress
  res : ErrorType
  reports : List StreamReport
  requests : List UvRequest
  frees : Nat
  /-- how often libuv has called back -/
  rounds : Nat := 0
deriving DecidableEq, Repr

namespace StreamCall

def start (op : StreamOp) (channel : Option StreamChannel) (addr : ChannelAddress)
    (uv : UvOutcome) : StreamCall :=
  let setup := op.call channel addr uv
  { op := op
    channel := channel
    addr := addr
    res := setup.res
    reports := setup.reports
    requests := setup.requests
    frees := setup.reports.length + if setup.res.failed then 1 else 0 }

/-- libuv calls back for one of the requests, which makes callbacks and may leave another
    request. -/
def answer (call : StreamCall) (request : UvRequest) (reports : List StreamReport)
    (requests : List UvRequest) : StreamCall :=
  { call with
    reports := call.reports ++ reports
    requests := call.requests.erase request ++ requests
    frees := call.frees + reports.length
    rounds := call.rounds + 1 }

end StreamCall

inductive StreamCallLabel where
  | start
  | connected (call : Nat)
  | resolved (call : Nat)
deriving DecidableEq, Repr

/-- A call is made, or libuv calls back for a request of an earlier one; the channel may have
    changed since. -/
inductive StreamCallStep : List StreamCall → StreamCallLabel → List StreamCall → Prop where
  | start {calls : List StreamCall} (op : StreamOp) (channel : Option StreamChannel)
      (addr : ChannelAddress) (uv : UvOutcome) :
      StreamCallStep calls .start (calls ++ [StreamCall.start op channel addr uv])
  | connected {calls : List StreamCall} {i : Nat} {call : StreamCall} {pipe : Bool}
      (channel : StreamChannel) (status : Int) (uv : UvOutcome) (made : calls[i]? = some call)
      (pending : .connecting pipe ∈ call.requests) :
      StreamCallStep calls (.connected i)
        (calls.set i
          (call.answer (.connecting pipe) [ioStreamAllConnectedCb channel pipe status uv] []))
  | resolved {calls : List StreamCall} {i : Nat} {call : StreamCall} {op : StreamOp}
      {addr : ChannelAddress}
      (channel : StreamChannel) (status : Int) (res : Option AddrInfo) (uv : UvOutcome)
      (made : calls[i]? = some call) (pending : .resolving op addr ∈ call.requests) :
      StreamCallStep calls (.resolved i)
        (calls.set i
          (let setup := op.dnsCb channel addr status res uv
           call.answer (.resolving op addr) setup.reports setup.requests))

end LibAtbus.Channel
