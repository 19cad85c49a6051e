import TcpUdp.EndToEnd

/-!
# The UDP tunnel

The two processes around a virtual channel. The client's loop in `PrepareUdpSocket` reads a UDP
socket and calls `send`, the server's UDP thread does the same with the socket of the peer; the
receive callback of each end passes what its channel delivers to `sendto`. This is one
incarnation of the channel, from `open()` on.

The reorder thread calls the receive callback for one item after the other, and other threads run
in between: `clientHandedOut` and `serverHandedOut` count the calls that were made.

The fields from `clientArrived` on are a history that no operation reads.
-/

namespace TcpUdp

open Lib

/-- `sockaddr_in`. -/
structure SockAddrIn where
  addr : ℕ := 0
  port : ℕ := 0
  deriving DecidableEq, Repr

/-- What a read of a UDP socket brings: a datagram of any size, or an error. -/
inductive UdpRead where
  | datagram (srcAddr : SockAddrIn) (data : List UInt8)
  | error
  deriving DecidableEq, Repr

/-- A datagram of no bytes, which looks like a closed socket. -/
def UdpRead.isEmpty : UdpRead → Bool
  | .datagram _ data => data.isEmpty
  | .error => false

structure Tunnel where
  /-- The client is the sender of the system. -/
  channels : System
  /-- `Client::running`. -/
  running : Bool := true
  clientLoop : Bool := true
  serverLoop : Bool := true
  remoteUdpAddr : SockAddrIn := {}
  clientHandedOut : ℕ := 0
  serverHandedOut : ℕ := 0
  /-- The datagrams that came to the two sockets. -/
  clientArrived : List (SockAddrIn × List UInt8) := []
  serverArrived : List (List UInt8) := []
  /-- The datagrams that the two sockets have sent. -/
  clientSent : List (SockAddrIn × List UInt8) := []
  serverSent : List (List UInt8) := []

namespace Tunnel

/-- The buffers; a longer datagram is cut to their size. -/
def clientBufferSize : ℕ := 2500
def serverBufferSize : ℕ := vcMaxDataPayloadSize + vcMinDataPacketSize

/-! ## Reading the sockets -/

/-- One pass of the loop in `Client::PrepareUdpSocket`. -/
def clientRead (s : Tunnel) : UdpRead → Tunnel
  -- the loop goes on after ten seconds
  | .error => { s with clientLoop := s.running }
  | .datagram srcAddr data =>
    let s := { s with clientArrived := s.clientArrived ++ [(srcAddr, data)] }
    let buffer := data.take clientBufferSize
    if buffer.length = 0 then { s with clientLoop := false }
    else
      { s with
        remoteUdpAddr := srcAddr
        channels := { s.channels with sender := s.channels.sender.send buffer }
        clientLoop := s.running }

/-- One pass of the loop of the server's UDP thread. -/
def serverRead (s : Tunnel) : UdpRead → Tunnel
  | .error => { s with serverLoop := false }
  | .datagram _ data =>
    let s := { s with serverArrived := s.serverArrived ++ [data] }
    let buffer := data.take serverBufferSize
    if buffer.length = 0 then { s with serverLoop := false }
    else { s with channels := { s.channels with receiver := s.channels.receiver.send buffer } }

/-! ## The receive callbacks -/

/-- The client's `receiveCallback`, for the next delivered item. -/
def clientCallback (s : Tunnel) (sent : Bool) : Tunnel :=
  match s.channels.sender.delivered[s.clientHandedOut]? with
  | none => s
  | some item =>
    { s with
      clientHandedOut := s.clientHandedOut + 1
      clientSent := if sent then s.clientSent ++ [(s.remoteUdpAddr, item.data)] else s.clientSent }

/-- The server's `receiveCallback`. -/
def serverCallback (s : Tunnel) (sent : Bool) : Tunnel :=
  match s.channels.receiver.delivered[s.serverHandedOut]? with
  | none => s
  | some item =>
    { s with
      serverHandedOut := s.serverHandedOut + 1
      serverSent := if sent then s.serverSent ++ [item.data] else s.serverSent }

/-! ## Runs -/

inductive Event where
  | clientRead (r : UdpRead)
  | serverRead (r : UdpRead)
  /-- `sendto` succeeds or fails. -/
  | clientCallback (sent : Bool)
  | serverCallback (sent : Bool)
  /-- Everything that the two channels do by themselves. -/
  | channels (e : System.Event)
  /-- `Client::Stop` sets `running` to false. -/
  | stop

/-- `send` is called by the two loops only. -/
def isSend : System.Event → Bool
  | .sender (.send _) | .receiver (.send _) => true
  | _ => false

def step (s : Tunnel) : Event → Tunnel
  | .clientRead r => if s.clientLoop then s.clientRead r else s
  | .serverRead r => if s.serverLoop then s.serverRead r else s
  | .clientCallback sent => s.clientCallback sent
  | .serverCallback sent => s.serverCallback sent
  | .channels e => if isSend e then s else { s with channels := s.channels.step e }
  | .stop => { s with running := false }

/-- The two ends of a channel that was just opened. -/
def opening (config config' : ReorderConfig) (connections connections' : List ConnId) : Tunnel :=
  { channels := .joined config config' connections connections' }

def stateAt (config config' : ReorderConfig) (connections connections' : List ConnId)
    (events : ℕ → Event) (n : ℕ) : Tunnel :=
  runState step (opening config config' connections connections') events n

/-! ## What the tunnel is for -/

/-- What one end sends are datagrams that came to the other end, whole, in order, none more often
than it came. -/
def Forwards (arrived sent : List (List UInt8)) : Prop :=
  sent.Sublist arrived ∧ ∀ data ∈ sent, 0 < data.length ∧ data.length ≤ vcMaxDataPayloadSize

end Tunnel
end TcpUdp
