import TcpUdp.PacketStream

/-!
# The read thread of one connection

`TcpVCReadThread::run`: the thread appends what it receives to `bufferVector` and takes packets
off its front while `hasEnoughData` says that the first one is complete. For a notification that
is the size of the whole `VCMissingNotify`, with room for 64 ids, not the size of the packet.

`hasEnoughData` and `processBuffer` throw; an exception ends the thread. `receive` blocks, so a
run is a list of chunks, an empty one standing for a closed connection.
-/

namespace TcpUdp

def sizeofVCMissingNotify : ℕ := sizeofVCHeader + 1 + vcMaxMissingIdsPerNotify * 8

def vcMinResendRequestSize : ℕ := sizeofVCResendRequest
def vcMinMissingNotifySize : ℕ := sizeofVCMissingNotify

structure ReadThread where
  bufferVector : List UInt8 := []
  callbacks : List IoCallback := []
  running : Bool := true
  /-- The text of the `std::logic_error` that ended the thread. -/
  exception : Option String := none

namespace ReadThread

/-! ## Whether the first packet is there -/

def hasEnoughDataForData (buffer : List UInt8) : Except String Bool :=
  if buffer.length < vcMinDataPacketSize then .ok false
  else if dataLength buffer > vcMaxDataPayloadSize then
    .error "Data length exceeds maximum payload size"
  else .ok (buffer.length ≥ vcMinDataPacketSize + dataLength buffer)

def hasEnoughDataForResendRequest (buffer : List UInt8) : Bool :=
  buffer.length ≥ vcMinResendRequestSize

def hasEnoughDataForMissingNotify (buffer : List UInt8) : Bool :=
  -- the size of the structure, with room for 64 ids, also where the packet has fewer
  if buffer.length < vcMinMissingNotifySize then false
  else buffer.length ≥ sizeofVCHeader + 1 + notifyCount buffer * 8

def hasEnoughData (buffer : List UInt8) : Except String Bool :=
  if buffer.length < vcMinDataPacketSize then .ok false
  else if headerType buffer = VcPacketType.data.toByte then hasEnoughDataForData buffer
  else if headerType buffer = VcPacketType.resendRequest.toByte then
    .ok (hasEnoughDataForResendRequest buffer)
  else if headerType buffer = VcPacketType.missingNotify.toByte then
    .ok (hasEnoughDataForMissingNotify buffer)
  else .error "Unknown packet type"

/-! ## Taking the first packet -/

def processDataBuffer (buffer : List UInt8) : Except String (IoCallback × ℕ) :=
  if dataLength buffer > vcMaxDataPayloadSize then
    .error "Data length exceeds maximum allowed size"
  else
    .ok (.dataCallback (headerMessageId buffer) ((packetData buffer).take (dataLength buffer)),
      sizeofVCDataPacket + dataLength buffer)

def processResendRequestBuffer (buffer : List UInt8) : IoCallback × ℕ :=
  (.resendRequestCallback (missingMessageId buffer), sizeofVCResendRequest)

def processMissingNotifyBuffer (buffer : List UInt8) : IoCallback × ℕ :=
  (.missingNotifyCallback (notifyMissingIds buffer (notifyCount buffer)),
    sizeofVCHeader + 1 + notifyCount buffer * 8)

/-- The callback made and the number of bytes processed. -/
def processBuffer (buffer : List UInt8) : Except String (IoCallback × ℕ) :=
  if headerType buffer = VcPacketType.data.toByte then processDataBuffer buffer
  else if headerType buffer = VcPacketType.resendRequest.toByte then
    .ok (processResendRequestBuffer buffer)
  else if headerType buffer = VcPacketType.missingNotify.toByte then
    .ok (processMissingNotifyBuffer buffer)
  else .error "Unknown packet type"

/-- `while (hasEnoughData(...))`, at most `fuel` passes: the callbacks made, the buffer, and the
exception if one was thrown. -/
def processPackets : ℕ → List UInt8 → List IoCallback × List UInt8 × Option String
  | 0, buffer => ([], buffer, none)
  | fuel + 1, buffer =>
    match hasEnoughData buffer with
    | .error what => ([], buffer, some what)
    | .ok false => ([], buffer, none)
    | .ok true =>
      match processBuffer buffer with
      | .error what => ([], buffer, some what)
      | .ok (cb, processedBytes) =>
        if processedBytes > 0 then
          -- the rest is moved to the front
          let buffer' := if processedBytes = buffer.length then [] else buffer.drop processedBytes
          let (cbs, rest) := processPackets fuel buffer'
          (cb :: cbs, rest)
        else ([cb], buffer, none)

/-- One iteration of the loop in `run`. Every pass takes at least a byte, so the length of the
buffer bounds the passes. -/
def receive (s : ReadThread) (chunk : List UInt8) : ReadThread :=
  if !s.running then s
  -- the connection is closed
  else if chunk.isEmpty then { s with running := false }
  else
    let buffer := s.bufferVector ++ chunk
    let (cbs, buffer', exception) := processPackets buffer.length buffer
    { bufferVector := buffer', callbacks := s.callbacks ++ cbs, running := exception.isNone,
      exception := exception }

def run (chunks : List (List UInt8)) : ReadThread := chunks.foldl receive {}

end ReadThread
end TcpUdp
