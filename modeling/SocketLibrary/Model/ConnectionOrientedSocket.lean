import SocketLibrary.Model.Socket

/-!
# Byte streams: `socket/ConnectionOrientedSocket.cpp`

The methods of the class only read the descriptor of the object, so they are stated for the descriptor `socket` that
`getSocket()` returns, over objects of any class. The loops of `receiveToDelimiter` and `receiveAll` need not end, and
take the number of turns they may make as `fuel`.
-/

namespace SocketLibrary.Model.ConnectionOrientedSocket

open SocketLibrary.Interaction SocketLibrary.Posix

variable {S : Type} (dm : DataModel) (socket : SOCKET)

/-- The default timeout of `ready` and `connected`, in microseconds. -/
def defaultTimeout : ULong dm := 100

def ready (timeout : ULong dm) : M S Bool := do
  let result ← Socket.pollSocket socket timeout.toInt none
  -- 0 indicates that there is no data
  return 0 < result

def connected (timeout : ULong dm) : M S Bool := do
  let result ← Socket.pollSocket socket timeout.toInt none
  -- -1 indicates that the connection is not available
  return result ≠ -1

/-- `send(const char*, const int&, const int&)`. -/
def sendBuffer (message : Bytes) (messageLength flags : ℤ) : M S ℤ :=
  sys (.send socket message messageLength flags)

/-- `send(const std::string&, const int&)`: the size of the message is passed on as an `int`. -/
def send (message : Bytes) (flags : ℤ) : M S ℤ :=
  sendBuffer socket message (toInt32 message.length) flags

/-- One turn of the loop of `receiveAmount(char*, …)`, on `counter` and the buffer. -/
def receiveAmountTurn (amountToReceive : UInt32) (flags : ℤ) : ℤ × Bytes → M S ((ℤ × Bytes) ⊕ (ℤ × Bytes))
  | (counter, buffer) => do
    -- the subtraction is unsigned, its result is converted to `int`
    let received ← sys (.recv socket counter (toInt32 (amountToReceive.toNat - counter)) flags)
    let amountReceived := toInt32 received.result
    let buffer := writeAt buffer counter.toNat received.data
    if amountReceived < 1 then
      return .inr (counter, buffer)
    else if 2 ^ 31 ≤ counter + amountReceived then
      Method.throw .signedOverflow
    else
      let counter := counter + amountReceived
      if toUInt32 counter < amountToReceive then
        if ← ready dm socket (defaultTimeout dm) then
          return .inl (counter, buffer)
        else
          return .inr (counter, buffer)
      else
        return .inr (counter, buffer)

/-- `receiveAmount(char*, const unsigned int, const int&)`, which also gives the buffer back. Every turn that goes on
has increased `counter`, so the loop makes at most `amountToReceive` turns. -/
def receiveAmountInto (buffer : Bytes) (amountToReceive : UInt32) (flags : ℤ) : M S (ℤ × Bytes) :=
  if amountToReceive = 0 then
    return (0, buffer)
  else
    Method.iterate (receiveAmountTurn dm socket amountToReceive flags) amountToReceive.toNat (0, buffer)

/-- `receiveAmount(const unsigned int, const int&)`. -/
def receiveAmount (amountToReceive : UInt32) (flags : ℤ) : M S Bytes := do
  let data : Bytes := List.replicate amountToReceive.toNat 0
  let (amountReceived, data) ← receiveAmountInto dm socket data amountToReceive flags
  return data.take amountReceived.toNat

def get (flags : ℤ) : M S (Option UInt8) := do
  let received ← receiveAmount dm socket 1 flags
  return received.head?

/-- One turn of the loop of `receiveToDelimiter`, on the data read so far. -/
def receiveToDelimiterTurn (delimiter : UInt8) (flags : ℤ) (data : Bytes) : M S (Bytes ⊕ Bytes) := do
  let character ← get dm socket flags
  match character with
  | none => return .inr data
  | some c =>
    if c = delimiter then
      return .inr data
    else
      let data := data ++ [c]
      if ← ready dm socket (defaultTimeout dm) then
        return .inl data
      else
        return .inr data

def receiveToDelimiter (fuel : ℕ) (delimiter : UInt8) (flags : ℤ) : M S Bytes := do
  if delimiter = 0 then
    Method.throw (.socketException (text "The null terminator '\\0' is an invalid delimiter."))
  else
    if ← ready dm socket (defaultTimeout dm) then
      Method.iterate (receiveToDelimiterTurn dm socket delimiter flags) fuel []
    else
      return []

/-- One turn of the loop of `receiveAll`, on `result` and `hitEOF`. -/
def receiveAllTurn (timeout : ULong dm) (flags : ℤ) : Bytes × Bool → M S ((Bytes × Bool) ⊕ Bytes)
  | (result, hitEOF) => do
    let isReady ← ready dm socket timeout
    if isReady && !hitEOF then
      let amount ← Socket.pollSocket socket timeout.toInt none
      let res ← receiveAmount dm socket (toUInt32 amount) flags
      if res.head? = some 0 then
        return .inl (result, true)
      else
        return .inl (result ++ res, hitEOF)
    else
      return .inr result

def receiveAll (fuel : ℕ) (timeout : ULong dm) (flags : ℤ) : M S Bytes :=
  Method.iterate (receiveAllTurn dm socket timeout flags) fuel ([], false)

end SocketLibrary.Model.ConnectionOrientedSocket
