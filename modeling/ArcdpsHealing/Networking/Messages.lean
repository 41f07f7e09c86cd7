import ArcdpsHealing.Arcdps.Structs

namespace ArcdpsHealing.Networking

open Arcdps Lib

abbrev AccountName := List UInt8

/-- What a client tells the server. -/
inductive Message
  | registerSelf (selfId : UInt16) (selfAccountName : AccountName)
  | setSelfId (selfId : UInt16)
  | addPeer (peerId : UInt16) (peerAccountName : AccountName)
  | removePeer (peerId : UInt16)
  | combatEvent (event : CbtEvent)
  deriving DecidableEq

namespace Message

open Codec

/-- `Header`: `MessageVersion` and `MessageType`. -/
def header : Codec (UInt32 × UInt32) := u32.prod u32

/-- `RegisterSelf` and `AddPeer`: an instance id and the length of the name
that follows. -/
def named : Codec (UInt16 × UInt8) := u16.prod byte

/-- `CombatEvent`: the event and `SenderInstanceId`. -/
def combat : Codec (CbtEvent × UInt16) := CbtEvent.codec.prod u16

def type : Message → UInt32
  | registerSelf _ _ => 1
  | setSelfId _ => 2
  | addPeer _ _ => 3
  | removePeer _ => 4
  | combatEvent _ => 5

/-- The blob that `evtc_rpc_client::SendEvent` writes. -/
def encode (m : Message) : List UInt8 :=
  header.encode (1, m.type) ++
    match m with
    | registerSelf selfId name => named.encode (selfId, UInt8.ofNat name.length) ++ name
    | setSelfId selfId => u16.encode selfId
    | addPeer peerId name => named.encode (peerId, UInt8.ofNat name.length) ++ name
    | removePeer peerId => u16.encode peerId
    | combatEvent event => combat.encode (event, 0)

def parseNamed (short mismatched : String) (data : List UInt8) :
    Except String (UInt16 × AccountName) :=
  if data.length < named.size then .error short
  else
    let (id, length) := named.decode (data.take named.size)
    let data := data.drop named.size
    if data.length ≠ length.toNat then .error mismatched
    else .ok (id, data)

def parseFixed {α : Type} (c : Codec α) (mismatch : String) (data : List UInt8) :
    Except String α :=
  if data.length ≠ c.size then .error mismatch else .ok (c.decode data)

/-- `HandleIncomingMessage` up to the call of a handler. An error closes the
connection, a type that it does not know is logged and no more. -/
def parse (data : List UInt8) : Except String (Option Message) := do
  if data.length < header.size then throw "short message header"
  let (messageVersion, messageType) := header.decode (data.take header.size)
  let data := data.drop header.size
  if messageVersion ≠ 1 then throw "incorrect version"
  if messageType = 1 then
    let (selfId, name) ←
      parseNamed "short RegisterSelf content" "mismatched RegisterSelf length" data
    return some (registerSelf selfId name)
  else if messageType = 2 then
    return some (setSelfId (← parseFixed u16 "short SetSelfId content" data))
  else if messageType = 3 then
    let (peerId, name) ← parseNamed "short AddPeer content" "mismatched AddPeer length" data
    return some (addPeer peerId name)
  else if messageType = 4 then
    return some (removePeer (← parseFixed u16 "RemovePeer size mismatch" data))
  else if messageType = 5 then
    return some (combatEvent (← parseFixed combat "CombatEvent size mismatch" data).1)
  else return none

def Short : Message → Prop
  | registerSelf _ name => name.length < 256
  | setSelfId _ => True
  | addPeer _ name => name.length < 256
  | removePeer _ => True
  | combatEvent _ => True

def IsRegisterSelf : Message → Prop
  | registerSelf _ _ => True
  | setSelfId _ => False
  | addPeer _ _ => False
  | removePeer _ => False
  | combatEvent _ => False

theorem parseNamed_encode (short mismatched : String) (id : UInt16) (name : AccountName)
    (h : name.length < 256) :
    parseNamed short mismatched (named.encode (id, UInt8.ofNat name.length) ++ name) =
      .ok (id, name) := by
  have fits : (UInt8.ofNat name.length).toNat = name.length := by
    rw [UInt8.toNat_ofNat']
    omega
  simp [parseNamed, fits]

theorem parseFixed_encode {α : Type} (c : Codec α) (mismatch : String) (a : α) :
    parseFixed c mismatch (c.encode a) = .ok a := by
  simp [parseFixed]

theorem parse_encode (m : Message) (short : m.Short) : parse m.encode = .ok (some m) := by
  unfold parse encode
  simp only [List.length_append, length_encode, decode_take_append, drop_append]
  cases m with
  | registerSelf selfId name => simp [type, parseNamed_encode _ _ _ _ short]
  | setSelfId selfId => simp [type, parseFixed_encode]
  | addPeer peerId name => simp [type, parseNamed_encode _ _ _ _ short]
  | removePeer peerId => simp [type, parseFixed_encode]
  | combatEvent event => simp [type, parseFixed_encode]

end Message

end ArcdpsHealing.Networking
