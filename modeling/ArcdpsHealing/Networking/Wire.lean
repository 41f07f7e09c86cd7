import ArcdpsHealing.Lib.Cursor
import ArcdpsHealing.Networking.Serve
import ArcdpsHealing.Networking.ServerFrontend

namespace ArcdpsHealing.Networking

open Arcdps Lib

/-- The blob that `evtc_rpc_client::SendEvent` writes for some call data. -/
def CallData.blob (registeredInstanceId : UInt16) (data : CallData) : List UInt8 :=
  (data.message registeredInstanceId).1.encode

/-- The blob that `ServerFrontendGrpc::SendEvent` writes. -/
def CombatEvent.blob (e : CombatEvent) : List UInt8 :=
  Message.header.encode (1, 5) ++ Message.combat.encode (e.event, e.senderInstanceId)

namespace Message

open Codec

/-- `RegisterSelf` and `AddPeer` of `HandleIncomingMessage`. The handler reads
the name where it lies. -/
def receiveNamed (handler : UInt16 → AccountName → Message) (short mismatched : String)
    (memory : Nat → UInt8) (c : Cursor) : Except String (Option Message) × Cursor :=
  if c.left < named.size then (.error short, c)
  else
    let ((id, length), c) := c.read memory named
    if c.left ≠ length.toNat then (.error mismatched, c)
    else (.ok (some (handler id (c.peek memory length.toNat))), c.skip length.toNat)

def receiveFixed {α : Type} (codec : Codec α) (handler : α → Message) (mismatch : String)
    (memory : Nat → UInt8) (c : Cursor) : Except String (Option Message) × Cursor :=
  if c.left ≠ codec.size then (.error mismatch, c)
  else
    let (message, c) := c.read memory codec
    (.ok (some (handler message)), c)

/-- `HandleIncomingMessage` up to the call of a handler, with the pointer that
it moves over `pData`. The memory goes on after the message. -/
def receive (memory : Nat → UInt8) (pLen : Nat) : Except String (Option Message) × Cursor :=
  let c : Cursor := { data := 0, left := pLen, touched := [] }
  if c.left < header.size then (.error "short message header", c)
  else
    let ((messageVersion, messageType), c) := c.read memory header
    if messageVersion ≠ 1 then (.error "incorrect version", c)
    else if messageType = 1 then
      receiveNamed registerSelf "short RegisterSelf content" "mismatched RegisterSelf length"
        memory c
    else if messageType = 2 then
      receiveFixed u16 setSelfId "short SetSelfId content" memory c
    else if messageType = 3 then
      receiveNamed addPeer "short AddPeer content" "mismatched AddPeer length" memory c
    else if messageType = 4 then
      receiveFixed u16 removePeer "RemovePeer size mismatch" memory c
    else if messageType = 5 then
      receiveFixed combat (fun message => combatEvent message.1) "CombatEvent size mismatch"
        memory c
    else (.ok none, c)

/-- The encoding of a message, but for the two bytes of `SenderInstanceId`. -/
def EncodedBy (data : List UInt8) : Message → Prop
  | combatEvent event => ∃ senderInstanceId,
      data = header.encode (1, 5) ++ combat.encode (event, senderInstanceId)
  | registerSelf selfId name => data = encode (registerSelf selfId name)
  | setSelfId selfId => data = encode (setSelfId selfId)
  | addPeer peerId name => data = encode (addPeer peerId name)
  | removePeer peerId => data = encode (removePeer peerId)

def Unknown (data : List UInt8) : Prop :=
  ∃ messageType body, data = header.encode (1, messageType) ++ body ∧
    messageType ∉ [1, 2, 3, 4, 5]

theorem size_header : header.size = 8 := rfl
theorem size_named : named.size = 3 := rfl
theorem size_combat : combat.size = 66 := rfl

theorem length_encode_le {m : Message} (short : m.Short) : m.encode.length ≤ 1024 := by
  cases m with
  | registerSelf selfId name =>
    have : name.length < 256 := short
    simp only [encode, List.length_append, length_encode, size_header, size_named]
    omega
  | addPeer peerId name =>
    have : name.length < 256 := short
    simp only [encode, List.length_append, length_encode, size_header, size_named]
    omega
  | setSelfId _ => simp [encode, size_header]
  | removePeer _ => simp [encode, size_header]
  | combatEvent _ => simp [encode, size_header, size_combat]

section

variable {memory : Nat → UInt8} {c : Cursor} {stop : Nat}
  (handler : UInt16 → AccountName → Message) (short mismatched mismatch : String)

theorem within_ite {α : Type} {P : Prop} [Decidable P] {yes no : α × Cursor}
    (hyes : P → yes.2.Within stop) (hno : ¬ P → no.2.Within stop) :
    (if P then yes else no).2.Within stop := by
  by_cases h : P
  · rw [if_pos h]
    exact hyes h
  · rw [if_neg h]
    exact hno h

theorem within_receiveNamed (h : c.Within stop) :
    (receiveNamed handler short mismatched memory c).2.Within stop := by
  apply within_ite (fun _ => h)
  intro enough
  have read : (c.skip named.size).Within stop := h.skip (Nat.le_of_not_lt enough)
  apply within_ite (fun _ => read)
  intro whole
  exact read.skip (le_of_eq (not_not.mp whole).symm)

theorem within_receiveFixed {α : Type} (codec : Codec α) (handler : α → Message)
    (h : c.Within stop) : (receiveFixed codec handler mismatch memory c).2.Within stop := by
  apply within_ite (fun _ => h)
  intro whole
  exact h.skip (le_of_eq (not_not.mp whole).symm)

theorem receiveNamed_eq : (receiveNamed handler short mismatched memory c).1 =
    (fun x => some (handler x.1 x.2)) <$>
      parseNamed short mismatched (c.rest memory) := by
  unfold receiveNamed parseNamed
  rw [Cursor.length_rest]
  by_cases enough : c.left < named.size
  · rw [if_pos enough, if_pos enough]
    rfl
  · rw [if_neg enough, if_neg enough, Cursor.take_rest memory (Nat.le_of_not_lt enough),
      Cursor.drop_rest memory (Nat.le_of_not_lt enough)]
    rcases decoded : named.decode (c.peek memory named.size) with ⟨id, length⟩
    have read : c.read memory named = ((id, length), c.skip named.size) := by
      rw [Cursor.read, decoded]
    simp only [read, Cursor.length_rest]
    by_cases whole : (c.skip named.size).left = length.toNat
    · rw [if_neg (not_not.mpr whole), if_neg (not_not.mpr whole), ← whole]
      rfl
    · rw [if_pos whole, if_pos whole]
      rfl

theorem receiveFixed_eq {α : Type} (codec : Codec α) (handler : α → Message) :
    (receiveFixed codec handler mismatch memory c).1 =
      (fun x => some (handler x)) <$> parseFixed codec mismatch (c.rest memory) := by
  unfold receiveFixed parseFixed
  rw [Cursor.length_rest]
  by_cases whole : c.left = codec.size
  · rw [if_neg (not_not.mpr whole), if_neg (not_not.mpr whole), Cursor.rest, whole]
    rfl
  · rw [if_pos whole, if_pos whole]
    rfl

end

theorem within_receive (memory : Nat → UInt8) (pLen : Nat) :
    (receive memory pLen).2.Within pLen := by
  have start := Cursor.Within.start pLen
  apply within_ite (fun _ => start)
  intro enough
  have read := start.skip (Nat.le_of_not_lt enough)
  apply within_ite (fun _ => read)
  intro _
  apply within_ite (fun _ => within_receiveNamed _ _ _ read)
  intro _
  apply within_ite (fun _ => within_receiveFixed _ _ _ read)
  intro _
  apply within_ite (fun _ => within_receiveNamed _ _ _ read)
  intro _
  apply within_ite (fun _ => within_receiveFixed _ _ _ read)
  intro _
  exact within_ite (fun _ => within_receiveFixed _ _ _ read) (fun _ => read)

def content (messageType : UInt32) (data : List UInt8) : Except String (Option Message) :=
  if messageType = 1 then (fun x => some (registerSelf x.1 x.2)) <$>
    parseNamed "short RegisterSelf content" "mismatched RegisterSelf length" data
  else if messageType = 2 then (fun x => some (setSelfId x)) <$>
    parseFixed u16 "short SetSelfId content" data
  else if messageType = 3 then (fun x => some (addPeer x.1 x.2)) <$>
    parseNamed "short AddPeer content" "mismatched AddPeer length" data
  else if messageType = 4 then (fun x => some (removePeer x)) <$>
    parseFixed u16 "RemovePeer size mismatch" data
  else if messageType = 5 then (fun x => some (combatEvent x.1)) <$>
    parseFixed combat "CombatEvent size mismatch" data
  else .ok none

theorem parse_eq (data : List UInt8) : parse data =
    if data.length < header.size then .error "short message header"
    else if (header.decode (data.take header.size)).1 ≠ 1 then .error "incorrect version"
    else content (header.decode (data.take header.size)).2 (data.drop header.size) := by
  unfold parse content
  rcases header.decode (data.take header.size) with ⟨messageVersion, messageType⟩
  by_cases enough : data.length < header.size
  · rw [if_pos enough, if_pos enough]
    rfl
  rw [if_neg enough, if_neg enough]
  dsimp only
  by_cases version : messageVersion ≠ 1
  · rw [if_pos version, if_pos version]
    rfl
  · rw [if_neg version, if_neg version]
    simp only [map_eq_pure_bind]
    rfl

theorem receive_eq (memory : Nat → UInt8) (pLen : Nat) :
    (receive memory pLen).1 = parse (bytes memory 0 pLen) := by
  have rest : bytes memory 0 pLen = (Cursor.mk 0 pLen []).rest memory := rfl
  rw [parse_eq, rest, Cursor.length_rest]
  unfold receive content
  by_cases enough : pLen < header.size
  · rw [if_pos enough, if_pos enough]
  · rw [if_neg enough, if_neg enough, Cursor.take_rest memory (Nat.le_of_not_lt enough),
      Cursor.drop_rest memory (Nat.le_of_not_lt enough)]
    rcases decoded : header.decode (Cursor.peek memory ⟨0, pLen, []⟩ header.size) with
      ⟨messageVersion, messageType⟩
    have read : Cursor.read memory ⟨0, pLen, []⟩ header =
        ((messageVersion, messageType), Cursor.skip ⟨0, pLen, []⟩ header.size) := by
      rw [Cursor.read, decoded]
    simp only [read, apply_ite Prod.fst, receiveNamed_eq, receiveFixed_eq]

theorem parseNamed_ok {short mismatched : String} {data : List UInt8} {id : UInt16}
    {name : AccountName} (h : parseNamed short mismatched data = .ok (id, name)) :
    data = named.encode (id, UInt8.ofNat name.length) ++ name := by
  unfold parseNamed at h
  split at h
  case isTrue => cases h
  case isFalse enough =>
    simp only at h
    split at h
    case isTrue => cases h
    case isFalse whole =>
      cases h
      have split : (data.take named.size).length = named.size := by
        rw [List.length_take]
        omega
      rw [not_not.mp whole, UInt8.ofNat_toNat, named.encode_decode _ split, List.take_append_drop]

theorem parseFixed_ok {α : Type} {codec : Codec α} {mismatch : String} {data : List UInt8} {a : α}
    (h : parseFixed codec mismatch data = .ok a) : data = codec.encode a := by
  unfold parseFixed at h
  split at h
  case isTrue => cases h
  case isFalse whole =>
    cases h
    rw [codec.encode_decode data (not_not.mp whole)]

theorem header_of_parse {data : List UInt8} {r : Option Message} (h : parse data = .ok r) :
    ∃ messageType body, data = header.encode (1, messageType) ++ body ∧
      content messageType body = .ok r := by
  rw [parse_eq] at h
  split at h
  case isTrue => cases h
  case isFalse enough =>
    have size : (data.take header.size).length = header.size := by
      rw [List.length_take]
      omega
    rcases decoded : header.decode (data.take header.size) with ⟨messageVersion, messageType⟩
    rw [decoded] at h
    split at h
    case isTrue => cases h
    case isFalse version =>
      refine ⟨messageType, data.drop header.size, ?_, h⟩
      rw [← not_not.mp version, ← decoded, header.encode_decode _ size, List.take_append_drop]

theorem map_ok {α β : Type} {f : α → β} {x : Except String α} {b : β}
    (h : f <$> x = .ok b) : ∃ a, x = .ok a ∧ f a = b := by
  cases x with
  | error e => cases h
  | ok a => exact ⟨a, rfl, Except.ok.inj h⟩

theorem encodedBy_of_parse {data : List UInt8} {m : Message} (h : parse data = .ok (some m)) :
    EncodedBy data m := by
  obtain ⟨messageType, body, rfl, content⟩ := header_of_parse h
  clear h
  unfold Message.content at content
  split at content
  case isTrue one =>
    obtain ⟨⟨id, name⟩, parsed, ⟨⟩⟩ := map_ok content
    rw [one, parseNamed_ok parsed]
    rfl
  split at content
  case isTrue two =>
    obtain ⟨id, parsed, ⟨⟩⟩ := map_ok content
    rw [two, parseFixed_ok parsed]
    rfl
  split at content
  case isTrue three =>
    obtain ⟨⟨id, name⟩, parsed, ⟨⟩⟩ := map_ok content
    rw [three, parseNamed_ok parsed]
    rfl
  split at content
  case isTrue four =>
    obtain ⟨id, parsed, ⟨⟩⟩ := map_ok content
    rw [four, parseFixed_ok parsed]
    rfl
  split at content
  case isTrue five =>
    obtain ⟨⟨event, senderInstanceId⟩, parsed, ⟨⟩⟩ := map_ok content
    rw [five, parseFixed_ok parsed]
    exact ⟨senderInstanceId, rfl⟩
  case isFalse => cases content

theorem unknown_of_parse {data : List UInt8} (h : parse data = .ok none) : Unknown data := by
  obtain ⟨messageType, body, whole, h⟩ := header_of_parse h
  refine ⟨messageType, body, whole, ?_⟩
  intro known
  simp only [List.mem_cons, List.not_mem_nil, or_false] at known
  rcases known with rfl | rfl | rfl | rfl | rfl <;>
    · obtain ⟨_, _, absurd⟩ := map_ok h
      cases absurd

end Message

theorem Client.parse_blob (e : CombatEvent) :
    Client.parse e.blob = .ok (some (e.event, e.senderInstanceId)) := by
  unfold Client.parse CombatEvent.blob
  simp [Message.parseFixed_encode]

/-- Every blob of either encoder is read back by the other side, and whatever
else arrives is the blob of a message, of an unknown type, or an error. -/
theorem wire_format :
    (∀ (data : CallData) (registeredInstanceId : UInt16) (memory : Nat → UInt8),
      data.fits = true →
      bytes memory 0 (data.blob registeredInstanceId).length = data.blob registeredInstanceId →
        (Message.receive memory (data.blob registeredInstanceId).length).1 =
          .ok (some (data.message registeredInstanceId).1)) ∧
    (∀ e : CombatEvent, Client.parse e.blob = .ok (some (e.event, e.senderInstanceId))) ∧
    ∀ (memory : Nat → UInt8) (pLen : Nat),
      (Message.receive memory pLen).2.Within pLen ∧
      ∀ (s : Server) (now now' : Int64) (client : ConnectionId),
        let data := bytes memory 0 pLen
        match (Message.receive memory pLen).1 with
        | .ok (some m) => Message.EncodedBy data m ∧
            s.handleIncomingMessage now now' data client = s.handleMessage now now' m client
        | .ok none => Message.Unknown data ∧ s.handleIncomingMessage now now' data client = s
        | .error _ => s.handleIncomingMessage now now' data client = s.forceDisconnect client := by
  refine ⟨?_, Client.parse_blob, ?_⟩
  · intro data registeredInstanceId memory fits written
    rw [Message.receive_eq, written]
    exact Message.parse_encode _ (data.short_message fits registeredInstanceId)
  · intro memory pLen
    refine ⟨Message.within_receive memory pLen, ?_⟩
    intro s now now' client
    rw [Message.receive_eq]
    dsimp only
    unfold Server.handleIncomingMessage
    split
    case h_1 m parsed => exact ⟨Message.encodedBy_of_parse parsed, by rw [parsed]⟩
    case h_2 parsed => exact ⟨Message.unknown_of_parse parsed, by rw [parsed]⟩
    case h_3 error parsed => rw [parsed]

theorem wire_format_addPeer :
    let blob := (CallData.addPeer 7 [58, 65]).blob 3
    (Message.receive (fun address => blob.getD address 255) blob.length).1 =
      .ok (some (.addPeer 7 [58, 65])) :=
  wire_format.1 (.addPeer 7 [58, 65]) 3 _ (by decide) (by decide)

end ArcdpsHealing.Networking
