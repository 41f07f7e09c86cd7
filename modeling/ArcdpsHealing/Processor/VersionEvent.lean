import ArcdpsHealing.Lib.Memory
import ArcdpsHealing.Stats.LiveSkills

namespace ArcdpsHealing.Processor

open Arcdps Lib Settings Stats

structure EvtcVersionHeader where
  signature : UInt32
  evtcRevision : BitVec 24
  versionStringLength : UInt8
  deriving DecidableEq

namespace EvtcVersionHeader

def bits24 : BitVec 24 × UInt8 ≃ UInt32 where
  toFun p := UInt32.ofNat (p.1.toNat + 16777216 * p.2.toNat)
  invFun w := (BitVec.ofNat 24 w.toNat, UInt8.ofNat (w.toNat / 16777216))
  left_inv := by
    rintro ⟨a, b⟩
    have := a.isLt
    have := b.toNat_lt
    apply Prod.ext
    · apply BitVec.eq_of_toNat_eq
      simp only [UInt32.toNat_ofNat', BitVec.toNat_ofNat]
      omega
    · apply UInt8.toNat_inj.mp
      simp only [UInt32.toNat_ofNat', UInt8.toNat_ofNat']
      omega
  right_inv := by
    intro w
    have := w.toNat_lt
    apply UInt32.toNat_inj.mp
    simp only [UInt32.toNat_ofNat', UInt8.toNat_ofNat', BitVec.toNat_ofNat]
    omega

def ofFields : UInt32 × BitVec 24 × UInt8 ≃ EvtcVersionHeader where
  toFun := fun (s, r, l) => ⟨s, r, l⟩
  invFun h := (h.signature, h.evtcRevision, h.versionStringLength)
  left_inv _ := rfl
  right_inv _ := rfl

def codec : Codec EvtcVersionHeader :=
  (Codec.u32.prod (Codec.u32.iso bits24.symm)).iso ofFields

@[simp] theorem size_codec : codec.size = 8 := rfl

end EvtcVersionHeader

def srcAgentOffset : Nat := 8
def dstAgentOffset : Nat := 16
def isStatechangeOffset : Nat := 56
def pad61Offset : Nat := 60

def healingStatsAddonSignature : UInt32 := 0x9c9b3c99
def healingStatsEvtcRevision : BitVec 24 := 2
def versionEventSignature : UInt32 := 0

/-- What comes of an event that starts a log or belongs to an extension. -/
inductive VersionOutcome
  | sent (logEvent : Option CbtEvent)
  | logged (version : Option (EvtcVersionHeader × CString))
  | other
  deriving DecidableEq

/-- The event that is given to `ARC_E9`, together with `VERSION_EVENT_SIGNATURE`. -/
def sendVersion (versionString : CString) (evtcLoggingEnabled : Bool) :
    Except Fault (Option CbtEvent) := do
  let logEvent := List.replicate 64 0
  let versionStringLength := versionString.length
  let versionHeader : EvtcVersionHeader :=
    ⟨healingStatsAddonSignature, healingStatsEvtcRevision, UInt8.ofNat versionStringLength⟩
  if 255 < versionStringLength then throw .assertion
  else
    let logEvent ← store logEvent srcAgentOffset (EvtcVersionHeader.codec.encode versionHeader)
    if isStatechangeOffset - dstAgentOffset < versionStringLength then throw .assertion
    else
      let logEvent ← store logEvent dstAgentOffset versionString
      if evtcLoggingEnabled then return some (CbtEvent.codec.decode logEvent) else return none

/-- What is logged of an event of an extension. -/
def logVersion (event : CbtEvent) : Except Fault (Option (EvtcVersionHeader × CString)) := do
  let memory := CbtEvent.codec.encode event
  let pad ← loadRange memory pad61Offset 4
  if Codec.u32.decode pad = versionEventSignature then
    let srcAgent ← loadRange memory srcAgentOffset 8
    let versionHeader := EvtcVersionHeader.codec.decode srcAgent
    let version ← loadRange memory dstAgentOffset versionHeader.versionStringLength.toNat
    return some (versionHeader, version)
  else return none

variable (c : AreaEnums) (versionString : CString) (evtcLoggingEnabled : Bool)

def areaCombatVersion (event : CbtEvent) : Except Fault VersionOutcome := do
  let e := preProcessEvent c.toEnums event false
  if e.isStatechange = c.sqCombatStart then
    return .sent (← sendVersion versionString evtcLoggingEnabled)
  else if e.isStatechange = c.extension then
    return .logged (← logVersion e)
  else return .other

/-- `pad61` to `pad64` as one word. -/
def extensionSignature (event : CbtEvent) : UInt32 :=
  Codec.u32.decode [event.pad61, event.pad62, event.pad63, event.pad64]

def versionHeader (event : CbtEvent) : EvtcVersionHeader :=
  EvtcVersionHeader.codec.decode (Codec.u64.encode event.srcAgent)

/-- What `e9` of arcdps does: the signature of the extension is put in, and what comes
before `is_statechange` is kept, except for the time. -/
structure AddsSignature (e9 : CbtEvent → UInt32 → CbtEvent) : Prop where
  extension : ∀ e signature, (e9 e signature).isStatechange = c.extension
  signature : ∀ e signature, extensionSignature (e9 e signature) = signature
  kept : ∀ e signature i size, srcAgentOffset ≤ i → i + size ≤ isStatechangeOffset →
    loadRange (CbtEvent.codec.encode (e9 e signature)) i size =
      loadRange (CbtEvent.codec.encode e) i size

section Read

variable (e : CbtEvent)

theorem loadRange_srcAgent :
    loadRange (CbtEvent.codec.encode e) srcAgentOffset 8 = .ok (Codec.u64.encode e.srcAgent) := by
  have split : CbtEvent.codec.encode e = Codec.u64.encode e.time ++ Codec.u64.encode e.srcAgent ++
      (CbtEvent.codec.encode e).drop 16 := rfl
  have loaded := loadRange_append (Codec.u64.encode e.time) (Codec.u64.encode e.srcAgent)
    ((CbtEvent.codec.encode e).drop 16)
  rwa [← split, Codec.length_encode, Codec.length_encode] at loaded

theorem loadRange_pad61 :
    loadRange (CbtEvent.codec.encode e) pad61Offset 4 =
      .ok [e.pad61, e.pad62, e.pad63, e.pad64] := rfl

def carried : List UInt8 :=
  Codec.u64.encode e.srcAgent ++ Codec.u64.encode e.dstAgent ++ Codec.i32.encode e.value ++
    Codec.i32.encode e.buffDmg ++ Codec.u32.encode e.overstackValue ++
    Codec.u32.encode e.skillid ++ Codec.u16.encode e.srcInstid ++ Codec.u16.encode e.dstInstid ++
    Codec.u16.encode e.srcMasterInstid ++ Codec.u16.encode e.dstMasterInstid ++ e.iffBytes

theorem encode_eq :
    CbtEvent.codec.encode e = Codec.u64.encode e.time ++ carried e ++
      bytes8.encode (e.isStatechange, e.isFlanking, e.isShields, e.isOffcycle, e.pad61, e.pad62,
        e.pad63, e.pad64) := by
  simp only [carried, List.append_assoc]
  rfl

theorem length_carried : (carried e).length = 48 := by
  simp only [carried, List.length_append, Codec.length_encode, CbtEvent.iffBytes]
  rfl

theorem loadRange_carried {i size : Nat} (low : srcAgentOffset ≤ i)
    (high : i + size ≤ isStatechangeOffset) :
    loadRange (CbtEvent.codec.encode e) i size =
      loadRange (carried e) (i - srcAgentOffset) size := by
  have time : (Codec.u64.encode e.time).length = srcAgentOffset := Codec.u64.length_encode _
  have last : (Codec.u64.encode e.time).length + (carried e).length = isStatechangeOffset := by
    rw [time, length_carried]
    rfl
  rw [encode_eq, loadRange_middle (time ▸ low) (last ▸ high), time]

theorem logVersion_of_eq (version : extensionSignature e = versionEventSignature) :
    logVersion e = (loadRange (CbtEvent.codec.encode e) dstAgentOffset
      (versionHeader e).versionStringLength.toNat).map
        fun version => some (versionHeader e, version) := by
  simp only [logVersion, loadRange_pad61, loadRange_srcAgent, ok_bind]
  exact if_pos version

theorem logVersion_of_ne (other : extensionSignature e ≠ versionEventSignature) :
    logVersion e = .ok none := by
  simp only [logVersion, loadRange_pad61, ok_bind]
  exact if_neg other

theorem logVersion_isOk_iff :
    (∃ version, logVersion e = .ok version) ↔
      extensionSignature e ≠ versionEventSignature ∨
        (versionHeader e).versionStringLength ≤ 48 := by
  by_cases version : extensionSignature e = versionEventSignature
  · have inside : (versionHeader e).versionStringLength ≤ 48 ↔
        dstAgentOffset + (versionHeader e).versionStringLength.toNat ≤
          (CbtEvent.codec.encode e).length := by
      rw [Codec.length_encode, CbtEvent.size_codec, UInt8.le_iff_toNat_le]
      exact (Nat.add_le_add_iff_left (n := 16) (m := _) (k := 48)).symm
    rw [logVersion_of_eq e version, or_iff_right (not_not_intro version), inside,
      ← loadRange_isOk_iff]
    cases loadRange (CbtEvent.codec.encode e) dstAgentOffset
      (versionHeader e).versionStringLength.toNat <;> simp [Except.map]
  · rw [logVersion_of_ne e version]
    exact iff_of_true ⟨none, rfl⟩ (.inl version)

end Read

def sentHeader : EvtcVersionHeader :=
  ⟨healingStatsAddonSignature, healingStatsEvtcRevision, UInt8.ofNat versionString.length⟩

theorem sendVersion_eq_some {logEvent : CbtEvent}
    (sent : sendVersion versionString evtcLoggingEnabled = .ok (some logEvent)) :
    versionString.length ≤ 40 ∧ versionHeader logEvent = sentHeader versionString ∧
      loadRange (CbtEvent.codec.encode logEvent) dstAgentOffset versionString.length =
        .ok versionString := by
  simp only [sendVersion] at sent
  split at sent
  · cases sent
  · obtain ⟨written, header, sent⟩ := bind_ok sent
    split at sent
    · cases sent
    · rename_i fits
      obtain ⟨memory, stored, sent⟩ := bind_ok sent
      have size : memory.length = CbtEvent.codec.size := by
        rw [(store_ok stored).2.1, (store_ok header).2.1]
        rfl
      split at sent
      · cases sent
        have bytes : CbtEvent.codec.encode (CbtEvent.codec.decode memory) = memory :=
          CbtEvent.codec.encode_decode memory size
        refine ⟨Nat.le_of_not_lt fits, ?_, ?_⟩
        · have read := loadRange_srcAgent (CbtEvent.codec.decode memory)
          have kept : loadRange memory srcAgentOffset 8 = _ :=
            (loadRange_store_of_le stored (Nat.le_refl 16)).trans (loadRange_store header)
          rw [bytes] at read
          have srcAgent := Except.ok.inj (read.symm.trans kept)
          rw [versionHeader, srcAgent, Codec.decode_encode]
          rfl
        · rw [bytes]
          exact loadRange_store stored
      · cases sent

theorem logVersion_of_sendVersion {e9 : CbtEvent → UInt32 → CbtEvent} (adds : AddsSignature c e9)
    {logEvent : CbtEvent}
    (sent : sendVersion versionString evtcLoggingEnabled = .ok (some logEvent)) :
    logVersion (e9 logEvent versionEventSignature) =
      .ok (some (sentHeader versionString, versionString)) := by
  -- What is sent as a version is read as that version.
  obtain ⟨short, header, version⟩ := sendVersion_eq_some versionString evtcLoggingEnabled sent
  have srcAgent : (e9 logEvent versionEventSignature).srcAgent = logEvent.srcAgent := by
    have kept := adds.kept logEvent versionEventSignature srcAgentOffset 8 (by decide) (by decide)
    rw [loadRange_srcAgent, loadRange_srcAgent] at kept
    rw [← Codec.u64.decode_encode (e9 logEvent versionEventSignature).srcAgent,
      Except.ok.inj kept, Codec.decode_encode]
  have header' : versionHeader (e9 logEvent versionEventSignature) = sentHeader versionString := by
    rw [← header, versionHeader, srcAgent, versionHeader]
  have size : (sentHeader versionString).versionStringLength.toNat = versionString.length :=
    UInt8.toNat_ofNat_of_lt' (by change versionString.length < 256; omega)
  have inside : dstAgentOffset + versionString.length ≤ isStatechangeOffset :=
    Nat.add_le_add_left short 16
  rw [logVersion_of_eq _ (adds.signature _ _), header', size,
    adds.kept _ _ _ _ (by decide) inside, version]
  rfl

section AreaCombat

variable {c} (versionString : CString) (evtcLoggingEnabled : Bool) {event : CbtEvent}

theorem sendVersion_of_areaCombatVersion {logEvent : Option CbtEvent}
    (sent : areaCombatVersion c versionString evtcLoggingEnabled event =
      .ok (.sent logEvent)) :
    sendVersion versionString evtcLoggingEnabled = .ok logEvent := by
  simp only [areaCombatVersion] at sent
  split at sent
  · obtain ⟨logEvent', result, sent⟩ := bind_ok sent
    cases sent
    exact result
  · split at sent
    · obtain ⟨version, -, logged⟩ := bind_ok sent
      cases logged
    · cases sent

theorem areaCombatVersion_of_extension (distinct : c.sqCombatStart ≠ c.extension)
    (change : c.extension ≠ 0) (extension : event.isStatechange = c.extension) :
    areaCombatVersion c versionString evtcLoggingEnabled event =
      (logVersion event).map .logged := by
  have other : getEventType c.toEnums event false = .other :=
    if_pos (.inl (extension ▸ change))
  have same : preProcessEvent c.toEnums event false = event :=
    if_neg fun patched => EventType.noConfusion (other.symm.trans patched.1)
  simp only [areaCombatVersion, same, extension, if_neg distinct.symm]
  rfl

end AreaCombat

/-- The version is read from within the event just where the length says that it is
there; the versions that are sent are. -/
theorem versionEvent_iff (c : AreaEnums) (distinct : c.sqCombatStart ≠ c.extension)
    (change : c.extension ≠ 0) (versionString : CString) (evtcLoggingEnabled : Bool) :
    (∀ event : CbtEvent, event.isStatechange = c.extension →
      ((∃ version, areaCombatVersion c versionString evtcLoggingEnabled event =
          .ok (.logged version)) ↔
        extensionSignature event ≠ versionEventSignature ∨
          (versionHeader event).versionStringLength ≤ 48)) ∧
      ∀ e9, AddsSignature c e9 → ∀ event logEvent,
        areaCombatVersion c versionString evtcLoggingEnabled event = .ok (.sent (some logEvent)) →
        areaCombatVersion c versionString evtcLoggingEnabled
            (e9 logEvent versionEventSignature) =
          .ok (.logged (some (sentHeader versionString, versionString))) := by
  constructor
  · intro event extension
    rw [areaCombatVersion_of_extension versionString evtcLoggingEnabled distinct change extension,
      ← logVersion_isOk_iff]
    cases logVersion event <;> simp [Except.map]
  · intro e9 adds event logEvent sent
    rw [areaCombatVersion_of_extension versionString evtcLoggingEnabled distinct change
      (adds.extension _ _)]
    rw [logVersion_of_sendVersion c versionString evtcLoggingEnabled adds
      (sendVersion_of_areaCombatVersion versionString evtcLoggingEnabled sent)]
    rfl

section Stub

variable (time : UInt64)

/-- `e9` as the tests have it, at a time. -/
def expectVersionEvent (e : CbtEvent) (signature : UInt32) : CbtEvent :=
  match Codec.u32.encode signature with
  | [b0, b1, b2, b3] =>
    { e with time := time, isStatechange := AreaEnums.documented.extension,
             pad61 := b0, pad62 := b1, pad63 := b2, pad64 := b3 }
  | _ => e

theorem addsSignature_expectVersionEvent :
    AddsSignature .documented (expectVersionEvent time) where
  extension _ _ := rfl
  signature e signature := Codec.u32.decode_encode signature
  kept e signature i size low high := by
    rw [loadRange_carried _ low high, loadRange_carried _ low high]
    rfl

end Stub

def logStart : CbtEvent := CbtEvent.codec.decode (List.replicate 56 0 ++ [9] ++ List.replicate 7 0)

theorem versionEvent_iff_sent :
    ∃ logEvent, areaCombatVersion .documented (utf8 "2.11rc1") true logStart =
        .ok (.sent (some logEvent)) ∧
      areaCombatVersion .documented (utf8 "2.11rc1") true
          (expectVersionEvent 5 logEvent versionEventSignature) =
        .ok (.logged (some (sentHeader (utf8 "2.11rc1"), utf8 "2.11rc1"))) := by
  have sent : ∃ logEvent, areaCombatVersion .documented (utf8 "2.11rc1") true logStart =
      .ok (.sent (some logEvent)) := ⟨_, rfl⟩
  obtain ⟨logEvent, sent⟩ := sent
  exact ⟨logEvent, sent, (versionEvent_iff .documented (by decide) (by decide) (utf8 "2.11rc1")
    true).2 _ (addsSignature_expectVersionEvent 5) logStart logEvent sent⟩

/-- Any event of an extension can have the greatest length in its header. -/
theorem versionEvent_beyond :
    let event := CbtEvent.codec.decode
      (List.replicate 15 0 ++ [255] ++ List.replicate 40 0 ++ [40] ++ List.replicate 7 0)
    event.isStatechange = AreaEnums.documented.extension ∧
      extensionSignature event = versionEventSignature ∧
      areaCombatVersion .documented (utf8 "2.11rc1") true event = .error .load := by
  refine ⟨by decide +kernel, by decide +kernel, rfl⟩

end ArcdpsHealing.Processor
