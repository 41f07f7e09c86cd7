import ArcdpsHealing.Lib.Codec

namespace ArcdpsHealing.Arcdps

open ArcdpsHealing.Lib

abbrev CString := List UInt8

/-- `cbtevent`: 64 bytes, the last of which is padding that no code names
outside of logging. -/
structure CbtEvent where
  time : UInt64
  srcAgent : UInt64
  dstAgent : UInt64
  value : Int32
  buffDmg : Int32
  overstackValue : UInt32
  skillid : UInt32
  srcInstid : UInt16
  dstInstid : UInt16
  srcMasterInstid : UInt16
  dstMasterInstid : UInt16
  iff : UInt8
  buff : UInt8
  result : UInt8
  isActivation : UInt8
  isBuffremove : UInt8
  isNinety : UInt8
  isFifty : UInt8
  isMoving : UInt8
  isStatechange : UInt8
  isFlanking : UInt8
  isShields : UInt8
  isOffcycle : UInt8
  pad61 : UInt8
  pad62 : UInt8
  pad63 : UInt8
  pad64 : UInt8
  deriving DecidableEq, Repr

/-- `ag`. A null `name` is `none`. -/
structure Ag where
  name : Option CString
  id : UInt64
  prof : UInt32
  elite : UInt32
  self : UInt32
  team : UInt16
  deriving DecidableEq, Repr

abbrev CbtEvent.Fields :=
  UInt64 × UInt64 × UInt64 × Int32 × Int32 × UInt32 × UInt32 ×
  UInt16 × UInt16 × UInt16 × UInt16 ×
  UInt8 × UInt8 × UInt8 × UInt8 × UInt8 × UInt8 × UInt8 × UInt8 ×
  UInt8 × UInt8 × UInt8 × UInt8 × UInt8 × UInt8 × UInt8 × UInt8

def CbtEvent.ofFields : CbtEvent.Fields ≃ CbtEvent where
  toFun := fun (t, sa, da, v, bd, ov, sk, si, di, sm, dm, i, b, r, ac, br, n, f, m, sc, fl, sh, oc,
      p1, p2, p3, p4) =>
    ⟨t, sa, da, v, bd, ov, sk, si, di, sm, dm, i, b, r, ac, br, n, f, m, sc, fl, sh, oc,
      p1, p2, p3, p4⟩
  invFun e :=
    (e.time, e.srcAgent, e.dstAgent, e.value, e.buffDmg, e.overstackValue, e.skillid,
      e.srcInstid, e.dstInstid, e.srcMasterInstid, e.dstMasterInstid,
      e.iff, e.buff, e.result, e.isActivation, e.isBuffremove, e.isNinety, e.isFifty, e.isMoving,
      e.isStatechange, e.isFlanking, e.isShields, e.isOffcycle, e.pad61, e.pad62, e.pad63, e.pad64)
  left_inv _ := rfl
  right_inv _ := rfl

open Codec in
def bytes8 : Codec (UInt8 × UInt8 × UInt8 × UInt8 × UInt8 × UInt8 × UInt8 × UInt8) :=
  byte.prod <| byte.prod <| byte.prod <| byte.prod <| byte.prod <| byte.prod <| byte.prod byte

open Codec in
def CbtEvent.codec : Codec CbtEvent :=
  (u64.prod <| u64.prod <| u64.prod <| i32.prod <| i32.prod <| u32.prod <| u32.prod <|
    u16.prod <| u16.prod <| u16.prod <| u16.prod <|
    byte.prod <| byte.prod <| byte.prod <| byte.prod <| byte.prod <| byte.prod <| byte.prod <|
    byte.prod bytes8).iso CbtEvent.ofFields

@[simp] theorem CbtEvent.size_codec : CbtEvent.codec.size = 64 := rfl

def CbtEvent.iffBytes (e : CbtEvent) : List UInt8 :=
  bytes8.encode (e.iff, e.buff, e.result, e.isActivation, e.isBuffremove, e.isNinety, e.isFifty,
    e.isMoving)

/-- `*reinterpret_cast<uint64_t*>(&pEvent->iff)`. -/
def CbtEvent.readIff (e : CbtEvent) : UInt64 := Codec.u64.decode e.iffBytes

/-- `memcpy(&pEvent->iff, &time, sizeof(time))`. -/
def CbtEvent.writeIff (e : CbtEvent) (time : UInt64) : CbtEvent :=
  match bytes8.decode (Codec.u64.encode time) with
  | (b0, b1, b2, b3, b4, b5, b6, b7) =>
    { e with iff := b0, buff := b1, result := b2, isActivation := b3, isBuffremove := b4,
             isNinety := b5, isFifty := b6, isMoving := b7 }

@[simp] theorem CbtEvent.readIff_writeIff (e : CbtEvent) (time : UInt64) :
    (e.writeIff time).readIff = time := by
  have bytes : (e.writeIff time).iffBytes = Codec.u64.encode time :=
    bytes8.encode_decode _ (Codec.u64.length_encode time)
  rw [readIff, bytes, Codec.decode_encode]

@[simp] theorem CbtEvent.isStatechange_writeIff (e : CbtEvent) (time : UInt64) :
    (e.writeIff time).isStatechange = e.isStatechange := rfl

@[simp] theorem CbtEvent.time_writeIff (e : CbtEvent) (time : UInt64) :
    (e.writeIff time).time = e.time := rfl

@[simp] theorem CbtEvent.srcInstid_writeIff (e : CbtEvent) (time : UInt64) :
    (e.writeIff time).srcInstid = e.srcInstid := rfl

end ArcdpsHealing.Arcdps
