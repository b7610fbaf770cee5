import SummitUsbgadget.FunctionFs.Kernel
import SummitUsbgadget.Lib.Lossy
import SummitUsbgadget.Lib.Wire

/-!
# The descriptors of a function, as FunctionFS gets them

`ffs.rs`: the descriptors and the strings of a function are written to endpoint zero as two
messages, with counts and lengths that are filled in afterwards. `readDescs` and `readStrings` read
the format as FunctionFS defines it; they know nothing of how the messages were made. Whatever is
written is read back as it was meant, for the strings as long as none has a NUL in it. What a number
has no room for is refused.
-/

set_option autoImplicit false

namespace SummitUsbgadget.FunctionFs

open SummitUsbgadget.Lib
open SummitUsbgadget.Lib.Reader

/-! ## Descriptors -/

/-- `ffs::Error`. -/
inductive DescError where
  | stringsDifferAcrossLanguages
  | overflow
  deriving DecidableEq, Repr

/-- `From<ffs::Error> for io::Error`. -/
def DescError.toIoError : DescError → IoError
  | .stringsDifferAcrossLanguages => .new .invalidInput "string count differs across languages"
  | .overflow => .new .invalidInput "too many descriptor entries"

/-- `try_into` for an unsigned number of `width` bytes. -/
def tryInto (width n : Nat) : Except DescError Nat :=
  if n < 256 ^ width then .ok n else .error .overflow

/-- Fills the length of a message in where room was left for it. -/
def sealLength (offset width : Nat) (data : Bytes) : Except DescError Bytes := do
  let len ← tryInto width data.length
  pure (patch offset width len data)

structure InterfaceDesc where
  interfaceNumber : UInt8
  alternateSetting : UInt8
  numEndpoints : UInt8
  interfaceClass : UInt8
  interfaceSubClass : UInt8
  interfaceProtocol : UInt8
  nameIdx : UInt8
  deriving DecidableEq, Repr

def InterfaceDesc.write (d : InterfaceDesc) : Bytes :=
  [0x04, d.interfaceNumber, d.alternateSetting, d.numEndpoints, d.interfaceClass,
    d.interfaceSubClass, d.interfaceProtocol, d.nameIdx]

structure AudioEndpointDesc where
  refresh : UInt8
  synchAddress : UInt8
  deriving DecidableEq, Repr

structure EndpointDesc where
  endpointAddress : UInt8
  attributes : UInt8
  maxPacketSize : UInt16
  interval : UInt8
  audio : Option AudioEndpointDesc
  deriving DecidableEq, Repr

/-- `EndpointDesc::SIZE` and `AUDIO_SIZE`. -/
def EndpointDesc.size : Nat := 7

def EndpointDesc.audioSize : Nat := 9

def EndpointDesc.write (d : EndpointDesc) : Bytes :=
  let audio := match d.audio with
    | some audio => [audio.refresh, audio.synchAddress]
    | none => []
  [0x05, d.endpointAddress, d.attributes] ++ leBytes 2 d.maxPacketSize.toNat ++
    [d.interval] ++ audio

/-- `EndpointDesc::parse`; what follows the descriptor is not looked at. -/
def EndpointDesc.parse : Bytes → Except IoError EndpointDesc
  | [] => .error fillError
  | size :: data =>
      if size.toNat ≠ EndpointDesc.size ∧ size.toNat ≠ EndpointDesc.audioSize then
        .error (.new .invalidData "endpoint descriptor size mismatch")
      else
        match data with
        | [] => .error fillError
        | descriptorType :: data =>
            if descriptorType ≠ 0x05 then .error
              (.new .invalidData "endpoint descriptor type mismatch")
            else
              match data with
              | endpointAddress :: attributes :: m0 :: m1 :: interval :: rest =>
                  if size.toNat = EndpointDesc.audioSize then
                    match rest with
                    | refresh :: synchAddress :: _ =>
                        .ok ⟨endpointAddress, attributes, u16FromLeBytes m0 m1, interval,
                          some ⟨refresh, synchAddress⟩⟩
                    | _ => .error fillError
                  else .ok ⟨endpointAddress, attributes, u16FromLeBytes m0 m1, interval, none⟩
              | _ => .error fillError

structure SsEndpointComp where
  maxBurst : UInt8
  attributes : UInt8
  bytesPerInterval : UInt16
  deriving DecidableEq, Repr

def SsEndpointComp.write (d : SsEndpointComp) : Bytes :=
  [0x30, d.maxBurst, d.attributes] ++ leBytes 2 d.bytesPerInterval.toNat

structure InterfaceAssocDesc where
  firstInterface : UInt8
  interfaceCount : UInt8
  functionClass : UInt8
  functionSubClass : UInt8
  functionProtocol : UInt8
  nameIdx : UInt8
  deriving DecidableEq, Repr

def InterfaceAssocDesc.write (d : InterfaceAssocDesc) : Bytes :=
  [0x0b, d.firstInterface, d.interfaceCount, d.functionClass, d.functionSubClass,
    d.functionProtocol, d.nameIdx]

/-- `CustomDesc`: any type and any data. -/
structure CustomDesc where
  descriptorType : UInt8
  data : Bytes
  deriving DecidableEq, Repr

def CustomDesc.write (d : CustomDesc) : Bytes := d.descriptorType :: d.data

inductive Desc where
  | interface (d : InterfaceDesc)
  | endpoint (d : EndpointDesc)
  | ssEndpointComp (d : SsEndpointComp)
  | interfaceAssoc (d : InterfaceAssocDesc)
  | custom (d : CustomDesc)
  deriving DecidableEq, Repr

def Desc.write : Desc → Bytes
  | .interface d => d.write
  | .endpoint d => d.write
  | .ssEndpointComp d => d.write
  | .interfaceAssoc d => d.write
  | .custom d => d.write

/-- `Desc::to_bytes`: the length goes in front, and it counts itself. -/
def Desc.toBytes (d : Desc) : Except DescError Bytes := sealLength 0 1 [[0], d.write].flatten

/-! ## OS descriptors -/

structure OsExtCompat where
  firstInterfaceNumber : UInt8
  compatibleId : Vector UInt8 8
  subCompatibleId : Vector UInt8 8

def OsExtCompat.write (c : OsExtCompat) : Bytes :=
  [[c.firstInterfaceNumber], [1], c.compatibleId.toList, c.subCompatibleId.toList,
    List.replicate 6 0].flatten

structure OsExtProp where
  dataType : UInt32
  name : String
  data : Bytes

/-- `OsExtProp::to_bytes`; its assertion on the length is part of `OsExtProp.toBytes_eq_ok`. -/
def OsExtProp.toBytes (p : OsExtProp) : Except DescError Bytes := do
  let nameLen ← tryInto 2 (utf8Bytes p.name).length
  let dataLen ← tryInto 4 p.data.length
  sealLength 0 4 [leBytes 4 0, leBytes 4 p.dataType.toNat, leBytes 2 nameLen, utf8Bytes p.name,
    leBytes 4 dataLen, p.data].flatten

inductive OsDescExt where
  | extCompat (compats : List OsExtCompat)
  | extProp (props : List OsExtProp)

/-- `bcdVersion`, which Linux has in the right order of bytes since 6.4. -/
def osDescBcdVersion (linux : Option (Nat × Nat)) : Nat :=
  let version := linux.getD (0, 0)
  if 6 < version.1 ∨ (version.1 = 6 ∧ 4 ≤ version.2) then 0x0100 else 0x0001

def OsDescExt.write (linux : Option (Nat × Nat)) : OsDescExt → Except DescError Bytes
  | .extCompat compats => do
      let count ← tryInto 1 compats.length
      pure [leBytes 2 (osDescBcdVersion linux), leBytes 2 4, leBytes 1 count, [0],
        compats.flatMap OsExtCompat.write].flatten
  | .extProp props => do
      let count ← tryInto 2 props.length
      let data ← writeEach OsExtProp.toBytes props
      pure [leBytes 2 (osDescBcdVersion linux), leBytes 2 5, leBytes 2 count, data].flatten

structure OsDesc where
  interface : UInt8
  ext : OsDescExt

def OsDesc.toBytes (linux : Option (Nat × Nat)) (d : OsDesc) : Except DescError Bytes := do
  let ext ← d.ext.write linux
  sealLength 1 4 [[d.interface], leBytes 4 0, ext].flatten

/-! ## The messages -/

structure Descs where
  flags : UInt32
  /-- As the 32 bits of an `i32`. -/
  eventfd : Option UInt32
  fsDescrs : List Desc
  hsDescrs : List Desc
  ssDescrs : List Desc
  osDescrs : List OsDesc

/-- `Flags::EVENTFD`. -/
def flagEventfd : UInt32 := 32

/-- The flags that are written: all kinds of descriptors are there. -/
def Descs.allFlags (d : Descs) : UInt32 :=
  let flags := d.flags ||| 0xf
  if d.eventfd.isSome then flags ||| flagEventfd else flags &&& ~~~ flagEventfd

def Descs.toBytes (linux : Option (Nat × Nat)) (d : Descs) : Except DescError Bytes := do
  let fsCount ← tryInto 4 d.fsDescrs.length
  let hsCount ← tryInto 4 d.hsDescrs.length
  let ssCount ← tryInto 4 d.ssDescrs.length
  let osCount ← tryInto 4 d.osDescrs.length
  let fs ← writeEach Desc.toBytes d.fsDescrs
  let hs ← writeEach Desc.toBytes d.hsDescrs
  let ss ← writeEach Desc.toBytes d.ssDescrs
  let os ← writeEach (OsDesc.toBytes linux) d.osDescrs
  let eventfd := match d.eventfd with
    | some fd => leBytes 4 fd.toNat
    | none => []
  sealLength 4 4 [leBytes 4 3, leBytes 4 0, leBytes 4 d.allFlags.toNat, eventfd, leBytes 4 fsCount,
    leBytes 4 hsCount, leBytes 4 ssCount, leBytes 4 osCount, fs, hs, ss, os].flatten

/-- `Language`; a language that has a name is known by its id, and may be given by its id as
well. -/
inductive Language where
  | known (id : UInt16)
  | other (id : UInt16)
  deriving DecidableEq, Repr

def Language.id : Language → UInt16
  | .known id => id
  | .other id => id

/-- `Strings::to_bytes` for the entries of the map, in the order in which it is walked. -/
def stringsToBytes (strings : List (Language × List String)) : Except DescError Bytes := do
  let strCount := match strings with
    | [] => 0
    | entry :: _ => entry.2.length
  if strings.all fun entry => entry.2.length == strCount then do
    let count ← tryInto 4 strCount
    let langs ← tryInto 4 strings.length
    let entries := strings.flatMap fun entry =>
      [leBytes 2 entry.1.id.toNat, entry.2.flatMap fun str => utf8Bytes str ++ [0]].flatten
    sealLength 4 4 [leBytes 4 2, leBytes 4 0, leBytes 4 count, leBytes 4 langs, entries].flatten
  else .error .stringsDifferAcrossLanguages

/-! ## The format -/

structure RawDesc where
  descriptorType : UInt8
  data : Bytes
  deriving DecidableEq, Repr

/-- A descriptor begins with its length and its type. -/
def readDesc : Reader RawDesc := do
  let len ← byte
  check (2 ≤ len.toNat)
  let descriptorType ← byte
  let data ← take (len.toNat - 2)
  pure ⟨descriptorType, data⟩

structure RawCompat where
  firstInterfaceNumber : UInt8
  compatibleId : Bytes
  subCompatibleId : Bytes
  deriving DecidableEq, Repr

def readCompat : Reader RawCompat := do
  let firstInterfaceNumber ← byte
  let reserved ← byte
  check (reserved = 1)
  let compatibleId ← take 8
  let subCompatibleId ← take 8
  let zeros ← take 6
  check (zeros = List.replicate 6 0)
  pure ⟨firstInterfaceNumber, compatibleId, subCompatibleId⟩

structure RawProp where
  dataType : Nat
  name : Bytes
  data : Bytes
  deriving DecidableEq, Repr

def readPropBody : Reader RawProp := do
  let dataType ← le 4
  let nameLen ← le 2
  let name ← take nameLen
  let dataLen ← le 4
  let data ← take dataLen
  pure ⟨dataType, name, data⟩

/-- The size of a property counts itself. -/
def readProp : Reader RawProp := do
  let size ← le 4
  check (4 ≤ size)
  within (size - 4) readPropBody

inductive RawExt where
  | compat (compats : List RawCompat)
  | props (props : List RawProp)
  deriving DecidableEq, Repr

structure RawOsDesc where
  interface : UInt8
  bcdVersion : Nat
  ext : RawExt
  deriving DecidableEq, Repr

/-- The index says what kind of entries follow. -/
def readExt : Reader (Nat × RawExt) := do
  let bcdVersion ← le 2
  let index ← le 2
  let count ← le 2
  if index = 4 then do
    let compats ← times readCompat count
    pure (bcdVersion, .compat compats)
  else do
    check (index = 5)
    let props ← times readProp count
    pure (bcdVersion, .props props)

def readOsDesc : Reader RawOsDesc := do
  let interface ← byte
  let len ← le 4
  check (5 ≤ len)
  let ext ← within (len - 5) readExt
  pure ⟨interface, ext.1, ext.2⟩

structure RawDescs where
  flags : Nat
  eventfd : Option Nat
  fsDescrs : List RawDesc
  hsDescrs : List RawDesc
  ssDescrs : List RawDesc
  osDescrs : List RawOsDesc
  deriving DecidableEq, Repr

/-- The eventfd, if the flags say that there is one. -/
def readEventfd (flags : Nat) : Reader (Option Nat) :=
  if flags / 32 % 2 = 1 then some <$> le 4 else pure none

/-- The message with the length that it says it has. The descriptors of all speeds have to be
there. -/
def readDescsBody : Reader (Nat × RawDescs) := do
  let magic ← le 4
  check (magic = 3)
  let len ← le 4
  let flags ← le 4
  check (flags % 16 = 15)
  let eventfd ← readEventfd flags
  let fsCount ← le 4
  let hsCount ← le 4
  let ssCount ← le 4
  let osCount ← le 4
  let fs ← times readDesc fsCount
  let hs ← times readDesc hsCount
  let ss ← times readDesc ssCount
  let os ← times readOsDesc osCount
  pure (len, ⟨flags, eventfd, fs, hs, ss, os⟩)

def readDescs (bs : Bytes) : Option RawDescs :=
  match readAll readDescsBody bs with
  | some (len, descs) => if len = bs.length then some descs else none
  | none => none

/-- The strings of a language. -/
def readLanguage (count : Nat) : Reader (Nat × List Bytes) := do
  let id ← le 2
  let strings ← times cString count
  pure (id, strings)

def readStringsBody : Reader (Nat × List (Nat × List Bytes)) := do
  let magic ← le 4
  check (magic = 2)
  let len ← le 4
  let count ← le 4
  let langs ← le 4
  let entries ← times (readLanguage count) langs
  pure (len, entries)

def readStrings (bs : Bytes) : Option (List (Nat × List Bytes)) :=
  match readAll readStringsBody bs with
  | some (len, entries) => if len = bs.length then some entries else none
  | none => none

/-! ## What is read back -/

/-- The type and the data of a descriptor. -/
def Desc.raw (d : Desc) : RawDesc :=
  match d.write with
  | [] => ⟨0, []⟩
  | descriptorType :: data => ⟨descriptorType, data⟩

def OsExtCompat.raw (c : OsExtCompat) : RawCompat :=
  ⟨c.firstInterfaceNumber, c.compatibleId.toList, c.subCompatibleId.toList⟩

def OsExtProp.raw (p : OsExtProp) : RawProp := ⟨p.dataType.toNat, utf8Bytes p.name, p.data⟩

def OsDescExt.raw : OsDescExt → RawExt
  | .extCompat compats => .compat (compats.map OsExtCompat.raw)
  | .extProp props => .props (props.map OsExtProp.raw)

def OsDesc.raw (linux : Option (Nat × Nat)) (d : OsDesc) : RawOsDesc :=
  ⟨d.interface, osDescBcdVersion linux, d.ext.raw⟩

def Descs.raw (linux : Option (Nat × Nat)) (d : Descs) : RawDescs where
  flags := d.allFlags.toNat
  eventfd := d.eventfd.map UInt32.toNat
  fsDescrs := d.fsDescrs.map Desc.raw
  hsDescrs := d.hsDescrs.map Desc.raw
  ssDescrs := d.ssDescrs.map Desc.raw
  osDescrs := d.osDescrs.map (OsDesc.raw linux)

theorem tryInto_eq_ok {width n m : Nat} : tryInto width n = .ok m ↔ n < 256 ^ width ∧ m = n := by
  unfold tryInto
  split
  · next h =>
      constructor
      · intro he
        cases he
        exact ⟨h, rfl⟩
      · rintro ⟨-, rfl⟩
        rfl
  · next h => exact ⟨nofun, fun hfits => absurd hfits.1 h⟩

theorem Desc.write_eq (d : Desc) : d.write = d.raw.descriptorType :: d.raw.data := by
  have hne : d.write ≠ [] := by
    cases d with
    | interface d => exact List.cons_ne_nil _ _
    | endpoint d => exact List.cons_ne_nil _ _
    | ssEndpointComp d => exact List.cons_ne_nil _ _
    | interfaceAssoc d => exact List.cons_ne_nil _ _
    | custom d => exact List.cons_ne_nil _ _
  unfold Desc.raw
  cases hw : d.write with
  | nil => exact absurd hw hne
  | cons descriptorType data => rfl

/-- The length is that of the whole, and nothing else changes. -/
theorem sealLength_eq_ok {front back bs : Bytes} {offset width : Nat}
    (hoffset : front.length = offset)
    (h : sealLength offset width (front ++ (leBytes width 0 ++ back)) = .ok bs) :
    bs.length < 256 ^ width ∧ bs = front ++ (leBytes width bs.length ++ back) := by
  obtain ⟨len, hlen, heq⟩ := bind_eq_ok.1 h
  obtain ⟨hlt, rfl⟩ := tryInto_eq_ok.1 hlen
  cases heq
  subst hoffset
  have hpatch := patch_append front (leBytes width 0) back
    (front ++ (leBytes width 0 ++ back)).length
  rw [length_leBytes] at hpatch
  rw [hpatch]
  have hlength : (front ++ (leBytes width (front ++ (leBytes width 0 ++ back)).length ++
      back)).length =
      (front ++ (leBytes width 0 ++ back)).length := by
    simp only [List.length_append, length_leBytes]
  rw [hlength]
  exact ⟨hlt, rfl⟩

/-- A descriptor is written as its length, its type and its data. -/
theorem Desc.toBytes_eq_ok {d : Desc} {bs : Bytes} (h : d.toBytes = .ok bs) :
    d.raw.data.length + 2 < 256 ∧
      bs = UInt8.ofNat (d.raw.data.length + 2) :: d.raw.descriptorType :: d.raw.data := by
  have hseal : sealLength 0 1 ([] ++ (leBytes 1 0 ++ (d.write ++ []))) = .ok bs := h
  obtain ⟨hlt, heq⟩ := sealLength_eq_ok rfl hseal
  rw [d.write_eq, List.append_nil, List.nil_append] at heq
  have hlen : bs.length = d.raw.data.length + 2 := by
    rw [heq, List.length_append, length_leBytes, List.length_cons]
    omega
  rw [hlen] at hlt heq
  exact ⟨hlt, heq⟩

theorem reads_desc {d : Desc} {bs : Bytes} (h : d.toBytes = .ok bs) : Reads readDesc bs d.raw := by
  obtain ⟨hlt, rfl⟩ := Desc.toBytes_eq_ok h
  have hlen : (UInt8.ofNat (d.raw.data.length + 2)).toNat = d.raw.data.length + 2 := by
    rw [UInt8.toNat_ofNat']
    exact Nat.mod_eq_of_lt hlt
  refine reads_bind (reads_byte _) ?_
  rw [hlen]
  refine reads_check_bind (Nat.le_add_left 2 _) ?_
  refine reads_bind (reads_byte _) ?_
  exact reads_bind_pure (reads_take d.raw.data)

/-! ## Endpoint descriptors -/

theorem Desc.toBytes_of_length {d : Desc} (h : d.raw.data.length + 2 < 256) :
    d.toBytes =
      .ok (UInt8.ofNat (d.raw.data.length + 2) :: d.raw.descriptorType :: d.raw.data) := by
  cases hb : d.toBytes with
  | ok bs => rw [(Desc.toBytes_eq_ok hb).2]
  | error err =>
      have hlen : ([[0], d.write].flatten : Bytes).length = d.raw.data.length + 2 := by
        rw [d.write_eq]
        simp
      have hseal : (tryInto 1 ([[0], d.write].flatten : Bytes).length >>= fun len =>
          pure (patch 0 1 len [[0], d.write].flatten)) = .error err := hb
      rw [hlen, tryInto_eq_ok.2 ⟨h, rfl⟩] at hseal
      cases hseal

/-- The bytes of an endpoint descriptor. -/
theorem EndpointDesc.toBytes_eq (e : EndpointDesc) :
    (Desc.endpoint e).toBytes =
      .ok (match e.audio with
        | none => [7, 0x05, e.endpointAddress, e.attributes, UInt8.ofNat e.maxPacketSize.toNat,
            UInt8.ofNat (e.maxPacketSize.toNat / 256), e.interval]
        | some audio => [9, 0x05, e.endpointAddress, e.attributes,
            UInt8.ofNat e.maxPacketSize.toNat, UInt8.ofNat (e.maxPacketSize.toNat / 256),
              e.interval, audio.refresh, audio.synchAddress]) := by
  obtain ⟨address, attributes, size, interval, audio⟩ := e
  cases audio with
  | none => exact Desc.toBytes_of_length (show 5 + 2 < 256 by decide)
  | some audio => exact Desc.toBytes_of_length (show 7 + 2 < 256 by decide)

/-- Two bytes are a number, and the number has these two bytes. -/
theorem u16FromLeBytes_bytes (lo hi : UInt8) :
    UInt8.ofNat (u16FromLeBytes lo hi).toNat = lo ∧
      UInt8.ofNat ((u16FromLeBytes lo hi).toNat / 256) = hi := by
  have hlo : lo.toNat < 256 := lo.toNat_lt
  have hhi : hi.toNat < 256 := hi.toNat_lt
  have hn : (u16FromLeBytes lo hi).toNat = lo.toNat + 256 * hi.toNat := by
    rw [u16FromLeBytes, UInt16.toNat_ofNat']
    exact Nat.mod_eq_of_lt (by omega)
  rw [hn]
  constructor
  · apply UInt8.toNat_inj.1
    rw [UInt8.toNat_ofNat']
    omega
  · apply UInt8.toNat_inj.1
    rw [UInt8.toNat_ofNat']
    omega

theorem EndpointDesc.parse_toBytes {e : EndpointDesc} {bs : Bytes}
    (h : (Desc.endpoint e).toBytes = .ok bs) (rest : Bytes) :
    EndpointDesc.parse (bs ++ rest) = .ok e := by
  rw [EndpointDesc.toBytes_eq] at h
  obtain ⟨address, attributes, size, interval, audio⟩ := e
  have hsize := u16_round_trip size
  cases audio with
  | none =>
      cases h
      show Except.ok (EndpointDesc.mk address attributes (u16FromLeBytes _ _) interval none) = _
      rw [hsize]
  | some audio =>
      cases h
      show Except.ok (EndpointDesc.mk address attributes (u16FromLeBytes _ _) interval
          (some audio)) = _
      rw [hsize]

/-- What is accepted begins with the descriptor that comes out of it. -/
theorem EndpointDesc.toBytes_of_parse {e : EndpointDesc} {data : Bytes}
    (h : EndpointDesc.parse data = .ok e) :
    ∃ bs rest, (Desc.endpoint e).toBytes = .ok bs ∧ data = bs ++ rest := by
  unfold EndpointDesc.parse at h
  split at h
  · cases h
  split at h
  · cases h
  next size data hsize =>
  split at h
  · cases h
  split at h
  · cases h
  next descriptorType data htype =>
  have htype : descriptorType = 0x05 := not_not.1 htype
  split at h
  · next address attributes m0 m1 interval rest =>
      obtain ⟨hlo, hhi⟩ := u16FromLeBytes_bytes m0 m1
      split at h
      · next haudio =>
          split at h
          · next refresh synchAddress rest =>
              cases h
              refine ⟨_, rest, EndpointDesc.toBytes_eq _, ?_⟩
              have hnine : size = 9 := UInt8.toNat_inj.1 haudio
              rw [hnine, htype]
              dsimp only
              rw [hlo, hhi]
              rfl
          · cases h
      · next hplain =>
          cases h
          refine ⟨_, rest, EndpointDesc.toBytes_eq _, ?_⟩
          have hseven : size = 7 := by
            by_contra hne
            exact hsize ⟨fun he => hne (UInt8.toNat_inj.1 he), hplain⟩
          rw [hseven, htype]
          dsimp only
          rw [hlo, hhi]
          rfl
  · cases h

/-- Reading back and writing again: a descriptor that was written is parsed as it was, whatever
follows it, and what is parsed was written for what comes out, up to where it ends. -/
theorem endpoint_desc_round_trip (e : EndpointDesc) (data : Bytes) :
    EndpointDesc.parse data = .ok e ↔
      ∃ bs rest, (Desc.endpoint e).toBytes = .ok bs ∧ data = bs ++ rest := by
  constructor
  · exact EndpointDesc.toBytes_of_parse
  · rintro ⟨bs, rest, hbs, rfl⟩
    exact EndpointDesc.parse_toBytes hbs rest

theorem reads_take_of_length {bs : Bytes} {n : Nat} (h : bs.length = n) : Reads (take n) bs bs :=
  h ▸ reads_take bs

theorem reads_compat (c : OsExtCompat) : Reads readCompat c.write c.raw := by
  have hid : c.compatibleId.toList.length = 8 := c.compatibleId.length_toList
  have hsub : c.subCompatibleId.toList.length = 8 := c.subCompatibleId.length_toList
  refine reads_bind (reads_byte _) (reads_bind (reads_byte _) (reads_check_bind rfl ?_))
  refine reads_bind (reads_take_of_length hid) (reads_bind (reads_take_of_length hsub) ?_)
  exact reads_bind (reads_take_of_length rfl) (reads_check_bind rfl (reads_pure _))

/-- A property is written as its size, which the source asserts, and its body. -/
theorem OsExtProp.toBytes_eq_ok {p : OsExtProp} {bs : Bytes} (h : p.toBytes = .ok bs) :
    bs.length = 14 + (utf8Bytes p.name).length + p.data.length ∧
      ∃ body, bs = leBytes 4 bs.length ++ body ∧ bs.length < 256 ^ 4 ∧
        Reads readPropBody body p.raw := by
  obtain ⟨nameLen, hname, h⟩ := bind_eq_ok.1 h
  obtain ⟨hnlt, rfl⟩ := tryInto_eq_ok.1 hname
  obtain ⟨dataLen, hdata, h⟩ := bind_eq_ok.1 h
  obtain ⟨hdlt, rfl⟩ := tryInto_eq_ok.1 hdata
  have hseal : sealLength 0 4 ([] ++ (leBytes 4 0 ++ [leBytes 4 p.dataType.toNat,
      leBytes 2 (utf8Bytes p.name).length, utf8Bytes p.name, leBytes 4 p.data.length,
      p.data].flatten)) = .ok bs := h
  obtain ⟨hlt, heq⟩ := sealLength_eq_ok rfl hseal
  refine ⟨?_, _, heq, hlt, ?_⟩
  · have hlen := congrArg List.length heq
    simp only [List.length_append, length_leBytes, List.flatten_cons, List.flatten_nil,
      List.length_nil] at hlen
    omega
  · refine reads_bind (reads_le p.dataType.toNat_lt) (reads_bind (reads_le hnlt) ?_)
    refine reads_bind (reads_take _) (reads_bind (reads_le hdlt) ?_)
    exact reads_bind (reads_take _) (reads_pure _)

theorem reads_prop {p : OsExtProp} {bs : Bytes} (h : p.toBytes = .ok bs) :
    Reads readProp bs p.raw := by
  obtain ⟨-, body, heq, hlt, hbody⟩ := OsExtProp.toBytes_eq_ok h
  have hlen : bs.length = 4 + body.length := by
    have hlength := congrArg List.length heq
    rw [List.length_append, length_leBytes] at hlength
    exact hlength
  rw [heq]
  refine reads_bind (reads_le hlt) (reads_check_bind (by omega) ?_)
  have hsize : bs.length - 4 = body.length := by omega
  rw [hsize]
  exact reads_within hbody

theorem leBytes_two {n : Nat} (h : n < 256 ^ 1) : leBytes 2 n = leBytes 1 n ++ [0] := by
  have hhigh : n / 256 = 0 := Nat.div_eq_of_lt h
  show [UInt8.ofNat n, UInt8.ofNat (n / 256)] = [UInt8.ofNat n, 0]
  rw [hhigh]
  rfl

theorem osDescBcdVersion_lt (linux : Option (Nat × Nat)) : osDescBcdVersion linux < 256 ^ 2 := by
  unfold osDescBcdVersion
  dsimp only
  split
  · decide
  · decide

theorem reads_ext {linux : Option (Nat × Nat)} {ext : OsDescExt} {bs : Bytes}
    (h : ext.write linux = .ok bs) : Reads readExt bs (osDescBcdVersion linux, ext.raw) := by
  have hversion := osDescBcdVersion_lt linux
  cases ext with
  | extCompat compats =>
      obtain ⟨count, hcount, heq⟩ := bind_eq_ok.1 h
      obtain ⟨hlt, rfl⟩ := tryInto_eq_ok.1 hcount
      cases heq
      refine reads_bind (reads_le hversion) (reads_bind (reads_le (by decide)) ?_)
      -- the count has one byte here, and the zero behind it is its upper byte
      show Reads _ (leBytes 1 compats.length ++
          ([0] ++ (compats.flatMap OsExtCompat.write ++ []))) _
      rw [← List.append_assoc, ← leBytes_two hlt]
      refine reads_bind (reads_le (Nat.lt_trans hlt (by decide))) ?_
      rw [if_pos rfl]
      exact reads_bind (reads_times fun c _ => reads_compat c) (reads_pure _)
  | extProp props =>
      obtain ⟨count, hcount, h⟩ := bind_eq_ok.1 h
      obtain ⟨hlt, rfl⟩ := tryInto_eq_ok.1 hcount
      obtain ⟨data, hdata, heq⟩ := bind_eq_ok.1 h
      cases heq
      refine reads_bind (reads_le hversion)
        (reads_bind (reads_le (by decide)) (reads_bind (reads_le hlt) ?_))
      rw [if_neg (by decide)]
      refine reads_check_bind rfl ?_
      exact reads_bind (reads_writeEach hdata fun p _ b hb => reads_prop hb) (reads_pure _)

theorem reads_osDesc {linux : Option (Nat × Nat)} {d : OsDesc} {bs : Bytes}
    (h : d.toBytes linux = .ok bs) : Reads readOsDesc bs (d.raw linux) := by
  obtain ⟨ext, hext, h⟩ := bind_eq_ok.1 h
  have hseal : sealLength 1 4 ([d.interface] ++ (leBytes 4 0 ++ (ext ++ []))) = .ok bs := h
  obtain ⟨hlt, heq⟩ := sealLength_eq_ok rfl hseal
  have hlen : bs.length = 5 + ext.length := by
    have hlength := congrArg List.length heq
    simp only [List.length_append, length_leBytes, List.length_singleton,
      List.append_nil] at hlength
    omega
  rw [heq]
  refine reads_bind (reads_byte _) (reads_bind (reads_le hlt) (reads_check_bind (by omega) ?_))
  have hsize : bs.length - 5 = ext.length := by omega
  rw [hsize]
  exact reads_bind (reads_within (reads_ext hext)) (reads_pure _)

/-! ## The flags -/

theorem or_fifteen_mod (n : Nat) : (n ||| 15) % 16 = 15 := by
  have hor : (n ||| 15) % 2 ^ 4 = n % 2 ^ 4 ||| 15 % 2 ^ 4 := Nat.or_mod_two_pow
  have hlt : n % 2 ^ 4 < 16 := Nat.mod_lt n (by decide)
  have hall : ∀ m < 16, m ||| 15 % 2 ^ 4 = 15 := by decide
  exact hor.trans (hall _ hlt)

/-- The descriptors of all speeds are announced. -/
theorem Descs.allFlags_mod (d : Descs) : d.allFlags.toNat % 16 = 15 := by
  have hall : (d.flags ||| 0xf).toNat % 16 = 15 := by
    rw [UInt32.toNat_or]
    exact or_fifteen_mod d.flags.toNat
  unfold Descs.allFlags
  dsimp only
  split
  · rw [UInt32.toNat_or]
    have hor : ((d.flags ||| 0xf).toNat ||| flagEventfd.toNat) % 2 ^ 4 =
        (d.flags ||| 0xf).toNat % 2 ^ 4 ||| flagEventfd.toNat % 2 ^ 4 := Nat.or_mod_two_pow
    refine hor.trans ?_
    rw [show (d.flags ||| 0xf).toNat % 2 ^ 4 = 15 from hall]
    decide
  · rw [UInt32.toNat_and]
    have hand : ((d.flags ||| 0xf).toNat &&& (~~~ flagEventfd).toNat) % 2 ^ 4 =
        (d.flags ||| 0xf).toNat % 2 ^ 4 &&& (~~~ flagEventfd).toNat % 2 ^ 4 := Nat.and_mod_two_pow
    refine hand.trans ?_
    rw [show (d.flags ||| 0xf).toNat % 2 ^ 4 = 15 from hall]
    decide

/-- The eventfd is announced if there is one. -/
theorem Descs.allFlags_eventfd (d : Descs) :
    decide (d.allFlags.toNat / 32 % 2 = 1) = d.eventfd.isSome := by
  have hbit : d.allFlags.toNat.testBit 5 = decide (d.allFlags.toNat / 32 % 2 = 1) :=
    Nat.testBit_eq_decide_div_mod_eq
  rw [← hbit]
  unfold Descs.allFlags
  dsimp only
  cases d.eventfd.isSome with
  | true =>
      rw [if_pos rfl, UInt32.toNat_or, Nat.testBit_or,
        show flagEventfd.toNat.testBit 5 = true from rfl, Bool.or_true]
  | false =>
      rw [if_neg (by simp), UInt32.toNat_and, Nat.testBit_and,
        show (~~~ flagEventfd).toNat.testBit 5 = false from rfl, Bool.and_false]

/-! ## Messages -/

theorem reads_descsBody {linux : Option (Nat × Nat)} {d : Descs} {bs : Bytes}
    (h : d.toBytes linux = .ok bs) : Reads readDescsBody bs (bs.length, d.raw linux) := by
  obtain ⟨fsCount, hfs, h⟩ := bind_eq_ok.1 h
  obtain ⟨hfslt, rfl⟩ := tryInto_eq_ok.1 hfs
  obtain ⟨hsCount, hhs, h⟩ := bind_eq_ok.1 h
  obtain ⟨hhslt, rfl⟩ := tryInto_eq_ok.1 hhs
  obtain ⟨ssCount, hss, h⟩ := bind_eq_ok.1 h
  obtain ⟨hsslt, rfl⟩ := tryInto_eq_ok.1 hss
  obtain ⟨osCount, hos, h⟩ := bind_eq_ok.1 h
  obtain ⟨hoslt, rfl⟩ := tryInto_eq_ok.1 hos
  obtain ⟨fs, hfs, h⟩ := bind_eq_ok.1 h
  obtain ⟨hs, hhs, h⟩ := bind_eq_ok.1 h
  obtain ⟨ss, hss, h⟩ := bind_eq_ok.1 h
  obtain ⟨os, hos, h⟩ := bind_eq_ok.1 h
  have hseal : sealLength 4 4 (leBytes 4 3 ++ (leBytes 4 0 ++ [leBytes 4 d.allFlags.toNat,
      (match d.eventfd with
        | some fd => leBytes 4 fd.toNat
        | none => []),
      leBytes 4 d.fsDescrs.length, leBytes 4 d.hsDescrs.length, leBytes 4 d.ssDescrs.length,
      leBytes 4 d.osDescrs.length, fs, hs, ss, os].flatten)) = .ok bs := h
  obtain ⟨hlt, heq⟩ := sealLength_eq_ok (length_leBytes 4 3) hseal
  generalize bs.length = len at hlt heq ⊢
  rw [heq]
  refine reads_bind (reads_le (by decide)) (reads_check_bind rfl ?_)
  refine reads_bind (reads_le hlt) (reads_bind (reads_le d.allFlags.toNat_lt) ?_)
  refine reads_check_bind d.allFlags_mod ?_
  have hdesc : ∀ x : Desc, ∀ b, x.toBytes = .ok b →
      Reads readDesc b x.raw := fun x b hb => reads_desc hb
  have heventfd : Reads (readEventfd d.allFlags.toNat)
      (match d.eventfd with
        | some fd => leBytes 4 fd.toNat
        | none => []) (d.eventfd.map UInt32.toNat) := by
    have hflag := d.allFlags_eventfd
    unfold readEventfd
    cases hfd : d.eventfd with
    | some fd =>
        rw [hfd] at hflag
        rw [if_pos (of_decide_eq_true hflag)]
        exact reads_map some (reads_le fd.toNat_lt)
    | none =>
        rw [hfd] at hflag
        rw [if_neg (of_decide_eq_false hflag)]
        exact reads_pure none
  refine reads_bind heventfd ?_
  refine reads_bind (reads_le hfslt) (reads_bind (reads_le hhslt) ?_)
  refine reads_bind (reads_le hsslt) (reads_bind (reads_le hoslt) ?_)
  refine reads_bind (reads_writeEach hfs fun x _ b hb => hdesc x b hb) ?_
  refine reads_bind (reads_writeEach hhs fun x _ b hb => hdesc x b hb) ?_
  refine reads_bind (reads_writeEach hss fun x _ b hb => hdesc x b hb) ?_
  refine reads_bind (reads_writeEach hos fun x _ b hb => reads_osDesc hb) ?_
  exact reads_pure _

/-- FunctionFS reads the descriptors as they were meant. -/
theorem readDescs_of_toBytes {linux : Option (Nat × Nat)} {d : Descs} {bs : Bytes}
    (h : d.toBytes linux = .ok bs) : readDescs bs = some (d.raw linux) := by
  unfold readDescs
  rw [readAll_of_reads (reads_descsBody h)]
  exact if_pos rfl

/-- The strings of a language, without the NULs that end them. -/
def rawEntry (entry : Language × List String) : Nat × List Bytes :=
  (entry.1.id.toNat, entry.2.map utf8Bytes)

theorem reads_language {entry : Language × List String} {count : Nat}
    (hcount : entry.2.length = count) (hnul : ∀ str ∈ entry.2, (0 : UInt8) ∉ utf8Bytes str) :
    Reads (readLanguage count)
      [leBytes 2 entry.1.id.toNat, entry.2.flatMap fun str => utf8Bytes str ++ [0]].flatten
      (rawEntry entry) := by
  subst hcount
  refine reads_bind (reads_le entry.1.id.toNat_lt) ?_
  exact reads_bind (reads_times fun str hstr => reads_cString (hnul str hstr)) (reads_pure _)

/-- FunctionFS reads the strings as they were meant, if none has a NUL in it. -/
theorem readStrings_of_toBytes {strings : List (Language × List String)} {bs : Bytes}
    (h : stringsToBytes strings = .ok bs)
    (hnul : ∀ entry ∈ strings, ∀ str ∈ entry.2, (0 : UInt8) ∉ utf8Bytes str) :
    readStrings bs = some (strings.map rawEntry) := by
  have hbody : Reads readStringsBody bs (bs.length, strings.map rawEntry) := by
    unfold stringsToBytes at h
    dsimp only at h
    generalize (match strings with
      | [] => 0
      | entry :: _ => entry.2.length) = strCount at h
    split at h
    · next hall =>
        obtain ⟨count, hcount, hlater⟩ := bind_eq_ok.1 h
        obtain ⟨hclt, hceq⟩ := tryInto_eq_ok.1 hcount
        obtain ⟨langs, hlangs, hseal⟩ := bind_eq_ok.1 hlater
        obtain ⟨hllt, hleq⟩ := tryInto_eq_ok.1 hlangs
        rw [hceq, hleq] at hseal
        obtain ⟨hlt, heq⟩ := sealLength_eq_ok (length_leBytes 4 2) hseal
        generalize bs.length = len at hlt heq ⊢
        rw [heq]
        refine reads_bind (reads_le (by decide)) (reads_check_bind rfl ?_)
        refine reads_bind (reads_le hlt)
          (reads_bind (reads_le hclt) (reads_bind (reads_le hllt) ?_))
        refine reads_bind (reads_times fun entry hentry => reads_language ?_ (hnul entry hentry))
          (reads_pure _)
        exact beq_iff_eq.1 (List.all_eq_true.1 hall entry hentry)
    · cases h
  unfold readStrings
  rw [readAll_of_reads hbody]
  exact if_pos rfl

end SummitUsbgadget.FunctionFs
