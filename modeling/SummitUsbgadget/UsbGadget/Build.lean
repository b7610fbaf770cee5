import SummitUsbgadget.Lib.Coroutine
import SummitUsbgadget.Lib.Lossy
import SummitUsbgadget.UsbGadget.Config

/-!
# Building a gadget

`build_on_udc` of `gadget.rs` and `Gadget::register` of the `usb-gadget` crate, as programs that ask
the kernel, the plugins and the system for what they need. Everything that is done inside a gadget's
directory of configfs is an `Operation`, and any of them may fail; the gadget's directory itself is
created, found and removed by its name. A function is known by its handle: how it registers itself
in its directory is up to its driver.
-/

set_option autoImplicit false

namespace SummitUsbgadget.UsbGadget

open SummitUsbgadget.Lib

/-! ## What is asked -/

/-- `Speed`. -/
inductive Speed where
  | unknown
  | lowSpeed
  | fullSpeed
  | highSpeed
  | superSpeed
  | superSpeedPlus
  deriving DecidableEq, Repr

/-- `Speed::to_string`. -/
def Speed.text : Speed → String
  | .unknown => "UNKNOWN"
  | .lowSpeed => "low-speed"
  | .fullSpeed => "full-speed"
  | .highSpeed => "high-speed"
  | .superSpeed => "super-speed"
  | .superSpeedPlus => "super-speed-plus"

/-- A function that was built: its driver, and a number that no other one has. -/
structure Handle where
  id : Nat
  driver : String
  deriving DecidableEq, Repr

/-- What is done inside a gadget's directory; paths are relative to it. -/
inductive Operation where
  | write (path : List String) (value : String)
  | createDir (path : List String)
  | createDirAll (path : List String)
  | symlink (target path : List String)
  /-- `Function::register`. -/
  | registerFunction (handle : Handle)
  /-- The controller's name is written to `UDC`. -/
  | bind (udc : Bytes)
  deriving DecidableEq, Repr

/-- What a build asks its surroundings. -/
inductive Query (Plugin : Type) where
  | resolveSerial (source : Option String)
  /-- `read_model`. -/
  | readModel
  | maxSpeed (udc : Bytes)
  /-- `MacAddr6::from_str`. -/
  | parseAddr (text : String)
  /-- `RegisteredFunctionConfig::build`. -/
  | buildPlugin (kind : String) (config : Plugin) (serial : String)
  | usbGadgetDir
  /-- `fs::create_dir` of a gadget's directory. -/
  | createGadget (name : Bytes)
  | operate (gadget : Bytes) (operation : Operation)
  /-- Whether the gadget's directory has `os_desc`. -/
  | osDescIsDir (gadget : Bytes)
  /-- `registered`, by the names of the gadgets. -/
  | registered
  /-- `RegGadget::remove`. -/
  | remove (gadget : Bytes)
  deriving DecidableEq

/-- The answers: an error is its text. A plugin names the driver of the function that it builds, if
it builds one, and the services that come with it. -/
def Query.Answer {Plugin : Type} (Service : Type) : Query Plugin → Type
  | .resolveSerial _ => Except String String
  | .readModel => Option String
  | .maxSpeed _ => Except String Speed
  | .parseAddr _ => Except String Unit
  | .buildPlugin _ _ _ => Except String (Option String × List Service)
  | .usbGadgetDir => Except String String
  | .createGadget _ => Except String Unit
  | .operate _ _ => Except String Unit
  | .osDescIsDir _ => Bool
  | .registered => Except String (List Bytes)
  | .remove _ => Except String Unit

/-- `NetOsDescriptor`. -/
structure NetOsDescriptor where
  function : Handle
  interface : String
  compatibleId : String
  subCompatibleId : Option String
  deriving DecidableEq, Repr

/-- `FunctionOutputs`, and the number of functions built so far. -/
structure FunctionOutputs (Service : Type) where
  netOs : List NetOsDescriptor
  services : List Service
  built : Nat

variable {Plugin Service : Type}

/-- A part of a build. -/
abbrev Build (Plugin Service α : Type) : Type :=
  Program (FunctionOutputs Service) (Query Plugin) (Query.Answer Service) α

open SummitUsbgadget.Lib.Program (act ask attempt update)

section Calls

variable (Plugin Service)

/-- `resolve_serial`. -/
def resolveSerial (source : Option String) : Build Plugin Service (Except String String) :=
  ask (Query.resolveSerial source)

/-- `read_model`. -/
def readModel : Build Plugin Service (Option String) := ask Query.readModel

/-- `Udc::max_speed`. -/
def maxSpeed (udc : Bytes) : Build Plugin Service (Except String Speed) := ask (Query.maxSpeed udc)

/-- `usb_gadget_dir`. -/
def usbGadgetDir : Build Plugin Service (Except String String) := ask Query.usbGadgetDir

/-- `registered`. -/
def registered : Build Plugin Service (Except String (List Bytes)) := ask Query.registered

end Calls

/-- `str::parse` of an address. -/
def parseAddr (text : String) : Build Plugin Service (Except String Unit) :=
  ask (Query.parseAddr text)

/-- `fs::create_dir` of a gadget's directory. -/
def createGadget (name : Bytes) : Build Plugin Service (Except String Unit) :=
  ask (Query.createGadget name)

def operate (gadget : Bytes) (operation : Operation) : Build Plugin Service (Except String Unit) :=
  ask (Query.operate gadget operation)

def osDescIsDir (gadget : Bytes) : Build Plugin Service Bool := ask (Query.osDescIsDir gadget)

/-- `RegGadget::remove`. -/
def remove (gadget : Bytes) : Build Plugin Service (Except String Unit) := ask (Query.remove gadget)

/-- `RegisteredFunctionConfig::build`. -/
def pluginBuild (kind : String) (config : Plugin) (serial : String) :
    Build Plugin Service (Except String (Option String × List Service)) :=
  ask (Query.buildPlugin kind config serial)

/-! ## Functions -/

/-- A new handle. -/
def newHandle (driver : String) : Build Plugin Service Handle :=
  act fun outputs => (⟨outputs.built, driver⟩, { outputs with built := outputs.built + 1 })

/-- `build_serial`. -/
def buildSerial (c : SerialConfig) : Build Plugin Service (Except String Handle) :=
  if c.serialClass = "acm" then .ok <$> newHandle "acm"
  else if c.serialClass = "generic" then .ok <$> newHandle "gser"
  else pure (.error ("unknown serial class: " ++ c.serialClass))

/-- `NetClass`. -/
inductive NetClass where
  | ecm
  | ecmSubset
  | eem
  | ncm
  | rndis
  deriving DecidableEq, Repr

namespace NetClass

/-- The class that the configuration names. -/
def ofConfig (text : String) : Except String NetClass :=
  if text = "ecm" then .ok .ecm
  else if text = "ecm_subset" then .ok .ecmSubset
  else if text = "eem" then .ok .eem
  else if text = "ncm" then .ok .ncm
  else if text = "rndis" then .ok .rndis
  else .error ("unknown net class: " ++ text)

/-- `NetClass::driver`. -/
def driver : NetClass → String
  | .ecm => "ecm"
  | .ecmSubset => "geth"
  | .eem => "eem"
  | .ncm => "ncm"
  | .rndis => "rndis"

/-- How `Debug` writes the class. -/
def debug : NetClass → String
  | .ecm => "Ecm"
  | .ecmSubset => "EcmSubset"
  | .eem => "Eem"
  | .ncm => "Ncm"
  | .rndis => "Rndis"

/-- The directory under `os_desc`, for the classes that have one. -/
def interface : NetClass → Option String
  | .ncm => some "ncm"
  | .rndis => some "rndis"
  | _ => none

end NetClass

/-- `remember_net_os_descriptor`. -/
def rememberNetOsDescriptor (netClass : NetClass) (net : Handle)
    (compatibleId subCompatibleId : Option String) : Build Plugin Service (Except String Unit) :=
  match compatibleId with
  | none =>
      if subCompatibleId.isSome then pure (.error "os_sub_compatible_id requires os_compatible_id")
      else pure (.ok ())
  | some compatibleId =>
      match netClass.interface with
      | none =>
          pure (.error ("os_compatible_id is only supported for ncm and rndis, got " ++
            netClass.debug))
      | some interface => do
          update fun outputs =>
            { outputs with
              netOs := outputs.netOs ++ [⟨net, interface, compatibleId, subCompatibleId⟩] }
          pure (.ok ())

/-- An address, if there is one, has to be one. -/
def parseOptionalAddr (what : String) :
    Option String → Build Plugin Service (Except String Unit)
  | none => pure (.ok ())
  | some addr => do
      let parsed ← parseAddr addr
      pure (parsed.mapError fun err => "bad " ++ what ++ ": " ++ err)

/-- `build_net`. -/
def buildNet (c : NetConfig) : Build Plugin Service (Except String Handle) :=
  match NetClass.ofConfig c.netClass with
  | .error err => pure (.error err)
  | .ok netClass =>
      attempt (parseOptionalAddr "dev_addr" c.devAddr) fun _ =>
        attempt (parseOptionalAddr "host_addr" c.hostAddr) fun _ => do
          let handle ← newHandle netClass.driver
          attempt (rememberNetOsDescriptor netClass handle c.osCompatibleId c.osSubCompatibleId)
            fun _ => pure (.ok handle)

/-- `Lun::new` takes only absolute paths. -/
def lunRefused (lun : LunConfig) : Bool :=
  lun.file.any fun file => file.toList.head? != some '/'

/-- `build_msd`. -/
def buildMsd (c : MsdConfig) : Build Plugin Service (Except String Handle) :=
  if c.lun.any lunRefused then pure (.error "the LUN file path must be absolute")
  else .ok <$> newHandle "mass_storage"

/-- What a plugin builds; its services go to the context. -/
def buildPlugin (kind : String) (config : Plugin) (serial : String) :
    Build Plugin Service (Except String (Option String)) :=
  attempt (pluginBuild kind config serial) fun (driver, services) => do
    update fun outputs => { outputs with services := outputs.services ++ services }
    pure (.ok driver)

/-- `build_function`. -/
def buildFunction (serial : String) :
    FunctionConfig Plugin → Build Plugin Service (Except String (Option Handle))
  | .serial c => attempt (buildSerial c) fun handle => pure (.ok (some handle))
  | .net c => attempt (buildNet c) fun handle => pure (.ok (some handle))
  | .msd c => attempt (buildMsd c) fun handle => pure (.ok (some handle))
  | .plugin kind config =>
      attempt (buildPlugin kind config serial) fun driver =>
        match driver with
        | none => pure (.ok none)
        | some driver => (fun handle => .ok (some handle)) <$> newHandle driver

/-- The functions of one configuration. -/
def buildFunctions (serial : String) :
    List (FunctionConfig Plugin) → Build Plugin Service (Except String (List Handle))
  | [] => pure (.ok [])
  | funcCfg :: rest =>
      attempt (buildFunction serial funcCfg) fun handle =>
        attempt (buildFunctions serial rest) fun handles => pure (.ok (handle.toList ++ handles))

/-! ## The gadget -/

/-- `Config` of `usb-gadget`. -/
structure Config where
  maxPower : UInt16
  selfPowered : Bool
  remoteWakeup : Bool
  description : String
  functions : List Handle
  deriving DecidableEq, Repr

/-- `OsDescriptor`. -/
structure OsDescriptor where
  vendorCode : UInt8
  qwSign : String
  config : Nat
  deriving DecidableEq, Repr

/-- `Gadget`, as far as a build sets it. -/
structure Gadget where
  name : String
  deviceClass : UInt8
  subClass : UInt8
  protocol : UInt8
  vendor : UInt16
  product : UInt16
  manufacturer : String
  productName : String
  serialNumber : String
  usbVersion : UInt16
  maxSpeed : Option Speed
  osDescriptor : Option OsDescriptor
  configs : List Config
  deriving DecidableEq, Repr

/-- `n` in hexadecimal notation with `width` digits. -/
def hex (width n : Nat) : String :=
  "0x" ++ String.ofList ((List.range width).reverse.map fun i => Nat.digitChar (n / 16 ^ i % 16))

/-- `hex_u8`. -/
def hexU8 (value : UInt8) : String := hex 2 value.toNat

/-- `hex_u16`. -/
def hexU16 (value : UInt16) : String := hex 4 value.toNat

example : hexU16 0x1d6b = "0x1d6b" := by decide +kernel

/-- `Language::default`. -/
def english : String := hexU16 0x0409

/-- The product name that the device configuration asks for. -/
def productResolve (device : DeviceConfig) : Build Plugin Service (Except String String) :=
  let source := device.productNameSource.getD
    (if device.productName.isSome then "custom" else "model")
  if source = "custom" then
    match device.productName.filter (· ≠ "") with
    | some name => pure (.ok name)
    | none =>
        pure (.error "product_name_source = \"custom\" requires a non-empty `product_name`")
  else if source = "model" then do
    let model ← readModel Plugin Service
    pure (.ok (model.getD ""))
  else pure (.error ("invalid product_name_source: " ++ source))

/-- The configurations of the gadget, with their functions. -/
def buildConfigs (serial : String) :
    List (UsbConfigConfig Plugin) → Build Plugin Service (Except String (List Config))
  | [] => pure (.ok [])
  | usbCfg :: rest =>
      attempt (buildFunctions serial usbCfg.function) fun functions =>
        attempt (buildConfigs serial rest) fun configs =>
          pure (.ok
            ({ maxPower := usbCfg.maxPower.getD 500
               selfPowered := usbCfg.selfPowered.getD false
               remoteWakeup := usbCfg.remoteWakeup.getD false
               description := usbCfg.description.getD ""
               functions := functions } :: configs))

/-- The OS descriptor: Microsoft's, with what the configuration overrides. -/
def OsDescriptorConfig.build (desc : OsDescriptorConfig) : OsDescriptor where
  vendorCode := desc.vendorCode.getD 0xf0
  qwSign := desc.qwSign.getD "MSFT100"
  config := desc.index

/-- The USB version and the speed limit for what the controller can do. -/
def speedFields : Except String Speed → UInt16 × Option Speed
  | .ok .superSpeed => (0x0300, some .superSpeed)
  | .ok .superSpeedPlus => (0x0310, some .superSpeedPlus)
  | .ok .unknown => (0x0200, none)
  | .error _ => (0x0200, none)
  | .ok speed => (0x0200, some speed)

/-- The first half of `build_on_udc_once`: the gadget is put together. -/
def buildGadget (cfg : GadgetConfig Plugin) (udc : Bytes) :
    Build Plugin Service (Except String Gadget) :=
  attempt (resolveSerial Plugin Service cfg.device.serialSource) fun serialNumber =>
    attempt (productResolve cfg.device) fun productName => do
      let (usbVersion, speed) := speedFields (← maxSpeed Plugin Service udc)
      if cfg.config.isEmpty then pure (.error "at least one [[config]] is required")
      else
        attempt (buildConfigs serialNumber cfg.config) fun configs =>
          pure (.ok
            { name := decodeLossy udc
              deviceClass := cfg.device.deviceClass.getD 0
              subClass := cfg.device.subClass.getD 0
              protocol := cfg.device.protocol.getD 0
              vendor := cfg.device.vendor
              product := cfg.device.product
              manufacturer := cfg.device.manufacturer.getD ""
              productName := productName
              serialNumber := serialNumber
              usbVersion := usbVersion
              maxSpeed := speed
              osDescriptor := cfg.osDescriptor.map OsDescriptorConfig.build
              configs := configs })

/-! ## Registration -/

namespace Gadget

/-- The attributes of the device. -/
def attributeOperations (g : Gadget) : List Operation :=
  [.write ["bDeviceClass"] (hexU8 g.deviceClass), .write ["bDeviceSubClass"] (hexU8 g.subClass),
    .write ["bDeviceProtocol"] (hexU8 g.protocol), .write ["idVendor"] (hexU16 g.vendor),
    .write ["idProduct"] (hexU16 g.product), .write ["bMaxPacketSize0"] (hexU8 64),
    .write ["bcdDevice"] (hexU16 0), .write ["bcdUSB"] (hexU16 g.usbVersion)] ++
  (g.maxSpeed.toList.map fun speed => .write ["max_speed"] speed.text) ++
  [.createDir ["strings", english], .write ["strings", english, "manufacturer"] g.manufacturer,
    .write ["strings", english, "product"] g.productName,
    .write ["strings", english, "serialnumber"] g.serialNumber]

/-- The functions of all configurations, each of them once. -/
def functions (g : Gadget) : List Handle :=
  (g.configs.flatMap Config.functions).foldl
    (fun functions func => if func ∈ functions then functions else functions ++ [func]) []

/-- `func_dirs`: the directory of each function. -/
def funcDirs (g : Gadget) : List (Handle × String) :=
  g.functions.zipIdx.map fun (func, idx) =>
    (func, func.driver ++ "." ++ g.name ++ "-" ++ toString idx)

/-- The directory of a function, under `functions`. -/
def funcDir (g : Gadget) (func : Handle) : Option (List String) :=
  (g.funcDirs.lookup func).map fun dir => ["functions", dir]

def functionOperations (g : Gadget) : List Operation :=
  g.funcDirs.flatMap fun (func, dir) => [.createDir ["functions", dir], .registerFunction func]

end Gadget

/-- `Config::register`, for the directory of a configuration. -/
def Config.operations (config : Config) (g : Gadget) (dir : List String) : List Operation :=
  let attributes : UInt8 :=
    0x80 ||| (if config.selfPowered then 0x40 else 0) ||| (if config.remoteWakeup then 0x20 else 0)
  [.createDir dir, .write (dir ++ ["bmAttributes"]) (hexU8 attributes),
    .write (dir ++ ["MaxPower"]) (toString config.maxPower.toNat),
    .createDir (dir ++ ["strings", english]),
    .write (dir ++ ["strings", english, "configuration"]) config.description] ++
  (config.functions.filterMap g.funcDir).map fun funcDir =>
    .symlink funcDir (dir ++ funcDir.getLast?.toList)

namespace Gadget

/-- The directories of the configurations. -/
def configDirs (g : Gadget) : List (List String) :=
  (List.range g.configs.length).map fun idx => ["configs", "c." ++ toString (idx + 1)]

def configOperations (g : Gadget) : List Operation :=
  (g.configs.zip g.configDirs).flatMap fun (config, dir) => config.operations g dir

end Gadget

/-- Operations in a gadget's directory, up to the first that fails. -/
def perform (gadget : Bytes) : List Operation → Build Plugin Service (Except String Unit)
  | [] => pure (.ok ())
  | operation :: rest => attempt (operate gadget operation) fun _ => perform gadget rest

/-- The end of `Gadget::register`: the OS descriptor is for one of the configurations. -/
def registerOsDescriptor (dir : Bytes) (configDirs : List (List String)) (osDesc : OsDescriptor) :
    Build Plugin Service (Except String Unit) := do
  if ← osDescIsDir dir then
    attempt (perform dir
      [.write ["os_desc", "b_vendor_code"] (hexU8 osDesc.vendorCode),
        .write ["os_desc", "qw_sign"] osDesc.qwSign, .write ["os_desc", "use"] "1"]) fun _ =>
      match configDirs[osDesc.config]? with
      | none => pure (.error "invalid configuration index in OS descriptor")
      | some configDir => operate dir (.symlink configDir ("os_desc" :: configDir.getLast?.toList))
  else pure (.ok ())

/-- `RegGadget`, with its path and the directories of its functions. -/
structure Registration where
  path : String
  name : String
  funcDir : Handle → Option (List String)

/-- The name of the gadget's directory. -/
def Registration.dir (reg : Registration) : Bytes := utf8Bytes reg.name

/-- `Gadget::register`. -/
def Gadget.register (g : Gadget) : Build Plugin Service (Except String Registration) :=
  if g.configs.isEmpty then pure (.error "USB gadget must have at least one configuration")
  else
    attempt (usbGadgetDir Plugin Service) fun base =>
      let dir := utf8Bytes g.name
      attempt (createGadget dir) fun _ =>
        attempt (perform dir (g.attributeOperations ++ g.functionOperations ++ g.configOperations))
          fun _ =>
            attempt (g.osDescriptor.elim (pure (.ok ())) (registerOsDescriptor dir g.configDirs))
              fun _ => pure (.ok ⟨base ++ "/" ++ g.name, g.name, g.funcDir⟩)

/-- `apply_net_os_descriptors`. -/
def applyNetOsDescriptors (reg : Registration) :
    List NetOsDescriptor → Build Plugin Service (Except String Unit)
  | [] => pure (.ok ())
  | descriptor :: rest =>
      match reg.funcDir descriptor.function with
      | none => pure (.error "network function directory not registered")
      | some functionDir =>
          let osDescDir := functionDir ++ ["os_desc", "interface." ++ descriptor.interface]
          attempt (perform reg.dir
            ([.createDirAll osDescDir,
              .write (osDescDir ++ ["compatible_id"]) descriptor.compatibleId] ++
              descriptor.subCompatibleId.toList.map fun sub =>
                .write (osDescDir ++ ["sub_compatible_id"]) sub)) fun _ =>
            applyNetOsDescriptors reg rest

/-! ## Cleaning up -/

/-- The error of a build that could not be cleaned up. -/
def notRemoved (err gadgetName cleanupErr : String) : String :=
  err ++ "; additionally failed to remove partially registered gadget " ++ gadgetName ++ ": " ++
    cleanupErr

/-- `cleanup_failed_registration`. A gadget that could not be removed is removed once more when its
handle is dropped. -/
def cleanupFailedRegistration (reg : Registration) (err : String) :
    Build Plugin Service String := do
  match ← remove reg.dir with
  | .ok () => pure err
  | .error cleanupErr =>
      let _ ← remove reg.dir
      pure (notRemoved err reg.name cleanupErr)

/-- `cleanup_failed_registration_by_name`. -/
def cleanupFailedRegistrationByName (name : Bytes) (err : String) :
    Build Plugin Service String := do
  match ← registered Plugin Service with
  | .error cleanupErr =>
      pure (err ++ "; additionally failed to enumerate registered gadgets while cleaning up " ++
        "partially registered gadget " ++ decodeLossy name ++ ": " ++ cleanupErr)
  | .ok gadgets =>
      match gadgets.find? (· == name) with
      | none => pure err
      | some gadget =>
          match ← remove gadget with
          | .ok () => pure err
          | .error cleanupErr => pure (notRemoved err (decodeLossy name) cleanupErr)

/-- A registered gadget whose setup fails is removed. -/
def orRemove (reg : Registration) (what : String)
    (setup : Build Plugin Service (Except String Unit)) :
    Build Plugin Service (Except String Unit) := do
  match ← setup with
  | .ok () => pure (.ok ())
  | .error err => .error <$> cleanupFailedRegistration reg (what ++ err)

/-- A gadget whose registration fails is looked for under the controller's name and removed. -/
def registerOrRemove (udc : Bytes) (g : Gadget) :
    Build Plugin Service (Except String Registration) := do
  match ← g.register with
  | .ok reg => pure (.ok reg)
  | .error err =>
      .error <$> cleanupFailedRegistrationByName udc
        ("failed to register gadget for UDC " ++ decodeLossy udc ++ " before bind: " ++ err)

/-- `build_on_udc_once`. -/
def buildOnUdcOnce (cfg : GadgetConfig Plugin) (udc : Bytes) :
    Build Plugin Service (Except String (RunningGadget Service)) := do
  update fun _ => ⟨[], [], 0⟩
  attempt (buildGadget cfg udc) fun gadget =>
    attempt (registerOrRemove udc gadget) fun reg => do
      let outputs ← Program.read id
      attempt (orRemove reg ("failed to finish gadget setup in configfs at " ++ reg.path ++ ": ")
        (applyNetOsDescriptors reg outputs.netOs)) fun _ =>
        attempt (orRemove reg ("failed to bind registered gadget at " ++ reg.path ++ " to UDC " ++
            decodeLossy udc ++ ": ") (operate reg.dir (.bind udc))) fun _ =>
          pure (.ok ⟨[], outputs.services, ⟨reg.name⟩⟩)

/-- `build_on_udc`. -/
def buildOnUdc (cfg : GadgetConfig Plugin) (udc : Bytes) :
    Build Plugin Service (Except String (RunningGadget Service)) := do
  match ← buildOnUdcOnce cfg udc with
  | .ok running => pure (.ok running)
  | .error err =>
      match configWithoutDfu cfg err with
      | none => pure (.error err)
      | some filtered =>
          let retried ← buildOnUdcOnce filtered udc
          pure (retried.mapError fun retryErr =>
            "retry without DFU after registration failure on UDC " ++ decodeLossy udc ++
              " also failed: " ++ retryErr)

end SummitUsbgadget.UsbGadget
