import SummitUsbgadget.Lib.Search
import SummitUsbgadget.UsbGadget.Server

/-!
# The gadget's configuration

The types of `config.rs`, and `config_without_dfu` of `gadget.rs`: the configuration that a gadget
is built from again if FunctionFS is not there for its DFU function. A function of a plugin is known
to the gadget by its kind; what else the plugin has configured is a type of its own.
-/

set_option autoImplicit false

namespace SummitUsbgadget.UsbGadget

open SummitUsbgadget.Lib

/-- `OsDescriptorConfig`. -/
structure OsDescriptorConfig where
  vendorCode : Option UInt8
  qwSign : Option String
  config : Option Nat
  deriving DecidableEq, Repr

/-- `DeviceConfig`. -/
structure DeviceConfig where
  vendor : UInt16
  product : UInt16
  deviceClass : Option UInt8
  subClass : Option UInt8
  protocol : Option UInt8
  manufacturer : Option String
  productName : Option String
  productNameSource : Option String
  serial : Option String
  serialSource : Option String
  deriving DecidableEq, Repr

/-- `SerialConfig`. -/
structure SerialConfig where
  serialClass : String
  console : Option Bool
  deriving DecidableEq, Repr

/-- `NetConfig`. -/
structure NetConfig where
  netClass : String
  devAddr : Option String
  hostAddr : Option String
  qmult : Option UInt32
  osCompatibleId : Option String
  osSubCompatibleId : Option String
  interfaceClass : Option UInt8
  interfaceSubClass : Option UInt8
  interfaceProtocol : Option UInt8
  deriving DecidableEq, Repr

/-- `LunConfig`. -/
structure LunConfig where
  file : Option String
  readOnly : Option Bool
  cdrom : Option Bool
  noFua : Option Bool
  removable : Option Bool
  inquiryString : Option String
  deriving DecidableEq, Repr

/-- `MsdConfig`. -/
structure MsdConfig where
  stall : Option Bool
  lun : List LunConfig
  deriving DecidableEq, Repr

/-- `FunctionConfig`. -/
inductive FunctionConfig (Plugin : Type) where
  | serial (config : SerialConfig)
  | net (config : NetConfig)
  | msd (config : MsdConfig)
  | plugin (kind : String) (config : Plugin)
  deriving DecidableEq, Repr

/-- `UsbConfigConfig`. -/
structure UsbConfigConfig (Plugin : Type) where
  description : Option String
  maxPower : Option UInt16
  selfPowered : Option Bool
  remoteWakeup : Option Bool
  function : List (FunctionConfig Plugin)
  deriving DecidableEq, Repr

/-- `GadgetConfig`. -/
structure GadgetConfig (Plugin : Type) where
  name : Option String
  udc : Option UdcSelector
  osDescriptor : Option OsDescriptorConfig
  device : DeviceConfig
  config : List (UsbConfigConfig Plugin)
  deriving DecidableEq, Repr

variable {Plugin : Type}

/-- `FunctionConfig::kind`. -/
def FunctionConfig.kind : FunctionConfig Plugin → String
  | .serial _ => "serial"
  | .net _ => "net"
  | .msd _ => "msd"
  | .plugin kind _ => kind

/-- The index that the gadget's OS descriptor gets: `OsDescriptor::microsoft` has 0, and the
configuration may set another one. -/
def OsDescriptorConfig.index (desc : OsDescriptorConfig) : Nat := desc.config.getD 0

/-- The closure that `config_without_dfu` gives to `retain`. -/
def UsbConfigConfig.withoutDfu (usbCfg : UsbConfigConfig Plugin) : UsbConfigConfig Plugin :=
  { usbCfg with function := usbCfg.function.filter fun function => function.kind != "dfu" }

/-- The loop of `retain_mut`, with the flag that it sets: the configurations that are left. -/
def retainMut (removedDfu : Bool) :
    List (UsbConfigConfig Plugin) → List (UsbConfigConfig Plugin) × Bool
  | [] => ([], removedDfu)
  | usbCfg :: rest =>
      let originalLen := usbCfg.function.length
      let usbCfg := usbCfg.withoutDfu
      let (kept, removed) := retainMut (removedDfu || usbCfg.function.length != originalLen) rest
      if usbCfg.function.isEmpty then (kept, removed) else (usbCfg :: kept, removed)

/-- `config_without_dfu`. -/
def configWithoutDfu (cfg : GadgetConfig Plugin) (err : String) : Option (GadgetConfig Plugin) :=
  if !contains "FunctionFS".toList err.toList then none
  else
    let (config, removedDfu) := retainMut false cfg.config
    if removedDfu && !config.isEmpty then some { cfg with config := config } else none

/-! ## Which functions and configurations are left -/

/-- A function of the kind that is removed. -/
def FunctionConfig.isDfu (function : FunctionConfig Plugin) : Bool := function.kind == "dfu"

/-- A configuration with a function that is not removed. -/
def UsbConfigConfig.remains (usbCfg : UsbConfigConfig Plugin) : Bool :=
  usbCfg.function.any fun function => !function.isDfu

theorem withoutDfu_isEmpty (usbCfg : UsbConfigConfig Plugin) :
    usbCfg.withoutDfu.function.isEmpty = !usbCfg.remains := by
  rw [Bool.eq_iff_iff, List.isEmpty_iff, UsbConfigConfig.withoutDfu, List.filter_eq_nil_iff]
  simp [UsbConfigConfig.remains, FunctionConfig.isDfu]

/-- The length tells whether a function was removed. -/
theorem withoutDfu_length_ne (usbCfg : UsbConfigConfig Plugin) :
    (usbCfg.withoutDfu.function.length != usbCfg.function.length) =
      usbCfg.function.any FunctionConfig.isDfu := by
  rw [Bool.eq_iff_iff, bne_iff_ne, ne_eq, UsbConfigConfig.withoutDfu,
    List.length_filter_eq_length_iff, List.any_eq_true]
  simp [FunctionConfig.isDfu]

theorem retainMut_eq (removedDfu : Bool) (cs : List (UsbConfigConfig Plugin)) :
    retainMut removedDfu cs =
      ((cs.filter UsbConfigConfig.remains).map UsbConfigConfig.withoutDfu,
        removedDfu || cs.any fun c => c.function.any FunctionConfig.isDfu) := by
  induction cs generalizing removedDfu with
  | nil => rw [retainMut, List.any_nil, Bool.or_false]; rfl
  | cons c cs ih =>
      rw [retainMut, withoutDfu_length_ne, ih, List.any_cons, Bool.or_assoc, withoutDfu_isEmpty]
      cases hremains : c.remains with
      | true => rw [List.filter_cons_of_pos hremains]; rfl
      | false => rw [List.filter_cons_of_neg (by rw [hremains]; decide)]; rfl

end SummitUsbgadget.UsbGadget
