import Mathlib.Data.Finset.Basic
import Mathlib.Data.List.Sort
import SummitUsbgadget.Base
import SummitUsbgadget.Lib.Machine

/-!
# The gadget server

`serve_until` of `gadget.rs` and the selection of controllers of `udc.rs`. The server binds a gadget
to every controller that the configuration selects: first to those that udev enumerates, then to
those that the udev monitor reports. It keeps the gadgets in a list and the names of their
controllers in a set.

The names of controllers are valid UTF-8 and so are strings. Building a gadget is up to the kernel
and to the configuration: `build n name` is how the server's `n`-th build, on the controller `name`,
comes out.
-/

set_option autoImplicit false

namespace SummitUsbgadget.UsbGadget

/-! ## Selection -/

/-- `UdcSelector`. -/
inductive UdcSelector where
  | one (s : String)
  | many (v : List String)
  deriving DecidableEq, Repr

/-- `Selection`. -/
inductive Selection where
  | first
  | all
  | named (names : Finset String)
  deriving DecidableEq

/-- `str::eq_ignore_ascii_case`. -/
def eqIgnoreAsciiCase (s t : String) : Bool :=
  s.toList.map Char.toLower == t.toList.map Char.toLower

/-- `is_all`. -/
def isAll (s : String) : Bool := eqIgnoreAsciiCase s "all" || s == "*"

/-- `is_first`. -/
def isFirst (s : String) : Bool := eqIgnoreAsciiCase s "first"

namespace Selection

/-- `Selection::from_config`. -/
def fromConfig : Option UdcSelector → Selection
  | none => .all
  | some (.one s) =>
      if isAll s then .all
      else if isFirst s then .first
      else .named {s}
  | some (.many v) =>
      if v.any isAll then .all
      else if v.any isFirst then .first
      else .named v.toFinset

/-- `Selection::wants`. -/
def wants (selection : Selection) (name : String) (bound : Finset String) : Bool :=
  if name ∈ bound then false
  else
    match selection with
    | .first => decide (bound = ∅)
    | .all => true
    | .named names => decide (name ∈ names)

end Selection

/-! ## Gadgets -/

/-- A service that was spawned as a task, with the controller name that it was given. -/
structure Task (Service : Type) where
  service : Service
  udcName : String
  deriving DecidableEq, Repr

/-- `RegGadget`, of which the server reads the name. -/
structure RegGadget where
  name : String
  deriving DecidableEq, Repr

/-- `RunningGadget`. -/
structure RunningGadget (Service : Type) where
  tasks : List (Task Service)
  services : List Service
  reg : RegGadget
  deriving DecidableEq, Repr

namespace RunningGadget

variable {Service : Type}

/-- `RunningGadget::udc_name`. -/
def udcName (running : RunningGadget Service) : String := running.reg.name

/-- `RunningGadget::start_services`. -/
def startServices (udcName : String) (running : RunningGadget Service) : RunningGadget Service :=
  { running with
    tasks := running.tasks ++ running.services.map fun service => ⟨service, udcName⟩
    services := [] }

end RunningGadget

/-- How the task that builds a gadget comes out. -/
inductive BuildOutcome (Service : Type) where
  /-- The task panicked. -/
  | panicked
  /-- `udc::by_name` does not find the controller any more. -/
  | vanished
  /-- `build_on_udc` fails. -/
  | failed (err : String)
  | built (running : RunningGadget Service)
  deriving DecidableEq, Repr

/-! ## The server -/

/-- The variables of `serve_until`. Beside them stand the number of builds so far and the gadgets
that were shut down. -/
structure Server (Service : Type) where
  bound : Finset String
  gadgets : List (RunningGadget Service)
  builds : Nat
  ended : List (RunningGadget Service)
  deriving DecidableEq

/-- `tokio_udev::EventType`. -/
inductive EventType where
  | add
  | change
  | remove
  | bind
  | unbind
  | unknown
  deriving DecidableEq, Repr

/-- What the server reads of a `tokio_udev::Event`. -/
structure Event where
  sysname : String
  eventType : EventType
  deriving DecidableEq, Repr

/-- `udc_name_from_event`. -/
def udcNameFromEvent (event : Event) : Option (String × EventType) :=
  match event.eventType with
  | .add => some (event.sysname, .add)
  | .remove => some (event.sysname, .remove)
  | _ => none

/-- `udc::existing`, with what `enumerate` returns. -/
def existing (enumerated : Except IoError (List String)) : List String :=
  match enumerated with
  | .ok names => names.insertionSort fun a b => a ≤ b
  | .error _ => []

namespace Server

variable {Service : Type}

/-- The variables at the start. -/
def new : Server Service := ⟨∅, [], 0, []⟩

/-- `RunningGadget::shutdown`. -/
def shutdown (running : RunningGadget Service) (s : Server Service) : Server Service :=
  { s with ended := s.ended ++ [running] }

/-- `shutdown_all`. -/
def shutdownAll (s : Server Service) : Server Service :=
  s.gadgets.foldl (fun s running => s.shutdown running) { s with gadgets := [] }

/-- `unbind_one`. -/
def unbindOne (name : String) (s : Server Service) : Server Service :=
  if name ∈ s.bound then
    let s := { s with bound := s.bound.erase name }
    match s.gadgets.find? fun gadget => gadget.udcName = name with
    | none => s
    | some gadget =>
        shutdown gadget { s with gadgets := s.gadgets.eraseP fun gadget => gadget.udcName = name }
  else s

section Build

variable (selection : Selection) (build : Nat → String → BuildOutcome Service)

/-- `bind_one`. -/
def bindOne (name : String) (s : Server Service) : Server Service :=
  if selection.wants name s.bound then
    match build s.builds name with
    | .built running =>
        { s with
          bound := insert name s.bound
          gadgets := s.gadgets ++ [running.startServices name]
          builds := s.builds + 1 }
    | _ => { s with builds := s.builds + 1 }
  else s

/-- `bind_existing`. -/
def bindExisting (enumerated : Except IoError (List String)) (s : Server Service) :
    Server Service :=
  (existing enumerated).foldl (fun s name => s.bindOne selection build name) s

/-- A turn of the loop, with what the monitor yields. -/
def handle (s : Server Service) (item : Except IoError Event) : Server Service :=
  match item with
  | .error _ => s
  | .ok event =>
      match udcNameFromEvent event with
      | some (name, .add) => s.bindOne selection build name
      | some (name, .remove) => s.unbindOne name
      | _ => s

/-- The state in which the loop waits, after the items that the monitor has yielded. -/
def serving (enumerated : Except IoError (List String)) (items : List (Except IoError Event)) :
    Server Service :=
  Lib.run (handle selection build) (new.bindExisting selection build enumerated) items

end Build

end Server

/-- `reset`, with the result of the task that removes all gadgets. -/
def reset : Except String (Except IoError Unit) → Except String Unit
  | .ok (.ok ()) => .ok ()
  | .ok (.error err) => if err.kind = .notFound then .ok () else .error err.text
  | .error joinErr => .error ("gadget reset task panicked: " ++ joinErr)

/-- `serve_until`, with the state that it leaves. The monitor yields the items before the shutdown
is requested, or before it ends. -/
def serveUntil {Service : Type} (build : Nat → String → BuildOutcome Service)
    (udc : Option UdcSelector) (removed : Except String (Except IoError Unit))
    (monitor : Except IoError (List (Except IoError Event)))
    (enumerated : Except IoError (List String)) : Except String (Server Service) :=
  match reset removed with
  | .error err => .error err
  | .ok () =>
      match monitor with
      | .error err => .error err.text
      | .ok items =>
          .ok (Server.serving (Selection.fromConfig udc) build enumerated items).shutdownAll

end SummitUsbgadget.UsbGadget
