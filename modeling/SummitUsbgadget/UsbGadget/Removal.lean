import SummitUsbgadget.Lib.LinkTree
import SummitUsbgadget.UsbGadget.Build

/-!
# Removing a gadget

`RegGadget::remove` and `remove_at` of the `usb-gadget` crate: links first, then what they led to,
then the gadget's directory. A handler for the driver of a function goes before the directory of the
function; the one for FunctionFS unmounts, the one for mass storage removes what the function made
in its directory.

Here configfs is the tree of what was made in one gadget's directory, with the rules of the kernel
for it, and not the list of operations that a build looks at.
-/

set_option autoImplicit false

namespace SummitUsbgadget.UsbGadget.Removal

open SummitUsbgadget.Lib

/-! ## What is asked -/

inductive FileKind where
  | file
  | dir
  | symlink
  deriving DecidableEq, Repr

structure DirEntry where
  name : String
  kind : FileKind
  deriving DecidableEq, Repr

/-- A line of the table of mounts. -/
structure Mount where
  source : String
  dest : String
  fstype : String
  deriving DecidableEq, Repr

/-- Paths are relative to the gadget's directory. -/
inductive Query where
  /-- A line break is written to `UDC`. -/
  | unbind
  | readDir (path : List String)
  | removeFile (path : List String)
  | removeDir (path : List String)
  | mounts
  | umount (dest : String) (lazily : Bool)
  /-- `fs::remove_dir` of a mount point. -/
  | removeMountPoint (dest : String)
  deriving DecidableEq

@[reducible] def Query.Answer : Query → Type
  | .readDir _ => Except String (List DirEntry)
  | .mounts => Except String (List Mount)
  | _ => Except String Unit

/-! ## Functions -/

/-- `FunctionDirInner`. -/
structure FunctionDir where
  dir : Option (List String)
  dirWasSet : Bool
  bound : Bool
  deriving DecidableEq, Repr

namespace FunctionDir

/-- `State`. -/
inductive State where
  | unregistered
  | registered
  | bound
  | removed
  deriving DecidableEq, Repr

/-- `Status::state`. -/
def state (d : FunctionDir) : State :=
  match d.dir, d.dirWasSet, d.bound with
  | none, false, _ => .unregistered
  | none, true, _ => .removed
  | some _, _, false => .registered
  | some _, _, true => .bound

def setBound (bound : Bool) (d : FunctionDir) : FunctionDir := { d with bound := bound }

def resetDir (d : FunctionDir) : FunctionDir := { d with dir := none }

end FunctionDir

/-- `RegGadget`: its functions, and whether it is removed when it is dropped. -/
structure RegGadget where
  functions : List FunctionDir
  attached : Bool
  deriving DecidableEq, Repr

abbrev Remove (α : Type) : Type := Program RegGadget Query Query.Answer α

open SummitUsbgadget.Lib.Program (ask attempt update forEach)

section Calls

def readDir (path : List String) : Remove (Except String (List DirEntry)) :=
  ask (Query.readDir path)

def removeFile (path : List String) : Remove (Except String Unit) := ask (Query.removeFile path)

def removeDir (path : List String) : Remove (Except String Unit) := ask (Query.removeDir path)

def umount (dest : String) (lazily : Bool) : Remove (Except String Unit) :=
  ask (Query.umount dest lazily)

end Calls

/-! ## Handlers -/

/-- `split_function_dir`: the driver, and the instance behind the first dot. -/
def splitFunctionDir (name : String) : Option (String × String) :=
  match name.toList.dropWhile (· != '.') with
  | [] => none
  | _ :: rest => some (String.ofList (name.toList.takeWhile (· != '.')), String.ofList rest)

/-- `default_ffs_dir`. -/
def defaultFfsDir (name : String) : String := "/dev/ffs-" ++ name

/-- The second attempt, if the first has failed. -/
def umountLazily (dest : String) : Except String Unit → Remove (Except String Unit)
  | .ok () => pure (.ok ())
  | .error _ => umount dest true

/-- A mount of FunctionFS is unmounted, lazily if there is no other way. -/
def unmount (name : String) (mount : Mount) : Remove (Except String Unit) :=
  if mount.fstype = "functionfs" ∧ mount.source = name then do
    let first ← umount mount.dest false
    attempt (umountLazily mount.dest first) fun _ =>
      if mount.dest = defaultFfsDir name then do
        let _ ← ask (.removeMountPoint mount.dest)
        pure (.ok ())
      else pure (.ok ())
  else pure (.ok ())

/-- `custom::remove_handler`. -/
def customRemoveHandler (name : String) : Remove (Except String Unit) :=
  attempt (ask Query.mounts) fun mounts => forEach (unmount name) mounts

/-- A logical unit that the function has made; the first one is there by itself. -/
def DirEntry.isLun (entry : DirEntry) : Bool :=
  entry.kind == .dir && entry.name.toList.contains '.' && entry.name != "lun.0"

/-- A loop over a directory. -/
def forEntries (path : List String) (body : DirEntry → Remove (Except String Unit)) :
    Remove (Except String Unit) :=
  attempt (readDir path) fun entries => forEach body entries

/-- `msd::remove_handler`. -/
def msdRemoveHandler (name : String) : Remove (Except String Unit) :=
  forEntries ["functions", name] fun entry =>
    if entry.isLun then removeDir ["functions", name, entry.name] else pure (.ok ())

/-- `call_remove_handler`, for the drivers of the functions that are built here. -/
def callRemoveHandler (name : String) : Remove (Except String Unit) :=
  match splitFunctionDir name with
  | none => pure (.error "invalid function directory")
  | some (driver, rest) =>
      if driver = "ffs" then customRemoveHandler rest
      else if driver = "mass_storage" then msdRemoveHandler name
      else pure (.ok ())

/-! ## The gadget -/

def removeLink (path : List String) (entry : DirEntry) : Remove (Except String Unit) :=
  if entry.kind = .symlink then removeFile (path ++ [entry.name]) else pure (.ok ())

def removeLang (path : List String) (entry : DirEntry) : Remove (Except String Unit) :=
  if entry.kind = .dir then removeDir (path ++ [entry.name]) else pure (.ok ())

/-- A configuration: the links to its functions, its strings and its directory. -/
def removeConfig (entry : DirEntry) : Remove (Except String Unit) :=
  if entry.kind = .dir then
    attempt (forEntries ["configs", entry.name] (removeLink ["configs", entry.name])) fun _ =>
      attempt (forEntries ["configs", entry.name, "strings"]
        (removeLang ["configs", entry.name, "strings"])) fun _ => removeDir ["configs", entry.name]
  else pure (.ok ())

def removeFunction (entry : DirEntry) : Remove (Except String Unit) :=
  if entry.kind = .dir then
    attempt (callRemoveHandler entry.name) fun _ => removeDir ["functions", entry.name]
  else pure (.ok ())

/-- The link of the OS descriptor; it is fine if the kernel has none. -/
def removeOsDescLinks : Remove (Except String Unit) := do
  match ← readDir ["os_desc"] with
  | .error _ => pure (.ok ())
  | .ok entries => forEach (removeLink ["os_desc"]) entries

/-- `remove_at`. -/
def removeAt : Remove (Except String Unit) := do
  let _ ← ask .unbind
  attempt removeOsDescLinks fun _ =>
    attempt (forEntries ["configs"] removeConfig) fun _ =>
      attempt (forEntries ["functions"] removeFunction) fun _ =>
        attempt (forEntries ["strings"] (removeLang ["strings"])) fun _ => removeDir []

def updateFunctions (f : FunctionDir → FunctionDir) : Remove Unit :=
  update fun g => { g with functions := g.functions.map f }

/-- `RegGadget::do_remove`. What a function does before and after, to its own files, cannot fail. -/
def doRemove : Remove (Except String Unit) := do
  updateFunctions (.setBound false)
  attempt removeAt fun _ => do
    updateFunctions .resetDir
    update fun g => { g with attached := false }
    pure (.ok ())

/-- `Drop for RegGadget`. -/
def dropGadget : Remove Unit := do
  if ← Program.read fun g => g.attached then do
    let _ ← doRemove
    pure ()
  else pure ()

/-- `RegGadget::remove`; the gadget is dropped at its end. -/
def RegGadget.remove : Remove (Except String Unit) := do
  let removed ← doRemove
  dropGadget
  pure removed

/-! ## The kernel -/

abbrev Tree := LinkTree String

/-- The text of an error of the kernel. -/
def refusalText : LinkTree.Refusal → String
  | .notFound => "No such file or directory (os error 2)"
  | .notEmpty => "Directory not empty (os error 39)"
  | .busy => "Device or resource busy (os error 16)"

def nodeKind : Node String → FileKind
  | .dir => .dir
  | .link _ => .symlink

/-- The driver of a function, by the name of its directory. -/
def driver (name : String) : Option String := (splitFunctionDir name).map Prod.fst

/-- The directories that the kernel makes by itself in those that are made. -/
def groups : List String → List String
  | ["configs", _] => ["strings"]
  | ["functions", name] => if driver name = some "mass_storage" then ["lun.0"] else []
  | _ => []

/-- A kernel: whether it has OS descriptors, the attributes in a directory, the order in which it
lists one, and the answers of all that is outside of configfs. -/
structure Host where
  osDesc : Bool
  attributes : List String → List String
  reads : Nat
  order : Nat → List DirEntry → List DirEntry
  order_perm : ∀ n entries, (order n entries).Perm entries
  outside : Oracle Query Query.Answer

/-- The kernel, and what was made in the gadget's directory. -/
structure Surroundings extends Host where
  tree : Tree

/-- The directory that a path comes with; some are there by themselves. -/
def home : List String → List String
  | ["os_desc"] => []
  | ["configs"] => []
  | ["functions"] => []
  | ["strings"] => []
  | ["configs", config, "strings"] => ["configs", config]
  | path => path

def isDir (osDesc : Bool) (tree : Tree) (path : List String) : Bool :=
  (osDesc || path != ["os_desc"]) && tree.lookup (home path) == some .dir

/-- What is in a directory. -/
def listing (attributes : List String → List String) (tree : Tree) (path : List String) :
    List DirEntry :=
  ((LinkTree.children path tree).map fun child => ⟨child.1, nodeKind child.2⟩) ++
    (((groups path).map fun name => ⟨name, .dir⟩) ++ (attributes path).map fun name =>
      ⟨name, .file⟩)

namespace Surroundings

/-- The answer from outside that comes next. -/
def next (e : Surroundings) (q : Query) : q.Answer × Surroundings :=
  (e.outside 0 q, { e with outside := e.outside.rest })

/-- A directory or a link is removed if the kernel lets it. -/
def change (e : Surroundings) (r : Except LinkTree.Refusal Tree) :
    Except String Unit × Surroundings :=
  match r with
  | .ok tree => (.ok (), { e with tree := tree })
  | .error refusal => (.error (refusalText refusal), e)

end Surroundings

def configfs : Handler Surroundings Query Query.Answer
  | e, .readDir path =>
      if isDir e.osDesc e.tree path then
        (.ok (e.order e.reads (listing e.attributes e.tree path)), { e with reads := e.reads + 1 })
      else (.error (refusalText .notFound), e)
  | e, .removeFile path => e.change (LinkTree.unlink path e.tree)
  | e, .removeDir path => e.change (LinkTree.rmdir path e.tree)
  | e, .unbind => e.next .unbind
  | e, .mounts => e.next .mounts
  | e, .umount dest lazily => e.next (.umount dest lazily)
  | e, .removeMountPoint dest => e.next (.removeMountPoint dest)

end SummitUsbgadget.UsbGadget.Removal
