import SummitUsbgadget.Swupdate.Pipeline
import SummitUsbgadget.DfuFunction.Step

/-!
# The handler with the tasks of its session

`Dfu.step` is told what it sees of the session's surroundings. Here the surroundings are there: the
handler runs beside the transfers of its session, and what a request sees of the queue and of the
status task is what they are at that moment. The tasks move between requests and also between the
three looks of one request, so an input list is a run of the handler under one schedule of the
drain, of the status task and of the backend.

A session that is replaced leaves its tasks behind; the device follows the session it has.
-/

set_option autoImplicit false

namespace SummitUsbgadget.DfuFunction

open SummitUsbgadget.Swupdate

/-- The handler and the transfers of its session, by their number. -/
structure Device where
  dfu : Dfu
  transfers : Nat → Transfer

namespace Device

/-- Steps of the tasks, each with the number of its transfer. -/
abbrev Tasks : Type := List (Nat × Transfer.Event)

/-- What happens next: a step of a task, or an event of the endpoint-zero loop. Of `around` the
restart flag and the boot information count; the tasks named with an event run between its looks. -/
inductive Input where
  | task (k : Nat) (e : Transfer.Event)
  | event (e : Event) (around : Moments) (beforeVerdict beforeSubmit : Tasks)

/-- A handler whose session is new: no transfer has been spawned. -/
def fresh (d : Dfu) : Device := ⟨d, fun _ => .spawn (queueCapacity d.sink.maxBlockSize)⟩

def new (config : DfuConfig) : Device := fresh (.new config)

/-- The session with its transfers. -/
def pipeline (w : Device) : Pipeline := ⟨w.dfu.sink, w.transfers⟩

def task (w : Device) (k : Nat) (e : Transfer.Event) : Device :=
  { w with transfers := (w.pipeline.backend k e).transfers }

def tasks (w : Device) (es : Tasks) : Device := es.foldl (fun w i => w.task i.1 i.2) w

/-- The device once a part of a request has left the handler as `d`: the queues get what the session
was fed meanwhile, and a session that was replaced has its own. -/
def become (w : Device) (d : Dfu) : Device :=
  if d.retired.length = w.dfu.retired.length then
    ⟨d, (w.dfu.sink.since d.sink).foldl Pipeline.absorb w.transfers⟩
  else fresh d

/-- The device after the push of the held block. -/
def pushed (w : Device) (around : Moments) : Device :=
  w.become (w.dfu.pushPending (w.pipeline.view around.push)).2

/-- What a request that polls sees. The third look is at what the poll and the tasks before it have
left; the poll itself makes the first two only. -/
def looks (w : Device) (around : Moments) (beforeVerdict : Tasks) : View × View :=
  (w.pipeline.view around.push,
    ((w.pushed around).tasks beforeVerdict).pipeline.view around.verdict)

/-- The device after the poll and the tasks that run before the request goes on. -/
def polled (w : Device) (around : Moments) (beforeVerdict beforeSubmit : Tasks) : Device :=
  let (push, verdict) := w.looks around beforeVerdict
  (((w.pushed around).tasks beforeVerdict).become
    (w.dfu.poll ⟨push, verdict, verdict⟩).2).tasks beforeSubmit

/-- All three looks of a request. -/
def moments (w : Device) (around : Moments) (beforeVerdict beforeSubmit : Tasks) : Moments :=
  let (push, verdict) := w.looks around beforeVerdict
  ⟨push, verdict, (w.polled around beforeVerdict beforeSubmit).pipeline.view around.submit⟩

/-- An event of the endpoint-zero loop. -/
def event (w : Device) (e : Event) (around : Moments) (beforeVerdict beforeSubmit : Tasks) :
    Device :=
  if e.polls then
    (w.polled around beforeVerdict beforeSubmit).become
      (w.dfu.step ⟨e, w.moments around beforeVerdict beforeSubmit⟩)
  else w.become (w.dfu.step ⟨e, around⟩)

def step (w : Device) : Input → Device
  | .task k e => w.task k e
  | .event e around beforeVerdict beforeSubmit => w.event e around beforeVerdict beforeSubmit

/-- The blocks in the queues of the session. A receiver that is gone took its queue with it. -/
def queued (w : Device) : List Bytes :=
  (List.range w.dfu.sink.spawns).flatMap fun k =>
    if (w.transfers k).drain.receiverOpen then (w.transfers k).queue.items else []

/-- The bytes in the session's queue, in `pending` and in `download_tail`. -/
def heldBytes (w : Device) : Nat :=
  w.queued.flatten.length + (w.dfu.pending.getD []).length + w.dfu.downloadTail.length

end Device

end SummitUsbgadget.DfuFunction
