import SummitUsbgadget.Swupdate.Verdict
import SummitUsbgadget.Fastboot.Proto

/-!
# The fastboot device

What a host talks to, whatever the transport: a device that carries out one request after the other
and knows, of its session, only whether a transfer is open. `Device.step` is the specification that
both transports follow; a request comes with what it meets, and a transfer with the verdict that
SWUpdate will give. `Mirrors` connects the device to a session: `Mirrors.openSession`,
`Mirrors.tryFinished`, `Mirrors.offer` and `exec_finished_awaits` say what the calls of a transport
do to it.
-/

set_option autoImplicit false

namespace SummitUsbgadget.Fastboot

open SummitUsbgadget.Lib
open SummitUsbgadget.Lib.Program
open SummitUsbgadget.Swupdate

/-- The device between two requests. An open transfer stands for its verdict. -/
structure Device where
  serial : Bytes
  transfer : Option Joined
  fastbootUsbSessionOpen : Bool
  fastbootPendingFlash : Bool
  sent : List Bytes

/-- A command, and what it meets: the restart flag, the verdict of the transfer that it may open,
and the system information. -/
structure Request where
  command : Bytes
  restartPending : Bool
  outcome : Joined
  info : SystemInfo

namespace Device

def new (serial : Bytes) : Device := ⟨serial, none, false, false, []⟩

def reply (data : List Bytes) (d : Device) : Device := { d with sent := d.sent ++ data }

/-- The device with a transfer; `none` if it must not open one. -/
def begun (r : Request) (d : Device) : Option Device :=
  if d.transfer.isSome then some d
  else if r.restartPending then none
  else some { d with transfer := some r.outcome }

/-- Beginning changes nothing but the transfer, which is then the one of the device or a new one. -/
theorem begun_some {r : Request} {d d' : Device} (h : d.begun r = some d') :
    d' = { d with transfer := some (d.transfer.getD r.outcome) } := by
  unfold begun at h
  cases htransfer : d.transfer with
  | some outcome =>
      rw [if_pos (by simp [htransfer])] at h
      rw [← Option.some.inj h, Option.getD_some, ← htransfer]
  | none =>
      rw [if_neg (by simp [htransfer])] at h
      split at h
      · cases h
      · exact (Option.some.inj h).symm

theorem begun_of_transfer {d : Device} (h : d.transfer.isSome) (r : Request) : d.begun r = some d :=
  if_pos h

/-- The reply to a finish. -/
def verdictReply : Joined → Bytes
  | .done (.ok ()) => Reply.okay
  | _ => Reply.failClose

/-- The transfer is closed and its verdict reported. -/
def finish (d : Device) : Device :=
  match d.transfer with
  | none => { d with fastbootPendingFlash := false }.reply [Reply.failClose]
  | some outcome =>
      { d with
        transfer := none
        fastbootUsbSessionOpen := false
        fastbootPendingFlash := false }.reply [verdictReply outcome]

theorem finish_of_none {d : Device} (h : d.transfer = none) :
    d.finish = { d with fastbootPendingFlash := false }.reply [Reply.failClose] := by
  simp [finish, h]

theorem finish_of_some {d : Device} {outcome : Joined} (h : d.transfer = some outcome) :
    d.finish =
      { d with
        transfer := none
        fastbootUsbSessionOpen := false
        fastbootPendingFlash := false }.reply [verdictReply outcome] := by
  simp [finish, h]

def carryOut (r : Request) (d : Device) : ParsedCommand → Device
  | .wOpen =>
      match d.begun r with
      | none => d.reply [Reply.failOpen]
      | some d =>
          { d with
            fastbootUsbSessionOpen := true
            fastbootPendingFlash := false }.reply [Reply.okay]
  | .getVar arg => d.reply [(fastbootGetvarReply arg d.serial r.info).getD Reply.failCmd]
  | .fetch _ => d.reply [dataHeader r.info.json.length, r.info.json, Reply.okay]
  | .fetchUnknownPart => d.reply [Reply.failUnknownPart]
  | .download len kind =>
      match d.begun r with
      | none => d.reply [Reply.failOpen]
      | some d =>
          { d with fastbootPendingFlash := fastbootDownload kind d.fastbootUsbSessionOpen }.reply
            [dataHeader len, Reply.okay]
  | .flash =>
      if d.fastbootPendingFlash then (d.reply [Reply.infoWaitSwupdate]).finish
      else d.reply [Reply.failFlash]
  | .close => d.finish
  | .unsupported => d.reply [Reply.failCmd]

section CarryOut

variable {r : Request} {d d' : Device}

theorem carryOut_wOpen_refused (h : d.begun r = none) :
    d.carryOut r .wOpen = d.reply [Reply.failOpen] := by
  simp [carryOut, h]

theorem carryOut_wOpen (h : d.begun r = some d') :
    d.carryOut r .wOpen =
      { d' with fastbootUsbSessionOpen := true, fastbootPendingFlash := false }.reply
        [Reply.okay] := by
  simp [carryOut, h]

theorem carryOut_download_refused (h : d.begun r = none) (len : Nat) (kind : DownloadKind) :
    d.carryOut r (.download len kind) = d.reply [Reply.failOpen] := by
  simp [carryOut, h]

theorem carryOut_download (h : d.begun r = some d') (len : Nat) (kind : DownloadKind) :
    d.carryOut r (.download len kind) =
      ({ d'.reply [dataHeader len] with
          fastbootPendingFlash := fastbootDownload kind d'.fastbootUsbSessionOpen }.reply
        [Reply.okay]) := by
  simp [carryOut, h, reply]

theorem carryOut_flash_refused (h : d.fastbootPendingFlash = false) :
    d.carryOut r .flash = d.reply [Reply.failFlash] := by
  simp [carryOut, h]

theorem carryOut_flash (h : d.fastbootPendingFlash = true) :
    d.carryOut r .flash = (d.reply [Reply.infoWaitSwupdate]).finish := by
  simp [carryOut, h]

end CarryOut

def step (d : Device) (r : Request) : Device :=
  match parseCommand r.command with
  | none => d.reply [Reply.failCmd]
  | some (command, _) => d.carryOut r command

/-- The length of the data phase that a command starts. -/
def dataLength (r : Request) (d : Device) : ParsedCommand → Nat
  | .download len _ => if (d.begun r).isSome then len else 0
  | _ => 0

/-- A flash is pending only with a transfer. -/
def Proper (d : Device) : Prop := d.fastbootPendingFlash = true → d.transfer.isSome

theorem Proper.pendingFlash_eq_false {d : Device} (h : d.Proper) (htransfer : d.transfer = none) :
    d.fastbootPendingFlash = false := by
  cases hflash : d.fastbootPendingFlash with
  | false => rfl
  | true => simpa [htransfer] using h hflash

theorem Proper.finish {d : Device} : d.finish.Proper := by
  intro hflash
  cases htransfer : d.transfer with
  | none =>
      rw [finish_of_none htransfer] at hflash
      cases hflash
  | some outcome =>
      rw [finish_of_some htransfer] at hflash
      cases hflash

/-- Downloads make a flash pending, and begin a transfer first. -/
theorem Proper.carryOut {d : Device} (h : d.Proper) (r : Request) (command : ParsedCommand) :
    (d.carryOut r command).Proper := by
  cases command with
  | wOpen =>
      cases hbegun : d.begun r with
      | none =>
          rw [carryOut_wOpen_refused hbegun]
          exact h
      | some d' =>
          rw [carryOut_wOpen hbegun]
          intro hflash
          cases hflash
  | download len kind =>
      cases hbegun : d.begun r with
      | none =>
          rw [carryOut_download_refused hbegun]
          exact h
      | some d' =>
          rw [carryOut_download hbegun, begun_some hbegun]
          intro _
          rfl
  | flash =>
      cases hflash : d.fastbootPendingFlash with
      | false =>
          rw [carryOut_flash_refused hflash]
          exact h
      | true =>
          rw [carryOut_flash hflash]
          exact Proper.finish
  | close => exact Proper.finish
  | getVar arg => exact h
  | fetch target => exact h
  | fetchUnknownPart => exact h
  | unsupported => exact h

theorem Proper.step {d : Device} (h : d.Proper) (r : Request) : (d.step r).Proper := by
  unfold Device.step
  split
  · exact h
  · exact h.carryOut r _

end Device

/-! ## The session of a device -/

/-- The verdict is still to come, or it was a success and is cached. -/
def Awaits (outcome : Joined) (x : Session) : Prop :=
  (x.status.isSome ∧ x.terminal = none) ∨
    (x.status = none ∧ x.terminal = some (.ok ()) ∧ outcome = .done (.ok ()))

/-- The session has the transfer of the device, with its sender. -/
def Mirrors : Option Joined → Session → Prop
  | none, x => x.isOpen = false
  | some outcome, x => x.tx.isSome ∧ Awaits outcome x

/-- SWUpdate has not closed its queue, and has no verdict or has succeeded. -/
def Calm (outcome : Joined) (v : View) : Prop :=
  v.queue ≠ .closed ∧ ∀ joined, v.task = some joined → joined = .done (.ok ()) ∧ outcome = joined

variable {transfer : Option Joined} {outcome : Joined} {x : Session}

theorem Awaits.underway (h : Awaits outcome x) : x.Underway := by
  rcases h with ⟨hst, hterm⟩ | ⟨hst, hterm, -⟩
  · exact Or.inl ⟨hst, hterm⟩
  · exact Or.inr ⟨hst, hterm⟩

theorem Awaits.congr {y : Session} (h : Awaits outcome x) (hst : y.status = x.status)
    (hterm : y.terminal = x.terminal) : Awaits outcome y := by
  unfold Awaits
  rw [hst, hterm]
  exact h

theorem Calm.unfailing {v : View} (h : Calm outcome v) : ¬ v.reportsFailure := by
  unfold View.reportsFailure
  cases htask : v.task with
  | none => simp
  | some joined =>
      obtain ⟨rfl, -⟩ := h.2 joined htask
      simp

theorem Mirrors.isOpen (h : Mirrors transfer x) : x.isOpen = transfer.isSome := by
  cases transfer with
  | none => exact h
  | some outcome => simp [Session.isOpen, h.1]

theorem mirrors_new (params : SwupdateParams) (n : Nat) : Mirrors none (Session.new params n) := rfl

/-- Opening: nothing to do, refused, or a transfer that will get the verdict of the request. -/
theorem Mirrors.openSession {d : Device} (h : Mirrors d.transfer x) {r : Request} {v : View}
    (hv : v.restartPending = r.restartPending) :
    match d.begun r with
    | none => (∃ err, (x.openSession v).1 = .error err) ∧ Mirrors d.transfer (x.openSession v).2
    | some d' => (x.openSession v).1 = .ok () ∧ Mirrors d'.transfer (x.openSession v).2 := by
  have hopen := h.isOpen
  unfold Device.begun
  rcases Session.openSession_cases v x with ⟨ho, heq⟩ | ⟨ho, hr, heq⟩ | ⟨ho, hr, heq⟩
  · rw [if_pos (hopen.symm.trans ho), heq]
    exact ⟨rfl, h⟩
  · have hnone : d.transfer = none := by simpa [hopen] using ho
    rw [if_neg (by simp [hnone]), if_pos (hv.symm.trans hr), heq, hnone]
    exact ⟨⟨_, rfl⟩, ho⟩
  · have hnone : d.transfer = none := by simpa [hopen] using ho
    rw [if_neg (by simp [hnone]), if_neg (by simp [← hv, hr]), heq]
    exact ⟨rfl, rfl, Or.inl ⟨rfl, rfl⟩⟩

/-- A look at the verdict shows nothing or success. -/
theorem Mirrors.tryFinished (h : Mirrors (some outcome) x) {v : View} (hv : Calm outcome v) :
    ((x.tryFinished v).1 = none ∨ (x.tryFinished v).1 = some (.ok ())) ∧
      Mirrors (some outcome) (x.tryFinished v).2 := by
  obtain ⟨hsender, hawaits⟩ := h
  obtain ⟨hseen, htraced⟩ := (Session.traced_refl hawaits.underway).tryFinished hv.unfailing
  obtain ⟨htx, -, -⟩ := Session.pollStatus_facts v x
  refine ⟨hseen, ?_, ?_⟩
  · rw [Session.tryFinished, htx]
    exact hsender
  · rcases Session.pollStatus_keeps_or_joins v x with heq | ⟨joined, -, -, htask, heq⟩
    · rw [Session.tryFinished, heq]
      exact hawaits
    · -- the status task has ended: by assumption with the success that is cached now
      obtain ⟨rfl, hout⟩ := hv.2 joined htask
      rcases htraced.underway with ⟨hst, -⟩ | ⟨hst, hterm⟩
      · have hgone : (x.tryFinished v).2.status = none := by
          rw [Session.tryFinished, heq]
          exact (Session.settle_facts _ _).2.1
        rw [hgone] at hst
        cases hst
      · exact Or.inr ⟨hst, hterm, hout⟩

/-- A block that the queue takes. -/
theorem Mirrors.offer (h : Mirrors (some outcome) x) (item : Bytes) :
    (x.offer .room item).1 = .ok item.length ∧ Mirrors (some outcome) (x.offer .room item).2 := by
  obtain ⟨hsender, hawaits⟩ := h
  obtain ⟨k, hk⟩ := Option.isSome_iff_exists.1 hsender
  obtain ⟨hst, hterm⟩ := Session.offer_frame .room item x
  refine ⟨by simp [Session.offer, hk], ?_, hawaits.congr hst hterm⟩
  simp [Session.offer, hk, Session.record]

/-! ## The surroundings of a request -/

section Surroundings

variable {S Q : Type} {A : Q → Type} [AnswersSession Q A]

/-- What the session is answered while a request is carried out: every block is taken, and the
verdict is that of the transfer. -/
structure Steady (outcome : Joined) (o : Oracle Q A) : Prop where
  calm : ∀ n, Calm outcome (answered o n .look)
  slot : ∀ n, answered o n .slot = true
  join : ∀ n, answered o n .join = outcome

theorem Steady.shift {o : Oracle Q A} (h : Steady outcome o) (k : Nat) :
    Steady outcome fun n => o (n + k) :=
  ⟨fun n => h.calm (n + k), fun n => h.slot (n + k), fun n => h.join (n + k)⟩

variable [HasSession S]

/-- Waiting for the verdict gives what the transfer stands for. -/
theorem exec_finished_awaits (s : S) (o : Oracle Q A) (h : Awaits outcome (HasSession.session s))
    (hjoin : answered o 0 .join = outcome) :
    (match (exec (finished : Program S Q A _) s o).1 with
      | .ok () => Reply.okay
      | .error _ => Reply.failClose) = Device.verdictReply outcome ∧
      ∃ d, (exec (finished : Program S Q A _) s o).2.1 = HasSession.setSession d s := by
  rcases h with ⟨hst, hterm⟩ | ⟨hst, hterm, rfl⟩
  · obtain ⟨k, hk⟩ := Option.isSome_iff_exists.1 hst
    have hc : cachedVerdict (HasSession.session s) = none := by simp [cachedVerdict, hterm, hk]
    rw [exec_finished_of_waiting s o hc, hjoin]
    refine ⟨?_, _, rfl⟩
    rcases outcome with (err | u) | text
    · rfl
    · rfl
    · rfl
  · have hc : cachedVerdict (HasSession.session s) = some (.ok ()) := by simp [cachedVerdict, hterm]
    rw [exec_finished_of_cached s o hc]
    exact ⟨rfl, HasSession.session s, (HasSession.setSession_session s).symm⟩

end Surroundings

end SummitUsbgadget.Fastboot
