import SummitUsbgadget.Fastboot.Device
import SummitUsbgadget.FastbootTcp.Teardown
import SummitUsbgadget.FastbootTcp.Wire

/-!
# Fastboot over TCP follows the device

A request arrives as one frame, and its data phase as frames behind it. `Carries` connects a session
between two commands to the device, and `request_carries` shows that a turn of the command loop
takes it to the device after the request: the command is read, carried out and answered, and the
whole data phase is consumed.
-/

set_option autoImplicit false

namespace SummitUsbgadget.FastbootTcp

open SummitUsbgadget.Lib
open SummitUsbgadget.Lib.Program
open SummitUsbgadget.Swupdate
open SummitUsbgadget.Fastboot

/-- How a request arrives: the data phase in frames, how the stream is cut into reads, and the
answers to everything else. -/
structure Delivery where
  frames : List Bytes
  cuts : Nat → Nat
  answers : Answers

/-- The stream with the command and its data phase. -/
def Delivery.wire (v : Delivery) (r : Request) : Wire :=
  ⟨frame r.command ++ (v.frames.map frame).flatten, v.cuts, v.answers⟩

/-- A turn of the command loop over the request; an error ends the connection. -/
def request (c : Bool × TcpFastbootSession) (r : Request) (v : Delivery) :
    Bool × TcpFastbootSession :=
  if c.1 then
    let turn := execIn wire (commandLoop 1) c.2 (v.wire r)
    (turn.1.isOk, turn.2.1)
  else c

/-- What the host sees of the session is what it sees of the device. -/
structure Shows (d : Device) (s : TcpFastbootSession) : Prop where
  serial : s.serial = d.serial
  fastbootUsbSessionOpen : s.fastbootUsbSessionOpen = d.fastbootUsbSessionOpen
  fastbootPendingFlash : s.fastbootPendingFlash = d.fastbootPendingFlash
  sent : s.sent.map Sent.data = d.sent

/-- The session is that of the device. -/
structure Carries (d : Device) (s : TcpFastbootSession) : Prop extends Shows d s where
  session : Mirrors d.transfer s.sink

/-- What is answered during a request with this outcome: SWUpdate reads on, the peer takes every
packet. -/
structure Served (outcome : Joined) (info : SystemInfo) (o : Answers) : Prop where
  steady : Steady outcome o
  written : Written o
  system : ∀ n, o n .system = info

theorem Served.shift {outcome : Joined} {info : SystemInfo} {o : Answers}
    (h : Served outcome info o) (k : Nat) : Served outcome info fun n => o (n + k) :=
  ⟨h.steady.shift k, fun n => h.written (n + k), fun n => h.system (n + k)⟩

/-- The same from the second answer on; the first one may be a look that shows anything. -/
structure Leads (outcome : Joined) (info : SystemInfo) (o : Answers) : Prop where
  join : answered o 0 .join = outcome
  written : ∀ data, o 0 (.write data) = .ok ()
  system : o 0 .system = info
  rest : Served outcome info fun n => o (n + 1)

theorem Served.leads {outcome : Joined} {info : SystemInfo} {o : Answers}
    (h : Served outcome info o) : Leads outcome info o :=
  ⟨h.steady.join 0, h.written 0, h.system 0, h.shift 1⟩

theorem Leads.shift {outcome : Joined} {info : SystemInfo} {o : Answers}
    (h : Leads outcome info o) (k : Nat) : Leads outcome info fun n => o (n + k) := by
  cases k with
  | zero => exact h
  | succ k => exact (h.rest.shift k).leads

/-- What is answered from the beginning of a request on: a session that has to be opened looks at
the restart flag. -/
structure Opening (outcome : Joined) (r : Request) (o : Answers) : Prop extends
    Leads outcome r.info o where
  restartPending : (answered o 0 .look).restartPending = r.restartPending

/-- The bytes that are still to be read, with what is known of the session and the answers. -/
def Held (O : Answers → Prop) (P : TcpFastbootSession → Prop) (bytes : Bytes)
    (s : TcpFastbootSession) (w : Wire) : Prop := P s ∧ w.bytes = bytes ∧ O w.answers

/-- A program that reads nothing leaves the stream where it is. -/
theorem triple_held {α : Type} {O O' : Answers → Prop} {P : TcpFastbootSession → Prop}
    {R : α → TcpFastbootSession → Prop} {p : Async α}
    (hasks : Meets (fun q => ∀ want, q ≠ Query.read want) (fun _ _ => True) p)
    (h : ∀ s o, O o → P s → R (exec p s o).1 (exec p s o).2.1 ∧ O' (exec p s o).2.2)
    (bytes : Bytes) : Triple wire (Held O P bytes) p fun r => Held O' (R r) bytes := by
  refine triple_of_exec wire_fromOracle hasks ?_
  rintro s w ⟨hs, hbytes, ho⟩
  obtain ⟨hR, hO'⟩ := h s w.answers ho hs
  exact ⟨hR, hbytes, hO'⟩

/-- Frames that are not empty make up nothing only if there are none. -/
theorem frames_eq_nil {frames : List Bytes} (hframes : ∀ f ∈ frames, f ≠ [])
    (h : frames.flatten.length = 0) : frames = [] := by
  refine List.eq_nil_iff_forall_not_mem.2 fun f hf => hframes f hf ?_
  exact List.flatten_eq_nil_iff.1 (List.length_eq_zero_iff.1 h) f hf

/-- The program carries out its part of the request: it takes the session of `d` to that of `d'`,
and reads the stream from `bytes` to `bytes'`. -/
def Follows (outcome : Joined) (r : Request) (d d' : Device) (bytes bytes' : Bytes)
    (p : Async (Except IoError Unit)) : Prop :=
  Triple wire (Held (Opening outcome r) (Carries d) bytes) p fun res s w =>
    res = .ok () ∧ Held (Served outcome r.info) (Carries d') bytes' s w

section Handlers

variable {d : Device} {outcome : Joined} {info : SystemInfo} {r : Request} {bytes : Bytes}

theorem meets_sendPacket (data : Bytes) :
    Meets (fun q => ∀ want, q ≠ Query.read want) (fun _ _ => True) (sendPacket data) :=
  meets_then (meets_ask (q := Query.write (frame data)) nofun fun _ _ => trivial) fun _ =>
    meets_then (meets_update fun _ => trivial) fun _ => meets_pure fun _ => trivial

/-- A reply, to whatever is known of the session. -/
theorem sendPacket_leads (data : Bytes) :
    Triple wire (Held (Leads outcome info) (Carries d) bytes) (sendPacket data) fun res s w =>
      res = .ok () ∧ Held (Served outcome info) (Carries (d.reply [data])) bytes s w := by
  have hreply : Triple wire (Held (Leads outcome info) (Carries d) bytes)
      (sendPacket data) fun res =>
      Held (Served outcome info) (fun s => res = .ok () ∧ Carries (d.reply [data]) s) bytes := by
    refine triple_held (meets_sendPacket data) ?_ bytes
    rintro s o ho ⟨⟨hserial, hopen, hpending, hsent⟩, hsession⟩
    refine ⟨⟨ho.written _, ⟨hserial, hopen, hpending, ?_⟩, hsession⟩, ho.rest⟩
    change (s.sent ++ [Sent.mk data _]).map Sent.data = d.sent ++ [data]
    rw [List.map_append, hsent]
    rfl
  exact triple_conseq hreply (fun _ _ h => h) fun _ _ _ h => ⟨h.1.1, h.1.2, h.2⟩

theorem sendPacket_carries (data : Bytes) :
    Triple wire (Held (Served outcome info) (Carries d) bytes) (sendPacket data) fun res s w =>
      res = .ok () ∧ Held (Served outcome info) (Carries (d.reply [data])) bytes s w :=
  triple_conseq (sendPacket_leads data) (fun _ _ h => ⟨h.1, h.2.1, h.2.2.leads⟩) fun _ _ _ h => h

theorem sendPacket_follows (data : Bytes) :
    Follows outcome r d (d.reply [data]) bytes bytes (sendPacket data) :=
  triple_conseq (sendPacket_leads data) (fun _ _ h => ⟨h.1, h.2.1, h.2.2.toLeads⟩)
    fun _ _ _ h => h

/-! ## Commands without a data phase -/

/-- The system information is that of the request. -/
theorem system_carries {β : Type} {g : SystemInfo → Async β}
    {R : β → TcpFastbootSession → Wire → Prop}
    (h : Triple wire (Held (Served outcome r.info) (Carries d) bytes) (g r.info) R) :
    Triple wire (Held (Opening outcome r) (Carries d) bytes) (ask .system >>= g) R := by
  have hask : Triple wire (Held (Opening outcome r) (Carries d) bytes) (ask .system) fun res =>
      Held (Served outcome r.info) (fun s => res = r.info ∧ Carries d s) bytes :=
    triple_held (meets_ask (q := Query.system) nofun fun _ _ => trivial)
      (fun s o ho hs => ⟨⟨ho.system, hs⟩, ho.rest⟩) bytes
  refine triple_bind hask fun info => triple_intro ?_
  rintro s w ⟨⟨rfl, hs⟩, hheld⟩
  exact ⟨_, ⟨hs, hheld⟩, h⟩

theorem handleGetvar_follows (arg : Bytes) :
    Follows outcome r d
      (d.reply [(fastbootGetvarReply arg d.serial r.info).getD Reply.failCmd]) bytes bytes
      (handleGetvar arg) := by
  refine system_carries (triple_read fun serial => triple_intro ?_)
  rintro s w ⟨hheld, hserial⟩
  refine ⟨_, hheld, ?_⟩
  rw [← hserial, hheld.1.serial]
  cases fastbootGetvarReply arg d.serial r.info with
  | some data => exact sendPacket_carries data
  | none => exact sendPacket_carries Reply.failCmd

theorem handleFetch_follows (target : FetchTarget) :
    Follows outcome r d (d.reply [dataHeader r.info.json.length, r.info.json,
      Reply.okay]) bytes bytes
      (handleFetch target) := by
  have hthree : d.reply [dataHeader r.info.json.length, r.info.json, Reply.okay] =
      ((d.reply [dataHeader r.info.json.length]).reply [r.info.json]).reply [Reply.okay] := by
    simp [Device.reply]
  rw [hthree]
  apply system_carries
  exact triple_attempt_ok (sendPacket_carries _)
    (triple_attempt_ok (sendPacket_carries _) (sendPacket_carries _))

/-! ## Beginning and finishing a transfer -/

/-- What comes of beginning a transfer. -/
def Begun (r : Request) (d : Device) (res : Except IoError Unit) (s : TcpFastbootSession) : Prop :=
  match d.begun r with
  | none => (∃ err, res = .error err) ∧ Carries d s
  | some d' => res = .ok () ∧ Carries d' s

theorem openSession_begun :
    Triple wire (Held (Opening outcome r) (Carries d) bytes) openSession fun res =>
      Held (Served outcome r.info) (Begun r d res) bytes := by
  refine triple_held (meets_openSession (query_ne_read _)) ?_ bytes
  rintro s o ho ⟨hshows, hsession⟩
  have hopened := hsession.openSession ho.restartPending
  refine ⟨?_, ho.rest⟩
  rw [exec_openSession]
  unfold Begun
  cases hbegun : d.begun r with
  | none =>
      rw [hbegun] at hopened
      exact ⟨hopened.1, ⟨hshows.1, hshows.2, hshows.3, hshows.4⟩, hopened.2⟩
  | some d' =>
      rw [hbegun] at hopened
      -- the device has got a transfer, and shows the same otherwise
      have hd := Device.begun_some hbegun
      refine ⟨hopened.1, ⟨?_, ?_, ?_, ?_⟩, hopened.2⟩
      · rw [hd]
        exact hshows.1
      · rw [hd]
        exact hshows.2
      · rw [hd]
        exact hshows.3
      · rw [hd]
        exact hshows.4

theorem ensureBegun_begun :
    Triple wire (Held (Opening outcome r) (Carries d) bytes) ensureBegun fun res =>
      Held (Leads outcome r.info) (Begun r d res) bytes := by
  refine triple_read fun isOpen => triple_ite (fun htrue => ?_) fun hfalse => ?_
  · -- the session is open: that is the device with its transfer
    refine triple_pure ?_
    rintro s w ⟨⟨hcarries, hbytes, ho⟩, hopen⟩
    have htransfer : d.transfer.isSome := by
      rw [← hcarries.session.isOpen, hopen]
      exact htrue
    refine ⟨?_, hbytes, ho.toLeads⟩
    unfold Begun
    rw [Device.begun_of_transfer htransfer]
    exact ⟨rfl, hcarries⟩
  · exact triple_conseq openSession_begun (fun _ _ h => h.1) fun _ _ _ h =>
      ⟨h.1, h.2.1, h.2.2.leads⟩

theorem handleWopen_follows :
    Follows outcome r d (d.carryOut r .wOpen) bytes bytes handleWopen := by
  refine triple_bind openSession_begun fun opened => ?_
  unfold Begun
  cases hbegun : d.begun r with
  | none =>
      rw [Device.carryOut_wOpen_refused hbegun]
      cases opened with
      | error err =>
          exact triple_conseq (sendPacket_carries _) (fun _ _ h => ⟨h.1.2, h.2⟩) fun _ _ _ h => h
      | ok u =>
          rintro s w ⟨⟨⟨err, herr⟩, -⟩, -⟩
          cases herr
  | some d' =>
      rw [Device.carryOut_wOpen hbegun]
      cases opened with
      | error err =>
          rintro s w ⟨⟨hok, -⟩, -⟩
          cases hok
      | ok u =>
          refine triple_update (sendPacket_carries _) ?_
          rintro s w ⟨⟨-, ⟨hserial, hopen, hpending, hsent⟩, hsession⟩, hheld⟩
          exact ⟨⟨⟨hserial, rfl, rfl, hsent⟩, hsession⟩, hheld⟩

/-- The session after the finish was asked for: its sender is gone. -/
structure Closing (outcome : Joined) (d : Device) (s : TcpFastbootSession) : Prop extends
    Shows d s where
  session : Awaits outcome s.sink

theorem finished_closing :
    Triple wire (Held (Leads outcome info) (Closing outcome d) bytes)
      (finished : Async _) fun res =>
      Held (Leads outcome info) (fun s => Shows d s ∧
        (match res with
          | .ok () => Reply.okay
          | .error _ => Reply.failClose) = Device.verdictReply outcome) bytes := by
  refine triple_held (meets_finished (query_ne_read _)) ?_ bytes
  rintro s o ho ⟨⟨hserial, hopen, hpending, hsent⟩, hsession⟩
  obtain ⟨hverdict, x, hst⟩ := exec_finished_awaits s o hsession ho.join
  refine ⟨⟨?_, hverdict⟩, answers_exec s (fun o k h => h.shift k) finished ho⟩
  rw [hst]
  exact ⟨hserial, hopen, hpending, hsent⟩

/-- The finish, where the transfer is that of the request. -/
theorem finishDownload_carries (houtcome : ∀ o, d.transfer = some o → o = outcome) :
    Triple wire (Held (Leads outcome info) (Carries d) bytes) finishDownload fun res s w =>
      res = .ok () ∧ Held (Served outcome info) (Carries d.finish) bytes s w := by
  refine triple_read fun isOpen => triple_intro ?_
  rintro s w ⟨hheld, hopen⟩
  refine ⟨_, hheld, ?_⟩
  have hsome : isOpen = d.transfer.isSome := hopen.symm.trans hheld.1.session.isOpen
  cases htransfer : d.transfer with
  | none =>
      rw [if_pos (by simp [hsome, htransfer]), Device.finish_of_none htransfer]
      refine triple_update (sendPacket_leads _) ?_
      rintro s w ⟨⟨⟨hserial, hopen, hpending, hsent⟩, hsession⟩, hheld⟩
      exact ⟨⟨⟨hserial, hopen, rfl, hsent⟩, hsession⟩, hheld⟩
  | some o =>
      obtain rfl := houtcome o htransfer
      rw [if_neg (by simp [hsome, htransfer]), Device.finish_of_some htransfer]
      have heof : Triple wire (Held (Leads o info) (Carries d) bytes)
          (onSession fun x => ((), x.eof) : Async Unit) fun _ =>
            Held (Leads o info) (Closing o d) bytes := by
        refine triple_held (meets_act fun _ => trivial) ?_ bytes
        rintro s o' ho ⟨⟨hserial, hopen, hpending, hsent⟩, hsession⟩
        rw [htransfer] at hsession
        refine ⟨⟨⟨hserial, hopen, hpending, hsent⟩, ?_⟩, ho⟩
        exact hsession.2.congr (Session.status_eof _) (Session.terminal_eof _)
      refine triple_bind heof fun _ => triple_bind finished_closing fun verdict => ?_
      -- the session is replaced, and the verdict reported
      refine triple_intro ?_
      rintro s w ⟨⟨hshows, hverdict⟩, hheld⟩
      refine ⟨Held (Leads o info) (Shows d) bytes, ⟨hshows, hheld⟩, ?_⟩
      rw [← hverdict]
      have hreset : ∀ s w, Held (Leads o info) (Shows d) bytes s w →
          Held (Leads o info) (Carries { d with
            transfer := none
            fastbootUsbSessionOpen := false
            fastbootPendingFlash := false }) bytes s.resetAfterFinish w := by
        rintro s w ⟨⟨hserial, -, -, hsent⟩, hheld⟩
        exact ⟨⟨⟨hserial, rfl, rfl, hsent⟩, mirrors_new _ _⟩, hheld⟩
      cases verdict with
      | ok u => exact triple_update (sendPacket_leads _) hreset
      | error err => exact triple_update (sendPacket_leads _) hreset

theorem finishDownload_follows (houtcome : ∀ o, d.transfer = some o → o = outcome) :
    Follows outcome r d d.finish bytes bytes finishDownload :=
  triple_conseq (finishDownload_carries houtcome) (fun _ _ h => ⟨h.1, h.2.1, h.2.2.toLeads⟩)
    fun _ _ _ h => h

theorem handleFlash_follows (houtcome : ∀ o, d.transfer = some o → o = outcome) :
    Follows outcome r d (d.carryOut r .flash) bytes bytes handleFlash := by
  refine triple_read fun pendingFlash => triple_intro ?_
  rintro s w ⟨hheld, hpending⟩
  refine ⟨_, hheld, ?_⟩
  have heq : pendingFlash = d.fastbootPendingFlash :=
    hpending.symm.trans hheld.1.fastbootPendingFlash
  cases hflash : d.fastbootPendingFlash with
  | false =>
      rw [if_pos (by simp [heq, hflash]), Device.carryOut_flash_refused hflash]
      exact sendPacket_follows _
  | true =>
      rw [if_neg (by simp [heq, hflash]), Device.carryOut_flash hflash]
      refine triple_attempt_ok (sendPacket_follows _) ?_
      exact triple_conseq (finishDownload_carries (d := d.reply [Reply.infoWaitSwupdate]) houtcome)
        (fun _ _ h => ⟨h.1, h.2.1, h.2.2.leads⟩) fun _ _ _ h => h

/-! ## The data phase -/

/-- While the blocks are taken and the verdict is no failure, the session keeps its transfer. -/
theorem feeds_steady (outcome : Joined) (info : SystemInfo) :
    Feeds (Served outcome info) (fun _ => Mirrors (some outcome)) (fun _ => False)
      (Mirrors (some outcome)) where
  answers o k ho := ho.shift k
  written o data ho := ho.written 0 data
  peek got s o ho h := by
    obtain ⟨hseen, hsession⟩ := h.tryFinished (ho.steady.calm 0)
    rw [exec_peekVerdict s o h.isOpen]
    rcases hseen with hnone | hok
    · exact Or.inl ⟨hnone, hsession⟩
    · exact Or.inr ⟨hok, hsession⟩
  send got data s o ho h _ := by
    have hopen : s.sink.ensureOpen (answered o 0 .look) = (.ok (), s.sink) := by
      simp [Session.ensureOpen, h.1]
    obtain ⟨htaken, hsession⟩ := h.offer data
    have hsend : s.sink.send (answered o 0 .look) (answered o 1 .slot) data =
        (.ok (.ok data.length), (s.sink.offer .room data).2) := by
      simp [Session.send, hopen, ho.steady.slot 1, htaken]
    obtain ⟨hres, hst⟩ := exec_send s o data
    rw [hres, hst]
    change (∃ n, (s.sink.send _ _ data).1 = _) ∧ Mirrors _ (s.sink.send _ _ data).2 ∨ _
    rw [hsend]
    exact Or.inl ⟨⟨_, rfl⟩, hsession⟩
  finished s o ho h := h.elim

theorem aside_shown : Aside fun s : TcpFastbootSession =>
    (s.serial, s.fastbootUsbSessionOpen, s.fastbootPendingFlash) :=
  ⟨fun _ _ => rfl, fun _ _ _ => rfl, fun _ _ => rfl⟩

theorem streamDownload_carries (htransfer : d.transfer = some outcome) {frames : List Bytes}
    (hframes : ∀ f ∈ frames, f ≠ []) (hlen : frames.flatten.length < 2 ^ 64) :
    Triple wire (Held (Served outcome info) (Carries d) (frames.map frame).flatten)
      (streamDownload frames.flatten.length) fun res s w =>
        res = .ok () ∧ Held (Served outcome info) (Carries (d.reply [Reply.okay])) [] s w := by
  rintro s w ⟨⟨⟨hserial, hopen, hpending, hsent⟩, hsession⟩, hbytes, ho⟩
  rw [htransfer] at hsession
  -- the data phase leaves the flags alone, and the session keeps its transfer
  have hkept := (keeps_streamDownload aside_shown frames.flatten.length).execIn wire s w w.answers
  simp only [Prod.mk.injEq] at hkept
  have hwhole : w.bytes = (frames.map frame).flatten ++ [] := by rw [hbytes, List.append_nil]
  obtain ⟨hok, hpend, hmirrors, hsent', ho'⟩ :=
    streamDownload_triple (feeds_steady outcome info) hframes hlen s w ⟨hsession, rfl, ho, hwhole⟩
  refine ⟨hok, ⟨⟨hkept.1.trans hserial, hkept.2.1.trans hopen, hkept.2.2.trans hpending, ?_⟩, ?_⟩,
    hpend.bytes_nil, ho'⟩
  · rw [hsent', List.map_append, hsent]
    rfl
  · change Mirrors d.transfer _
    rw [htransfer]
    exact hmirrors.elim id id

/-- What follows the announcement; an empty data phase is over at once. -/
theorem dataPhase_carries (htransfer : d.transfer = some outcome) {frames : List Bytes} {len : Nat}
    (hframes : ∀ f ∈ frames, f ≠ []) (htotal : frames.flatten.length = len) (hlen : len < 2 ^ 64) :
    Triple wire (Held (Served outcome info) (Carries d) (frames.map frame).flatten)
      (if len = 0 then sendPacket Reply.okay else streamDownload len) fun res s w =>
        res = .ok () ∧ Held (Served outcome info) (Carries (d.reply [Reply.okay])) [] s w := by
  refine triple_ite (fun hzero => ?_) fun _ => ?_
  · obtain rfl := frames_eq_nil hframes (htotal.trans hzero)
    exact sendPacket_carries _
  · subst htotal
    exact streamDownload_carries htransfer hframes hlen

theorem handleDownload_follows {len : Nat} {kind : DownloadKind} {frames : List Bytes}
    (hframes : ∀ f ∈ frames, f ≠ [])
    (htotal : frames.flatten.length = d.dataLength r (.download len kind)) (hlen : len < 2 ^ 64)
    (houtcome : d.transfer.getD r.outcome = outcome) :
    Follows outcome r d (d.carryOut r (.download len kind)) (frames.map frame).flatten []
      (handleDownload len kind) := by
  refine triple_bind ensureBegun_begun fun begun => ?_
  unfold Begun
  unfold Device.dataLength at htotal
  cases hbegun : d.begun r with
  | none =>
      -- refused: there is no data phase
      rw [Device.carryOut_download_refused hbegun]
      rw [hbegun] at htotal
      obtain rfl := frames_eq_nil hframes htotal
      cases begun with
      | error err =>
          exact triple_conseq (sendPacket_leads _) (fun _ _ h => ⟨h.1.2, h.2⟩) fun _ _ _ h => h
      | ok u =>
          rintro s w ⟨⟨⟨err, herr⟩, -⟩, -⟩
          cases herr
  | some d' =>
      rw [Device.carryOut_download hbegun]
      rw [hbegun] at htotal
      have htransfer : d'.transfer = some outcome := by
        rw [Device.begun_some hbegun, ← houtcome]
      cases begun with
      | error err =>
          rintro s w ⟨⟨hok, -⟩, -⟩
          cases hok
      | ok u =>
          refine triple_conseq (triple_attempt_ok (sendPacket_leads (dataHeader len))
            (triple_update (dataPhase_carries (d := { d'.reply [dataHeader len] with
              fastbootPendingFlash := fastbootDownload kind d'.fastbootUsbSessionOpen })
              htransfer hframes htotal hlen) ?_)) (fun _ _ h => ⟨h.1.2, h.2⟩) fun _ _ _ h => h
          rintro s w ⟨⟨⟨hserial, hopen, -, hsent⟩, hsession⟩, hheld⟩
          refine ⟨⟨⟨hserial, hopen, ?_, hsent⟩, hsession⟩, hheld⟩
          change fastbootDownload kind s.fastbootUsbSessionOpen = _
          rw [hopen]
          rfl

/-! ## A request -/

/-- One command; its data phase is consumed. -/
theorem dispatch_follows {command : ParsedCommand} {consumed : Nat}
    (hparse : parseCommand r.command = some (command, consumed)) {frames : List Bytes}
    (hframes : ∀ f ∈ frames, f ≠ [])
    (htotal : frames.flatten.length = d.dataLength r command)
    (houtcome : d.transfer.getD r.outcome = outcome) :
    Follows outcome r d (d.carryOut r command) (frames.map frame).flatten []
      (dispatch r.command) := by
  have hsame : ∀ o, d.transfer = some o → o = outcome := by
    intro o ho
    rw [← houtcome, ho, Option.getD_some]
  unfold dispatch
  rw [hparse]
  cases command with
  | download len kind =>
      -- eight hexadecimal digits
      have hlen : len < 2 ^ 64 :=
        Nat.lt_of_lt_of_le (parseCommand_download_lt hparse) (by decide)
      exact handleDownload_follows hframes htotal hlen houtcome
  -- the other commands have no data phase, so no frame comes with them
  | wOpen =>
      obtain rfl := frames_eq_nil hframes htotal
      exact handleWopen_follows
  | getVar arg =>
      obtain rfl := frames_eq_nil hframes htotal
      exact handleGetvar_follows arg
  | fetch target =>
      obtain rfl := frames_eq_nil hframes htotal
      exact handleFetch_follows target
  | fetchUnknownPart =>
      obtain rfl := frames_eq_nil hframes htotal
      exact sendPacket_follows _
  | flash =>
      obtain rfl := frames_eq_nil hframes htotal
      exact handleFlash_follows hsame
  | close =>
      obtain rfl := frames_eq_nil hframes htotal
      exact finishDownload_follows hsame
  | unsupported =>
      obtain rfl := frames_eq_nil hframes htotal
      exact sendPacket_follows _

end Handlers

/-- A delivery of the request to the device: the data phase is complete, and SWUpdate reads on and
gives its verdict. -/
structure Arrives (d : Device) (r : Request) (v : Delivery) : Prop where
  length : r.command.length ≤ maxCommandLen
  frames : ∀ f ∈ v.frames, f ≠ []
  total : ∀ command consumed, parseCommand r.command = some (command, consumed) →
    v.frames.flatten.length = d.dataLength r command
  answers : Opening (d.transfer.getD r.outcome) r v.answers

/-- A turn of the command loop leaves nothing of the delivery unread. -/
theorem commandLoop_carries {d : Device} {s₀ : TcpFastbootSession} (h : Carries d s₀) {r : Request}
    {v : Delivery} (hv : Arrives d r v) {command : ParsedCommand} {consumed : Nat}
    (hparse : parseCommand r.command = some (command, consumed)) :
    Triple wire
      (At (Opening (d.transfer.getD r.outcome) r) s₀
        (frame r.command ++ (v.frames.map frame).flatten))
      (commandLoop 1) fun res s w => res = .ok () ∧
        Held (Served (d.transfer.getD r.outcome) r.info)
          (Carries (d.carryOut r command)) [] s w := by
  have hdispatch := dispatch_follows hparse hv.frames (hv.total command consumed hparse) rfl
  -- the frame is the command, and the handler finds the data phase behind it
  refine triple_attempt_ok (recvCommand_triple hv.length _) (triple_intro ?_)
  rintro s w ⟨rfl, hbytes, ho⟩
  refine ⟨_, ⟨h, hbytes, ho⟩, triple_attempt_ok hdispatch ?_⟩
  exact triple_pure fun s w hheld => ⟨rfl, hheld⟩

/-- The command loop follows the device, and goes on. -/
theorem request_carries {d : Device} {s : TcpFastbootSession} (h : Carries d s) {r : Request}
    {v : Delivery} (hv : Arrives d r v) {command : ParsedCommand} {consumed : Nat}
    (hparse : parseCommand r.command = some (command, consumed)) :
    (request (true, s) r v).1 = true ∧ Carries (d.step r) (request (true, s) r v).2 := by
  have hstep : d.step r = d.carryOut r command := by simp [Device.step, hparse]
  obtain ⟨hok, hcarries, -⟩ := commandLoop_carries h hv hparse s (v.wire r) ⟨rfl, rfl, hv.answers⟩
  have hrequest : request (true, s) r v =
      ((execIn wire (commandLoop 1) s (v.wire r)).1.isOk,
        (execIn wire (commandLoop 1) s (v.wire r)).2.1) := if_pos rfl
  rw [hstep, hrequest, hok]
  exact ⟨rfl, hcarries⟩

theorem carries_new (params : SwupdateParams) (serial : Bytes) :
    Carries (Device.new serial) (TcpFastbootSession.new params serial) :=
  ⟨⟨rfl, rfl, rfl, rfl⟩, mirrors_new _ _⟩

end SummitUsbgadget.FastbootTcp
