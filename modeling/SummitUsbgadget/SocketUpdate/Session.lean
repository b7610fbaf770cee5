import SummitUsbgadget.Swupdate.Async

/-!
# A client of the socket updater

`stream_to_swupdate` pumps what a client sends into a session of its own and reports how that ended.
The reads of a run are given as a list, which covers every byte stream, every fragmentation and
every end of the source; what the session sees of its queue and its status task are answers.

`verdict_reported_iff` says when SWUpdate's verdict is observed and reported: unless a block finds
the queue closed, in which case the pump ends with success and nobody asks for the verdict, or the
session could not open. That no block does is a condition on the reads and the answers
(`queueOpen`), which `refused_stream_iff` compares with what the session has met.
`closed_queue_reported_as_success` is such a run.
-/

set_option autoImplicit false

namespace SummitUsbgadget.SocketUpdate

open SummitUsbgadget.Lib
open SummitUsbgadget.Swupdate

/-- `SOCKET_READ_BUFFER_SIZE`. -/
def socketReadBufferSize : Nat := 128 * 1024

/-- The session of one client. `observed` lists the verdicts that it got from `finished` and
`try_finished`. -/
structure SocketSession where
  sink : Session
  observed : List (Except IoError Unit)

def SocketSession.new (params : SwupdateParams) : SocketSession :=
  ⟨Session.new params socketReadBufferSize, []⟩

/-- What the session of a client asks for. -/
inductive Query where
  | session (query : SessionQuery)
  /-- The closing of the connection; `none` if that takes too long. -/
  | shutdown
  deriving DecidableEq, Repr

@[reducible] def Query.Answer : Query → Type
  | .session q => q.Answer
  | .shutdown => Option (Except IoError Unit)

abbrev Answers := Oracle Query Query.Answer

abbrev Async (α : Type) := Program SocketSession Query Query.Answer α

instance : HasSession SocketSession where
  session s := s.sink
  setSession d s := { s with sink := d }
  session_setSession _ _ := rfl
  setSession_setSession _ _ _ := rfl
  setSession_session _ := rfl

instance : AnswersSession Query Query.Answer where
  query q := .session q
  answer _ a := a

/-- How a read under the idle timeout ends. -/
inductive Read where
  | data (block : Bytes)
  | failed (err : IoError)
  | elapsed

def Read.result : Read → Except IoError Bytes
  | .data block => .ok block
  | .failed err => .error err
  | .elapsed => .error (IoError.new .timedOut "socket update connection inactive")

/-- `PumpEnd`. -/
inductive PumpEnd where
  | sourceClosed
  | swupdateDone
  deriving DecidableEq, Repr

/-- Notes the verdicts that a call has returned. -/
def note (verdicts : List (Except IoError Unit)) : Async Unit :=
  Program.update fun s => { s with observed := s.observed ++ verdicts }

def observeTry : Async (Option (Except IoError Unit)) := do
  let seen ← tryFinished
  note seen.toList
  pure seen

def observe : Async (Except IoError Unit) := do
  let verdict ← finished
  note [verdict]
  pure verdict

/-- The look at the verdict before a block is handed on, if the session counts as open. -/
def peek : Async (Option (Except IoError Unit)) := do
  let isOpen ← Program.read fun s => s.sink.isOpen
  if isOpen then observeTry else pure none

/-- `pump`; the stream is at its end behind the last read. -/
def pump : List Read → Async (Except IoError PumpEnd)
  | [] => pure (.ok .sourceClosed)
  | read :: reads =>
      match read.result with
      | .error _ => pure (.ok .sourceClosed)
      | .ok [] => pure (.ok .sourceClosed)
      | .ok block => do
          let seen ← peek
          match seen with
          | some (.error err) => pure (.error err)
          | some (.ok ()) => pure (.ok .swupdateDone)
          | none =>
              Program.attempt (send block) fun
                | .closed => pure (.ok .swupdateDone)
                | _ => pump reads

/-- The result of the session, before the connection is closed. -/
def settleSession (ended : Except IoError PumpEnd) : Async (Except IoError Unit) := do
  let isOpen ← Program.read fun s => s.sink.isOpen
  match ended with
  | .ok .sourceClosed =>
      if isOpen then do
        onSession fun d => ((), d.eof)
        observe
      else pure (.ok ())
  | .ok .swupdateDone => pure (.ok ())
  | .error err => pure (.error err)

/-- The closing of the connection, up to its timeout. -/
def shutdown : Async (Except IoError Unit) := do
  let closed : Option (Except IoError Unit) ← Program.ask Query.shutdown
  pure (closed.getD (.error (IoError.new .timedOut "socket shutdown timed out")))

/-- The end of the session: a failure aborts the transfer, and the connection is closed. -/
def closeConnection (result : Except IoError Unit) : Async (Except IoError Unit) :=
  match result with
  | .ok () => Program.attempt shutdown fun _ => pure result
  | .error _ => do
      abort
      Program.attempt shutdown fun _ => pure result

/-- `stream_to_swupdate`. -/
def streamToSwupdate (reads : List Read) : Async (Except IoError Unit) := do
  let ended ← pump reads
  let result ← settleSession ended
  closeConnection result

/-! ## The verdict -/

/-- The first read brings a byte. -/
def readsSome : List Read → Bool
  | .data (_ :: _) :: _ => true
  | _ => false

/-- The verdict that a joined status task stands for. -/
def verdictOf : Joined → Except IoError Unit
  | .done result => result
  | .panicked text => .error (IoError.other ("SWUpdate status task failed: " ++ text))

/-- Surroundings in which the status task ends, if it ends, in one way, and in which the connection
can be closed. What the queue does, and when the task ends, is left open. -/
structure Ends (joined : Joined) (o : Answers) : Prop where
  look : ∀ n, (answered o n .look).task = none ∨ (answered o n .look).task = some joined
  join : ∀ n, answered o n .join = joined
  shutdown : ∀ n, o n .shutdown = some (.ok ())

theorem Ends.rest {joined : Joined} {o : Answers} (h : Ends joined o) : Ends joined o.rest :=
  ⟨fun n => h.look (n + 1), fun n => h.join (n + 1), fun n => h.shutdown (n + 1)⟩

theorem Ends.drop {joined : Joined} (o : Answers) (k : Nat) (h : Ends joined o) :
    Ends joined fun n => o (n + k) :=
  ⟨fun n => h.look (n + k), fun n => h.join (n + k), fun n => h.shutdown (n + k)⟩

/-- The blocks behind the first one find the queue open. Before each of them there is a look at the
verdict, which may end the pump; one that is sent waits for its slot, two answers behind that
look. -/
def slotsOpen : List Read → Answers → Bool
  | [], _ => true
  | read :: reads, o =>
      match read.result with
      | .error _ => true
      | .ok [] => true
      | .ok _ =>
          (answered o 0 .look).task.isSome ||
            (answered o 2 .slot && slotsOpen reads fun n => o (n + 3))

/-- No block finds the queue closed: not the first, which opens the session before it waits for its
slot, and none of the others. -/
def queueOpen (reads : List Read) (o : Answers) : Bool :=
  answered o 1 .slot && slotsOpen reads.tail fun n => o (n + 2)

/-- A block was answered with `Feed::Closed`. -/
def refused (d : Session) : Bool :=
  d.history.any fun e => match e with
    | .discarded _ => true
    | _ => false

/-- The transfer takes blocks and its verdict is still to come; none was refused so far. -/
structure Feeding (d : Session) : Prop where
  tx : d.tx.isSome
  status : d.status.isSome
  terminal : d.terminal = none
  taken : refused d = false

theorem settle_fst (joined : Joined) (d : Session) : (d.settle joined).1 = verdictOf joined := by
  cases joined with
  | panicked text => rfl
  | done result => cases result <;> rfl

theorem refused_settle (joined : Joined) (d : Session) :
    refused (d.settle joined).2 = refused d := by
  unfold Session.settle Session.markComplete
  cases joined with
  | panicked text => rfl
  | done result =>
      cases result with
      | error err => rfl
      | ok u => cases d.updateType <;> simp [refused, Session.record]

theorem refused_eof (d : Session) : refused d.eof = refused d := by
  apply Session.eof_keeps (P := fun d' => refused d' = refused d) rfl
  intro k _
  simp [refused, Session.record]

theorem refused_abort (d : Session) : refused d.abort = refused d := by
  simp [refused, Session.abort]

/-- A block that gets its slot is taken; one that finds the queue closed is refused. -/
theorem Feeding.offer {d : Session} (h : Feeding d) (accepted : Bool) (item : Bytes) :
    let offered := d.offer (if accepted then .room else .closed) item
    (accepted = true ∧ offered.1 ≠ .closed ∧ Feeding offered.2) ∨
      (accepted = false ∧ offered.1 = .closed ∧ refused offered.2 = true) := by
  obtain ⟨k, hk⟩ := Option.isSome_iff_exists.1 h.tx
  cases accepted with
  | true =>
      have heq : d.offer .room item = (.ok item.length, d.record (.fed k item)) := by
        simp [Session.offer, hk]
      refine Or.inl ⟨rfl, ?_⟩
      simp only [if_true, heq]
      refine ⟨(fun hclosed => by cases hclosed), h.tx, h.status, h.terminal, ?_⟩
      simpa [refused, Session.record] using h.taken
  | false =>
      have heq : d.offer .closed item =
          (.closed, { d with tx := none }.record (.discarded item)) := by
        simp [Session.offer, hk]
      refine Or.inr ⟨rfl, ?_⟩
      simp only [Bool.false_eq_true, if_false, heq, true_and]
      simp [refused, Session.record]

/-- A look at the verdict while the transfer runs: nothing yet, or the verdict. -/
theorem Feeding.tryFinished {d : Session} (h : Feeding d) {joined : Joined} {v : View}
    (hv : v.task = none ∨ v.task = some joined) :
    (v.task.isSome = false ∧ d.tryFinished v = (none, d)) ∨
      (v.task.isSome = true ∧ (d.tryFinished v).1 = some (verdictOf joined) ∧
        refused (d.tryFinished v).2 = false) := by
  obtain ⟨k, hk⟩ := Option.isSome_iff_exists.1 h.status
  rcases hv with hv | hv
  · left
    simp [Session.tryFinished, Session.pollStatus, h.terminal, hk, hv]
  · right
    refine ⟨by rw [hv]; rfl, ?_⟩
    have heq : d.tryFinished v = (some ({ d with status := none }.settle joined).1,
        ({ d with status := none }.settle joined).2) := by
      simp [Session.tryFinished, Session.pollStatus, h.terminal, hk, hv]
    rw [heq]
    refine ⟨by rw [settle_fst], ?_⟩
    rw [refused_settle]
    exact h.taken

/-- A new session that may open is ready for its first block. -/
theorem feeding_spawn (params : SwupdateParams) (n : Nat) (v : View) :
    Feeding ((Session.new params n).spawn v) :=
  ⟨rfl, rfl, rfl, rfl⟩

open SummitUsbgadget.Lib.Program

/-- Where the pump may end, once a block was taken; `opened` tells whether all others find the queue
open. -/
def Pumped (joined : Joined) (opened : Bool) : Except IoError PumpEnd → SocketSession → Prop
  | .ok .sourceClosed, t => opened = true ∧ Feeding t.sink ∧ t.observed = []
  | .ok .swupdateDone, t =>
      (opened = true ∧ verdictOf joined = .ok () ∧ t.observed = [.ok ()] ∧ refused t.sink = false) ∨
        (opened = false ∧ t.observed = [] ∧ refused t.sink = true)
  | .error err, t =>
      opened = true ∧ verdictOf joined = .error err ∧ t.observed = [.error err] ∧
        refused t.sink = false

theorem exec_peek_of_open (s : SocketSession) (o : Answers) (h : s.sink.isOpen = true) :
    exec peek s o =
      ((s.sink.tryFinished (answered o 0 .look)).1,
        ⟨(s.sink.tryFinished (answered o 0 .look)).2,
          s.observed ++ (s.sink.tryFinished (answered o 0 .look)).1.toList⟩, o.rest) := by
  unfold peek
  rw [exec_read_bind, if_pos h]
  rfl

/-- The pump over one block, after the look at the verdict has shown nothing. -/
def forward (block : Bytes) (reads : List Read) : Async (Except IoError PumpEnd) :=
  Program.attempt (send block) fun
    | .closed => Pure.pure (.ok .swupdateDone)
    | _ => pump reads

/-- A block that is taken leaves the rest to the pump, one that is refused ends it. -/
theorem pumped_forward {joined : Joined} {reads : List Read}
    (ih : ∀ s o, Ends joined o → Feeding s.sink → s.observed = [] →
      Pumped joined (slotsOpen reads o) (exec (pump reads) s o).1 (exec (pump reads) s o).2.1)
    (block : Bytes) {s : SocketSession} {o : Answers} (ho : Ends joined o)
    (hobs : s.observed = []) {feed : Feed} (hfeed : (exec (send block : Async _) s o).1 = .ok feed)
    (hrest : (exec (send block : Async _) s o).2.2 = fun n => o (n + 2))
    (h : (answered o 1 .slot = true ∧ feed ≠ .closed ∧
        Feeding (exec (send block : Async _) s o).2.1.sink) ∨
      (answered o 1 .slot = false ∧ feed = .closed ∧
        refused (exec (send block : Async _) s o).2.1.sink = true)) :
    Pumped joined (answered o 1 .slot && slotsOpen reads fun n => o (n + 2))
      (exec (forward block reads) s o).1 (exec (forward block reads) s o).2.1 := by
  have hkeep : (exec (send block : Async _) s o).2.1.observed = [] :=
    (keeps_send (f := SocketSession.observed) (fun _ _ => rfl) block).exec s o ▸ hobs
  have ho' : Ends joined fun n => o (n + 2) := ho.drop o 2
  unfold forward
  rw [exec_attempt, hfeed, hrest]
  rcases h with ⟨hslot, hne, hfeeding⟩ | ⟨hslot, rfl, hrefused⟩
  · rw [hslot, Bool.true_and]
    cases feed with
    | ok n => exact ih _ _ ho' hfeeding hkeep
    | full item => exact ih _ _ ho' hfeeding hkeep
    | closed => exact absurd rfl hne
  · rw [hslot, Bool.false_and]
    exact Or.inr ⟨rfl, hkeep, hrefused⟩

theorem pumped_feeding {joined : Joined} (reads : List Read) (s : SocketSession) (o : Answers)
    (ho : Ends joined o) (h : Feeding s.sink) (hobs : s.observed = []) :
    Pumped joined (slotsOpen reads o) (exec (pump reads) s o).1 (exec (pump reads) s o).2.1 := by
  induction reads generalizing s o with
  | nil => exact ⟨rfl, h, hobs⟩
  | cons read reads ih =>
      unfold pump slotsOpen
      split
      · exact ⟨rfl, h, hobs⟩
      · exact ⟨rfl, h, hobs⟩
      · next block _ _ =>
          have hopen : s.sink.isOpen = true := by simp [Session.isOpen, h.tx]
          rw [exec_bind, exec_peek_of_open s o hopen]
          rcases h.tryFinished (ho.look 0) with ⟨htask, hnone⟩ | ⟨htask, hseen, hrefused⟩
          · -- no verdict yet: the block is sent
            rw [htask, Bool.false_or]
            simp only [hnone, Option.toList, List.append_nil]
            obtain ⟨hres, hst, hrest⟩ := exec_send_sender s o.rest block h.tx
            refine pumped_forward ih block ho.rest hobs hres hrest ?_
            rw [hst]
            exact h.offer _ block
          · rw [htask, Bool.true_or, hseen, hobs]
            cases hverdict : verdictOf joined with
            | ok u => exact Or.inl ⟨rfl, hverdict, rfl, hrefused⟩
            | error err => exact ⟨rfl, hverdict, rfl, hrefused⟩

/-- What a session with a verdict reports: the verdict, unless a block was refused. -/
def Reported (joined : Joined) (opened : Bool) (result : Except IoError Unit) (t : SocketSession) :
    Prop :=
  (opened = true ∧ t.observed = [verdictOf joined] ∧ result = verdictOf joined ∧
      refused t.sink = false) ∨
    (opened = false ∧ t.observed = [] ∧ refused t.sink = true)

theorem reported_settleSession {joined : Joined} {opened : Bool} {ended : Except IoError PumpEnd}
    {s : SocketSession} {o : Answers} (ho : Ends joined o) (h : Pumped joined opened ended s) :
    Reported joined opened (exec (settleSession ended) s o).1
      (exec (settleSession ended) s o).2.1 := by
  unfold settleSession
  rw [exec_read_bind]
  rcases ended with err | (- | -)
  · obtain ⟨hopened, hverdict, hobs, hrefused⟩ := h
    exact Or.inl ⟨hopened, by rw [hverdict]; exact hobs, hverdict.symm, hrefused⟩
  · obtain ⟨hopened, hfeeding, hobs⟩ := h
    have hopen : s.sink.isOpen = true := by simp [Session.isOpen, hfeeding.tx]
    have hcached : cachedVerdict s.sink.eof = none := by
      obtain ⟨k, hk⟩ := Option.isSome_iff_exists.1 hfeeding.status
      simp [cachedVerdict, hfeeding.terminal, hk]
    simp only [hopen, if_true]
    rw [exec_onSession_bind]
    unfold observe
    rw [exec_bind, exec_finished_of_waiting _ _ hcached]
    have hjoin : answered o 0 .join = joined := ho.join 0
    refine Or.inl ⟨hopened, ?_, ?_, ?_⟩
    · change s.observed ++ [(Session.settle _ _).1] = _
      rw [hobs, settle_fst, hjoin]
      rfl
    · change (Session.settle _ _).1 = _
      rw [settle_fst, hjoin]
    · change refused (Session.settle _ _).2 = false
      rw [refused_settle]
      exact (refused_eof s.sink).trans hfeeding.taken
  · rcases h with ⟨hopened, hverdict, hobs, hrefused⟩ | hrefused
    · exact Or.inl ⟨hopened, by rw [hverdict]; exact hobs, hverdict.symm, hrefused⟩
    · exact Or.inr hrefused

theorem exec_shutdown {joined : Joined} (s : SocketSession) {o : Answers} (ho : Ends joined o) :
    exec shutdown s o = (.ok (), s, o.rest) := by
  have heq : exec shutdown s o = ((o 0 .shutdown).getD
      (.error (IoError.new .timedOut "socket shutdown timed out")), s, o.rest) := rfl
  rw [heq, ho.shutdown 0]
  rfl

/-- Closing the connection, when it can be closed, changes nothing of what was observed. -/
theorem exec_closeConnection {joined : Joined} (result : Except IoError Unit) (s : SocketSession)
    {o : Answers} (ho : Ends joined o) :
    (exec (closeConnection result) s o).1 = result ∧
      (exec (closeConnection result) s o).2.1.observed = s.observed ∧
      refused (exec (closeConnection result) s o).2.1.sink = refused s.sink := by
  cases result with
  | ok u =>
      simp only [closeConnection, exec_attempt, exec_shutdown s ho]
      exact ⟨rfl, rfl, rfl⟩
  | error err =>
      have hst := exec_abort (A := Query.Answer) s o
      have ho' := answers_exec s Ends.drop (abort : Async Unit) ho
      simp only [closeConnection]
      rw [exec_bind, exec_attempt, exec_shutdown _ ho', hst]
      exact ⟨rfl, rfl, refused_abort s.sink⟩

/-- The first block of a session opens it, unless a restart is pending. -/
theorem exec_send_new (params : SwupdateParams) (block : Bytes) (o : Answers) :
    ((answered o 0 .look).restartPending = true ∧
        (exec (send block : Async _) (.new params) o).1 = .error restartPendingError ∧
        (exec (send block : Async _) (.new params) o).2.1 = .new params) ∨
      ((answered o 0 .look).restartPending = false ∧
        (exec (send block : Async _) (.new params) o).2.2 = (fun n => o (n + 2)) ∧
        ∃ feed, (exec (send block : Async _) (.new params) o).1 = .ok feed ∧
          ((answered o 1 .slot = true ∧ feed ≠ .closed ∧
              Feeding (exec (send block : Async _) (.new params) o).2.1.sink) ∨
            (answered o 1 .slot = false ∧ feed = .closed ∧
              refused (exec (send block : Async _) (.new params) o).2.1.sink = true))) := by
  have hsink : HasSession.session (SocketSession.new params) =
      Session.new params socketReadBufferSize := rfl
  rcases Session.ensureOpen_cases (answered o 0 .look)
    (Session.new params socketReadBufferSize) with
    ⟨hn, -⟩ | ⟨-, hr, heq⟩ | ⟨-, hr, heq⟩
  · exact absurd (Session.vacant_new _ _) hn
  · obtain ⟨hres, hst⟩ := exec_send (A := Query.Answer) (SocketSession.new params) o block
    rw [hres, hst, hsink]
    refine Or.inl ⟨hr, ?_, ?_⟩
    · simp only [Session.send, heq]
    · simp only [Session.send, heq]
      rfl
  · have hfeeding := feeding_spawn params socketReadBufferSize (answered o 0 .look)
    rw [← hsink] at heq hfeeding
    obtain ⟨hres, hst, hrest⟩ := exec_send_opened (SocketSession.new params) o block heq hfeeding.tx
    refine Or.inr ⟨hr, hrest, _, hres, ?_⟩
    rw [hst]
    exact hfeeding.offer _ block

theorem pump_first (params : SwupdateParams) {reads : List Read} (h : readsSome reads = true) :
    ∃ block rest, reads.tail = rest ∧ ∀ o,
      exec (pump reads) (.new params) o = exec (forward block rest) (.new params) o := by
  cases reads with
  | nil => cases h
  | cons read reads =>
      cases read with
      | failed err => cases h
      | elapsed => cases h
      | data block =>
          cases block with
          | nil => cases h
          | cons b block => exact ⟨b :: block, reads, rfl, fun _ => rfl⟩

theorem pump_none (params : SwupdateParams) {reads : List Read} (h : readsSome reads = false)
    (o : Answers) : exec (pump reads) (.new params) o = (.ok .sourceClosed, .new params, o) := by
  cases reads with
  | nil => rfl
  | cons read reads =>
      cases read with
      | failed err => rfl
      | elapsed => rfl
      | data block =>
          cases block with
          | nil => rfl
          | cons b block => cases h

theorem exec_streamToSwupdate (reads : List Read) (s : SocketSession) (o : Answers) :
    exec (streamToSwupdate reads) s o =
      exec (closeConnection
        (exec (settleSession (exec (pump reads) s o).1) (exec (pump reads) s o).2.1
          (exec (pump reads) s o).2.2).1)
        (exec (settleSession (exec (pump reads) s o).1) (exec (pump reads) s o).2.1
          (exec (pump reads) s o).2.2).2.1
        (exec (settleSession (exec (pump reads) s o).1) (exec (pump reads) s o).2.1
          (exec (pump reads) s o).2.2).2.2 := by
  unfold streamToSwupdate
  rw [exec_bind, exec_bind]

/-- If no byte is read, the session ends with success and starts no backend. -/
theorem stream_none (params : SwupdateParams) {reads : List Read} {joined : Joined} {o : Answers}
    (ho : Ends joined o) (h : readsSome reads = false) :
    (exec (streamToSwupdate reads) (.new params) o).1 = .ok () ∧
      (exec (streamToSwupdate reads) (.new params) o).2.1 = .new params := by
  have hsettle : exec (settleSession (.ok .sourceClosed)) (.new params) o =
      (.ok (), .new params, o) := rfl
  rw [exec_streamToSwupdate, pump_none params h, hsettle]
  simp only [closeConnection, exec_attempt, exec_shutdown _ ho]
  exact ⟨rfl, rfl⟩

/-- With a restart pending, the session ends with an error and observes nothing. -/
theorem stream_rejected (params : SwupdateParams) {reads : List Read} {joined : Joined}
    {o : Answers} (ho : Ends joined o) (h : readsSome reads = true)
    (hr : (answered o 0 .look).restartPending = true) :
    (exec (streamToSwupdate reads) (.new params) o).2.1.observed = [] := by
  obtain ⟨block, rest, -, hpump⟩ := pump_first params h
  have ho' := answers_exec (.new params) Ends.drop (pump reads) ho
  rw [hpump o] at ho'
  rw [exec_streamToSwupdate, hpump o]
  rcases exec_send_new params block o with ⟨-, herr, hst⟩ | ⟨hno, -⟩
  · have hforward : (exec (forward block rest) (.new params) o).1 = .error restartPendingError ∧
        (exec (forward block rest) (.new params) o).2.1 = .new params := by
      unfold forward
      rw [exec_attempt, herr]
      exact ⟨rfl, hst⟩
    rw [hforward.1, hforward.2]
    exact (exec_closeConnection (.error restartPendingError) (.new params) ho').2.1
  · rw [hr] at hno
    cases hno

/-- Otherwise the verdict is observed and reported, unless a block is refused. -/
theorem stream_reported (params : SwupdateParams) {reads : List Read} {joined : Joined}
    {o : Answers} (ho : Ends joined o) (h : readsSome reads = true)
    (hr : (answered o 0 .look).restartPending = false) :
    Reported joined (queueOpen reads o) (exec (streamToSwupdate reads) (.new params) o).1
      (exec (streamToSwupdate reads) (.new params) o).2.1 := by
  obtain ⟨block, rest, htail, hpump⟩ := pump_first params h
  have hpumped : Pumped joined (queueOpen reads o) (exec (pump reads) (.new params) o).1
      (exec (pump reads) (.new params) o).2.1 := by
    unfold queueOpen
    rw [hpump o, htail]
    rcases exec_send_new params block o with ⟨hyes, -⟩ | ⟨-, hrest, feed, hfeed, hsent⟩
    · rw [hr] at hyes
      cases hyes
    · exact pumped_forward (pumped_feeding rest) block ho rfl hfeed hrest hsent
  have ho' := answers_exec (.new params) Ends.drop (pump reads) ho
  have hsettled := reported_settleSession ho' hpumped
  have ho'' := answers_exec (exec (pump reads) (.new params) o).2.1 Ends.drop
    (settleSession (exec (pump reads) (.new params) o).1) ho'
  rw [exec_streamToSwupdate]
  obtain ⟨hres, hobs, hrefused⟩ := exec_closeConnection
    (exec (settleSession (exec (pump reads) (.new params) o).1)
      (exec (pump reads) (.new params) o).2.1 (exec (pump reads) (.new params) o).2.2).1
    (exec (settleSession (exec (pump reads) (.new params) o).1)
      (exec (pump reads) (.new params) o).2.1 (exec (pump reads) (.new params) o).2.2).2.1 ho''
  unfold Reported
  rw [hres, hobs, hrefused]
  exact hsettled

/-- What the answers say of the queue is what the session has met. -/
theorem refused_stream_iff (params : SwupdateParams) {reads : List Read} {joined : Joined}
    {o : Answers} (ho : Ends joined o) (h : readsSome reads = true)
    (hr : (answered o 0 .look).restartPending = false) :
    refused (exec (streamToSwupdate reads) (.new params) o).2.1.sink = true ↔
      queueOpen reads o = false := by
  rcases stream_reported params ho h hr with ⟨hopened, -, -, hrefused⟩ | ⟨hopened, -, hrefused⟩
  · rw [hopened, hrefused]
    simp
  · rw [hopened, hrefused]
    simp

/-- For every sequence of reads and every behaviour of the queue and the status task. If no byte is
read, the session ends with success and starts no backend. Otherwise it observes the verdict, once,
and reports success exactly if that is the verdict, if and only if no restart is pending at the
first block and no block that waits for its slot finds the queue closed. -/
theorem verdict_reported_iff (params : SwupdateParams) (reads : List Read) (joined : Joined)
    (o : Answers) (ho : Ends joined o) :
    let r := exec (streamToSwupdate reads) (.new params) o
    (readsSome reads = false → r.1 = .ok () ∧ r.2.1.sink.spawns = 0) ∧
      (readsSome reads = true →
        ((r.2.1.observed = [verdictOf joined] ∧ (r.1 = .ok () ↔ verdictOf joined = .ok ())) ↔
          ((answered o 0 .look).restartPending = false ∧ queueOpen reads o = true))) := by
  intro r
  refine ⟨fun hnone => ?_, fun hsome => ?_⟩
  · obtain ⟨hok, hst⟩ := stream_none params ho hnone
    refine ⟨hok, ?_⟩
    rw [show r.2.1 = .new params from hst]
    rfl
  · cases hr : (answered o 0 .look).restartPending with
    | true =>
        have hobs : r.2.1.observed = [] := stream_rejected params ho hsome hr
        simp [hobs]
    | false =>
        rcases stream_reported params ho hsome hr with ⟨hopened, hobs, hres, -⟩ | ⟨hopened, hobs, -⟩
        · rw [show r.2.1.observed = _ from hobs, show r.1 = _ from hres, hopened]
          simp
        · rw [show r.2.1.observed = _ from hobs, hopened]
          simp

/-- SWUpdate rejects the image. Its end of the queue is there for the first `slots` answers; the
status task has not ended before it is waited for. -/
def rejecting (slots : Nat) : Answers := fun n q =>
  match q with
  | .session .look => ⟨false, ⟨"MMC", "a"⟩, .room, none⟩
  | .session .slot => n < slots
  | .session .join => .done (.error (IoError.other "rejected"))
  | .session .reap => ()
  | .shutdown => some (.ok ())

theorem ends_rejecting (slots : Nat) :
    Ends (.done (.error (IoError.other "rejected"))) (rejecting slots) :=
  ⟨fun _ => Or.inl rfl, fun _ => rfl, fun _ => rfl⟩

/-- Two blocks, and the end of the stream. -/
def twoReads : List Read := [.data [1, 2], .data [3]]

/-- The client of a drain that takes both blocks is told of the failure. -/
theorem verdict_reported_iff_rejecting :
    (exec (streamToSwupdate twoReads) (.new .default) (rejecting 5)).2.1.observed =
      [.error (IoError.other "rejected")] := by
  have h := (verdict_reported_iff .default twoReads (.done (.error (IoError.other "rejected")))
    (rejecting 5) (ends_rejecting 5)).2 rfl
  exact (h.2 ⟨rfl, rfl⟩).1

/-- The drain has stopped at a write error when the second block is sent: the session reports
success, and the failure of the update is not looked at. -/
theorem closed_queue_reported_as_success :
    Ends (.done (.error (IoError.other "rejected"))) (rejecting 4) ∧ readsSome twoReads = true ∧
      (exec (streamToSwupdate twoReads) (.new .default) (rejecting 4)).1 = .ok () ∧
      (exec (streamToSwupdate twoReads) (.new .default) (rejecting 4)).2.1.observed = [] ∧
      verdictOf (.done (.error (IoError.other "rejected"))) ≠ .ok () :=
  ⟨ends_rejecting 4, rfl, rfl, rfl, nofun⟩

end SummitUsbgadget.SocketUpdate
