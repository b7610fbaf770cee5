import SummitUsbgadget.SwupdateIpc.Proto

/-!
# Waiting for the install result on the control socket

`await_install_result` asks for the status again and again, each time on a new connection, until a
reply decides or the deadline is over. The blocking client and the async client have the same loop,
but the reads below it name the end of a connection and the end of the poll interval by different
errors. `await_install_result_agree_iff` says for which exchanges this shows: the clients return the
same result if both or neither of them comes to an exchange that fails before one that decides, and
in no other case.
-/

set_option autoImplicit false

namespace SummitUsbgadget.SwupdateIpc

/-- `StatusMsg`, with the fields that the clients look at. -/
structure StatusMsg where
  current : Int32
  lastResult : Int32
  deriving DecidableEq, Repr

/-- One field of `IpcMessage::install_statuses`. -/
def installStatus (raw : Int32) : Option RecoveryStatus :=
  (decodeRecoveryStatus raw.toUInt32.toNat).toOption

/-- `InstallStatus`, less the description. -/
structure InstallStatus where
  current : Option RecoveryStatus
  lastResult : Option RecoveryStatus
  deriving DecidableEq, Repr

def InstallStatus.decode (msg : StatusMsg) : InstallStatus :=
  ⟨installStatus msg.current, installStatus msg.lastResult⟩

/-! ## Exchanges -/

/-- What comes back after a `GET_STATUS` request. -/
inductive Answer where
  | reply (msg : StatusMsg)
  /-- No complete reply within the poll interval. -/
  | silent
  /-- The daemon closes the connection before a complete reply. -/
  | closed
  /-- The read fails. -/
  | failed (err : IoError)
  deriving DecidableEq, Repr

/-- One exchange on the control socket. -/
inductive Exchange where
  /-- The connection cannot be made, or the request cannot be written. -/
  | unreachable (err : IoError)
  | answered (answer : Answer)
  deriving DecidableEq, Repr

namespace Blocking

/-- `read_exact` on a socket with a read timeout: the poll interval ends with `EAGAIN`. -/
def readExact : Answer → Except IoError StatusMsg
  | .reply msg => .ok msg
  | .silent => .error wouldBlockError
  | .closed => .error fillError
  | .failed err => .error err

def readMessage (answer : Answer) : Except Error StatusMsg :=
  match readExact answer with
  | .ok msg => .ok msg
  | .error err => .error (.io err)

def getStatusTimeout : Exchange → Except Error (Option StatusMsg)
  | .unreachable err => .error (.io err)
  | .answered answer =>
      match readMessage answer with
      | .ok msg => .ok (some msg)
      | .error (.io err) =>
          if err.kind = .wouldBlock ∨ err.kind = .timedOut then .ok none else .error (.io err)
      | .error err => .error err

end Blocking

namespace AsyncIo

/-- The `read_exact` below `read_message`; `none` if it still waits when the poll interval is
over. -/
def readExact : Answer → Option (Except IoError StatusMsg)
  | .reply msg => some (.ok msg)
  | .silent => none
  | .closed => some (.error (IoError.new .unexpectedEof "early eof"))
  | .failed err => some (.error err)

def readMessage (answer : Answer) : Option (Except Error StatusMsg) :=
  match readExact answer with
  | none => none
  | some (.ok msg) => some (.ok msg)
  | some (.error err) =>
      if err.kind = .unexpectedEof then some (.error .closed) else some (.error (.io err))

def getStatusTimeout : Exchange → Except Error (Option StatusMsg)
  | .unreachable err => .error (.io err)
  | .answered answer =>
      match readMessage answer with
      | some (.ok msg) => .ok (some msg)
      | some (.error err) => .error err
      | none => .ok none

end AsyncIo

/-! ## The loop -/

/-- What the loop does with a status: a failure of the last install counts at once, a success only
while the install is running. -/
def InstallStatus.result (status : InstallStatus) : Option (Except Error Unit) :=
  if status.lastResult = some .failure then some (.error .installFailed)
  else if status.current = some .run ∧ status.lastResult = some .success then some (.ok ())
  else none

/-- The result that an exchange leads to; `none` if the loop goes on. -/
def conclude : Except Error (Option StatusMsg) → Option (Except Error Unit)
  | .ok (some msg) => (InstallStatus.decode msg).result
  | .ok none => none
  | .error .closed => none
  | .error err => some (.error err)

/-- `await_install_result` over the exchanges that fit before the deadline. -/
def awaitInstallResult (getStatus : Exchange → Except Error (Option StatusMsg)) :
    List Exchange → Except Error Unit
  | [] => .error .timeout
  | x :: xs =>
      match conclude (getStatus x) with
      | some result => result
      | none => awaitInstallResult getStatus xs

def Blocking.awaitInstallResult : List Exchange → Except Error Unit :=
  SwupdateIpc.awaitInstallResult getStatusTimeout

def AsyncIo.awaitInstallResult : List Exchange → Except Error Unit :=
  SwupdateIpc.awaitInstallResult getStatusTimeout

/-! ## Exchanges that end the wait -/

/-- The result that a reply stands for, if it decides. -/
def Exchange.verdict : Exchange → Option (Except Error Unit)
  | .answered (.reply msg) => (InstallStatus.decode msg).result
  | _ => none

/-- What the blocking client does not survive: that it cannot reach the daemon, that the daemon
closes the connection, and an error of the read that is not one of a read timeout. -/
def Exchange.failsBlocking : Exchange → Bool
  | .unreachable _ => true
  | .answered (.reply _) => false
  | .answered .silent => false
  | .answered .closed => true
  | .answered (.failed err) => err.kind ≠ .wouldBlock && err.kind ≠ .timedOut

/-- What the async client does not survive: that it cannot reach the daemon, and an error of the
read that is not the end of the stream. -/
def Exchange.failsAsync : Exchange → Bool
  | .unreachable _ => true
  | .answered (.reply _) => false
  | .answered .silent => false
  | .answered .closed => false
  | .answered (.failed err) => err.kind ≠ .unexpectedEof

/-- An exchange that fails comes before the first reply that decides. -/
def failsFirst (fails : Exchange → Bool) : List Exchange → Bool
  | [] => false
  | x :: xs => fails x || (x.verdict.isNone && failsFirst fails xs)

/-- The first verdict, or the deadline. -/
def firstVerdict : List Exchange → Except Error Unit
  | [] => .error .timeout
  | x :: xs => x.verdict.getD (firstVerdict xs)

/-- What one exchange comes to for a client: an I/O error if it fails, and its verdict if it does
not. -/
structure Takes (getStatus : Exchange → Except Error (Option StatusMsg)) (fails : Exchange → Bool) :
    Prop where
  stops : ∀ x, fails x = true → ∃ err, conclude (getStatus x) = some (.error (.io err))
  decides : ∀ x, fails x = false → conclude (getStatus x) = x.verdict

theorem Blocking.takes : Takes getStatusTimeout Exchange.failsBlocking where
  stops := by
    intro x hx
    cases x with
    | unreachable err => exact ⟨err, rfl⟩
    | answered answer =>
        cases answer with
        | reply msg => cases hx
        | silent => cases hx
        | closed => exact ⟨fillError, rfl⟩
        | failed err =>
            have hkind : ¬ (err.kind = .wouldBlock ∨ err.kind = .timedOut) := by
              simpa [Exchange.failsBlocking] using hx
            refine ⟨err, ?_⟩
            have hstatus : getStatusTimeout (.answered (.failed err)) =
                .error (.io err) := if_neg hkind
            rw [hstatus]
            rfl
  decides := by
    intro x hx
    cases x with
    | unreachable err => cases hx
    | answered answer =>
        cases answer with
        | reply msg => rfl
        | silent => rfl
        | closed => cases hx
        | failed err =>
            -- taken for the end of the poll interval
            have hkind : err.kind = .wouldBlock ∨ err.kind = .timedOut := by
              simpa [Exchange.failsBlocking, imp_iff_not_or] using hx
            have hstatus : getStatusTimeout (.answered (.failed err)) = .ok none := if_pos hkind
            rw [hstatus]
            rfl

theorem AsyncIo.getStatusTimeout_failed (err : IoError) :
    AsyncIo.getStatusTimeout (.answered (.failed err)) =
      if err.kind = .unexpectedEof then .error .closed else .error (.io err) := by
  by_cases heof : err.kind = .unexpectedEof
  · simp [getStatusTimeout, readMessage, readExact, heof]
  · simp [getStatusTimeout, readMessage, readExact, heof]

theorem AsyncIo.takes : Takes getStatusTimeout Exchange.failsAsync where
  stops := by
    intro x hx
    cases x with
    | unreachable err => exact ⟨err, rfl⟩
    | answered answer =>
        cases answer with
        | reply msg => cases hx
        | silent => cases hx
        | closed => cases hx
        | failed err =>
            have hkind : err.kind ≠ .unexpectedEof := by simpa [Exchange.failsAsync] using hx
            refine ⟨err, ?_⟩
            rw [getStatusTimeout_failed, if_neg hkind]
            rfl
  decides := by
    intro x hx
    cases x with
    | unreachable err => cases hx
    | answered answer =>
        cases answer with
        | reply msg => rfl
        | silent => rfl
        | closed => rfl
        | failed err =>
            -- taken for the closing of the connection
            have hkind : err.kind = .unexpectedEof := by simpa [Exchange.failsAsync] using hx
            rw [getStatusTimeout_failed, if_pos hkind]
            rfl

/-- The result of a client: an I/O error if a failing exchange comes first, and the first verdict if
none does. -/
theorem Takes.await {getStatus : Exchange → Except Error (Option StatusMsg)}
    {fails : Exchange → Bool} (h : Takes getStatus fails) (xs : List Exchange) :
    (failsFirst fails xs = true ∧ ∃ err, awaitInstallResult getStatus xs = .error (.io err)) ∨
      (failsFirst fails xs = false ∧ awaitInstallResult getStatus xs = firstVerdict xs) := by
  induction xs with
  | nil => exact Or.inr ⟨rfl, rfl⟩
  | cons x xs ih =>
      unfold failsFirst awaitInstallResult firstVerdict
      cases hx : fails x with
      | true =>
          obtain ⟨err, herr⟩ := h.stops x hx
          rw [herr]
          exact Or.inl ⟨rfl, err, rfl⟩
      | false =>
          rw [h.decides x hx]
          cases hverdict : x.verdict with
          | some result => exact Or.inr ⟨rfl, rfl⟩
          | none => exact ih

/-- A status decides for success or for a failed install. -/
theorem InstallStatus.result_ne_io (status : InstallStatus) (err : IoError) :
    status.result ≠ some (.error (.io err)) := by
  unfold result
  split
  · nofun
  · split
    · nofun
    · nofun

theorem Exchange.verdict_ne_io (x : Exchange) (err : IoError) :
    x.verdict ≠ some (.error (.io err)) := by
  cases x with
  | unreachable => nofun
  | answered answer =>
      cases answer with
      | reply msg => exact (InstallStatus.decode msg).result_ne_io err
      | silent => nofun
      | closed => nofun
      | failed => nofun

/-- No verdict is an I/O error. -/
theorem firstVerdict_ne_io (xs : List Exchange) (err : IoError) :
    firstVerdict xs ≠ .error (.io err) := by
  induction xs with
  | nil => nofun
  | cons x xs ih =>
      unfold firstVerdict
      cases hverdict : x.verdict with
      | none => exact ih
      | some result =>
          intro hio
          obtain rfl : result = .error (.io err) := hio
          exact x.verdict_ne_io err hverdict

/-! ## Agreement -/

/-- Success, or the same variant of an error. -/
def SameVariant : Except Error Unit → Except Error Unit → Prop
  | .ok (), .ok () => True
  | .error err, .error err' => err.ctorIdx = err'.ctorIdx
  | _, _ => False

theorem sameVariant_refl (r : Except Error Unit) : SameVariant r r := by
  cases r with
  | ok => trivial
  | error err => exact rfl

theorem SameVariant.symm {r r' : Except Error Unit} (h : SameVariant r r') : SameVariant r' r := by
  cases r with
  | ok =>
      cases r' with
      | ok => trivial
      | error err => exact h
  | error err =>
      cases r' with
      | ok => exact h
      | error err' => exact Eq.symm h

/-- Only an I/O error is of the variant of one. -/
theorem SameVariant.eq_io {r : Except Error Unit} {err : IoError}
    (h : SameVariant (.error (.io err)) r) : ∃ err', r = .error (.io err') := by
  cases r with
  | ok => exact h.elim
  | error err' =>
      cases err' with
      | io err' => exact ⟨err', rfl⟩
      | _ => exact absurd h (by simp [SameVariant, Error.ctorIdx])

/-- For every sequence of exchanges before the deadline. The clients return the same result, if both
or neither of them comes to an exchange that it does not survive before a reply decides, and in no
other case. A connection that is closed before the reply is retried by the async client and never by
the blocking one. -/
theorem await_install_result_agree_iff (xs : List Exchange) :
    (SameVariant (Blocking.awaitInstallResult xs) (AsyncIo.awaitInstallResult xs) ↔
        failsFirst Exchange.failsBlocking xs = failsFirst Exchange.failsAsync xs) ∧
      AsyncIo.awaitInstallResult (.answered .closed :: xs) = AsyncIo.awaitInstallResult xs ∧
      Blocking.awaitInstallResult (.answered .closed :: xs) = .error (.io fillError) := by
  refine ⟨?_, rfl, rfl⟩
  unfold Blocking.awaitInstallResult AsyncIo.awaitInstallResult
  rcases Blocking.takes.await xs with ⟨hb, err, hberr⟩ | ⟨hb, hbverdict⟩
  · rcases AsyncIo.takes.await xs with ⟨ha, err', haerr⟩ | ⟨ha, haverdict⟩
    · rw [hb, ha, hberr, haerr]
      exact iff_of_true rfl rfl
    · rw [hb, ha, hberr, haverdict]
      refine iff_of_false (fun hsame => ?_) nofun
      obtain ⟨err', herr'⟩ := hsame.eq_io
      exact firstVerdict_ne_io xs err' herr'
  · rcases AsyncIo.takes.await xs with ⟨ha, err', haerr⟩ | ⟨ha, haverdict⟩
    · rw [hb, ha, hbverdict, haerr]
      refine iff_of_false (fun hsame => ?_) nofun
      obtain ⟨err, herr⟩ := hsame.symm.eq_io
      exact firstVerdict_ne_io xs err herr
    · rw [hb, ha, hbverdict, haverdict]
      exact iff_of_true (sameVariant_refl _) rfl

/-- A connection that is closed before the reply, and a reply that reports the success. -/
theorem closed_exchange_not_retried :
    Blocking.awaitInstallResult [.answered .closed, .answered (.reply ⟨2, 3⟩)] =
        .error (.io fillError) ∧
      AsyncIo.awaitInstallResult [.answered .closed, .answered (.reply ⟨2, 3⟩)] = .ok () := by
  exact ⟨rfl, by decide +kernel⟩

end SummitUsbgadget.SwupdateIpc
