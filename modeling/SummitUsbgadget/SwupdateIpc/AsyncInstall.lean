import SummitUsbgadget.SwupdateIpc.Pieces

/-!
# The callback-driven install

`run_async_install` sends the chunks of its caller and looks at the progress connection after each
of them. The verdict of the daemon is meant to decide the result; a daemon that has it may stop
reading the image, though, and then the next chunk fails before the progress connection is looked
at.

The daemon writes a frame at once, so before each read of the connection some number of whole frames
arrives. `verdictWithin` tells from this schedule alone what the looks meet, and
`async_install_outcome_iff` says when the first verdict of the daemon is the result.
-/

set_option autoImplicit false

namespace SummitUsbgadget.SwupdateIpc.Blocking

/-- A chunk that `write_data` returns, and what `send_data` returns for it. -/
structure Chunk where
  data : Bytes
  sent : Except Error Unit

/-- `ProgressConn::receive`, which reads as the async client does; `none` if it waits forever. -/
def receive (size : Nat) (s : Socket) : Option (Except Error Bytes × Socket) :=
  AsyncIo.receive size s

/-- The loop of `wait_for_complete`, for at most `n` frames. -/
def waitForFrames (size : Nat) : Nat → Socket → Option AsyncOutcome
  | 0, _ => none
  | n + 1, s =>
      match receive size s with
      | none => none
      | some (.error _, _) => some .failure
      | some (.ok msg, s) =>
          match frameVerdict msg with
          | some (.ok ()) => some .success
          | some (.error _) => some .failure
          | none => waitForFrames size n s

/-- `wait_for_complete`; a frame has bytes, so there are no more frames than bytes. -/
def waitForComplete (size : Nat) (s : Socket) : Option AsyncOutcome :=
  waitForFrames size (s.left.length + 1) s

/-- The loop of `run_async_install`: the early outcome, if there is one. After the last chunk
`write_data` returns `None`; an empty chunk ends the image as well. -/
def sendChunks (size : Nat) : List Chunk → Socket → Option AsyncOutcome × Socket
  | [], s => (none, s)
  | chunk :: rest, s =>
      if chunk.data = [] then (none, s)
      else
        match chunk.sent with
        | .error _ => (some .failure, s)
        | .ok () =>
            match consumeProgress size s with
            | (.ok (some outcome), s) => (some outcome, s)
            | (.ok none, s) => sendChunks size rest s
            | (.error _, s) => (some .failure, s)

/-- `run_async_install`, with what `progress_connect` returns; `none` if it waits forever. -/
def runAsyncInstall (size : Nat) (progress : Except Error Socket) (chunks : List Chunk) :
    Option AsyncOutcome :=
  match progress with
  | .error _ => some .failure
  | .ok s =>
      match sendChunks size chunks s with
      | (some outcome, _) => some outcome
      | (none, s) => waitForComplete size s

/-! ## The daemon -/

/-- The first verdict among the frames. -/
def firstTerminal : List Bytes → Option AsyncOutcome
  | [] => none
  | f :: fs =>
      match progressStatus f with
      | .ok .success => some .success
      | .ok .failure => some .failure
      | _ => firstTerminal fs

/-- A progress connection that stays up, with the frames that arrive before each of its reads. -/
def emitting (schedule : List (List Bytes)) : Socket :=
  ⟨[], false, schedule.map fun fs => .bytes fs.flatten⟩

/-- The chunk is refused after all those in front of it were sent. -/
def RefusedAfter (sent : List Chunk) (chunks : List Chunk) : Prop :=
  ∃ chunk rest, chunks = sent ++ chunk :: rest ∧ (∀ c ∈ sent, c.data ≠ [] ∧ c.sent = .ok ()) ∧
    chunk.data ≠ [] ∧ ∃ err, chunk.sent = .error err

/-- The verdict that so many looks at the progress meet, if these frames were not read yet. A look
reads frame by frame, and before each read the next frames of the schedule arrive; it ends with a
verdict, or with a read that finds nothing. -/
def verdictWithin : Nat → List Bytes → List (List Bytes) → Option AsyncOutcome
  | 0, _, _ => none
  | _ + 1, unread, [] => firstTerminal unread
  | looks + 1, unread, fs :: schedule =>
      match unread ++ fs with
      | [] => verdictWithin looks [] schedule
      | f :: rest => firstTerminal [f] <|> verdictWithin (looks + 1) rest schedule

/-- If a chunk is refused, the success arrives in time for the looks after the chunks in front of
it. -/
def Timely (schedule : List (List Bytes)) (chunks : List Chunk) : Prop :=
  ∀ sent, RefusedAfter sent chunks → verdictWithin sent.length [] schedule = some .success

theorem firstTerminal_eq (fs : List Bytes) : firstTerminal fs = outcome (conclusion fs).1 := by
  induction fs with
  | nil => rfl
  | cons f fs ih =>
      rw [firstTerminal]
      split
      · next hstatus =>
          have hverdict : frameVerdict f = some (.ok ()) := by rw [frameVerdict, hstatus]
          rw [conclusion_verdict hverdict]
          rfl
      · next hstatus =>
          have hverdict : frameVerdict f = some (.error .installFailed) := by
            rw [frameVerdict, hstatus]
          rw [conclusion_verdict hverdict]
          rfl
      · next hsuccess hfailure =>
          have hnone : frameVerdict f = none := by
            unfold frameVerdict
            split
            · next hstatus => exact absurd hstatus hsuccess
            · next hstatus => exact absurd hstatus hfailure
            · rfl
          rw [conclusion_none hnone]
          exact ih

/-! ## Frames that arrive as a whole -/

/-- What was not read yet are whole frames, and whole frames arrive. -/
def Aligned (size : Nat) (s : Socket) : Prop :=
  ∃ (unread : List Bytes) (schedule : List (List Bytes)), (∀ f ∈ unread, f.length = size) ∧
    (∀ fs ∈ schedule, ∀ f ∈ fs, f.length = size) ∧
    s = ⟨unread.flatten, false, schedule.map fun fs => .bytes fs.flatten⟩

section Frames

variable {size : Nat}

/-- Frames that were not read yet, and those that arrive before each of the next reads. -/
abbrev holding (unread : List Bytes) (schedule : List (List Bytes)) : Socket :=
  ⟨unread.flatten, false, schedule.map fun fs => .bytes fs.flatten⟩

theorem arrive_holding (unread fs : List Bytes) (schedule : List (List Bytes)) :
    (holding unread (fs :: schedule)).arrive = (none, holding (unread ++ fs) schedule) := by
  rw [holding, holding, List.flatten_append]
  rfl

theorem left_holding (unread fs : List Bytes) (schedule : List (List Bytes)) :
    (holding unread (fs :: schedule)).left = (holding (unread ++ fs) schedule).left := by
  simp [Socket.left, Arrival.data]

theorem left_holding_cons (f : Bytes) (unread : List Bytes) (schedule : List (List Bytes)) :
    (holding (f :: unread) schedule).left = f ++ (holding unread schedule).left := by
  simp [Socket.left]

/-- A call that finds a frame reads it at once. -/
theorem receiveNb_frame {f rest : Bytes} {s s' : Socket} (hf : f.length = size) (hne : f ≠ [])
    (harrive : s.arrive = (none, s')) (hunread : s'.unread = f ++ rest) :
    receiveNb size s = (.ok (some f), { s' with unread := rest }) := by
  obtain ⟨m, rfl⟩ : ∃ m, size = m + 1 := by
    have hpos := List.length_pos_iff.2 hne
    exact ⟨size - 1, by omega⟩
  have hread : s.readNb (m + 1 - ([] : Bytes).length) = (.ok f, { s' with unread := rest }) := by
    have hsome : ¬ (s'.unread = [] ∧ s'.ended = false) := by
      rintro ⟨hnil, -⟩
      rw [hunread] at hnil
      exact hne (List.append_eq_nil_iff.1 hnil).1
    rw [Socket.readNb, harrive]
    dsimp only
    rw [if_neg hsome]
    simp only [Socket.take, hunread, List.length_nil, Nat.sub_zero, ← hf, List.take_left,
      List.drop_left]
  have hdone : Socket.readExactNb (m + 1) m f { s' with unread := rest } =
      (.ok f, { s' with unread := rest }) := by
    cases m with
    | zero => rfl
    | succ m => exact if_pos (Nat.le_of_eq hf.symm)
  have hshort : ([] : Bytes).length < m + 1 := Nat.zero_lt_succ m
  exact receiveNb_read ((Socket.readExactNb_data (n := m) hshort hread hne).trans hdone)

/-- A call that finds nothing reads nothing. -/
theorem receiveNb_quiet {s s' : Socket} (hsize : 0 < size) (harrive : s.arrive = (none, s'))
    (hunread : s'.unread = []) (hended : s'.ended = false) :
    receiveNb size s = (.ok none, s') := by
  obtain ⟨m, rfl⟩ : ∃ m, size = m + 1 := ⟨size - 1, by omega⟩
  have hread : s.readNb (m + 1 - ([] : Bytes).length) = (.error wouldBlockError, s') := by
    rw [Socket.readNb, harrive]
    dsimp only
    rw [if_pos ⟨hunread, hended⟩]
  exact receiveNb_blocked (Socket.readExactNb_failed (by simp) hread)

/-- The next arrival brings whole frames. -/
theorem Aligned.arrive {s : Socket} (h : Aligned size s) :
    ∃ (unread : List Bytes) (schedule : List (List Bytes)), (∀ f ∈ unread, f.length = size) ∧
      (∀ fs ∈ schedule, ∀ f ∈ fs, f.length = size) ∧
      s.arrive = (none, holding unread schedule) ∧ s.left = (holding unread schedule).left := by
  obtain ⟨unread, schedule, hunread, hschedule, rfl⟩ := h
  cases schedule with
  | nil => exact ⟨unread, [], hunread, nofun, rfl, rfl⟩
  | cons fs schedule =>
      obtain ⟨hfs, hrest⟩ := List.forall_mem_cons.1 hschedule
      exact ⟨unread ++ fs, schedule, List.forall_mem_append.2 ⟨hunread, hfs⟩, hrest,
        arrive_holding unread fs schedule, left_holding unread fs schedule⟩

/-- A call returns a frame, or nothing and has read nothing. -/
theorem Aligned.receiveNb {s : Socket} (h : Aligned size s) (hsize : 0 < size) :
    Aligned size (receiveNb size s).2 ∧ ¬ Torn size s := by
  obtain ⟨unread, schedule, hunread, hschedule, harrive, hleft⟩ := h.arrive
  cases unread with
  | nil =>
      have hcall := receiveNb_quiet hsize harrive rfl rfl
      refine ⟨?_, fun htorn => htorn.2 ?_⟩
      · rw [hcall]
        exact ⟨[], schedule, nofun, hschedule, rfl⟩
      · rw [hcall, hleft]
  | cons f unread =>
      obtain ⟨hf, hrest⟩ := List.forall_mem_cons.1 hunread
      have hne : f ≠ [] := List.length_pos_iff.1 (by omega)
      have hcall := receiveNb_frame hf hne harrive List.flatten_cons
      refine ⟨?_, fun htorn => ?_⟩
      · rw [hcall]
        exact ⟨unread, schedule, hrest, hschedule, rfl⟩
      · have hnone := htorn.1
        rw [hcall] at hnone
        cases hnone

theorem Aligned.whole {s : Socket} (h : Aligned size s) (hsize : 0 < size) : Whole size s := by
  intro n
  induction n generalizing s with
  | zero => exact (h.receiveNb hsize).2
  | succ n ih => exact ih (h.receiveNb hsize).1

theorem whole_emitting {schedule : List (List Bytes)} (hsize : 0 < size)
    (h : ∀ fs ∈ schedule, ∀ f ∈ fs, f.length = size) : Whole size (emitting schedule) :=
  Aligned.whole ⟨[], schedule, nofun, h, rfl⟩ hsize

theorem carries_emitting {schedule : List (List Bytes)}
    (h : ∀ fs ∈ schedule, ∀ f ∈ fs, f.length = size) :
    Carries size schedule.flatten (emitting schedule) := by
  refine ⟨⟨rfl, fun a ha => ?_⟩, fun f hf => ?_, ?_⟩
  · obtain ⟨fs, -, rfl⟩ := List.mem_map.1 ha
    exact ⟨fs.flatten, rfl⟩
  · obtain ⟨fs, hfs, hmem⟩ := List.mem_flatten.1 hf
    exact h fs hfs f hmem
  · rw [List.flatten_flatten]
    simp [emitting, Socket.left, Arrival.data, List.map_map, Function.comp_def]

/-! ## Looks at the progress -/

theorem firstTerminal_cons (f : Bytes) (fs : List Bytes) :
    firstTerminal (f :: fs) = (firstTerminal [f] <|> firstTerminal fs) := by
  simp only [firstTerminal]
  split <;> rfl

/-- A look goes on after a frame, unless it has a verdict. -/
theorem consumeFrames_frame {f : Bytes} {s s' : Socket} (h : receiveNb size s = (.ok (some f), s'))
    (n : Nat) :
    consumeFrames size (n + 1) s =
      match firstTerminal [f] with
      | some outcome => (.ok (some outcome), s')
      | none => consumeFrames size n s' := by
  rw [firstTerminal_eq]
  cases hverdict : frameVerdict f with
  | none =>
      rw [conclusion_none hverdict, consumeFrames_none h hverdict]
      rfl
  | some result =>
      rw [conclusion_verdict hverdict, consumeFrames_verdict h hverdict]
      rcases frameVerdict_cases hverdict with rfl | rfl
      · rfl
      · rfl

/-- A look with the looks behind it: the verdict that it meets, or what they come to. -/
def lookThen (size n looks : Nat) (s : Socket) : Option AsyncOutcome :=
  match consumeFrames size n s with
  | (.ok (some outcome), _) => some outcome
  | (_, s) => consumed size looks s

theorem lookThen_quiet {n looks : Nat} {s s' : Socket} (h : receiveNb size s = (.ok none, s')) :
    lookThen size (n + 1) looks s = consumed size looks s' := by
  rw [lookThen, consumeFrames, h]

theorem lookThen_frame {n looks : Nat} {f : Bytes} {s s' : Socket}
    (h : receiveNb size s = (.ok (some f), s')) :
    lookThen size (n + 1) looks s = (firstTerminal [f] <|> lookThen size n looks s') := by
  rw [lookThen, consumeFrames_frame h]
  cases firstTerminal [f] with
  | none => rfl
  | some outcome => rfl

/-- Nothing is met on a connection that stays silent. -/
theorem consumed_silent (hsize : 0 < size) (n : Nat) : consumed size n ⟨[], false, []⟩ = none :=
  have hcarries : Carries size [] ⟨[], false, []⟩ := ⟨⟨rfl, by simp⟩, by simp, rfl⟩
  consumed_whole hcarries hsize (Aligned.whole ⟨[], [], nofun, nofun, rfl⟩ hsize) (Nat.zero_le n)

/-- After the last arrival a look reads what is there. -/
theorem lookThen_last (hsize : 0 < size) {unread : List Bytes}
    (hunread : ∀ f ∈ unread, f.length = size) {n : Nat} (hn : unread.flatten.length < n)
    (looks : Nat) :
    lookThen size n looks ⟨unread.flatten, false, []⟩ = firstTerminal unread := by
  obtain ⟨n, rfl⟩ : ∃ m, n = m + 1 := ⟨n - 1, by omega⟩
  induction unread generalizing n with
  | nil =>
      rw [lookThen_quiet (receiveNb_quiet hsize rfl rfl rfl)]
      exact consumed_silent hsize looks
  | cons f unread ih =>
      obtain ⟨hf, hrest⟩ := List.forall_mem_cons.1 hunread
      have hne : f ≠ [] := List.length_pos_iff.1 (by omega)
      rw [List.flatten_cons, List.length_append] at hn
      obtain ⟨n, rfl⟩ : ∃ m, n = m + 1 := ⟨n - 1, by omega⟩
      rw [lookThen_frame (receiveNb_frame hf hne rfl List.flatten_cons), ih hrest n (by omega)]
      exact (firstTerminal_cons f unread).symm

/-- What the looks meet is what the schedule lets them meet. -/
theorem lookThen_eq (hsize : 0 < size) {schedule : List (List Bytes)} {unread : List Bytes}
    (hunread : ∀ f ∈ unread, f.length = size)
    (hschedule : ∀ fs ∈ schedule, ∀ f ∈ fs, f.length = size) {n : Nat}
    (hn : (holding unread schedule).left.length < n) (looks : Nat) :
    lookThen size n looks (holding unread schedule) =
      verdictWithin (looks + 1) unread schedule := by
  obtain ⟨n, rfl⟩ : ∃ m, n = m + 1 := ⟨n - 1, by omega⟩
  -- every read takes the next arrival, so the induction is on the schedule
  induction schedule generalizing unread n looks with
  | nil =>
      rw [verdictWithin]
      refine lookThen_last hsize hunread ?_ looks
      simpa [Socket.left] using hn
  | cons fs schedule ih =>
      obtain ⟨hfs, hrest⟩ := List.forall_mem_cons.1 hschedule
      have harrive := arrive_holding unread fs schedule
      have hall := List.forall_mem_append.2 ⟨hunread, hfs⟩
      rw [left_holding] at hn
      rw [verdictWithin]
      cases hfound : unread ++ fs with
      | nil =>
          rw [hfound] at harrive
          rw [lookThen_quiet (receiveNb_quiet hsize harrive rfl rfl)]
          cases looks with
          | zero => rw [verdictWithin, consumed]
          | succ looks => exact ih (List.forall_mem_nil _) hrest looks _ (Nat.lt_succ_self _)
      | cons f rest =>
          rw [hfound] at harrive hall hn
          obtain ⟨hf, hmore⟩ := List.forall_mem_cons.1 hall
          have hne : f ≠ [] := List.length_pos_iff.1 (by omega)
          rw [left_holding_cons, List.length_append] at hn
          obtain ⟨n, rfl⟩ : ∃ m, n = m + 1 := ⟨n - 1, by omega⟩
          rw [lookThen_frame (receiveNb_frame hf hne harrive List.flatten_cons)]
          exact congrArg (firstTerminal [f] <|> ·) (ih hmore hrest looks n (by omega))

theorem consumed_emitting (hsize : 0 < size) {schedule : List (List Bytes)}
    (h : ∀ fs ∈ schedule, ∀ f ∈ fs, f.length = size) (looks : Nat) :
    consumed size looks (emitting schedule) = verdictWithin looks [] schedule := by
  cases looks with
  | zero => rw [verdictWithin, consumed]
  | succ looks => exact lookThen_eq hsize (List.forall_mem_nil _) h (Nat.lt_succ_self _) looks

/-! ## The result -/

variable {fs : List Bytes} {s : Socket}

/-- The wait at the end comes to the first verdict. -/
theorem waitForFrames_eq (h : Carries size fs s) (hsize : 0 < size) {n : Nat} (hn : fs.length < n) :
    waitForFrames size n s = firstTerminal fs := by
  rw [firstTerminal_eq]
  induction n generalizing s fs with
  | zero => omega
  | succ n ih =>
      rcases h.receive_step hsize with ⟨rfl, hread⟩ | ⟨f, tail, s', rfl, hread, hnext⟩
      · rw [waitForFrames, receive, hread]
        rfl
      · rw [waitForFrames, receive, hread]
        dsimp only
        rw [List.length_cons] at hn
        cases hverdict : frameVerdict f with
        | none => rw [conclusion_none hverdict, ih hnext (by omega)]
        | some result =>
            rw [conclusion_verdict hverdict]
            rcases frameVerdict_cases hverdict with rfl | rfl
            · rfl
            · rfl

theorem length_le_left (h : Carries size fs s) (hsize : 0 < size) : fs.length ≤ s.left.length := by
  have hlen : ∀ fs : List Bytes, (∀ f ∈ fs, f.length = size) → fs.length ≤ fs.flatten.length := by
    intro fs hfs
    induction fs with
    | nil => exact Nat.le_refl 0
    | cons f fs ih =>
        obtain ⟨hf, hrest⟩ := List.forall_mem_cons.1 hfs
        have hle := ih hrest
        rw [List.length_cons, List.flatten_cons, List.length_append]
        omega
  rw [h.left]
  exact hlen fs h.frames

theorem waitForComplete_eq (h : Carries size fs s) (hsize : 0 < size) :
    waitForComplete size s = firstTerminal fs :=
  waitForFrames_eq h hsize (Nat.lt_succ_of_le (length_le_left h hsize))

end Frames

/-- The first verdict of the daemon is the result. -/
def Decides (size : Nat) (fs : List Bytes) (s : Socket) (chunks : List Chunk) : Prop :=
  ∀ outcome, firstTerminal fs = some outcome →
    runAsyncInstall size (.ok s) chunks = some outcome

/-- If a chunk is refused, a look at the progress after one of the chunks in front of it has met the
success. -/
def Heeded (size : Nat) (s : Socket) (chunks : List Chunk) : Prop :=
  ∀ sent, RefusedAfter sent chunks → consumed size sent.length s = some .success

section Run

variable {size : Nat} {s s' : Socket} {chunk : Chunk} {rest : List Chunk}

theorem run_empty (hdata : chunk.data = []) :
    runAsyncInstall size (.ok s) (chunk :: rest) = waitForComplete size s := by
  rw [runAsyncInstall, sendChunks, if_pos hdata]

theorem run_refused (hdata : chunk.data ≠ []) {err : Error} (hsent : chunk.sent = .error err) :
    runAsyncInstall size (.ok s) (chunk :: rest) = some .failure := by
  rw [runAsyncInstall, sendChunks, if_neg hdata, hsent]

theorem run_verdict (hdata : chunk.data ≠ []) (hsent : chunk.sent = .ok ()) {outcome : AsyncOutcome}
    (hlook : consumeProgress size s = (.ok (some outcome), s')) :
    runAsyncInstall size (.ok s) (chunk :: rest) = some outcome := by
  rw [runAsyncInstall, sendChunks, if_neg hdata, hsent]
  dsimp only
  rw [hlook]

theorem run_next (hdata : chunk.data ≠ []) (hsent : chunk.sent = .ok ())
    (hlook : consumeProgress size s = (.ok none, s')) :
    runAsyncInstall size (.ok s) (chunk :: rest) = runAsyncInstall size (.ok s') rest := by
  rw [runAsyncInstall, sendChunks, if_neg hdata, hsent]
  dsimp only
  rw [hlook]
  rfl

/-- A chunk that is refused is the first one, or stands behind one that was sent. -/
theorem refusedAfter_cons {sent : List Chunk} (h : RefusedAfter sent (chunk :: rest)) :
    chunk.data ≠ [] ∧ ((sent = [] ∧ ∃ err, chunk.sent = .error err) ∨
      ∃ sent', sent = chunk :: sent' ∧ chunk.sent = .ok () ∧ RefusedAfter sent' rest) := by
  obtain ⟨refused, rest', heq, hsent, hdata, herr⟩ := h
  cases sent with
  | nil =>
      obtain ⟨rfl, -⟩ := List.cons.inj heq
      exact ⟨hdata, Or.inl ⟨rfl, herr⟩⟩
  | cons c sent =>
      obtain ⟨rfl, htail⟩ := List.cons.inj heq
      obtain ⟨hc, hsent⟩ := List.forall_mem_cons.1 hsent
      exact ⟨hc.1, Or.inr ⟨sent, rfl, hc.2, refused, rest', htail, hsent, hdata, herr⟩⟩

theorem refusedAfter_next {sent : List Chunk} (hdata : chunk.data ≠ [])
    (hsent : chunk.sent = .ok ()) (h : RefusedAfter sent rest) :
    RefusedAfter (chunk :: sent) (chunk :: rest) := by
  obtain ⟨refused, rest', rfl, hall, hrefused⟩ := h
  exact ⟨refused, rest', rfl, List.forall_mem_cons.2 ⟨⟨hdata, hsent⟩, hall⟩, hrefused⟩

/-- After a look that met nothing the condition is the one on the rest of the chunks. -/
theorem heeded_next (hdata : chunk.data ≠ []) (hsent : chunk.sent = .ok ())
    (hlook : consumeProgress size s = (.ok none, s')) :
    Heeded size s (chunk :: rest) ↔ Heeded size s' rest := by
  have hstep : ∀ n, consumed size (n + 1) s = consumed size n s' := by
    intro n
    rw [consumed, hlook]
  constructor
  · intro h sent hrefused
    rw [← hstep]
    exact h (chunk :: sent) (refusedAfter_next hdata hsent hrefused)
  · intro h sent hrefused
    obtain ⟨-, ⟨-, err, herr⟩ | ⟨sent', rfl, -, hrest⟩⟩ := refusedAfter_cons hrefused
    · rw [hsent] at herr
      cases herr
    · rw [List.length_cons, hstep]
      exact h sent' hrest

/-- Once a look has met a verdict no chunk is sent any more. -/
theorem heeded_verdict (hsent : chunk.sent = .ok ())
    (hlook : consumeProgress size s = (.ok (some .success), s')) :
    Heeded size s (chunk :: rest) := by
  intro sent hrefused
  obtain ⟨-, ⟨-, err, herr⟩ | ⟨sent', rfl, -, -⟩⟩ := refusedAfter_cons hrefused
  · rw [hsent] at herr
    cases herr
  · rw [List.length_cons, consumed, hlook]

/-- The failure of a write is the result, whatever the daemon says. -/
theorem decides_refused {fs : List Bytes} (hdata : chunk.data ≠ []) {err : Error}
    (hsent : chunk.sent = .error err) :
    Decides size fs s (chunk :: rest) ↔
      (firstTerminal fs = some .success → Heeded size s (chunk :: rest)) := by
  constructor
  · intro hdecides hfirst
    cases (run_refused hdata hsent).symm.trans (hdecides _ hfirst)
  · intro hheeded outcome hfirst
    rw [run_refused hdata hsent]
    cases outcome with
    | failure => rfl
    | success =>
        have hnone := hheeded hfirst [] ⟨chunk, rest, rfl, nofun, hdata, err, hsent⟩
        cases hnone

/-- For frames that come through as a whole. -/
theorem decides_iff {fs : List Bytes} (h : Carries size fs s) (hsize : 0 < size)
    (hwhole : Whole size s) (chunks : List Chunk) :
    Decides size fs s chunks ↔ (firstTerminal fs = some .success → Heeded size s chunks) := by
  induction chunks generalizing s fs with
  | nil =>
      refine iff_of_true (fun outcome hfirst => ?_) fun _ sent hrefused => ?_
      · rw [← hfirst]
        exact waitForComplete_eq h hsize
      · obtain ⟨chunk, rest, hnil, -⟩ := hrefused
        cases sent with
        | nil => cases hnil
        | cons c sent => cases hnil
  | cons chunk rest ih =>
      by_cases hdata : chunk.data = []
      · refine iff_of_true (fun outcome hfirst => ?_) fun _ sent hrefused => ?_
        · rw [run_empty hdata, ← hfirst]
          exact waitForComplete_eq h hsize
        · exact absurd hdata (refusedAfter_cons hrefused).1
      · cases hsent : chunk.sent with
        | error err => exact decides_refused hdata hsent
        | ok u =>
            have hfirst := firstTerminal_eq fs
            rcases consumeFrames_whole h hsize hwhole (Nat.lt_succ_self s.left.length) with
              ⟨o, s', hlook, hout⟩ | ⟨tail, s', hlook, hcarries, hwhole', -, hout⟩
            · rw [hout] at hfirst
              refine iff_of_true (fun outcome heq => ?_) fun heq => ?_
              · rw [run_verdict hdata hsent hlook, ← hfirst, heq]
              · obtain rfl : o = .success := Option.some.inj (hfirst.symm.trans heq)
                exact heeded_verdict hsent hlook
            · have hsame : firstTerminal fs = firstTerminal tail := by
                rw [hfirst, hout, firstTerminal_eq]
              rw [heeded_next hdata hsent hlook, hsame, ← ih hcarries hwhole']
              unfold Decides
              rw [run_next hdata hsent hlook, hsame]

end Run

/-- The looks meet the success in time exactly if the schedule lets them. -/
theorem heeded_iff_timely {size : Nat} (hsize : 0 < size) {schedule : List (List Bytes)}
    (h : ∀ fs ∈ schedule, ∀ f ∈ fs, f.length = size) (chunks : List Chunk) :
    Heeded size (emitting schedule) chunks ↔ Timely schedule chunks := by
  unfold Heeded Timely
  simp only [consumed_emitting hsize h]

/-- For every image, every schedule of the frames and every chunk that is refused: the first verdict
is the result unless it is a success that arrives too late for the looks in front of the refusal. -/
theorem async_install_outcome_iff (layout : ProgressLayout) (schedule : List (List Bytes))
    (hframes : ∀ fs ∈ schedule, ∀ f ∈ fs, f.length = layout.size) (chunks : List Chunk) :
    Decides layout.size schedule.flatten (emitting schedule) chunks ↔
      (firstTerminal schedule.flatten = some .success → Timely schedule chunks) := by
  have hsize := size_pos layout
  rw [← heeded_iff_timely hsize hframes chunks]
  exact decides_iff (carries_emitting hframes) hsize (whole_emitting hsize hframes) chunks

/-- A frame with the status `SUCCESS`. -/
def successFrame : Bytes := successHead ++ blankTail .packed

theorem length_successFrame_packed : successFrame.length = ProgressLayout.packed.size :=
  List.length_append.trans (length_successFrame .packed)

/-- What `write_all` returns when the daemon has closed its end. -/
def brokenPipe : Error := .io ⟨.brokenPipe, some 32, "Broken pipe (os error 32)"⟩

/-- The daemon emits its success before the look after the first chunk, and refuses the second
one. -/
theorem async_install_outcome_iff_refused :
    runAsyncInstall ProgressLayout.packed.size (.ok (emitting [[successFrame]]))
      [⟨[1], .ok ()⟩, ⟨[2], .error brokenPipe⟩] = some .success := by
  have hframes : ∀ fs ∈ [[successFrame]], ∀ f ∈ fs, f.length = ProgressLayout.packed.size := by
    simp [length_successFrame_packed]
  refine (async_install_outcome_iff .packed [[successFrame]] hframes
    [⟨[1], .ok ()⟩, ⟨[2], .error brokenPipe⟩]).2 ?_ .success rfl
  intro _ sent hrefused
  -- the look after the first chunk comes before every refusal
  obtain ⟨-, ⟨-, err, herr⟩ | ⟨sent', rfl, -, -⟩⟩ := refusedAfter_cons hrefused
  · cases herr
  · rfl

/-- The daemon takes one chunk, emits its success and closes the data connection: the second chunk
is refused, and the install is reported as failed. -/
theorem success_reported_as_failure :
    firstTerminal [[], [successFrame]].flatten = some .success ∧
      runAsyncInstall ProgressLayout.packed.size (.ok (emitting [[], [successFrame]]))
        [⟨[1], .ok ()⟩, ⟨[2], .error brokenPipe⟩] = some .failure ∧
      ¬ Decides ProgressLayout.packed.size [[], [successFrame]].flatten
        (emitting [[], [successFrame]]) [⟨[1], .ok ()⟩, ⟨[2], .error brokenPipe⟩] := by
  have hquiet : receiveNb ProgressLayout.packed.size (emitting [[], [successFrame]]) =
      (.ok none, emitting [[successFrame]]) := receiveNb_quiet (size_pos .packed) rfl rfl rfl
  have hlook : consumeProgress ProgressLayout.packed.size (emitting [[], [successFrame]]) =
      (.ok none, emitting [[successFrame]]) := by
    rw [consumeProgress, consumeFrames, hquiet]
  have hrun : runAsyncInstall ProgressLayout.packed.size (.ok (emitting [[], [successFrame]]))
      [⟨[1], .ok ()⟩, ⟨[2], .error brokenPipe⟩] = some .failure := by
    rw [run_next (List.cons_ne_nil 1 []) rfl hlook, run_refused (List.cons_ne_nil 2 []) rfl]
  refine ⟨rfl, hrun, fun hdecides => ?_⟩
  cases hrun.symm.trans (hdecides .success rfl)

end SummitUsbgadget.SwupdateIpc.Blocking
