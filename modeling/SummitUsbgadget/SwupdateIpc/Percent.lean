import SummitUsbgadget.Lib.Saturating
import SummitUsbgadget.SwupdateIpc.Proto

/-!
# Overall progress

`ProgressMsg::overall_percent` makes one percentage out of the step, the number of steps and the
percentage of the step. All of them come from the wire. An arithmetic panic is `none`; that there is
none, that the percentage never falls from one frame of an install to the next and that 100 is kept
for the verdict is `overall_percent_sound`.
-/

set_option autoImplicit false

namespace SummitUsbgadget.SwupdateIpc

open SummitUsbgadget.Lib

/-- `RecoveryStatus::SUCCESS as u32`. -/
def rawSuccess : UInt32 := 3

example : decodeRecoveryStatus rawSuccess.toNat = .ok .success := rfl

/-- `ProgressMsg`, less the fields that `overall_percent` does not read. -/
structure ProgressMsg where
  status : UInt32
  dwlPercent : UInt32
  nsteps : UInt32
  curStep : UInt32
  curPercent : UInt32
  deriving DecidableEq, Repr

namespace ProgressMsg

/-- `ProgressMsg::overall_percent`. -/
def overallPercent (m : ProgressMsg) : Option UInt32 :=
  if m.status = rawSuccess then some 100
  else if 0 < m.nsteps ∧ 0 < m.curStep then
    let completed := min (saturatingSub m.curStep 1) m.nsteps
    let total := saturatingAdd (saturatingMul completed 100) (min m.curPercent 100)
    (checkedDiv total m.nsteps).map fun percent => min percent 99
  else some (min (max m.curPercent m.dwlPercent) 99)

/-- A frame of an install that is under way, with its steps counted. -/
structure Counted (m : ProgressMsg) : Prop where
  running : m.status ≠ rawSuccess
  nsteps : 1 ≤ m.nsteps
  curStep : 1 ≤ m.curStep

/-- The step and the percentage of `m`, in this order, are not behind those of `m'`. -/
def NotBehind (m m' : ProgressMsg) : Prop :=
  m'.curStep < m.curStep ∨ m'.curStep = m.curStep ∧ m'.curPercent ≤ m.curPercent

/-- Hundredths of steps that are done, without a limit on their number. -/
def progress (m : ProgressMsg) : Nat :=
  100 * min (m.curStep.toNat - 1) m.nsteps.toNat + min m.curPercent.toNat 100

/-! ## The value -/

theorem nsteps_pos {m : ProgressMsg} (h : Counted m) : 0 < m.nsteps.toNat :=
  UInt32.le_iff_toNat_le.1 h.nsteps

theorem curStep_pos {m : ProgressMsg} (h : Counted m) : 0 < m.curStep.toNat :=
  UInt32.le_iff_toNat_le.1 h.curStep

/-- What the percentage of a counted frame comes to: the sum may stop at the end of the range. -/
theorem overallPercent_counted {m : ProgressMsg} (h : Counted m) :
    ∃ n, m.overallPercent = some n ∧ n.toNat = min (min m.progress u32Max / m.nsteps.toNat) 99 := by
  have hsteps := nsteps_pos h
  have hpos : 0 < m.nsteps ∧ 0 < m.curStep :=
    ⟨UInt32.lt_iff_toNat_lt.2 hsteps, UInt32.lt_iff_toNat_lt.2 (curStep_pos h)⟩
  have hne : m.nsteps ≠ 0 := by
    rintro h0
    rw [h0] at hsteps
    exact Nat.lt_irrefl 0 hsteps
  -- two limits one after the other are one, since the second summand is not negative
  have htotal : ∀ c p : Nat, min (min (c * 100) u32Max + p) u32Max = min (100 * c + p) u32Max := by
    intro c p
    omega
  unfold overallPercent
  rw [if_neg h.running, if_pos hpos]
  simp only [checkedDiv_of_ne _ hne, Option.map_some]
  refine ⟨_, rfl, ?_⟩
  simp only [toNat_min, UInt32.toNat_div, toNat_saturatingAdd, toNat_saturatingMul,
    toNat_saturatingSub, UInt32.toNat_ofNat]
  exact congrArg (fun n => min (n / m.nsteps.toNat) 99) (htotal _ _)

theorem overallPercent_capped {m : ProgressMsg} (h : m.status ≠ rawSuccess) :
    ∃ n, m.overallPercent = some n ∧ n.toNat ≤ 99 := by
  by_cases hpos : 0 < m.nsteps ∧ 0 < m.curStep
  · have hcounted : Counted m :=
      ⟨h, UInt32.le_iff_toNat_le.2 (UInt32.lt_iff_toNat_lt.1 hpos.1),
        UInt32.le_iff_toNat_le.2 (UInt32.lt_iff_toNat_lt.1 hpos.2)⟩
    obtain ⟨n, hn, hval⟩ := overallPercent_counted hcounted
    exact ⟨n, hn, hval ▸ Nat.min_le_right _ _⟩
  · refine ⟨min (max m.curPercent m.dwlPercent) 99, ?_, ?_⟩
    · rw [overallPercent, if_neg h, if_neg hpos]
    · rw [toNat_min]
      exact Nat.min_le_right _ _

/-! ## One frame after another -/

/-- The number of steps is the same, so a later frame has made no less progress, or both have all
their steps behind them. -/
theorem progress_le {m m' : ProgressMsg} (hsteps : m.nsteps = m'.nsteps) (h' : Counted m')
    (hle : NotBehind m m') :
    m'.progress ≤ m.progress ∨
      100 * m.nsteps.toNat ≤ m.progress ∧ 100 * m.nsteps.toNat ≤ m'.progress := by
  have hpos := curStep_pos h'
  unfold progress
  rw [hsteps]
  rcases hle with hlt | ⟨heq, hp⟩
  · have hstep := UInt32.lt_iff_toNat_lt.1 hlt
    by_cases hall : m'.nsteps.toNat ≤ m'.curStep.toNat - 1
    · -- neither counts the steps beyond the last one
      right
      omega
    · left
      omega
  · left
    have hpercent := UInt32.le_iff_toNat_le.1 hp
    rw [heq]
    omega

/-- A limit on the progress and a limit on the percentage keep the order, also where all steps are
done: there the percentage is 99 or what the limit on the progress makes of it. -/
theorem percent_le {n p p' : Nat} (hn : 0 < n)
    (h : p' ≤ p ∨ 100 * n ≤ p ∧ 100 * n ≤ p') :
    min (min p' u32Max / n) 99 ≤ min (min p u32Max / n) 99 := by
  rcases h with hle | ⟨hp, hp'⟩
  · have hmin : min p' u32Max ≤ min p u32Max := by omega
    have hdiv := Nat.div_le_div_right (c := n) hmin
    omega
  · by_cases hmax : 100 * n ≤ u32Max
    · have hfull : 100 ≤ min p u32Max / n := (Nat.le_div_iff_mul_le hn).2 (by omega)
      omega
    · have hlimit : min p u32Max = u32Max := by omega
      have hlimit' : min p' u32Max = u32Max := by omega
      have hsame : min p' u32Max = min p u32Max := hlimit'.trans hlimit.symm
      exact Nat.le_of_eq (congrArg (fun q => min (q / n) 99) hsame)

/-- There is always a percentage, and it is 100 exactly for the verdict. From one counted frame to
the next it never falls, and as long as the hundredths of all steps fit into 32 bits it is what it
says. -/
theorem overall_percent_sound (m m' : ProgressMsg) :
    (∃ n, m.overallPercent = some n ∧ (n = 100 ↔ m.status = rawSuccess) ∧
      (m.status ≠ rawSuccess → n ≤ 99)) ∧
    (Counted m → Counted m' → m.nsteps = m'.nsteps → NotBehind m m' →
      ∃ n n', m.overallPercent = some n ∧ m'.overallPercent = some n' ∧ n' ≤ n) ∧
    (Counted m → 100 * (m.nsteps.toNat + 1) < 2 ^ 32 →
      ∃ n, m.overallPercent = some n ∧
        n.toNat = min 99 ((100 * min (m.curStep.toNat - 1) m.nsteps.toNat +
          min m.curPercent.toNat 100) / m.nsteps.toNat)) := by
  refine ⟨?_, fun h h' hsteps hle => ?_, fun h hfits => ?_⟩
  · by_cases hs : m.status = rawSuccess
    · exact ⟨100, by rw [overallPercent, if_pos hs], by simp [hs], fun hne => absurd hs hne⟩
    · obtain ⟨n, hn, hval⟩ := overallPercent_capped hs
      refine ⟨n, hn, ⟨fun h100 => ?_, fun h => absurd h hs⟩, fun _ => UInt32.le_iff_toNat_le.2 hval⟩
      rw [h100] at hval
      exact absurd hval (by decide)
  · obtain ⟨n, hn, hval⟩ := overallPercent_counted h
    obtain ⟨n', hn', hval'⟩ := overallPercent_counted h'
    refine ⟨n, n', hn, hn', UInt32.le_iff_toNat_le.2 ?_⟩
    rw [hval, hval', ← hsteps]
    exact percent_le (nsteps_pos h) (progress_le hsteps h' hle)
  · obtain ⟨n, hn, hval⟩ := overallPercent_counted h
    refine ⟨n, hn, ?_⟩
    have hlimit : min m.progress u32Max = m.progress := by
      unfold progress u32Max UInt32.size
      omega
    rw [hval, hlimit, Nat.min_comm, progress]

end ProgressMsg

end SummitUsbgadget.SwupdateIpc
