import Mathlib.Algebra.Order.Ring.Rat
import Mathlib.Tactic.Linarith
import AgenticTrader.Library.Ascending
import AgenticTrader.Library.Transition

/-!
# Pacing the requests of the scan's threads

`RequestPacer` (`data/pacing.py`): at most `max_per_minute` acquisitions in any
sixty seconds, for any number of threads that share one pacer. The section a
thread runs under the lock is one atomic step: it reads the clock, drops the
stamps that have aged out, and is either granted or told how long to sleep.
Between two sections of a thread any number of others can come, and a sleep can
end at any time, so that a thread woken may have to sleep again.

The stamps are trimmed only when somebody asks. What they are at the last
reading of the clock is still exactly the grants of the sixty seconds before it
(`PacerState.Sound`), because an attempt later than the last one drops at least
what the earlier one would have dropped.

The readings of the clock are exact numbers here.
-/

namespace AgenticTrader

/-! ## The pacer -/

/-- `WINDOW_SECONDS`. -/
def windowSeconds : ℚ := 60

/-- **A `RequestPacer`**: the limit and the stamps of the acquisitions that are
not known to have aged out, oldest first. -/
structure RequestPacer where
  maxPerMinute : ℤ
  stamps : List ℚ
  maxPerMinute_pos : 1 ≤ maxPerMinute

/-- **`RequestPacer.__init__`.** -/
def RequestPacer.make (maxPerMinute : ℤ) : Except String RequestPacer :=
  if h : 1 ≤ maxPerMinute then .ok ⟨maxPerMinute, [], h⟩
  else .error "max_per_minute must be positive"

/-- **What the section under the lock decides**: the request may go out, or the
thread sleeps so many seconds and asks again. -/
inductive Admission where
  | granted
  | wait (seconds : ℚ)
  deriving DecidableEq

namespace RequestPacer

variable {pacer : RequestPacer} {now : ℚ}

/-- The stamps after those that have aged out are popped. -/
def trimmed (pacer : RequestPacer) (now : ℚ) : List ℚ :=
  pacer.stamps.dropWhile (fun stamp => decide (windowSeconds ≤ now - stamp))

/-- A full queue has an oldest stamp. -/
theorem trimmed_ne_nil (h : ¬((pacer.trimmed now).length : ℤ) < pacer.maxPerMinute) :
    pacer.trimmed now ≠ [] := by
  intro hnil
  have hpos := pacer.maxPerMinute_pos
  rw [hnil, List.length_nil] at h
  omega

/-- **The section of `acquire` under the lock**, at a reading of the clock. -/
def attempt (pacer : RequestPacer) (now : ℚ) : RequestPacer × Admission :=
  if h : ((pacer.trimmed now).length : ℤ) < pacer.maxPerMinute then
    ({ pacer with stamps := pacer.trimmed now ++ [now] }, .granted)
  else
    let oldest := (pacer.trimmed now).head (trimmed_ne_nil h)
    ({ pacer with stamps := pacer.trimmed now }, .wait (max (windowSeconds - (now - oldest)) 0))

@[simp] theorem attempt_maxPerMinute : (pacer.attempt now).1.maxPerMinute = pacer.maxPerMinute := by
  unfold attempt
  split <;> rfl

theorem attempt_of_room (h : ((pacer.trimmed now).length : ℤ) < pacer.maxPerMinute) :
    (pacer.attempt now).2 = .granted
      ∧ (pacer.attempt now).1.stamps = pacer.trimmed now ++ [now] := by
  unfold attempt
  rw [dif_pos h]
  exact ⟨rfl, rfl⟩

theorem attempt_of_full (h : ¬((pacer.trimmed now).length : ℤ) < pacer.maxPerMinute) :
    (pacer.attempt now).2 ≠ .granted ∧ (pacer.attempt now).1.stamps = pacer.trimmed now := by
  unfold attempt
  rw [dif_neg h]
  exact ⟨nofun, rfl⟩

end RequestPacer

/-! ## The threads -/

/-- Where a thread is: outside `acquire`, about to take the lock, or asleep. -/
inductive PacedThread where
  | outside
  | asking
  | asleep (seconds : ℚ)
  deriving DecidableEq

/-- **The pacer and its threads**, with the last reading of the clock and the
readings at which acquisitions were granted, oldest first. -/
structure PacerState (Thread : Type) where
  pacer : RequestPacer
  clock : ℚ
  thread : Thread → PacedThread
  granted : List ℚ

namespace PacerState

variable {Thread : Type}

/-- A new pacer, nobody in `acquire`, and a clock at any reading. -/
def Initial (s : PacerState Thread) : Prop :=
  (∃ maxPerMinute, RequestPacer.make maxPerMinute = .ok s.pacer)
    ∧ (∀ who, s.thread who = .outside) ∧ s.granted = []

/-- The grants in the window that starts at an instant. -/
def grantsFrom (s : PacerState Thread) (start : ℚ) : List ℚ :=
  s.granted.filter (fun g => decide (start ≤ g) && decide (g < start + windowSeconds))

/-- The grants of the sixty seconds before an instant. -/
def grantsBefore (s : PacerState Thread) (now : ℚ) : List ℚ :=
  s.granted.filter (fun g => decide (now - g < windowSeconds))

/-! ## The queue is the window -/

/-- **What holds between sections**: the grants come in the order of the clock,
the stamps are those of the sixty seconds before its last reading, and no window
holds more than the limit. -/
structure Sound (s : PacerState Thread) : Prop where
  ordered : s.granted.Pairwise (· ≤ ·)
  past : ∀ g ∈ s.granted, g ≤ s.clock
  stamps : s.pacer.stamps = s.grantsBefore s.clock
  window : ∀ start, ((s.grantsFrom start).length : ℤ) ≤ s.pacer.maxPerMinute

variable {s : PacerState Thread} {now : ℚ}

theorem Initial.sound (h : s.Initial) : s.Sound := by
  obtain ⟨⟨maxPerMinute, hmake⟩, -, hnone⟩ := h
  have hstamps : s.pacer.stamps = [] := by
    unfold RequestPacer.make at hmake
    split at hmake
    · rw [← Except.ok.inj hmake]
    · cases hmake
  have hpos := s.pacer.maxPerMinute_pos
  refine ⟨?_, ?_, ?_, fun start => ?_⟩
  · rw [hnone]
    exact List.Pairwise.nil
  · rw [hnone]
    nofun
  · rw [hstamps, grantsBefore, hnone, List.filter_nil]
  · rw [grantsFrom, hnone, List.filter_nil, List.length_nil]
    omega

/-- **Trimming at a later reading leaves the window of that reading.** -/
theorem Sound.trimmed (h : s.Sound) (hclock : s.clock ≤ now) :
    s.pacer.trimmed now = s.grantsBefore now := by
  unfold RequestPacer.trimmed grantsBefore
  rw [h.stamps, grantsBefore, Ascending.dropWhile_eq_filter, List.filter_filter]
  · -- what is in the later window was in the earlier one
    refine List.filter_congr (fun g _ => ?_)
    rw [Bool.eq_iff_iff, Bool.and_eq_true, Bool.not_eq_true', decide_eq_false_iff_not, not_le,
      decide_eq_true_eq, decide_eq_true_eq]
    exact ⟨fun hg => hg.1, fun hg => ⟨hg, lt_of_le_of_lt (sub_le_sub_right hclock g) hg⟩⟩
  · refine (h.ordered.filter _).imp (fun hab hb => decide_eq_true ?_)
    exact (of_decide_eq_true hb).trans (sub_le_sub_left hab now)

/-- What a window holds of the grants before a reading inside it lies in the
sixty seconds before that reading. -/
theorem length_grantsFrom_le {start : ℚ} (hin : now < start + windowSeconds) :
    (s.grantsFrom start).length ≤ (s.grantsBefore now).length := by
  refine (List.monotone_filter_right s.granted (fun g hg => ?_)).length_le
  rw [Bool.and_eq_true, decide_eq_true_eq] at hg
  exact decide_eq_true (by linarith [hg.1])

/-! ## The steps -/

variable [DecidableEq Thread] {who : Thread}

/-- The state after the section of a thread at a reading of the clock. -/
def attempted (s : PacerState Thread) (who : Thread) (now : ℚ) : PacerState Thread :=
  match (s.pacer.attempt now).2 with
  | .granted =>
    { pacer := (s.pacer.attempt now).1, clock := now,
      thread := Function.update s.thread who .outside, granted := s.granted ++ [now] }
  | .wait seconds =>
    { pacer := (s.pacer.attempt now).1, clock := now,
      thread := Function.update s.thread who (.asleep seconds), granted := s.granted }

/-- **One atomic step**: a thread calls `acquire`, runs its section at a reading
of the clock that is not before the last one, or wakes up, early or late. -/
inductive Step : PacerState Thread → PacerState Thread → Prop where
  | call (s : PacerState Thread) (who : Thread) (h : s.thread who = .outside) :
      Step s { s with thread := Function.update s.thread who .asking }
  | attempt (s : PacerState Thread) (who : Thread) (now : ℚ) (h : s.thread who = .asking)
      (hclock : s.clock ≤ now) : Step s (s.attempted who now)
  | wake (s : PacerState Thread) (who : Thread) (seconds : ℚ)
      (h : s.thread who = .asleep seconds) :
      Step s { s with thread := Function.update s.thread who .asking }

/-- **The threads of one pacer.** -/
def pacing (Thread : Type) [DecidableEq Thread] : TransitionSystem (PacerState Thread) where
  init := Initial
  step := Step

/-! ## One section -/

/-- **With room in the window the section grants.** -/
theorem Sound.attempted_of_room (h : s.Sound) (who : Thread) (hclock : s.clock ≤ now)
    (hroom : ((s.grantsBefore now).length : ℤ) < s.pacer.maxPerMinute) :
    s.attempted who now =
      { pacer := (s.pacer.attempt now).1, clock := now,
        thread := Function.update s.thread who .outside, granted := s.granted ++ [now] }
    ∧ (s.pacer.attempt now).1.stamps = s.grantsBefore now ++ [now] := by
  rw [← h.trimmed hclock] at hroom ⊢
  obtain ⟨hgranted, hstamps⟩ := RequestPacer.attempt_of_room hroom
  refine ⟨?_, hstamps⟩
  unfold attempted
  rw [hgranted]

/-- Without, it leaves the grants as they are. -/
theorem Sound.attempted_of_full (h : s.Sound) (who : Thread) (hclock : s.clock ≤ now)
    (hfull : ¬((s.grantsBefore now).length : ℤ) < s.pacer.maxPerMinute) :
    (s.attempted who now).granted = s.granted ∧ (s.attempted who now).clock = now
      ∧ (s.attempted who now).pacer.maxPerMinute = s.pacer.maxPerMinute
      ∧ (s.attempted who now).pacer.stamps = s.grantsBefore now := by
  rw [← h.trimmed hclock] at hfull ⊢
  obtain ⟨hwait, hstamps⟩ := RequestPacer.attempt_of_full hfull
  unfold attempted
  split
  · rename_i hgranted
    exact absurd hgranted hwait
  · exact ⟨rfl, rfl, RequestPacer.attempt_maxPerMinute, hstamps⟩

theorem Sound.attempted (h : s.Sound) (hclock : s.clock ≤ now) : (s.attempted who now).Sound := by
  have hpast : ∀ g ∈ s.granted, g ≤ now := fun g hg => (h.past g hg).trans hclock
  by_cases hroom : ((s.grantsBefore now).length : ℤ) < s.pacer.maxPerMinute
  · obtain ⟨hstate, hstamps⟩ := h.attempted_of_room who hclock hroom
    rw [hstate]
    have hpos : now - now < windowSeconds := by norm_num [windowSeconds]
    refine ⟨?_, ?_, ?_, fun start => ?_⟩
    · exact List.pairwise_append.mpr ⟨h.ordered, List.pairwise_singleton _ _,
        fun g hg g' hg' => List.mem_singleton.mp hg' ▸ hpast g hg⟩
    · intro g hg
      rcases List.mem_append.mp hg with hg | hg
      · exact hpast g hg
      · exact (List.mem_singleton.mp hg).le
    · show (s.pacer.attempt now).1.stamps = List.filter _ (s.granted ++ [now])
      rw [hstamps, List.filter_append, List.filter_singleton, decide_eq_true hpos, cond_true]
      rfl
    · show ((List.filter _ (s.granted ++ [now])).length : ℤ) ≤ (s.pacer.attempt now).1.maxPerMinute
      rw [List.filter_append, List.length_append, RequestPacer.attempt_maxPerMinute]
      -- only a window that holds the new grant gains one, and it held fewer than the limit
      by_cases hin : start ≤ now ∧ now < start + windowSeconds
      · have hle : (s.grantsFrom start).length ≤ (s.grantsBefore now).length :=
          length_grantsFrom_le hin.2
        have hone := List.length_filter_le
          (fun g => decide (start ≤ g) && decide (g < start + windowSeconds)) [now]
        rw [List.length_singleton] at hone
        unfold grantsFrom at hle
        omega
      · have hnone : List.filter
            (fun g => decide (start ≤ g) && decide (g < start + windowSeconds)) [now] = [] := by
          rw [List.filter_singleton]
          simp [← Bool.decide_and, hin]
        rw [hnone, List.length_nil]
        exact h.window start
  · obtain ⟨hgranted, hnow, hmax, hstamps⟩ := h.attempted_of_full who hclock hroom
    refine ⟨?_, ?_, ?_, fun start => ?_⟩
    · rw [hgranted]
      exact h.ordered
    · rw [hgranted, hnow]
      exact hpast
    · rw [hstamps, hnow, grantsBefore, grantsBefore, hgranted]
    · rw [grantsFrom, hgranted, hmax]
      exact h.window start

/-! ## Every run -/

theorem sound_of_reachable (h : (pacing Thread).Reachable s) : s.Sound := by
  refine TransitionSystem.Reachable.of_step (I := Sound) (fun _ hs => Initial.sound hs) ?_ h
  intro s s' _ hs hstep
  cases hstep with
  | call who _ => exact ⟨hs.ordered, hs.past, hs.stamps, hs.window⟩
  | attempt who now _ hclock => exact hs.attempted hclock
  | wake who seconds _ => exact ⟨hs.ordered, hs.past, hs.stamps, hs.window⟩

/-- **The limit holds under every interleaving**: no window of sixty seconds has
more grants than the limit, and a thread that asks while the last sixty seconds
have fewer is granted at once. -/
theorem pacer_keeps_the_limit (h : (pacing Thread).Reachable s) :
    (∀ start, ((s.grantsFrom start).length : ℤ) ≤ s.pacer.maxPerMinute)
    ∧ ∀ who now, s.thread who = .asking → s.clock ≤ now →
        ((s.grantsBefore now).length : ℤ) < s.pacer.maxPerMinute →
        (s.attempted who now).thread who = .outside
          ∧ (s.attempted who now).granted = s.granted ++ [now] := by
  have hsound := sound_of_reachable h
  refine ⟨hsound.window, fun who now _ hclock hroom => ?_⟩
  obtain ⟨hstate, -⟩ := hsound.attempted_of_room who hclock hroom
  rw [hstate]
  exact ⟨Function.update_self who .outside s.thread, rfl⟩

/-- A pacer that allows one request a minute: the first of two threads asks at 100. -/
def firstAsks : PacerState Bool where
  pacer := ⟨1, [], le_rfl⟩
  clock := 100
  thread := Function.update (fun _ => .outside) true .asking
  granted := []

/-- The first is granted one, and the second asks. -/
def secondAsks : PacerState Bool :=
  { firstAsks.attempted true 100 with
    thread := Function.update (firstAsks.attempted true 100).thread false .asking }

/-- The second waits until a minute has gone by: at 160 it is granted one, at 159 it was not. -/
theorem pacer_keeps_the_limit_secondAsks :
    (∀ start, ((secondAsks.grantsFrom start).length : ℤ) ≤ 1)
    ∧ (secondAsks.attempted false 159).granted = [100]
    ∧ (secondAsks.attempted false 160).granted = [100, 160] := by
  have hnew : (pacing Bool).Reachable ⟨⟨1, [], le_rfl⟩, 100, fun _ => .outside, []⟩ :=
    TransitionSystem.Reachable.of_init ⟨⟨1, rfl⟩, fun _ => rfl, rfl⟩
  have hfirst : (pacing Bool).Reachable firstAsks := hnew.tail (Step.call _ true rfl)
  have hsecond : (pacing Bool).Reachable secondAsks :=
    (hfirst.tail (Step.attempt _ true 100 rfl le_rfl)).tail (Step.call _ false rfl)
  obtain ⟨hwindow, hgranted⟩ := pacer_keeps_the_limit hsecond
  refine ⟨hwindow, by decide +kernel, ?_⟩
  exact (hgranted false 160 rfl (by decide +kernel) (by decide +kernel)).2

end PacerState

end AgenticTrader
