import Mathlib.Data.List.Chain
import Mathlib.Algebra.Order.Ring.Int

namespace Instinct.Util.Time

/-- `NAV::util::time::Mode`. -/
inductive Mode where
  | realTime
  | postProcessing
  deriving DecidableEq, Repr

/-- The private members of `TimeBase.cpp` and the reading `now` of the steady clock. Times are
nanosecond counts; an `InsTime` counts from the default `InsTime()`, the one `empty()` detects. -/
structure TimeState where
  timeMode : Mode
  currentTime : Int
  currentTimeComputer : Int
  now : Int
  deriving DecidableEq, Repr

namespace TimeState

def setMode (s : TimeState) (mode : Mode) : TimeState := { s with timeMode := mode }

/-- In real time the reference is extrapolated by the steady clock; an empty reference is not. -/
def getCurrentTime (s : TimeState) : Int :=
  if s.timeMode = .postProcessing ∨ s.currentTime = 0 then s.currentTime
  else s.currentTime + (s.now - s.currentTimeComputer)

/-- Only a time later than the reference is taken, with the clock reading; an earlier one only
logs a warning. -/
def setCurrentTime (s : TimeState) (insTime : Int) : TimeState :=
  if insTime > s.currentTime then { s with currentTimeComputer := s.now, currentTime := insTime }
  else s

def clearCurrentTime (s : TimeState) : TimeState := { s with currentTime := 0 }

/-- The steady clock moving on by `d` ticks. -/
def tick (s : TimeState) (d : Nat) : TimeState := { s with now := s.now + d }

end TimeState

inductive Event where
  | setMode (mode : Mode)
  | setCurrentTime (insTime : Int)
  | getCurrentTime
  | clearCurrentTime
  | tick (d : Nat)
  deriving DecidableEq, Repr

def Event.isReset : Event → Bool
  | .setMode _ => true
  | .clearCurrentTime => true
  | _ => false

def step (s : TimeState) : Event → TimeState
  | .setMode mode => s.setMode mode
  | .setCurrentTime insTime => s.setCurrentTime insTime
  | .getCurrentTime => s
  | .clearCurrentTime => s.clearCurrentTime
  | .tick d => s.tick d

/-- The states at which a run calls `GetCurrentTime`; it returns their `getCurrentTime`. -/
def reads : TimeState → List Event → List TimeState
  | _, [] => []
  | s, e :: es => (if e = .getCurrentTime then [s] else []) ++ reads (step s e) es

/-- `SetCurrentTime(t)` taken, `t` being later than the reference, although `t` is earlier than
the time `GetCurrentTime` returns. -/
def isLateUpdate (s : TimeState) : Event → Bool
  | .setCurrentTime insTime => s.currentTime < insTime && insTime < s.getCurrentTime
  | _ => false

/-- The run takes no late update. -/
def noLateUpdate : TimeState → List Event → Bool
  | _, [] => true
  | s, e :: es => !isLateUpdate s e && noLateUpdate (step s e) es

theorem getCurrentTime_setCurrentTime_of_lt {s : TimeState} {insTime : Int}
    (h : s.currentTime < insTime) : (s.setCurrentTime insTime).getCurrentTime = insTime := by
  simp only [TimeState.setCurrentTime, if_pos h, TimeState.getCurrentTime]
  split <;> omega

/-- A step other than `SetMode` and `ClearCurrentTime` moves the returned time back exactly when
it is a late update. -/
theorem getCurrentTime_step_lt_iff (s : TimeState) {e : Event} (he : e.isReset = false) :
    (step s e).getCurrentTime < s.getCurrentTime ↔ isLateUpdate s e = true := by
  cases e with
  | setMode => cases he
  | clearCurrentTime => cases he
  | getCurrentTime => simp [step, isLateUpdate]
  | tick d =>
    simp only [step, TimeState.tick, TimeState.getCurrentTime, isLateUpdate]
    split <;> simp only [Bool.false_eq_true, iff_false, not_lt] <;> omega
  | setCurrentTime insTime =>
    by_cases h : s.currentTime < insTime
    · simp [step, isLateUpdate, getCurrentTime_setCurrentTime_of_lt h, h]
    · simp [step, isLateUpdate, TimeState.setCurrentTime, h]

theorem realTime_of_isLateUpdate {s : TimeState} {e : Event} (h : isLateUpdate s e = true) :
    s.timeMode = .realTime := by
  cases e <;> simp only [isLateUpdate, Bool.false_eq_true, Bool.and_eq_true,
    decide_eq_true_eq] at h
  cases hm : s.timeMode
  · rfl
  · simp only [TimeState.getCurrentTime, hm, true_or, if_true] at h
    omega

theorem step_timeMode (s : TimeState) {e : Event} (he : e.isReset = false) :
    (step s e).timeMode = s.timeMode := by
  cases e with
  | setMode => cases he
  | clearCurrentTime => cases he
  | setCurrentTime insTime =>
    simp only [step, TimeState.setCurrentTime]
    split <;> rfl
  | _ => rfl

/-- In post-processing no update is late. -/
theorem noLateUpdate_of_postProcessing {es : List Event} (hes : ∀ e ∈ es, e.isReset = false) :
    ∀ {s : TimeState}, s.timeMode = .postProcessing → noLateUpdate s es = true := by
  induction es with
  | nil => intro s _; rfl
  | cons e es ih =>
    intro s hpp
    have hlate : isLateUpdate s e = false :=
      Bool.eq_false_iff.mpr fun h => by simp [realTime_of_isLateUpdate h] at hpp
    simp only [noLateUpdate, hlate, Bool.not_false, Bool.true_and]
    exact ih (fun e' he' => hes e' (.tail _ he')) (step_timeMode s (hes e (.head _)) ▸ hpp)

theorem mem_reads_cons {s b : TimeState} {e : Event} {es : List Event} :
    b ∈ reads s (e :: es) ↔ e = .getCurrentTime ∧ b = s ∨ b ∈ reads (step s e) es := by
  simp only [reads, List.mem_append]
  split <;> simp [*]

theorem getCurrentTime_le_of_mem_reads {es : List Event} (hes : ∀ e ∈ es, e.isReset = false) :
    ∀ {s b : TimeState}, noLateUpdate s es = true → b ∈ reads s es →
      s.getCurrentTime ≤ b.getCurrentTime := by
  induction es with
  | nil => simp [reads]
  | cons e es ih =>
    intro s b hlate hb
    simp only [noLateUpdate, Bool.and_eq_true, Bool.not_eq_true'] at hlate
    have hs := not_lt.mp ((getCurrentTime_step_lt_iff s (hes e (.head _))).not.mpr
      (by simp [hlate.1]))
    rcases mem_reads_cons.mp hb with ⟨-, rfl⟩ | hb
    · exact le_rfl
    · exact hs.trans (ih (fun e' he' => hes e' (.tail _ he')) hlate.2 hb)

theorem pairwise_reads {es : List Event} (hes : ∀ e ∈ es, e.isReset = false) :
    ∀ s : TimeState, noLateUpdate s es = true →
      (reads s es).Pairwise fun a b => a.getCurrentTime ≤ b.getCurrentTime := by
  induction es with
  | nil => simp [reads]
  | cons e es ih =>
    intro s hlate
    simp only [noLateUpdate, Bool.and_eq_true] at hlate
    have htail := ih (fun e' he' => hes e' (.tail _ he')) (step s e) hlate.2
    simp only [reads]
    split
    · next hget =>
      subst hget
      exact List.pairwise_cons.mpr
        ⟨fun b hb => getCurrentTime_le_of_mem_reads (fun e' he' => hes e' (.tail _ he'))
          hlate.2 hb, htail⟩
    · exact htail

/-- A real-time reference of `100` taken at clock `0`. -/
def lateUpdateStart : TimeState := ⟨.realTime, 100, 0, 0⟩

/-- Read after `10` ticks, updated to `115`, read again. -/
def onTimeUpdate : List Event := [.tick 10, .getCurrentTime, .setCurrentTime 115, .getCurrentTime]

/-- Read after `10` ticks, updated to `105`, read again. -/
def lateUpdate : List Event := [.tick 10, .getCurrentTime, .setCurrentTime 105, .getCurrentTime]

/-- The clock reading the reference was taken at is not in the future. -/
def ClockValid (s : TimeState) : Prop := s.currentTimeComputer ≤ s.now

theorem step_clockValid {s : TimeState} (h : ClockValid s) (e : Event) : ClockValid (step s e) := by
  unfold ClockValid at *
  cases e with
  | setCurrentTime insTime =>
    simp only [step, TimeState.setCurrentTime]
    split <;> simp only [le_refl, h]
  | tick d => simp only [step, TimeState.tick]; omega
  | _ => exact h

theorem currentTime_le_getCurrentTime {s : TimeState} (h : ClockValid s) :
    s.currentTime ≤ s.getCurrentTime := by
  unfold TimeState.getCurrentTime
  unfold ClockValid at h
  split <;> omega

/-- Over every run, `SetMode` and `ClearCurrentTime` included, from a state whose reference was
taken no later than now: `GetCurrentTime` never returns a time before the reference in effect. -/
theorem reference_le_getCurrentTime (s : TimeState) (es : List Event) (h : ClockValid s) :
    ∀ b ∈ reads s es, b.currentTime ≤ b.getCurrentTime := by
  induction es generalizing s with
  | nil => simp [reads]
  | cons e es ih =>
    intro b hb
    rcases mem_reads_cons.mp hb with ⟨-, rfl⟩ | hb
    · exact currentTime_le_getCurrentTime h
    · exact ih (step s e) (step_clockValid h e) b hb

theorem reference_le_getCurrentTime_at_lateUpdate :
    ClockValid lateUpdateStart ∧
    ∀ b ∈ reads lateUpdateStart lateUpdate, b.currentTime ≤ b.getCurrentTime :=
  have h : ClockValid lateUpdateStart := le_refl (0 : Int)
  ⟨h, reference_le_getCurrentTime lateUpdateStart lateUpdate h⟩

/-- The time a `SetCurrentTime` event hands over. -/
def Event.insTime : Event → Option Int
  | .setCurrentTime insTime => some insTime
  | _ => none

def run (s : TimeState) (es : List Event) : TimeState := es.foldl step s

theorem step_currentTime {e : Event} (he : e ≠ .clearCurrentTime) (s : TimeState) :
    (step s e).currentTime = (e.insTime.map (max s.currentTime)).getD s.currentTime := by
  cases e with
  | clearCurrentTime => exact absurd rfl he
  | setCurrentTime insTime =>
    simp only [step, TimeState.setCurrentTime, Event.insTime, Option.map_some', Option.getD_some]
    split
    · next h => exact (max_eq_right (le_of_lt h)).symm
    · next h => exact (max_eq_left (not_lt.mp h)).symm
  | _ => rfl

/-- Without `ClearCurrentTime`, the reference after a run is the latest of the reference it
started from and the times set: `SetCurrentTime` keeps a maximum. -/
theorem run_currentTime (s : TimeState) (es : List Event)
    (hes : ∀ e ∈ es, e ≠ .clearCurrentTime) :
    (run s es).currentTime = (es.filterMap Event.insTime).foldl max s.currentTime := by
  induction es generalizing s with
  | nil => rfl
  | cons e es ih =>
    have hrest := ih (step s e) fun e' he' => hes e' (.tail _ he')
    rw [run, List.foldl_cons, ← run, hrest, step_currentTime (hes e (.head _)), List.filterMap_cons]
    cases e.insTime <;> rfl

theorem run_currentTime_at_lateUpdate :
    (∀ e ∈ lateUpdate, e ≠ .clearCurrentTime) ∧
    (run lateUpdateStart lateUpdate).currentTime =
      (lateUpdate.filterMap Event.insTime).foldl max lateUpdateStart.currentTime :=
  have hes : ∀ e ∈ lateUpdate, e ≠ .clearCurrentTime := by decide
  ⟨hes, run_currentTime lateUpdateStart lateUpdate hes⟩

end Instinct.Util.Time
