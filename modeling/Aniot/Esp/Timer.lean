/-! A periodic timer of `esp_timer`, through its handle.

Until it is created the handle is NULL. Starting a timer that is NULL or running and
stopping one that is NULL or stopped return an error, which the callers here ignore,
and change nothing. A running timer keeps a mark of the run it is in. -/
namespace Aniot.Esp

inductive Timer (ρ : Type) where
  | null
  | stopped
  | running (mark : ρ)
deriving DecidableEq

namespace Timer
variable {ρ : Type}

/-- `esp_timer_create` puts a timer that does not run behind the handle. -/
def create (_ : Timer ρ) : Timer ρ := .stopped

/-- `esp_timer_start_periodic`. -/
def startPeriodic (mark : ρ) : Timer ρ → Timer ρ
  | .stopped => .running mark
  | t => t

/-- `esp_timer_stop`. -/
def stop : Timer ρ → Timer ρ
  | .running _ => .stopped
  | t => t

def isRunning : Timer ρ → Bool
  | .running _ => true
  | _ => false

@[simp] theorem isRunning_create (t : Timer ρ) : t.create.isRunning = false := rfl

@[simp] theorem isRunning_stop (t : Timer ρ) : t.stop.isRunning = false := by
  cases t <;> rfl

/-- A start leaves a running timer in its run. -/
theorem startPeriodic_of_running {mark : ρ} {t : Timer ρ} (h : t.isRunning = true) :
    t.startPeriodic mark = t := by
  cases t with
  | running r => rfl
  | _ => cases h

/-- After a start a timer that has been created runs. -/
theorem startPeriodic_running (mark : ρ) {t : Timer ρ} (h : t ≠ .null) :
    ∃ mark', t.startPeriodic mark = .running mark' := by
  cases t with
  | null => exact absurd rfl h
  | stopped => exact ⟨mark, rfl⟩
  | running mark' => exact ⟨mark', rfl⟩

theorem startPeriodic_null {mark : ρ} {t : Timer ρ} : t.startPeriodic mark = .null ↔ t = .null := by
  cases t <;> simp [startPeriodic]

theorem stop_null {t : Timer ρ} : t.stop = .null ↔ t = .null := by
  cases t <;> simp [stop]

/-- A start changes the mark of no run: it is the timer's own, or the one given. -/
theorem startPeriodic_mark {mark mark' : ρ} {t : Timer ρ} (h : t.startPeriodic mark = .running mark') :
    mark' = mark ∨ t = .running mark' := by
  cases t with
  | null => cases h
  | stopped => exact .inl (running.inj h).symm
  | running r => exact .inr h

theorem stop_not_running {mark : ρ} {t : Timer ρ} : t.stop ≠ .running mark := by
  cases t <;> simp [stop]

end Timer

end Aniot.Esp
