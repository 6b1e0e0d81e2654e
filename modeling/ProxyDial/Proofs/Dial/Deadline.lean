import ProxyDial.Dial.Options

set_option autoImplicit false

/-! Deadlines, and the time that is left until them. -/

namespace ProxyDial

namespace DialOptions

variable {options : DialOptions} {now start deadline : Instant} {left : Duration}

/-- The options of a dial that starts overflow the clock exactly when their timeout does. -/
theorem started?_eq_none_iff (free : options.deadline = none) : options.started? now = none ↔
      Instant.limit ≤ now.nanoseconds + options.timeout.nanoseconds := by
  unfold started? Instant.after?
  rw [free]
  simp

/-- A dial that has started has a deadline. -/
theorem deadline_of_started? {started : DialOptions}
    (starts : options.started? now = some started) :
    ∃ deadline, started.deadline = some deadline := by
  unfold started? at starts
  cases has : options.deadline with
  | some deadline =>
      rw [has] at starts
      cases starts
      exact ⟨deadline, has⟩
  | none =>
      rw [has] at starts
      obtain ⟨deadline, -, same⟩ := Option.map_eq_some_iff.mp starts
      exact ⟨deadline, by rw [← same]; rfl⟩

/-- The deadline of a dial that starts at an instant, where the clock has it. -/
def boundFrom (options : DialOptions) (start : Instant) : Option Instant :=
  match options.deadline with
  | some deadline => some deadline
  | none => start.after? options.timeout

theorem started?_of_bound (bound : options.boundFrom start = some deadline) :
    ∃ started, options.started? start = some started ∧ started.deadline = some deadline := by
  unfold boundFrom at bound
  unfold started?
  cases has : options.deadline with
  | some own =>
      rw [has] at bound
      cases bound
      exact ⟨options, rfl, has⟩
  | none =>
      rw [has] at bound
      exact ⟨options.withDeadline deadline, congrArg (Option.map _) bound, rfl⟩

theorem started?_of_unbound (unbound : options.boundFrom start = none) :
    options.started? start = none := by
  unfold boundFrom at unbound
  unfold started?
  cases has : options.deadline with
  | some own =>
      rw [has] at unbound
      cases unbound
  | none =>
      rw [has] at unbound
      exact congrArg (Option.map _) unbound

theorem remaining_of_bound (bound : options.boundFrom start = some deadline)
    (free : options.deadline = none) : deadline.remaining start = options.timeout := by
  simp only [boundFrom, free, Instant.after?] at bound
  split at bound
  · cases bound
    exact congrArg Duration.mk (Nat.add_sub_cancel_left start.nanoseconds _)
  · cases bound

theorem budget_eq (has : options.deadline = some deadline) (now : Instant) :
    options.budget now = if now.nanoseconds < deadline.nanoseconds then
      .ok (deadline.remaining now) else .error .timeout := by
  simp only [budget, has, Instant.remaining]
  split
  next passed => rw [if_neg (by omega)]
  next left => rw [if_pos (by omega)]

theorem budget_of_deadline (has : options.deadline = some deadline)
    (budget : options.budget now = .ok left) : left = deadline.remaining now := by
  rw [budget_eq has] at budget
  split at budget
  · exact (Except.ok.inj budget).symm
  · cases budget

/-- Time that is left is more than none. -/
theorem budget_pos (budget : options.budget now = .ok left) : 0 < left.nanoseconds := by
  unfold DialOptions.budget at budget
  extract_lets whole at budget
  by_cases none : whole.nanoseconds = 0
  · rw [if_pos none] at budget
    cases budget
  · rw [if_neg none] at budget
    rw [← Except.ok.inj budget]
    exact Nat.pos_of_ne_zero none

theorem budget_error {error : Error} (spent : options.budget now = .error error) :
    error = .timeout := by
  unfold budget at spent
  extract_lets left at spent
  by_cases none : left.nanoseconds = 0
  · rw [if_pos none] at spent
    cases spent
    rfl
  · rw [if_neg none] at spent
    cases spent

end DialOptions

end ProxyDial
