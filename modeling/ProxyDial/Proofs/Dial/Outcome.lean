import ProxyDial.Net.World

set_option autoImplicit false

/-! What holds of the outcome of a dial and of the world behind it. A dial is put together from
steps; what holds of the whole follows from what holds of each step in the world that the step
before has left. -/

namespace ProxyDial.Dial

variable {α β : Type}

/-- The outcome of a dial, with the world behind it, is as it should be. -/
def Ensures (dial : Dial α) (world : World) (post : Except Abort α → World → Prop) : Prop :=
  post (dial world).1 (dial world).2

/-- Whatever a dial returns is good. A dial that fails returns nothing. -/
def Gives (dial : Dial α) (good : α → Prop) : Prop :=
  ∀ world, dial.Ensures world fun result _ => ∀ value, result = .ok value → good value

/-- A weaker condition holds as well. -/
theorem Ensures.mono {dial : Dial α} {world : World} {post weaker : Except Abort α → World → Prop}
    (ensures : dial.Ensures world post)
    (weaken : ∀ result behind, post result behind → weaker result behind) :
    dial.Ensures world weaker :=
  weaken _ _ ensures

theorem Ensures.and {dial : Dial α} {world : World} {one other : Except Abort α → World → Prop}
    (first : dial.Ensures world one) (second : dial.Ensures world other) :
    dial.Ensures world fun result behind => one result behind ∧ other result behind :=
  ⟨first, second⟩

theorem ensures_of_eq {dial : Dial α} {world behind : World} {result : Except Abort α}
    {post : Except Abort α → World → Prop} (run : dial world = (result, behind))
    (holds : post result behind) : dial.Ensures world post := by
  unfold Ensures
  rw [run]
  exact holds

theorem Ensures.of_run {dial : Dial α} {world behind : World} {result : Except Abort α}
    {post : Except Abort α → World → Prop} (ensures : dial.Ensures world post)
    (run : dial world = (result, behind)) : post result behind := by
  unfold Ensures at ensures
  rw [run] at ensures
  exact ensures

theorem ensures_pure {value : α} {world : World} {post : Except Abort α → World → Prop}
    (holds : post (.ok value) world) : Ensures (pure value) world post :=
  holds

theorem ensures_fail {error : Error} {world : World} {post : Except Abort α → World → Prop}
    (holds : post (.error (.failed error)) world) : Ensures (fail error) world post :=
  holds

/-- Two steps run one after the other; where the first one fails, the second is not made. -/
theorem bind_run (first : Dial α) (next : α → Dial β) (world : World) :
    (first >>= next) world = match first world with
      | (.ok value, behind) => next value behind
      | (.error abort, behind) => (.error abort, behind) := by
  simp only [bind, ExceptT.bind, ExceptT.mk, StateT.bind, ExceptT.bindCont]
  cases first world with
  | mk result behind => cases result <;> rfl

theorem bind_error_run {first : Dial α} {abort : Abort} {world behind : World}
    (run : first world = (.error abort, behind)) (next : α → Dial β) :
    (first >>= next) world = (.error abort, behind) := by
  rw [bind_run, run]

/-- Where two steps that compute succeed together, each of them does. -/
theorem bind_ok {ε : Type} {first : Except ε α} {next : α → Except ε β} {value : β}
    (ok : (first >>= next) = .ok value) :
    ∃ middle, first = .ok middle ∧ next middle = .ok value := by
  cases first with
  | error error => cases ok
  | ok middle => exact ⟨middle, rfl, ok⟩

/-- Where two steps that compute fail together, one of them does. -/
theorem bind_error {ε : Type} {first : Except ε α} {next : α → Except ε β} {error : ε}
    (failed : (first >>= next) = .error error) :
    first = .error error ∨ ∃ middle, first = .ok middle ∧ next middle = .error error := by
  cases first with
  | error found =>
      cases failed
      exact .inl rfl
  | ok middle => exact .inr ⟨middle, rfl, failed⟩

/-- A value that has been computed is the outcome, and nothing happens in the world. -/
theorem ofExcept_run (value : α) (world : World) :
    ofExcept (.ok value) world = (.ok value, world) :=
  rfl

theorem ofExcept_run_ok {outcome : Except Error α} {value : α} {world behind : World}
    (run : ofExcept outcome world = (.ok value, behind)) :
    outcome = .ok value ∧ behind = world := by
  cases outcome with
  | ok found =>
      cases run
      exact ⟨rfl, rfl⟩
  | error error => cases run

/-- Where two steps succeed one after the other, each of them does. -/
theorem bind_run_ok {first : Dial α} {next : α → Dial β} {value : β} {world behind : World}
    (run : (first >>= next) world = (.ok value, behind)) :
    ∃ found middle,
      first world = (.ok found, middle) ∧ next found middle = (.ok value, behind) := by
  rw [bind_run] at run
  cases ran : first world with
  | mk result middle =>
      rw [ran] at run
      cases result with
      | ok found => exact ⟨found, middle, rfl, run⟩
      | error abort => cases run

theorem get_run (world : World) : (get : Dial World) world = (.ok world, world) := rfl

theorem look_run (kind : Ask.Kind) (options : DialOptions) (world : World) :
    look kind options world = (.ok world.now, world.looked kind options) :=
  rfl

theorem budget_run (options : DialOptions) (world : World) :
    budget options world = ofExcept (options.budget world.now) (world.looked .draws options) :=
  rfl

theorem started_run (options : DialOptions) (world : World) : started options world =
    match options.started? world.now with
    | some started => (.ok started, world.looked .starts options)
    | none => (.error .clockOverflow, world.looked .starts options) := by
  unfold started
  rw [bind_run, look_run]
  dsimp only
  cases options.started? world.now <;> rfl

theorem started_run_of {options started : DialOptions} {world : World}
    (starts : options.started? world.now = some started) :
    Dial.started options world = (.ok started, world.looked .starts options) := by
  rw [started_run, starts]

/-- To start is to look at the clock. -/
theorem started_run_ok {options started : DialOptions} {world behind : World}
    (run : Dial.started options world = (.ok started, behind)) :
    options.started? world.now = some started ∧ behind = world.looked .starts options := by
  rw [started_run] at run
  cases starts : options.started? world.now with
  | none =>
      rw [starts] at run
      cases run
  | some begun =>
      rw [starts] at run
      cases run
      exact ⟨rfl, rfl⟩

theorem attempt_failed_run {dial : Dial α} {error : Error} {world behind : World}
    (run : dial world = (.error (.failed error), behind)) :
    attempt dial world = (.ok (.error error), behind) := by
  unfold attempt
  rw [run]

/-- What is caught as a value has been returned. -/
theorem attempt_run_ok {dial : Dial α} {value : α} {world behind : World}
    (run : attempt dial world = (.ok (.ok value), behind)) : dial world = (.ok value, behind) := by
  unfold attempt at run
  cases ran : dial world with
  | mk result middle =>
      rw [ran] at run
      cases result with
      | ok found =>
          cases run
          rfl
      | error abort => cases abort <;> cases run

theorem run_of_toOption {dial : Dial α} {world : World} {value : α}
    (returns : (dial world).1.toOption = some value) :
    dial world = (.ok value, (dial world).2) := by
  cases run : dial world with
  | mk result behind =>
      rw [run] at returns
      cases result with
      | error abort => cases returns
      | ok found =>
          cases returns
          rfl

theorem run_of_isOk {dial : Dial α} {world : World} (accepted : (dial world).1.isOk = true) :
    ∃ value behind, dial world = (.ok value, behind) := by
  cases run : dial world with
  | mk result behind =>
      rw [run] at accepted
      cases result with
      | ok value => exact ⟨value, behind, rfl⟩
      | error abort => cases accepted

/-- What fails and can be caught has failed with an error. -/
theorem run_of_caught {dial : Dial α} {world : World} (refused : (dial world).1.isOk = false)
    (caught : (dial.attempt world).1.isOk = true) :
    ∃ error behind, dial world = (.error (.failed error), behind) := by
  unfold attempt at caught
  cases run : dial world with
  | mk result behind =>
      rw [run] at refused caught
      cases result with
      | ok value => cases refused
      | error abort =>
          cases abort with
          | failed error => exact ⟨error, behind, rfl⟩
          | clockOverflow => cases caught

/-- What cannot be caught is an overflow of the clock. -/
theorem overflow_of_uncaught {dial : Dial α} {world : World}
    (uncaught : (dial.attempt world).1.isOk = false) : (dial world).1 = .error .clockOverflow := by
  unfold attempt at uncaught
  cases run : dial world with
  | mk result behind =>
      rw [run] at uncaught
      cases result with
      | ok value => cases uncaught
      | error abort =>
          cases abort with
          | failed error => cases uncaught
          | clockOverflow => rfl

theorem ensures_bind {first : Dial α} {next : α → Dial β} {world : World}
    {post : Except Abort β → World → Prop}
    (ensures : first.Ensures world fun result behind =>
      match result with
      | .ok value => (next value).Ensures behind post
      | .error abort => post (.error abort) behind) :
    Ensures (first >>= next) world post := by
  unfold Ensures at ensures ⊢
  rw [bind_run]
  cases outcome : first world with
  | mk result behind =>
      rw [outcome] at ensures
      cases result with
      | ok value => exact ensures
      | error abort => exact ensures

/-- A step that is known to succeed. -/
theorem ensures_bind_of_eq {first : Dial α} {next : α → Dial β} {world behind : World} {value : α}
    {post : Except Abort β → World → Prop} (run : first world = (.ok value, behind))
    (ensures : (next value).Ensures behind post) : Ensures (first >>= next) world post :=
  ensures_bind (ensures_of_eq run ensures)

/-- A failure that is caught leaves the world as it is then. -/
theorem ensures_attempt {dial : Dial α} {next : Except Error α → Dial β} {world : World}
    {post : Except Abort β → World → Prop}
    (ensures : dial.Ensures world fun result behind =>
      match result with
      | .ok value => (next (.ok value)).Ensures behind post
      | .error (.failed error) => (next (.error error)).Ensures behind post
      | .error .clockOverflow => post (.error .clockOverflow) behind) :
    Ensures (attempt dial >>= next) world post := by
  unfold Ensures at ensures ⊢
  rw [bind_run]
  unfold attempt
  cases outcome : dial world with
  | mk result behind =>
      rw [outcome] at ensures
      cases result with
      | ok value => exact ensures
      | error abort => cases abort <;> exact ensures

theorem Gives.mono {dial : Dial α} {good weaker : α → Prop} (gives : dial.Gives good)
    (weaken : ∀ value, good value → weaker value) : dial.Gives weaker :=
  fun world => (gives world).mono fun _ _ found value same => weaken value (found value same)

theorem gives_pure {value : α} {good : α → Prop} (holds : good value) :
    Gives (pure value) good := by
  intro world
  apply ensures_pure
  intro returned same
  cases same
  exact holds

theorem gives_fail {error : Error} {good : α → Prop} : Gives (fail error) good := by
  intro world
  apply ensures_fail
  intro returned impossible
  cases impossible

/-- The second step starts from something good. -/
theorem gives_bind_of {first : Dial α} {next : α → Dial β} {middle : α → Prop} {good : β → Prop}
    (gives : first.Gives middle) (rest : ∀ value, middle value → (next value).Gives good) :
    Gives (first >>= next) good := by
  intro world
  apply ensures_bind
  refine (gives world).mono ?_
  intro result behind found
  cases result with
  | ok value => exact rest value (found value rfl) behind
  | error abort =>
      intro returned impossible
      cases impossible

/-- The last step decides what is returned. -/
theorem gives_bind {first : Dial α} {next : α → Dial β} {good : β → Prop}
    (gives : ∀ value, (next value).Gives good) : Gives (first >>= next) good := by
  have anything : first.Gives fun _ => True := fun _ _ _ => trivial
  exact gives_bind_of anything fun value _ => gives value

theorem gives_ofExcept (outcome : Except Error α) :
    (ofExcept outcome).Gives fun value => outcome = .ok value := by
  cases outcome with
  | ok value => exact gives_pure rfl
  | error error => exact gives_fail

/-- What follows a dial is told by what it does with the values that the dial returns. -/
theorem bind_congr_of_gives {first : Dial α} {good : α → Prop} {next other : α → Dial β}
    (gives : first.Gives good) (same : ∀ value, good value → next value = other value) :
    first >>= next = first >>= other := by
  funext world
  rw [bind_run, bind_run]
  have found := gives world
  unfold Ensures at found
  cases outcome : first world with
  | mk result behind =>
      rw [outcome] at found
      cases result with
      | ok value => exact congrFun (same value (found value rfl)) behind
      | error abort => rfl

/-- Whatever error a dial fails with is of this sort. -/
def Raises (dial : Dial α) (sort : Error → Prop) : Prop :=
  ∀ world, dial.Ensures world fun result _ => ∀ error, result = .error (.failed error) → sort error

section
variable {sort : Error → Prop}

/-- A dial that returns in every world raises nothing. -/
theorem raises_of_ok {dial : Dial α}
    (returns : ∀ world, ∃ value behind, dial world = (.ok value, behind)) : dial.Raises sort := by
  intro world
  obtain ⟨value, behind, run⟩ := returns world
  apply ensures_of_eq run
  intro error impossible
  cases impossible

theorem raises_pure {value : α} : Raises (pure value) sort :=
  raises_of_ok fun world => ⟨value, world, rfl⟩

theorem raises_fail {error : Error} (holds : sort error) : Raises (α := α) (fail error) sort := by
  intro world
  apply ensures_fail
  intro raised same
  cases same
  exact holds

/-- Each of two steps may fail. -/
theorem raises_bind {first : Dial α} {next : α → Dial β} (raises : first.Raises sort)
    (rest : ∀ value, (next value).Raises sort) : Raises (first >>= next) sort := by
  intro world
  apply ensures_bind
  refine (raises world).mono ?_
  intro result behind found
  cases result with
  | ok value => exact rest value behind
  | error abort =>
      intro error same
      cases same
      exact found error rfl

/-- A failure that is caught may be told on. -/
theorem raises_attempt {caught : Error → Prop} {dial : Dial α} {next : Except Error α → Dial β}
    (raises : dial.Raises caught) (succeeded : ∀ value, (next (.ok value)).Raises sort)
    (failed : ∀ error, caught error → (next (.error error)).Raises sort) :
    Raises (attempt dial >>= next) sort := by
  intro world
  apply ensures_attempt
  refine (raises world).mono ?_
  intro result behind found
  cases result with
  | ok value => exact succeeded value behind
  | error abort =>
      cases abort with
      | failed error => exact failed error (found error rfl) behind
      | clockOverflow =>
          intro error impossible
          cases impossible

theorem raises_modify {change : World → World} : Raises (modify change) sort :=
  raises_of_ok fun world => ⟨(), change world, rfl⟩

theorem raises_get {next : World → Dial β} (rest : ∀ world, (next world).Raises sort) :
    Raises (get >>= next) sort :=
  fun world => rest world world

theorem raises_orFail {classify : Fault → Error} (holds : ∀ fault, sort (classify fault))
    (outcome : Except Fault α) : Raises (orFail classify outcome) sort := by
  cases outcome with
  | ok value => exact raises_pure
  | error fault => exact raises_fail (holds fault)

theorem raises_ofExcept {outcome : Except Error α}
    (holds : ∀ error, outcome = .error error → sort error) : Raises (ofExcept outcome) sort := by
  cases outcome with
  | ok value => exact raises_pure
  | error error => exact raises_fail (holds error rfl)

/-- To start a dial either works or overflows the clock. -/
theorem raises_started {options : DialOptions} : (started options).Raises sort := by
  intro world
  unfold Ensures
  rw [started_run]
  cases options.started? world.now with
  | some options => exact nofun
  | none => exact nofun

end

end ProxyDial.Dial
