import ProxyDial.Proofs.Dial.Deadline
import ProxyDial.Proofs.Dial.Outcome
import ProxyDial.Proofs.Net.Outflow

set_option autoImplicit false

/-! How much time a dial takes. The clock has a last instant: a dial overflows it when it starts
with a deadline that would come later, and in no other way. Where a dial waits for its peers only,
it does not wait beyond a deadline that it has, and one without takes its timeout from when it
starts. -/

namespace ProxyDial

/-- A dial with the options has no deadline yet, and a timeout that is no longer than this. -/
structure DialOptions.Fits (timeout : Nat) (options : DialOptions) : Prop where
  free : options.deadline = none
  short : options.timeout.nanoseconds ≤ timeout

/-- The lookups of the resolver start with such options, if with any. -/
def Resolver.Fits (timeout : Nat) : Resolver → Prop
  | .proxied resolver => resolver.dialer.options.Fits timeout
  | .system | .custom _ _ => True

/-- Nothing takes time in the world but what its peers are waited for, and what these take they take
at once. -/
structure World.Prompt (world : World) : Prop where
  pauses : ∀ index, world.watch.pauses index = ⟨0⟩
  lookups : ∀ now host, world.lookupTime now host = ⟨0⟩
  network : ∀ count address delay peer,
    world.network count address = .accepted delay peer → peer.TakesAtOnce
  links : ∀ link ∈ world.links, link.peer.TakesAtOnce

namespace World.Prompt

variable {world : World}

theorem looked (prompt : world.Prompt) (kind : Ask.Kind) (options : DialOptions) :
    (world.looked kind options).Prompt :=
  ⟨prompt.pauses, prompt.lookups, prompt.network, prompt.links⟩

/-- To look at the clock takes no time there. -/
theorem now_looked (prompt : world.Prompt) (kind : Ask.Kind) (options : DialOptions) :
    (world.looked kind options).now = world.now := by
  unfold World.looked World.wait
  rw [prompt.pauses]
  rfl

theorem wait (prompt : world.Prompt) (duration : Duration) : (world.wait duration).Prompt :=
  ⟨prompt.pauses, prompt.lookups, prompt.network, prompt.links⟩

end World.Prompt

namespace Dial

variable {α β : Type}

/-- The outcome is no overflow, and the resolver for all is the same. In a prompt world, no more
than the time has passed. -/
structure Spent (time : Nat) (start : World) (result : Except Abort α) (behind : World) : Prop where
  inRange : result ≠ .error .clockOverflow
  resolver : behind.installed = start.installed
  clock : start.Prompt →
    behind.Prompt ∧ behind.now.nanoseconds ≤ start.now.nanoseconds + time

/-- The outcome is an overflow only where the clock has no room for the timeout any more, and the
resolver for all is the same. In a prompt world that has room for so many timeouts, there is no
overflow, and no more time has passed. -/
structure Begun (timeout count : Nat) (start : World) (result : Except Abort α)
    (behind : World) : Prop where
  overflow : result = .error .clockOverflow →
    Instant.limit ≤ behind.now.nanoseconds + timeout
  resolver : behind.installed = start.installed
  clock : start.Prompt → start.now.nanoseconds + count * timeout < Instant.limit →
    result ≠ .error .clockOverflow ∧
      behind.Prompt ∧ behind.now.nanoseconds ≤ start.now.nanoseconds + count * timeout

/-- The dial takes so much time at most. -/
def Lasts (dial : Dial α) (time : Nat) : Prop :=
  ∀ world, dial.Ensures world (Spent time world)

/-- The dial is over at the instant, or at once if that has passed. -/
def EndsBy (dial : Dial α) (deadline : Instant) : Prop :=
  ∀ world, dial.Ensures world (Spent (deadline.remaining world.now).nanoseconds world)

/-- The dial takes the timeout so many times at most. -/
def Starts (dial : Dial α) (timeout count : Nat) : Prop :=
  ∀ world, (∀ resolver, world.installed = some resolver → resolver.Fits timeout) →
    dial.Ensures world (Begun timeout count world)

section
variable {dial : Dial α} {first : Dial α} {next : α → Dial β} {world middle behind : World}
  {deadline : Instant} {timeout count : Nat}

/-- The time of what comes after counts from the world in between. -/
theorem Spent.after {value : α} {result : Except Abort β} {one two total : Nat}
    (before : Spent one world (.ok value : Except Abort α) middle)
    (later : Spent two middle result behind)
    (enough : middle.now.nanoseconds ≤ world.now.nanoseconds + one →
      middle.now.nanoseconds + two ≤ world.now.nanoseconds + total) :
    Spent total world result behind where
  inRange := later.inRange
  resolver := later.resolver.trans before.resolver
  clock prompt := by
    obtain ⟨stays, within⟩ := before.clock prompt
    obtain ⟨last, further⟩ := later.clock stays
    exact ⟨last, Nat.le_trans further (enough within)⟩

theorem Spent.mono {result : Except Abort α} {time most : Nat}
    (spent : Spent time world result behind) (le : time ≤ most) :
    Spent most world result behind where
  inRange := spent.inRange
  resolver := spent.resolver
  clock prompt := by
    obtain ⟨stays, within⟩ := spent.clock prompt
    exact ⟨stays, by omega⟩

/-- What takes a time that there is room for starts nothing. -/
theorem Spent.begun {result : Except Abort α} {time : Nat}
    (spent : Spent time world result behind) (le : time ≤ count * timeout) :
    Begun timeout count world result behind where
  overflow overflows := absurd overflows spent.inRange
  resolver := spent.resolver
  clock prompt _ := by
    obtain ⟨stays, within⟩ := spent.clock prompt
    exact ⟨spent.inRange, stays, by omega⟩

theorem ensures_spent_bind {one total : Nat} (spent : first.Ensures world (Spent one world))
    (enough : one ≤ total)
    (rest : ∀ value middle, first world = (.ok value, middle) →
      (next value).Ensures middle (Spent total world)) :
    Ensures (first >>= next) world (Spent total world) := by
  apply ensures_bind
  cases run : first world with
  | mk result middle =>
      apply ensures_of_eq run
      cases result with
      | ok value => exact rest value middle run
      | error abort =>
          have stops := (spent.of_run run).mono enough
          refine ⟨?_, stops.resolver, stops.clock⟩
          rintro ⟨⟩
          exact stops.inRange rfl

theorem ensures_spent_attempt {time : Nat} (spent : dial.Ensures world (Spent time world)) :
    (attempt dial).Ensures world (Spent time world) := by
  unfold Ensures attempt at *
  cases outcome : dial world with
  | mk result behind =>
      rw [outcome] at spent
      obtain ⟨inRange, resolver, clock⟩ := spent
      cases result with
      | ok value => exact ⟨nofun, resolver, clock⟩
      | error abort =>
          cases abort with
          | failed error => exact ⟨nofun, resolver, clock⟩
          | clockOverflow => exact absurd rfl inRange

theorem lasts_of_run {time : Nat} (run : ∀ world, ∃ value behind,
    dial world = (.ok value, behind) ∧ behind.installed = world.installed ∧
      (world.Prompt →
        behind.Prompt ∧ behind.now.nanoseconds ≤ world.now.nanoseconds + time)) :
    dial.Lasts time := by
  intro world
  obtain ⟨value, behind, run, resolver, clock⟩ := run world
  exact ensures_of_eq run ⟨nofun, resolver, clock⟩

theorem lasts_get {time : Nat} {next : World → Dial β} (lasts : ∀ world, (next world).Lasts time) :
    Lasts (get >>= next) time :=
  fun world => lasts world world

theorem lasts_modify {change : World → World} (resolver : ∀ world,
    (change world).installed = world.installed) (clock : ∀ world, (change world).now = world.now)
    (stays : ∀ world, world.Prompt → (change world).Prompt) :
    Lasts (modify change) 0 :=
  lasts_of_run fun world => ⟨(), change world, rfl, resolver world, fun prompt =>
    ⟨stays world prompt, by rw [clock]; omega⟩⟩

theorem lasts_pure {value : α} : Lasts (pure value) 0 :=
  lasts_of_run fun world => ⟨value, world, rfl, rfl, fun prompt => ⟨prompt, Nat.le_refl _⟩⟩

theorem lasts_fail {error : Error} : Lasts (α := α) (fail error) 0 :=
  fun _ => ⟨nofun, rfl, fun prompt => ⟨prompt, Nat.le_refl _⟩⟩

theorem lasts_ofExcept (outcome : Except Error α) : Lasts (ofExcept outcome) 0 := by
  cases outcome with
  | ok value => exact lasts_pure
  | error error => exact lasts_fail

theorem lasts_orFail (classify : Fault → Error) (outcome : Except Fault α) :
    Lasts (orFail classify outcome) 0 := by
  cases outcome with
  | ok value => exact lasts_pure
  | error fault => exact lasts_fail

/-- To look at the clock takes no time. -/
theorem lasts_look (kind : Ask.Kind) (options : DialOptions) : (look kind options).Lasts 0 :=
  lasts_of_run fun world => ⟨_, _, look_run kind options world, rfl, fun prompt =>
    ⟨prompt.looked kind options, by rw [prompt.now_looked]; omega⟩⟩

/-- Nor does it take any to look a name up. -/
theorem lasts_awaitLookup (host : String) : (awaitLookup host).Lasts 0 :=
  lasts_of_run fun world => ⟨(), _, rfl, rfl, fun prompt => ⟨prompt.wait _, by
    simp [World.wait, prompt.lookups]⟩⟩

/-- What comes after takes no time. -/
theorem ensures_spent_then {time : Nat} (spent : first.Ensures world (Spent time world))
    (rest : ∀ value, (next value).Lasts 0) : Ensures (first >>= next) world (Spent time world) := by
  refine ensures_spent_bind spent (Nat.le_refl _) ?_
  intro value middle run
  have before := spent.of_run run
  exact (rest value middle).mono fun result behind later => before.after later id

theorem lasts_then {time : Nat} (lasts : first.Lasts time)
    (rest : ∀ value, (next value).Lasts 0) : Lasts (first >>= next) time :=
  fun world => ensures_spent_then (lasts world) rest

theorem Lasts.mono {time most : Nat} (lasts : dial.Lasts time) (le : time ≤ most) :
    dial.Lasts most :=
  fun world => Ensures.mono (lasts world) fun _ _ spent => spent.mono le

theorem endsBy_of_lasts (lasts : dial.Lasts 0) (deadline : Instant) : dial.EndsBy deadline :=
  fun world => (lasts world).mono fun _ _ spent => spent.mono (Nat.zero_le _)

theorem endsBy_bind (ends : first.EndsBy deadline) (rest : ∀ value, (next value).EndsBy deadline) :
    EndsBy (first >>= next) deadline := by
  intro world
  refine ensures_spent_bind (ends world) (Nat.le_refl _) ?_
  intro value middle run
  have before := (ends world).of_run run
  refine (rest value middle).mono fun result behind later => before.after later fun clock => ?_
  -- What has passed is no longer left, so the two bounds meet in the deadline.
  unfold Instant.remaining at *
  dsimp only at *
  omega

theorem endsBy_attempt (ends : dial.EndsBy deadline) : (attempt dial).EndsBy deadline :=
  fun world => ensures_spent_attempt (ends world)

theorem starts_of_lasts (lasts : dial.Lasts 0) (timeout count : Nat) : dial.Starts timeout count :=
  fun world _ => (lasts world).mono fun _ _ spent => spent.begun (Nat.zero_le _)

theorem starts_bind (one more : Nat) (starts : first.Starts timeout one)
    (rest : ∀ value, (next value).Starts timeout more) :
    Starts (first >>= next) timeout (one + more) := by
  intro world fits
  apply ensures_bind
  cases run : first world with
  | mk result middle =>
      have before := (starts world fits).of_run run
      apply ensures_of_eq run
      cases result with
      | error abort =>
          refine ⟨?_, before.resolver, ?_⟩
          · rintro ⟨⟩
            exact before.overflow rfl
          · intro prompt room
            rw [Nat.add_mul] at room ⊢
            obtain ⟨inRange, stays, within⟩ := before.clock prompt (by omega)
            refine ⟨?_, stays, by omega⟩
            rintro ⟨⟩
            exact inRange rfl
      | ok value =>
          have same : ∀ resolver, middle.installed = some resolver → resolver.Fits timeout := by
            rwa [before.resolver]
          refine (rest value middle same).mono fun result behind later => ?_
          refine ⟨later.overflow, later.resolver.trans before.resolver, ?_⟩
          intro prompt room
          -- The second part finds the room that the first one leaves.
          rw [Nat.add_mul] at room ⊢
          obtain ⟨-, stays, within⟩ := before.clock prompt (by omega)
          obtain ⟨inRange, last, further⟩ := later.clock stays (by omega)
          exact ⟨inRange, last, by omega⟩

/-- What comes before takes no time. -/
theorem starts_behind (lasts : first.Lasts 0)
    (rest : ∀ value, (next value).Starts timeout count) :
    Starts (first >>= next) timeout count := by
  have counted := starts_bind 0 count (starts_of_lasts lasts timeout 0) rest
  rwa [Nat.zero_add] at counted

theorem starts_then (starts : first.Starts timeout count)
    (rest : ∀ value, (next value).Lasts 0) : Starts (first >>= next) timeout count :=
  starts_bind count 0 starts fun value => starts_of_lasts (rest value) timeout 0

theorem starts_attempt (starts : dial.Starts timeout count) :
    (attempt dial).Starts timeout count := by
  intro world fits
  have begun := starts world fits
  unfold Ensures attempt at *
  cases outcome : dial world with
  | mk result behind =>
      rw [outcome] at begun
      obtain ⟨overflow, resolver, clock⟩ := begun
      have caught {found : Except Abort (Except Error α)} (same : found = .error .clockOverflow →
          result = .error .clockOverflow) : Begun timeout count world found behind := by
        refine ⟨fun overflows => overflow (same overflows), resolver, fun prompt room => ?_⟩
        obtain ⟨inRange, rest⟩ := clock prompt room
        exact ⟨fun overflows => inRange (same overflows), rest⟩
      cases result with
      | ok value => exact caught nofun
      | error abort =>
          cases abort with
          | failed error => exact caught nofun
          | clockOverflow => exact caught fun _ => rfl

theorem Starts.mono {most : Nat} (starts : dial.Starts timeout count) (le : count ≤ most) :
    dial.Starts timeout most := by
  intro world fits
  have less : count * timeout ≤ most * timeout := Nat.mul_le_mul_right timeout le
  refine (starts world fits).mono fun _ _ begun => ⟨begun.overflow, begun.resolver, ?_⟩
  intro prompt room
  obtain ⟨inRange, stays, within⟩ := begun.clock prompt (by omega)
  exact ⟨inRange, stays, by omega⟩

end

/-- However the dial ends, the resolver for all is the one from before. -/
def KeepsResolver (dial : Dial α) : Prop :=
  ∀ world, dial.Ensures world fun _ behind => behind.installed = world.installed

theorem keepsResolver_of_lasts {dial : Dial α} {time : Nat} (lasts : dial.Lasts time) :
    dial.KeepsResolver :=
  fun world => (lasts world).mono fun _ _ spent => spent.resolver

/-- Of a dial with options: it ends by a deadline that these have, and one without takes the timeout
once. -/
structure Budgeted (dial : DialOptions → Dial α) : Prop where
  keepsResolver (options : DialOptions) : (dial options).KeepsResolver
  endsBy {options : DialOptions} {deadline : Instant} (has : options.deadline = some deadline) :
    (dial options).EndsBy deadline
  starts {options : DialOptions} {timeout : Nat} (fits : options.Fits timeout) :
    (dial options).Starts timeout 1

/-- What takes no time needs no budget. -/
theorem budgeted_of_lasts {dial : DialOptions → Dial α}
    (lasts : ∀ options, (dial options).Lasts 0) :
    Budgeted dial where
  keepsResolver options := keepsResolver_of_lasts (lasts options)
  endsBy {options deadline} _ := endsBy_of_lasts (lasts options) deadline
  starts {options timeout} _ := starts_of_lasts (lasts options) timeout 1

/-- The dial starts first, and what it does from then on is over by the deadline that it has. -/
def Timed (dial : DialOptions → Dial α) : Prop :=
  ∃ next : DialOptions → Dial α, dial = (fun options => started options >>= next) ∧
    ∀ {options deadline}, options.deadline = some deadline → (next options).EndsBy deadline

theorem timed_of_started {next : DialOptions → Dial α}
    (ends : ∀ {options : DialOptions} {deadline : Instant}, options.deadline = some deadline →
      (next options).EndsBy deadline) : Timed fun options => started options >>= next :=
  ⟨next, rfl, ends⟩

/-- Such a dial is over by the deadline that is counted from where it starts. -/
theorem Timed.within {dial : DialOptions → Dial α} (timed : Timed dial) {options : DialOptions}
    {deadline : Instant} {world : World} (bound : options.boundFrom world.now = some deadline) :
    (dial options).Ensures world (Spent (deadline.remaining world.now).nanoseconds world) := by
  obtain ⟨next, rfl, ends⟩ := timed
  obtain ⟨begun, starts, has⟩ := DialOptions.started?_of_bound bound
  have before := (lasts_look .starts options world).of_run (look_run .starts options world)
  refine ensures_bind_of_eq (started_run_of starts) ((ends has _).mono ?_)
  intro result behind later
  refine before.after later fun clock => ?_
  unfold Instant.remaining at *
  dsimp only at *
  omega

theorem Timed.budgeted {dial : DialOptions → Dial α} (timed : Timed dial) : Budgeted dial where
  keepsResolver options := by
    obtain ⟨next, rfl, ends⟩ := timed
    intro world
    apply ensures_bind
    rw [Ensures, started_run]
    cases starts : options.started? world.now with
    | none => exact rfl
    | some begun =>
        obtain ⟨deadline, has⟩ := DialOptions.deadline_of_started? starts
        exact (ends has (world.looked .starts options)).mono fun _ _ spent => spent.resolver
  endsBy {options deadline} has := by
    intro world
    apply timed.within
    unfold DialOptions.boundFrom
    rw [has]
  starts {options timeout} fits := by
    intro world _
    have short := fits.short
    cases bound : options.boundFrom world.now with
    | some deadline =>
        have within := timed.within bound
        rw [DialOptions.remaining_of_bound bound fits.free] at within
        exact within.mono fun _ _ spent => spent.begun (by omega)
    | none =>
        obtain ⟨next, rfl, ends⟩ := timed
        have none := DialOptions.started?_of_unbound bound
        have late := (DialOptions.started?_eq_none_iff fits.free).mp none
        have run := started_run options world
        rw [none] at run
        have past : world.now.nanoseconds ≤ (world.looked .starts options).now.nanoseconds :=
          Nat.le_add_right _ _
        refine ensures_bind (ensures_of_eq run ⟨fun _ => by omega, rfl, fun _ room => ?_⟩)
        omega

/-- All that a dial does behind its start has a deadline. -/
theorem budgeted_of_started {next : DialOptions → Dial α}
    (ends : ∀ {options : DialOptions} {deadline : Instant}, options.deadline = some deadline →
      (next options).EndsBy deadline) : Budgeted fun options => started options >>= next :=
  (timed_of_started ends).budgeted

/-- What comes before the start takes no time. -/
theorem Budgeted.behind {first : Dial β} {next : β → DialOptions → Dial α}
    (lasts : first.Lasts 0) (budgeted : ∀ value, Budgeted (next value)) :
    Budgeted fun options => first >>= fun value => next value options where
  keepsResolver options := by
    intro world
    apply ensures_bind
    refine (lasts world).mono ?_
    intro result middle spent
    have same : middle.installed = world.installed := spent.resolver
    cases result with
    | error abort => exact same
    | ok value =>
        have later := (budgeted value).keepsResolver options middle
        rw [same] at later
        exact later
  endsBy has := endsBy_bind (endsBy_of_lasts lasts _) fun value => (budgeted value).endsBy has
  starts fits := starts_behind lasts fun value => (budgeted value).starts fits

end Dial

end ProxyDial
