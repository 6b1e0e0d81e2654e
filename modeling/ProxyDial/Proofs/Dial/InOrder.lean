import ProxyDial.Proofs.Dial.TwoPaths

set_option autoImplicit false

/-! The order in which candidates are tried. Each is tried in the world that the attempts before it
have left, so that what an attempt comes to may depend on all of them. The walk ends with the first
attempt that does not fail, and otherwise with what became of each. -/

namespace ProxyDial.Candidates

/-- The candidates are tried one after the other, and each attempt fails with its error. -/
inductive Failed (dial : String → Dial Connection) : List (String × Error) → World → World → Prop
  | nil {world : World} : Failed dial [] world world
  | cons {candidate : String} {error : Error} {world middle behind : World}
      {attempts : List (String × Error)}
      (failed : dial candidate world = (.error (.failed error), middle))
      (later : Failed dial attempts middle behind) :
      Failed dial ((candidate, error) :: attempts) world behind

/-- What is told of an attempt that has failed. -/
def told (attempt : String × Error) : String × String := (attempt.1, attempt.2.message)

/-- What becomes of a list of candidates: those that are tried, and how the last attempt ends. -/
inductive Walked (dial : String → Dial Connection) (world : World) :
    (addresses tried : List String) → Except Abort Connection → World → Prop
  | empty : Walked dial world [] [] (.error (.failed (.config .noCandidates))) world
  | reached {attempts : List (String × Error)} {candidate : String} (rest : List String)
      {middle behind : World} {connection : Connection} (failed : Failed dial attempts world middle)
      (reached : dial candidate middle = (.ok connection, behind)) :
      Walked dial world (attempts.map Prod.fst ++ candidate :: rest)
        (attempts.map Prod.fst ++ [candidate]) (.ok connection) behind
  | exhausted {attempts : List (String × Error)} {behind : World} (some : attempts ≠ [])
      (failed : Failed dial attempts world behind) :
      Walked dial world (attempts.map Prod.fst) (attempts.map Prod.fst)
        (.error (.failed (.connect
          (.candidatesExhausted (attempts.map Prod.fst) (attempts.map told))))) behind
  /-- Nothing recovers from an overflow of the clock. -/
  | overflowed {attempts : List (String × Error)} {candidate : String} (rest : List String)
      {middle behind : World} (failed : Failed dial attempts world middle)
      (overflow : dial candidate middle = (.error .clockOverflow, behind)) :
      Walked dial world (attempts.map Prod.fst ++ candidate :: rest)
        (attempts.map Prod.fst ++ [candidate]) (.error .clockOverflow) behind

section
variable {dial : String → Dial Connection}

/-- The walk passes over the attempts that fail, and keeps what is told of them. -/
theorem walk_failed {attempts : List (String × Error)} {world middle : World}
    (failed : Failed dial attempts world middle) (all rest : List String)
    (failures : List (String × String)) :
    walk dial all failures (attempts.map Prod.fst ++ rest) world =
      walk dial all ((attempts.map told).reverse ++ failures) rest middle := by
  induction failed generalizing failures with
  | nil => rfl
  | cons failed later ih =>
      simp only [List.map_cons, List.cons_append, walk_cons_run, failed, ih, told,
        List.reverse_cons, List.append_assoc, List.nil_append]

/-- Some attempt is the first one that does not fail, or all of them fail. -/
theorem failed_or_ends (dial : String → Dial Connection) (left : List String) (world : World) :
    (∃ attempts behind, left = attempts.map Prod.fst ∧ Failed dial attempts world behind) ∨
      ∃ attempts candidate rest middle,
        left = attempts.map Prod.fst ++ candidate :: rest ∧ Failed dial attempts world middle ∧
          ∀ error, (dial candidate middle).1 ≠ .error (.failed error) := by
  induction left generalizing world with
  | nil => exact .inl ⟨[], world, rfl, .nil⟩
  | cons candidate rest ih =>
      by_cases fails : ∃ error, (dial candidate world).1 = .error (.failed error)
      · obtain ⟨error, result⟩ := fails
        have failed : dial candidate world = (.error (.failed error), (dial candidate world).2) :=
          Prod.ext result rfl
        rcases ih (dial candidate world).2 with ⟨attempts, behind, split, later⟩ |
          ⟨attempts, last, rest', middle, split, later, ends⟩
        · subst split
          exact .inl ⟨(candidate, error) :: attempts, behind, rfl, .cons failed later⟩
        · subst split
          exact .inr ⟨(candidate, error) :: attempts, last, rest', middle, rfl,
            .cons failed later, ends⟩
      · exact .inr ⟨[], candidate, rest, world, rfl, .nil, not_exists.mp fails⟩

/-- Every list of candidates comes to something. -/
theorem walked (dial : String → Dial Connection) (addresses : List String) (world : World) :
    ∃ tried result behind, Walked dial world addresses tried result behind := by
  rcases failed_or_ends dial addresses world with ⟨attempts, behind, rfl, failed⟩ |
    ⟨attempts, candidate, rest, middle, rfl, failed, ends⟩
  · cases attempts with
    | nil => exact ⟨_, _, _, .empty⟩
    | cons attempt later => exact ⟨_, _, _, .exhausted (List.cons_ne_nil attempt later) failed⟩
  · cases run : dial candidate middle with
    | mk result behind =>
        rw [run] at ends
        cases result with
        | ok connection => exact ⟨_, _, _, .reached rest failed run⟩
        | error abort =>
            cases abort with
            | failed error => exact absurd rfl (ends error)
            | clockOverflow => exact ⟨_, _, _, .overflowed rest failed run⟩

private theorem firstReachable_of_ne_nil (dial : String → Dial Connection) {addresses : List String}
    (some : addresses ≠ []) :
    firstReachable ⟨addresses⟩ dial = walk dial addresses [] addresses := by
  cases addresses with
  | nil => exact absurd rfl some
  | cons candidate rest => rfl

theorem Walked.run {addresses tried : List String} {result : Except Abort Connection}
    {world behind : World} (walked : Walked dial world addresses tried result behind) :
    firstReachable ⟨addresses⟩ dial world = (result, behind) := by
  cases walked with
  | empty => rfl
  | reached rest failed reached =>
      rw [firstReachable_of_ne_nil dial (by simp), walk_failed failed, walk_cons_run, reached]
  | @exhausted attempts behind some failed =>
      have passed := walk_failed failed (attempts.map Prod.fst) [] []
      rw [List.append_nil, List.append_nil] at passed
      rw [firstReachable_of_ne_nil dial (by simpa using some), passed, walk, List.reverse_reverse]
      rfl
  | overflowed rest failed overflow =>
      rw [firstReachable_of_ne_nil dial (by simp), walk_failed failed, walk_cons_run, overflow]

/-- The walk comes to what becomes of the list, and to nothing else. -/
theorem run_iff_walked (candidates : Candidates) (world behind : World)
    (result : Except Abort Connection) :
    firstReachable candidates dial world = (result, behind) ↔
      ∃ tried, Walked dial world candidates.addresses tried result behind := by
  constructor
  · intro run
    obtain ⟨tried, other, left, walked⟩ := walked dial candidates.addresses world
    have same := walked.run.symm.trans run
    cases same
    exact ⟨tried, walked⟩
  · intro found
    obtain ⟨tried, walked⟩ := found
    exact walked.run

/-- At each attempt the candidate is written down. -/
def Records (record : World → List String) (dial : String → Dial Connection) : Prop :=
  ∀ candidate world, record (dial candidate world).2 = record world ++ [candidate]

theorem Records.step {record : World → List String} (records : Records record dial)
    {candidate : String} {world behind : World} {result : Except Abort Connection}
    (run : dial candidate world = (result, behind)) :
    record behind = record world ++ [candidate] := by
  have noted := records candidate world
  rw [run] at noted
  exact noted

theorem Records.failed {record : World → List String} (records : Records record dial)
    {attempts : List (String × Error)} {world behind : World}
    (failed : Failed dial attempts world behind) :
    record behind = record world ++ attempts.map Prod.fst := by
  induction failed with
  | nil => exact (List.append_nil _).symm
  | cons failed later ih => rw [ih, records.step failed, List.append_assoc]; rfl

theorem Records.walked {record : World → List String} (records : Records record dial)
    {addresses tried : List String} {result : Except Abort Connection} {world behind : World}
    (walked : Walked dial world addresses tried result behind) :
    record behind = record world ++ tried := by
  cases walked with
  | empty => exact (List.append_nil _).symm
  | reached rest failed reached =>
      rw [records.step reached, records.failed failed, List.append_assoc]
  | exhausted some failed => exact records.failed failed
  | overflowed rest failed overflow =>
      rw [records.step overflow, records.failed failed, List.append_assoc]

theorem Walked.isPrefix {addresses tried : List String} {result : Except Abort Connection}
    {world behind : World} (walked : Walked dial world addresses tried result behind) :
    tried <+: addresses := by
  cases walked with
  | empty => exact List.prefix_rfl
  | reached rest failed reached => exact ⟨rest, by simp⟩
  | exhausted some failed => exact List.prefix_rfl
  | overflowed rest failed overflow => exact ⟨rest, by simp⟩

/-- What a failing walk tells its caller, whatever the attempts have failed with. -/
theorem Walked.error {addresses tried : List String} {error : Error} {world behind : World}
    (walked : Walked dial world addresses tried (.error (.failed error)) behind) :
    tried = addresses ∧
      error.kind = (if addresses = [] then .config else .connect) ∧
      error.isRetryable = decide (addresses ≠ []) := by
  cases walked with
  | empty => exact ⟨rfl, rfl, rfl⟩
  | @exhausted attempts behind some failed =>
      have named : attempts.map Prod.fst ≠ [] := by simpa using some
      exact ⟨rfl, (if_neg named).symm, (decide_eq_true named).symm⟩

end

/-- Candidates are tried strictly in their order, each once, up to the first attempt that does not
fail. A record of the attempts, kept by whatever dials, is the list of those tried. -/
theorem firstReachable_in_order (candidates : Candidates) (dial : String → Dial Connection)
    (world behind : World) (result : Except Abort Connection) :
    (firstReachable candidates dial world = (result, behind) ↔
      ∃ tried, Walked dial world candidates.addresses tried result behind) ∧
    ∀ tried, Walked dial world candidates.addresses tried result behind →
      tried <+: candidates.addresses ∧
      (∀ record, Records record dial → record behind = record world ++ tried) ∧
      ∀ error, result = .error (.failed error) →
        tried = candidates.addresses ∧
          error.kind = (if candidates.addresses = [] then .config else .connect) ∧
          error.isRetryable = decide (candidates.addresses ≠ []) := by
  constructor
  · exact run_iff_walked candidates world behind result
  · intro tried walked
    refine ⟨walked.isPrefix, fun record records => records.walked walked, ?_⟩
    intro error failed
    subst failed
    exact walked.error

/-- Writes down what it is asked for, and reaches it unless it is asked for the first time. -/
def reachLater (candidate : String) : Dial Connection := fun world =>
  let behind := { world with asked := world.asked ++ [(candidate, 0)] }
  if world.asked.isEmpty then (.error (.failed (.config .noCandidates)), behind)
  else (.ok ⟨.plain (.direct ⟨0⟩), candidate⟩, behind)

/-- The same candidate stands twice in the list. It fails at first and is reached then, and the one
behind it is not tried. -/
theorem firstReachable_in_order_twice :
    ∃ behind,
      firstReachable ⟨["a:1", "a:1", "b:1"]⟩ reachLater .isolated =
        (.ok ⟨.plain (.direct ⟨0⟩), "a:1"⟩, behind) ∧
      behind.asked.map Prod.fst = ["a:1", "a:1"] := by
  obtain ⟨behind, walked⟩ : ∃ behind, Walked reachLater .isolated ["a:1", "a:1", "b:1"]
      ["a:1", "a:1"] (.ok ⟨.plain (.direct ⟨0⟩), "a:1"⟩) behind :=
    ⟨_, .reached ["b:1"] (.cons rfl .nil) rfl⟩
  have records : Records (fun world => world.asked.map Prod.fst) reachLater := by
    intro candidate world
    unfold reachLater
    split <;> simp
  obtain ⟨comes, tells⟩ := firstReachable_in_order ⟨["a:1", "a:1", "b:1"]⟩ reachLater .isolated
    behind (.ok ⟨.plain (.direct ⟨0⟩), "a:1"⟩)
  exact ⟨behind, comes.mpr ⟨_, walked⟩, (tells _ walked).2.1 _ records⟩

end ProxyDial.Candidates
