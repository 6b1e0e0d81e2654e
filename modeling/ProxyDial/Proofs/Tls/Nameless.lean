import ProxyDial.Tls.Chain

set_option autoImplicit false

/-! The way from a certificate to an anchor has nothing to do with the name of the server. Whatever
is wrong with it, it is never said to be a wrong name, so that a wrong name can only be told of a
chain that leads to an anchor. -/

namespace ProxyDial.Tls
open Text

def CertificateFault.isWrongName : CertificateFault → Bool
  | wrongName _ _ => true
  | _ => false

/-- A check that may fail, but not for the name of the server. -/
def Nameless {α : Type} (outcome : Except CertificateFault α) : Prop :=
  ∀ fault, outcome = .error fault → fault.isWrongName = false

section Rules

variable {α β : Type}

theorem nameless_ok (value : α) : Nameless (.ok value) := by
  rintro fault ⟨⟩

theorem nameless_error {fault : CertificateFault} (other : fault.isWrongName = false) :
    Nameless (.error fault : Except CertificateFault α) := by
  rintro fault ⟨⟩
  exact other

theorem nameless_bind {first : Except CertificateFault α}
    {next : α → Except CertificateFault β} (nameless : Nameless first)
    (rest : ∀ value, Nameless (next value)) : Nameless (first >>= next) := by
  cases first with
  | ok value => exact rest value
  | error fault => exact nameless_error (nameless fault rfl)

theorem nameless_forM {check : α → Except CertificateFault PUnit}
    (nameless : ∀ item, Nameless (check item)) (items : List α) : Nameless (items.forM check) := by
  induction items with
  | nil => exact nameless_ok _
  | cons item rest ih => exact nameless_bind (nameless item) fun _ => ih

theorem nameless_mapM {outcomes : List (Except CertificateFault α)}
    (nameless : ∀ outcome ∈ outcomes, Nameless outcome) : Nameless (outcomes.mapM id) := by
  induction outcomes with
  | nil => exact nameless_ok _
  | cons outcome rest ih =>
      rw [List.mapM_cons]
      apply nameless_bind (nameless outcome List.mem_cons_self)
      intro value
      apply nameless_bind (ih fun other member => nameless other (.tail _ member))
      intro values
      exact nameless_ok _

/-- A condition that must not hold before a check goes on. -/
theorem nameless_unless {bad : Prop} [Decidable bad] {fault : CertificateFault}
    {rest : Unit → Except CertificateFault α} (other : fault.isWrongName = false)
    (nameless : ∀ kept, Nameless (rest kept)) :
    Nameless (if bad then throw fault >>= rest else rest ()) := by
  split
  · exact nameless_bind (nameless_error other) nameless
  · exact nameless ()

end Rules

namespace Certificate

variable {α β : Type}

/-- The same of what takes values from the front of bytes. -/
def NamelessParser (parser : Parser α) : Prop := ∀ bytes, Nameless (parser bytes)

theorem namelessParser_pure (value : α) : NamelessParser (pure value) := fun _ => nameless_ok _

theorem namelessParser_bind {first : Parser α} {next : α → Parser β}
    (nameless : NamelessParser first) (rest : ∀ value, NamelessParser (next value)) :
    NamelessParser (first >>= next) :=
  fun bytes => nameless_bind (nameless bytes) fun found => rest found.1 found.2

theorem namelessParser_take (reader : Der.Reader α) : NamelessParser (take reader) := by
  intro bytes
  unfold take
  split
  · exact nameless_ok _
  · exact nameless_error rfl

theorem namelessParser_fail {fault : CertificateFault} (other : fault.isWrongName = false) :
    NamelessParser (fail fault : Parser α) :=
  fun _ => nameless_error other

theorem version_nameless : NamelessParser version := by
  intro bytes
  unfold version
  split
  · exact nameless_error rfl
  · split
    · exact nameless_error rfl
    · split
      · exact nameless_ok _
      · exact nameless_error rfl

theorem once_nameless (present content : Option Bytes) : Nameless (once present content) := by
  unfold once
  split
  · exact nameless_error rfl
  · exact nameless_error rfl
  · exact nameless_ok _

theorem withExtension_nameless (policy : CriticalPolicy) (certificate : Certificate) (id : Bytes)
    (critical : Bool) (content : Bytes) :
    Nameless (withExtension policy certificate id critical content) := by
  have noted (present content : Option Bytes) (change : Option Bytes → Certificate) :
      Nameless (do return change (← once present content)) :=
    nameless_bind (once_nameless present content) fun _ => nameless_ok _
  unfold withExtension
  dsimp only
  split
  · exact noted _ _ _
  · exact noted _ _ _
  · exact noted _ _ _
  · exact noted _ _ _
  · exact noted _ _ _
  · exact noted _ _ _
  · split
    · exact nameless_error rfl
    · exact nameless_ok _

theorem withExtensions_nameless (policy : CriticalPolicy) (room : Nat) (certificate : Certificate)
    (bytes : Bytes) : Nameless (withExtensions policy room certificate bytes) := by
  induction room generalizing certificate bytes with
  | zero =>
      cases bytes with
      | nil => exact nameless_ok _
      | cons byte rest => exact nameless_error rfl
  | succ room ih =>
      cases bytes with
      | nil => exact nameless_ok _
      | cons byte rest =>
          rw [withExtensions]
          split
          · exact nameless_error rfl
          · split
            · exact nameless_error rfl
            · apply nameless_bind (withExtension_nameless policy certificate _ _ _)
              intro next
              split
              · exact ih next _
              · exact nameless_error rfl
          · exact nofun

theorem contents_nameless (policy : CriticalPolicy) (signed algorithm signature : Bytes) :
    NamelessParser (contents policy signed algorithm signature) := by
  apply namelessParser_bind version_nameless
  intro _
  apply namelessParser_bind
  · exact namelessParser_bind (namelessParser_take _) fun _ => namelessParser_pure _
  intro _
  apply namelessParser_bind (namelessParser_take _)
  intro named
  -- What is read behind the two names of the signature's algorithm, which must be the same.
  extract_lets reading
  have reads (same : Unit) : NamelessParser (reading same) := by
    apply namelessParser_bind (namelessParser_take _)
    intro issuer
    apply namelessParser_bind (namelessParser_take _)
    intro validity
    apply namelessParser_bind (namelessParser_take _)
    intro subject
    apply namelessParser_bind (namelessParser_take _)
    intro publicKey
    apply namelessParser_bind (namelessParser_take _)
    intro ends
    split
    · exact namelessParser_pure _
    · apply namelessParser_bind (namelessParser_take _)
      intro part
      split
      · exact namelessParser_fail rfl
      · split
        next fault failed =>
          exact namelessParser_fail (withExtensions_nameless policy _ _ _ fault failed)
        · split
          · exact namelessParser_pure _
          · exact namelessParser_fail rfl
  split
  · exact namelessParser_bind (namelessParser_fail rfl) reads
  · exact reads ()

theorem ofBytes_nameless (policy : CriticalPolicy) (bytes : Bytes) :
    Nameless (ofBytes policy bytes) := by
  unfold ofBytes
  split
  · exact nameless_error rfl
  · have parsed := contents_nameless policy
    unfold whole
    split
    · exact nameless_ok _
    · exact nameless_error rfl
    next fault failed => exact nameless_error (parsed _ _ _ _ fault failed)

theorem checkTime_nameless (certificate : Certificate) (now : Nat) :
    Nameless (certificate.checkTime now) := by
  unfold checkTime
  split
  · exact nameless_error rfl
  · split
    · exact nameless_error rfl
    · split
      · exact nameless_error rfl
      · split
        · exact nameless_error rfl
        · exact nameless_ok _

theorem checkRole_nameless (certificate : Certificate) (below : Option Nat) :
    Nameless (certificate.checkRole below) := by
  unfold checkRole
  split
  · exact nameless_error rfl
  · split
    · split
      · exact nameless_error rfl
      · exact nameless_ok _
    · split
      · exact nameless_error rfl
      · split
        · exact nameless_error rfl
        · exact nameless_ok _

theorem checkPurpose_nameless (certificate : Certificate) :
    Nameless certificate.checkPurpose := by
  unfold checkPurpose
  split
  · exact nameless_ok _
  · split
    split
    · exact nameless_ok _
    · split
      · exact nameless_error rfl
      · exact nameless_error rfl

theorem checkAlone_nameless (certificate : Certificate) (below : Option Nat) (now : Nat) :
    Nameless (certificate.checkAlone below now) := by
  apply nameless_bind (certificate.checkTime_nameless now)
  intro _
  apply nameless_bind (certificate.checkRole_nameless below)
  intro _
  exact certificate.checkPurpose_nameless

theorem checkSignature_nameless (certificate : Certificate) (issuerKey : Bytes) :
    Nameless (certificate.checkSignature issuerKey) := by
  unfold checkSignature
  split
  · exact nameless_error rfl
  · exact nameless_error rfl
  · split
    · exact nameless_error rfl
    · exact nameless_ok _
    · exact nameless_error rfl

end Certificate

namespace NameConstraints

theorem ipWithin_nameless (octets constraint : Bytes) : Nameless (ipWithin octets constraint) := by
  unfold ipWithin
  dsimp only
  split
  · exact nameless_error rfl
  · split
    · exact nameless_ok _
    · split
      · exact nameless_error rfl
      · split
        · exact nameless_ok _
        · exact nameless_error rfl

theorem liesWithin_nameless {permits : Bool} {name constraint : AlternativeName}
    {outcome : Except CertificateFault Bool}
    (compared : liesWithin permits name constraint = some outcome) : Nameless outcome := by
  unfold liesWithin at compared
  split at compared
  · cases compared
    split
    · exact nameless_error rfl
    · split
      · exact nameless_error rfl
      · exact nameless_ok _
  · cases compared
    exact nameless_ok _
  · cases compared
    exact ipWithin_nameless _ _
  · split at compared
    · cases compared
      exact nameless_error rfl
    · cases compared
  · cases compared

theorem comparisons_nameless (permits : Bool) (name : AlternativeName)
    (constraints : List AlternativeName) :
    Nameless ((constraints.filterMap (liesWithin permits name)).mapM id) := by
  apply nameless_mapM
  intro outcome member
  obtain ⟨constraint, -, compared⟩ := List.mem_filterMap.mp member
  exact liesWithin_nameless compared

theorem check_nameless (constraints : NameConstraints) (name : AlternativeName) :
    Nameless (constraints.check name) := by
  apply nameless_bind (comparisons_nameless true name constraints.permitted)
  intro permits
  extract_lets
  apply nameless_unless rfl
  intro _
  apply nameless_bind (comparisons_nameless false name constraints.excluded)
  intro excludes
  split
  · exact nameless_error rfl
  · exact nameless_ok _

end NameConstraints

namespace Chain

theorem checkSignatures_nameless (issuerKey : Bytes) (path : List Certificate) :
    Nameless (checkSignatures issuerKey path) := by
  induction path generalizing issuerKey with
  | nil => exact nameless_ok _
  | cons certificate below ih =>
      exact nameless_bind (certificate.checkSignature_nameless issuerKey) fun _ => ih _

theorem checkNames_nameless (constraints : Option Bytes) (path : List Certificate) :
    Nameless (checkNames constraints path) := by
  unfold checkNames
  split
  · exact nameless_ok _
  · split
    · exact nameless_error rfl
    next constraints _ =>
      apply nameless_forM
      intro certificate
      apply nameless_bind (nameless_forM constraints.check_nameless _)
      intro _
      extract_lets
      apply nameless_unless rfl
      intro _
      exact constraints.check_nameless .directory

theorem checkInnerNames_nameless (path : List Certificate) :
    Nameless (checkInnerNames path) := by
  induction path with
  | nil => exact nameless_ok _
  | cons certificate below ih =>
      exact nameless_bind (checkNames_nameless certificate.nameConstraints below) fun _ => ih

theorem endsAt_nameless (top : Certificate) (path : List Certificate) (anchor : TrustAnchor) :
    Nameless (endsAt top path anchor) := by
  unfold endsAt
  extract_lets
  apply nameless_unless rfl
  intro _
  apply nameless_bind (checkSignatures_nameless anchor.publicKey path)
  intro _
  apply nameless_bind (checkNames_nameless anchor.nameConstraints path)
  intro _
  exact checkInnerNames_nameless path

theorem firstSuccess_nameless {α : Type} {attempt : α → Except CertificateFault Unit}
    (nameless : ∀ candidate, Nameless (attempt candidate)) {fault : CertificateFault}
    (other : fault.isWrongName = false) (candidates : List α) :
    Nameless (firstSuccess attempt fault candidates) := by
  induction candidates generalizing fault with
  | nil => exact nameless_error other
  | cons candidate rest ih =>
      unfold firstSuccess
      split
      · exact nameless_ok _
      next second failed =>
        apply ih
        unfold weightier
        split
        · exact nameless candidate second failed
        · exact other

/-- What is found over one more issuer is nameless, if what is found further up is. -/
theorem search_nameless_of {anchors : List TrustAnchor} {issuers : List Bytes} {now room : Nat}
    (deeper : ∀ less, room = less + 1 → ∀ issuer path,
      Nameless (search anchors issuers now less issuer path))
    (top : Certificate) (below : List Certificate) :
    Nameless (search anchors issuers now room top below) := by
  unfold search
  extract_lets path place through
  apply nameless_bind (top.checkAlone_nameless place now)
  intro _
  have ended : Nameless (firstSuccess (endsAt top path) .unknownIssuer anchors) :=
    firstSuccess_nameless (endsAt_nameless top path) rfl anchors
  split
  · exact nameless_ok _
  next fault failed =>
    apply firstSuccess_nameless _ (ended fault failed)
    intro bytes
    apply nameless_bind (Certificate.ofBytes_nameless .refuse bytes)
    intro issuer
    extract_lets
    apply nameless_unless rfl
    intro _
    apply nameless_unless rfl
    intro _
    -- The issuer is traced in its turn, as long as the chain may get longer.
    cases room with
    | zero => exact nameless_error rfl
    | succ less => exact deeper less rfl issuer path

theorem search_nameless (anchors : List TrustAnchor) (issuers : List Bytes) (now room : Nat)
    (top : Certificate) (below : List Certificate) :
    Nameless (search anchors issuers now room top below) := by
  induction room generalizing top below with
  | zero =>
      apply search_nameless_of
      intro less impossible
      cases impossible
  | succ room ih =>
      apply search_nameless_of
      rintro less ⟨⟩
      exact ih

/-- Whatever keeps a certificate from being traced back to an anchor, it is not a wrong name. -/
theorem check_nameless (anchors : List TrustAnchor) (server : Certificate) (issuers : List Bytes)
    (now : Nat) : Nameless (check anchors server issuers now) :=
  search_nameless anchors issuers now maxIssuers server []

end Chain

end ProxyDial.Tls
