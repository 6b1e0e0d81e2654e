import ProxyDial.Proofs.Tls.Nameless
import ProxyDial.Tls.Verifier

set_option autoImplicit false

/-! What a client that skips the verification of hosts does without. It forgives a certificate that
it is for another name, and nothing else. A certificate whose names cannot all be read is refused
unless one of those before the break is the expected one. -/

namespace ProxyDial.TlsConfig
open Text Tls

/-- The configuration, minding the names of servers. -/
def verifying (config : TlsConfig) : TlsConfig := { config with skipsHostVerification := false }

/-- The configuration, skipping the verification of hosts. -/
def skipping (config : TlsConfig) : TlsConfig := { config with skipsHostVerification := true }

/-- The verdict of those who do not mind a wrong name. -/
def forgiveName : Except CertificateFault Unit → Except CertificateFault Unit
  | .error (.wrongName _ _) => .ok ()
  | verdict => verdict

theorem forgiveName_of_nameless {verdict : Except CertificateFault Unit}
    (nameless : Nameless verdict) : forgiveName verdict = verdict := by
  cases verdict with
  | ok _ => rfl
  | error fault =>
      have other := nameless fault rfl
      cases fault <;> first | rfl | cases other

theorem forgiveName_eq_ok_iff {verdict : Except CertificateFault Unit} :
    forgiveName verdict = .ok () ↔
      verdict = .ok () ∨ ∃ name presented, verdict = .error (.wrongName name presented) := by
  cases verdict with
  | ok _ => simp [forgiveName]
  | error fault => cases fault <;> simp [forgiveName]

/-- The two settings make configurations that differ in nothing else. -/
theorem ofTexts_skipping (authority : Bytes) (certificate key : Option Bytes) :
    ofTexts authority certificate key true =
      (ofTexts authority certificate key false).map skipping := by
  have same : readIdentity (.ofTexts authority certificate key true) =
      readIdentity (.ofTexts authority certificate key false) := rfl
  unfold ofTexts ofMaterial
  rw [same]
  change (readAnchors authority >>= _) = (readAnchors authority >>= _).map _
  cases readAnchors authority with
  | error error => rfl
  | ok anchors =>
      change (readIdentity (.ofTexts authority certificate key false) >>= _) =
        (readIdentity (.ofTexts authority certificate key false) >>= _).map _
      cases readIdentity (.ofTexts authority certificate key false) <;> rfl

section Verdicts

variable (config : TlsConfig) (chain : List Bytes) (now : Nat)

/-- What is found on the way to an anchor, for whatever name. -/
def traced : Except CertificateFault Certificate :=
  config.checkChain (chain.headD []) chain.tail now

theorem traced_nameless : Nameless (config.traced chain now) := by
  apply nameless_bind (Certificate.ofBytes_nameless .refuse _)
  intro certificate
  exact nameless_bind (Chain.check_nameless _ _ _ _) fun _ => nameless_ok _

theorem traced_verifying : config.verifying.traced chain now = config.traced chain now := rfl

theorem traced_skipping : config.skipping.traced chain now = config.traced chain now := rfl

theorem checkName_skipping (expected : ServerName) (certificate : Certificate) :
    config.skipping.checkName expected certificate =
      forgiveName (config.verifying.checkName expected certificate) := by
  unfold checkName
  cases expected.check certificate with
  | ok _ => rfl
  | error fault => cases fault <;> rfl

theorem checkServer_of_untraced {config : TlsConfig} {chain : List Bytes} {now : Nat}
    {fault : CertificateFault} (fails : config.traced chain now = .error fault)
    (expected : ServerName) :
    config.verifying.checkServer expected chain now = .error fault ∧
      config.skipping.checkServer expected chain now = .error fault := by
  have verdict (setting : TlsConfig) (same : setting.traced chain now = config.traced chain now) :
      setting.checkServer expected chain now = .error fault := by
    change (setting.traced chain now >>= _) = _
    rw [same, fails]
    rfl
  exact ⟨verdict config.verifying (config.traced_verifying chain now),
    verdict config.skipping (config.traced_skipping chain now)⟩

theorem checkServer_of_traced {config : TlsConfig} {chain : List Bytes} {now : Nat}
    {certificate : Certificate} (leads : config.traced chain now = .ok certificate)
    (expected : ServerName) :
    config.checkServer expected chain now = config.checkName expected certificate := by
  change (config.traced chain now >>= _) = _
  rw [leads]
  rfl

theorem checkServer_skipping (expected : ServerName) :
    config.skipping.checkServer expected chain now =
      forgiveName (config.verifying.checkServer expected chain now) := by
  cases leads : config.traced chain now with
  | error fault =>
      obtain ⟨verified, skipped⟩ := checkServer_of_untraced leads expected
      -- Without an anchor there is no wrong name to forgive.
      have nameless := config.traced_nameless chain now
      rw [leads] at nameless
      rw [verified, skipped]
      exact (forgiveName_of_nameless (nameless_error (nameless fault rfl))).symm
  | ok certificate =>
      have verified := (config.traced_verifying chain now).trans leads
      have skipped := (config.traced_skipping chain now).trans leads
      rw [checkServer_of_traced verified, checkServer_of_traced skipped, checkName_skipping]

/-- The certificate has a name that cannot be read, and none of those before it is the expected one.
-/
def BreaksOff (certificate : Certificate) (expected : ServerName) : Prop :=
  (AlternativeName.ofCertificate certificate).2 = true ∧
    (AlternativeName.ofCertificate certificate).1.any expected.isCoveredBy = false

instance (certificate : Certificate) (expected : ServerName) :
    Decidable (BreaksOff certificate expected) :=
  inferInstanceAs (Decidable (_ ∧ _))

/-- Who skips the verification of hosts looks at names no further than whether they can be read. -/
theorem checkServer_skipping_of_traced {config : TlsConfig} {chain : List Bytes} {now : Nat}
    {certificate : Certificate} (leads : config.traced chain now = .ok certificate)
    (expected : ServerName) : config.skipping.checkServer expected chain now =
      if BreaksOff certificate expected then .error .badEncoding else .ok () := by
  have skipped := (config.traced_skipping chain now).trans leads
  rw [checkServer_of_traced skipped]
  cases covered : (AlternativeName.ofCertificate certificate).1.any expected.isCoveredBy with
  | true =>
      have whole : ¬ BreaksOff certificate expected := by simp [BreaksOff, covered]
      rw [if_neg whole]
      simp [checkName, ServerName.check, covered]
  | false =>
      cases broken : (AlternativeName.ofCertificate certificate).2 with
      | true =>
          rw [if_pos ⟨broken, covered⟩]
          simp [checkName, ServerName.check, covered, broken]
      | false =>
          have whole : ¬ BreaksOff certificate expected := by simp [BreaksOff, broken]
          rw [if_neg whole]
          simp [checkName, ServerName.check, covered, broken, skipping]

/-- As long as all names can be read, it does not matter which one is expected. -/
theorem checkServer_skipping_same {config : TlsConfig} {chain : List Bytes} {now : Nat}
    (readable : ∀ certificate, config.traced chain now = .ok certificate →
      (AlternativeName.ofCertificate certificate).2 = false) (one other : ServerName) :
    config.skipping.checkServer one chain now = config.skipping.checkServer other chain now := by
  cases leads : config.traced chain now with
  | error fault =>
      rw [(checkServer_of_untraced leads one).2, (checkServer_of_untraced leads other).2]
  | ok certificate =>
      have whole (expected : ServerName) : ¬ BreaksOff certificate expected := by
        simp [BreaksOff, readable certificate leads]
      rw [checkServer_skipping_of_traced leads, checkServer_skipping_of_traced leads,
        if_neg (whole one), if_neg (whole other)]

/-- Skipping the verification of hosts drops the check of the name and nothing else. The two
settings make configurations that are the same otherwise. Who skips accepts a chain exactly if who
verifies accepts it or finds a wrong name and nothing else, and gives the same verdict in all other
cases; a chain that leads to no anchor is refused by both for what is wrong with it. As long as the
names of the certificate can be read, who skips gives the same verdict for all expected names, and
accepts what is accepted for any of them by who verifies. Where the names break off, the certificate
counts as badly encoded, unless a name before the break is the expected one. -/
theorem skipping_drops_name_check_alone :
    (∀ authority certificate key, ofTexts authority certificate key true =
      (ofTexts authority certificate key false).map skipping) ∧
    (∀ expected,
      config.skipping.checkServer expected chain now =
          forgiveName (config.verifying.checkServer expected chain now) ∧
        (config.skipping.checkServer expected chain now = .ok () ↔
          config.verifying.checkServer expected chain now = .ok () ∨
            ∃ name presented, config.verifying.checkServer expected chain now =
              .error (.wrongName name presented))) ∧
    (∀ fault, config.traced chain now = .error fault → ∀ expected,
      config.verifying.checkServer expected chain now = .error fault ∧
        config.skipping.checkServer expected chain now = .error fault) ∧
    (∀ certificate, config.traced chain now = .ok certificate → ∀ expected,
      config.skipping.checkServer expected chain now =
        if BreaksOff certificate expected then .error .badEncoding else .ok ()) ∧
    ((∀ certificate, config.traced chain now = .ok certificate →
        (AlternativeName.ofCertificate certificate).2 = false) →
      ∀ one other,
        config.skipping.checkServer one chain now = config.skipping.checkServer other chain now ∧
          (config.verifying.checkServer one chain now = .ok () →
            config.skipping.checkServer other chain now = .ok ())) := by
  have accepts (expected : ServerName) : config.skipping.checkServer expected chain now = .ok () ↔
      config.verifying.checkServer expected chain now = .ok () ∨
        ∃ name presented, config.verifying.checkServer expected chain now =
          .error (.wrongName name presented) := by
    rw [config.checkServer_skipping chain now expected]
    exact forgiveName_eq_ok_iff
  refine ⟨ofTexts_skipping, ?_, ?_, ?_, ?_⟩
  · intro expected
    exact ⟨config.checkServer_skipping chain now expected, accepts expected⟩
  · intro fault fails expected
    exact checkServer_of_untraced fails expected
  · intro certificate leads expected
    exact checkServer_skipping_of_traced leads expected
  · intro readable one other
    have same := checkServer_skipping_same readable one other
    refine ⟨same, fun verified => ?_⟩
    rw [← same]
    exact (accepts one).mpr (.inl verified)

end Verdicts

/-- A configuration that trusts one certificate. -/
def trusting (certificate : Bytes) : TlsConfig :=
  ⟨(TrustAnchor.ofBytes certificate).toOption.toList, false, none⟩

/-- Bytes written as numbers of forty bytes each, and a number for the rest. -/
def written (numbers : List Nat) (size rest : Nat) : Bytes :=
  numbers.flatMap (Der.ofNat 40) ++ Der.ofNat size rest

/-- A certificate for the name `db`, made with its own key, for the years 2000 to 2198. -/
def namedCertificate : Bytes :=
  written
    [0x3082011b3081c2a003020102020101300a06082a8648ce3d040302300d310b300906035504030c02,
      0x64623020170d3030303130313030303030305a180f32313939303130313030303030305a300d310b,
      0x300906035504030c0264623059301306072a8648ce3d020106082a8648ce3d030107034200049db8,
      0x9a5f461e05fc7776a30e5f9e658c88ed9ddaa0562fee6f829bb2a4cc22b8b4a6d92c28a420948955,
      0x098e06f64417950aae04588b30677909cc1dc9b91813a311300f300d0603551d1104063004820264,
      0x62300a06082a8648ce3d040302034800304502205a550dc2c2276a0d7abf65a49b1981202c86271f,
      0xbac60a7a99fc4f7d5cbae3f7022100c3ae030e81fe1cceaa6aee13d5fe5e531edf2028dd49da5c22]
    7 0xc7fdb088396b77

/-- The same, but that a second name is announced to be longer than it is. -/
def brokenOffCertificate : Bytes :=
  written
    [0x3082011d3081c5a003020102020101300a06082a8648ce3d040302300d310b300906035504030c02,
      0x64623020170d3030303130313030303030305a180f32313939303130313030303030305a300d310b,
      0x300906035504030c0264623059301306072a8648ce3d020106082a8648ce3d030107034200049db8,
      0x9a5f461e05fc7776a30e5f9e658c88ed9ddaa0562fee6f829bb2a4cc22b8b4a6d92c28a420948955,
      0x098e06f64417950aae04588b30677909cc1dc9b91813a314301230100603551d1104093007820264,
      0x62820578300a06082a8648ce3d0403020347003044022058267e3f246502efd278dab9b4f3b8605c,
      0x2d3a91b78851362aeec5e938adac8802204999286776918b7579b7c0220c0fba26d50d5481ec6de1]
    9 0xcacd68327d7214ac4e

/-- The names of a certificate that has been traced to itself, in the year 2026. -/
def tracedNames (certificate : Bytes) : Option (List AlternativeName × Bool) :=
  ((trusting certificate).traced [certificate] 1790000000).toOption.map
    AlternativeName.ofCertificate

theorem namedCertificate_traced :
    tracedNames namedCertificate = some ([.dns [100, 98]], false) := by
  decide +kernel

theorem brokenOffCertificate_traced :
    tracedNames brokenOffCertificate = some ([.dns [100, 98]], true) := by
  decide +kernel

theorem traced_of_names {certificate : Bytes} {names : List AlternativeName × Bool}
    (found : tracedNames certificate = some names) :
    ∃ read, (trusting certificate).traced [certificate] 1790000000 = .ok read ∧
      AlternativeName.ofCertificate read = names := by
  unfold tracedNames at found
  cases leads : (trusting certificate).traced [certificate] 1790000000 with
  | error fault =>
      rw [leads] at found
      cases found
  | ok read =>
      rw [leads] at found
      exact ⟨read, rfl, Option.some.inj found⟩

theorem skipping_accepts_for_other_name :
    let config := trusting namedCertificate
    let verdict (setting : TlsConfig) (name : String) :=
      setting.checkServer (.domain name) [namedCertificate] 1790000000
    (∃ presented, verdict config.verifying "cache" = .error (.wrongName "cache" presented)) ∧
      verdict config.skipping "db" = .ok () ∧ verdict config.skipping "cache" = .ok () := by
  intro config verdict
  obtain ⟨read, leads, names⟩ := traced_of_names namedCertificate_traced
  have verified := (traced_verifying _ _ _).trans leads
  have mismatch : ∃ presented, verdict config.verifying "cache" =
      .error (.wrongName "cache" presented) := by
    refine ⟨[(AlternativeName.dns [100, 98]).shown], (checkServer_of_traced verified _).trans ?_⟩
    unfold checkName ServerName.check
    rw [names]
    rfl
  obtain ⟨-, verdicts, -, -, same⟩ :=
    skipping_drops_name_check_alone config [namedCertificate] 1790000000
  have readable (certificate : Certificate)
      (traced : config.traced [namedCertificate] 1790000000 = .ok certificate) :
      (AlternativeName.ofCertificate certificate).2 = false := by
    cases leads.symm.trans traced
    rw [names]
  have accepts := (verdicts (.domain "cache")).2.mpr (.inr ⟨"cache", mismatch⟩)
  refine ⟨mismatch, ?_, accepts⟩
  exact ((same readable (.domain "db") (.domain "cache")).1).trans accepts

/-- Where the names of a certificate break off, it matters also to those who skip the verification
of hosts which name is expected. -/
theorem skipping_refuses_behind_broken_name :
    let config := trusting brokenOffCertificate
    let verdict (setting : TlsConfig) (name : String) :=
      setting.checkServer (.domain name) [brokenOffCertificate] 1790000000
    ServerName.ofString? "db" = some (.domain "db") ∧
      ServerName.ofString? "cache" = some (.domain "cache") ∧
      verdict config.verifying "db" = .ok () ∧ verdict config.skipping "db" = .ok () ∧
      verdict config.skipping "cache" = .error .badEncoding := by
  intro config verdict
  obtain ⟨read, leads, names⟩ := traced_of_names brokenOffCertificate_traced
  have verified := (traced_verifying _ _ _).trans leads
  have first : ¬ BreaksOff read (.domain "db") := by
    unfold BreaksOff
    rw [names]
    decide +kernel
  have second : BreaksOff read (.domain "cache") := by
    unfold BreaksOff
    rw [names]
    decide +kernel
  refine ⟨by decide +kernel, by decide +kernel, ?_, ?_, ?_⟩
  · refine (checkServer_of_traced verified _).trans ?_
    unfold checkName ServerName.check
    rw [names]
    rfl
  · exact (checkServer_skipping_of_traced leads _).trans (if_neg first)
  · exact (checkServer_skipping_of_traced leads _).trans (if_pos second)

end ProxyDial.TlsConfig
