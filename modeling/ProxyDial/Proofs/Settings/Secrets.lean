import ProxyDial.Proofs.Text.Shown
import ProxyDial.Settings
import ProxyDial.Tls.Config

set_option autoImplicit false

/-! What diagnostics tell of secrets. Passwords and private keys are not shown where they have a
field of their own. The proxy of settings is one text, and the password in it is shown with it. -/

namespace ProxyDial
open Text

def Credentials.withoutPassword (credentials : Credentials) : Credentials :=
  { credentials with password := "" }

def Proxy.withoutPassword (proxy : Proxy) : Proxy :=
  { proxy with credentials := proxy.credentials.map Credentials.withoutPassword }

/-- Whether there is a key stays to be seen. -/
def TlsMaterial.withoutKey (material : TlsMaterial) : TlsMaterial :=
  { material with key := material.key.map fun _ => [] }

def TlsSettings.withoutKey (settings : TlsSettings) : TlsSettings :=
  { settings with key := settings.key.map fun _ => "" }

/-- A text for a proxy that holds a password, with what stands around it. -/
def Proxy.setting (front password behind : String) : String :=
  front ++ ":" ++ password ++ "@" ++ behind

/-- Settings that differ in nothing but secrets: the password of the login, the private key, and the
password that the proxy is asked with. -/
structure Settings.AlikeButSecrets (first second : Settings) : Prop where
  host : first.host = second.host
  authKeyspace : first.authKeyspace = second.authKeyspace
  login : first.login.map Credentials.withoutPassword =
    second.login.map Credentials.withoutPassword
  proxy : first.proxy = second.proxy ∨ ∃ front password other behind,
    first.proxy = some (Proxy.setting front password behind) ∧
      second.proxy = some (Proxy.setting front other behind)
  nameserver : first.nameserver = second.nameserver
  tls : first.tls.map TlsSettings.withoutKey = second.tls.map TlsSettings.withoutKey
  timeoutSeconds : first.timeoutSeconds = second.timeoutSeconds

theorem Credentials.shownAs_withoutPassword (name : String) (credentials : Credentials) :
    credentials.withoutPassword.shownAs name = credentials.shownAs name :=
  rfl

/-- What does not depend on the part that has been taken away is the same of two values that agree
in the rest. -/
theorem map_eq_of_blind {α β : Type} {shown : α → β} {erase : α → α}
    (blind : ∀ value, shown (erase value) = shown value) {first second : Option α}
    (alike : first.map erase = second.map erase) : first.map shown = second.map shown := by
  have through (value : Option α) : value.map shown = (value.map erase).map shown := by
    rw [Option.map_map]
    congr 1
    funext inner
    exact (blind inner).symm
  rw [through first, through second, alike]

theorem Proxy.shown_withoutPassword (proxy : Proxy) :
    proxy.withoutPassword.shown = proxy.shown := by
  have login : (proxy.credentials.map Credentials.withoutPassword).map
      (Credentials.shownAs "ProxyAuth") = proxy.credentials.map (Credentials.shownAs "ProxyAuth") :=
    map_eq_of_blind (Credentials.shownAs_withoutPassword "ProxyAuth")
      (by rw [Option.map_map]; rfl)
  unfold shown withoutPassword
  rw [login]

theorem TlsMaterial.shown_withoutKey (material : TlsMaterial) :
    material.withoutKey.shown = material.shown := by
  unfold shown withoutKey
  rw [Option.map_map]
  rfl

theorem TlsSettings.shown_withoutKey (settings : TlsSettings) :
    settings.withoutKey.shown = settings.shown := by
  unfold shown withoutKey
  rw [Option.map_map]
  rfl

theorem Settings.shown_eq_iff_proxy {first second : Settings}
    (alike : first.AlikeButSecrets second) :
    first.shown = second.shown ↔ first.proxy = second.proxy := by
  have login := map_eq_of_blind (Credentials.shownAs_withoutPassword "UserPassSettings") alike.login
  have tls := map_eq_of_blind TlsSettings.shown_withoutKey alike.tls
  unfold shown
  rw [alike.host, alike.authKeyspace, login, alike.nameserver, tls, alike.timeoutSeconds]
  refine (record_eq_iff "Settings" "proxy_url" [_, _, _] [_, _, _] _ _).trans ?_
  rw [optional_injective.eq_iff, (Option.map_injective quoted_injective).eq_iff]

/-- No secret shows in the diagnostics of a proxy, of TLS material and of credentials. Of settings
the same holds for all secrets but the password in the text that names the proxy: any two of these
passwords are told apart. -/
theorem secrets_hidden_but_in_proxy_setting {first second : Settings}
    (alike : first.AlikeButSecrets second) :
    (first.shown = second.shown ↔ first.proxy = second.proxy) ∧
    (∀ {one other : Proxy}, one.withoutPassword = other.withoutPassword →
      one.shown = other.shown) ∧
    (∀ {one other : TlsMaterial}, one.withoutKey = other.withoutKey → one.shown = other.shown) ∧
    (∀ (name : String) {one other : Credentials}, one.withoutPassword = other.withoutPassword →
      one.shownAs name = other.shownAs name) := by
  refine ⟨Settings.shown_eq_iff_proxy alike, ?_, ?_, ?_⟩
  · intro one other alike
    rw [← one.shown_withoutPassword, alike, other.shown_withoutPassword]
  · intro one other alike
    rw [← one.shown_withoutKey, alike, other.shown_withoutKey]
  · intro name one other alike
    rw [← one.shownAs_withoutPassword, alike, other.shownAs_withoutPassword]

/-- Settings with a login, a proxy and a private key, for these secrets. -/
def secretSettings (login proxy key : String) : Settings where
  host := some "10.0.0.5"
  authKeyspace := none
  login := some ⟨"cassandra", login⟩
  proxy := some (Proxy.setting "http://user" proxy "proxy:3128")
  nameserver := none
  tls := some ⟨"ca", some "certificate", some key, false⟩
  timeoutSeconds := some 5

theorem secretSettings_alike (login proxy key other otherProxy otherKey : String) :
    (secretSettings login proxy key).AlikeButSecrets
      (secretSettings other otherProxy otherKey) where
  host := rfl
  authKeyspace := rfl
  login := rfl
  proxy := .inr ⟨"http://user", proxy, otherProxy, "proxy:3128", rfl, rfl⟩
  nameserver := rfl
  tls := rfl
  timeoutSeconds := rfl

/-- Logins and private keys are not told apart, and the proxy is asked with the same password. -/
theorem login_and_key_hidden :
    (secretSettings "one" "shared" "first key").shown =
        (secretSettings "two" "shared" "second key").shown ∧
      (Proxy.mk .http "proxy" 3128 (some ⟨"user", "one"⟩)).shown =
        (Proxy.mk .http "proxy" 3128 (some ⟨"user", "two"⟩)).shown ∧
      (TlsMaterial.mk [1] (some [2]) (some [3]) false).shown =
        (TlsMaterial.mk [1] (some [2]) (some [4]) false).shown ∧
      (Credentials.mk "cassandra" "one").shownAs "PasswordAuthenticator" =
        (Credentials.mk "cassandra" "two").shownAs "PasswordAuthenticator" := by
  have alike := secretSettings_alike "one" "shared" "first key" "two" "shared" "second key"
  obtain ⟨settings, proxies, materials, logins⟩ := secrets_hidden_but_in_proxy_setting alike
  exact ⟨settings.mpr rfl, proxies rfl, materials rfl, logins _ rfl⟩

/-- A password in the text for the proxy is shown as it stands. -/
theorem proxy_setting_shows_password :
    (secretSettings "same" "one" "key").AlikeButSecrets (secretSettings "same" "two" "key") ∧
      (secretSettings "same" "one" "key").shown ≠ (secretSettings "same" "two" "key").shown := by
  refine ⟨secretSettings_alike "same" "one" "key" "same" "two" "key", ?_⟩
  decide +kernel

end ProxyDial
