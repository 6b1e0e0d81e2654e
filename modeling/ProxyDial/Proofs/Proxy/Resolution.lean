import ProxyDial.Proofs.Cluster.InPlace
import ProxyDial.Proofs.Proxy.Shape

set_option autoImplicit false

/-! Three ways to a proxy: for an address dialer, for a host dialer, and for whichever of the two
suits. The third one gives what that dialer's own way gives for the same text and the same
variables, so that the dialer can always be installed. -/

namespace ProxyDial
open Text

namespace Environment

/-- Whether a value holds anything but blanks. -/
def isFilled (value : String) : Bool := value.toList.any (!isBlank ·)

/-- The first value, as it is written, that a proxy variable is filled with. -/
def firstFilled? (environment : Environment) : Option String :=
  (["HTTPS_PROXY", "HTTP_PROXY", "https_proxy", "http_proxy"].filterMap environment).find? isFilled

theorem nonBlank?_filled {value : String} (filled : isFilled value = true) :
    nonBlank? (some value) = some (trim value) := by
  obtain ⟨c, member, kept⟩ := List.any_eq_true.mp filled
  exact nonBlank?_of_filled member (by simpa using kept)

/-- A search through variables stops at the first one that is filled. -/
theorem findSome?_nonBlank (environment : Environment) (names : List String) :
    (names.findSome? fun name => nonBlank? (environment name)) =
      ((names.filterMap environment).find? isFilled).map trim := by
  induction names with
  | nil => rfl
  | cons name rest ih =>
      rw [List.findSome?_cons]
      cases written : environment name with
      | none =>
          rw [List.filterMap_cons_none written]
          exact ih
      | some value =>
          rw [List.filterMap_cons_some written]
          cases filled : isFilled value with
          | true =>
              rw [nonBlank?_filled filled, List.find?_cons_of_pos filled]
              rfl
          | false =>
              have blank : ∀ c ∈ value.toList, isBlank c = true := by
                simpa [isFilled] using filled
              rw [nonBlank?_of_blank blank, List.find?_cons_of_neg (by simp [filled])]
              exact ih

theorem proxy?_eq (environment : Environment) :
    environment.proxy? = environment.firstFilled?.map trim :=
  findSome?_nonBlank environment proxyVariables

end Environment

namespace Proxy

theorem setting?_blank {text : String} (blank : ∀ c ∈ text.toList, isBlank c = true)
    (environment : Environment) : setting? (some text) environment = setting? none environment := by
  unfold setting?
  rw [nonBlank?_of_blank blank]
  rfl

/-- The variable that is found could as well have been the explicit text. -/
theorem setting?_firstFilled {environment : Environment} {value : String}
    (first : environment.firstFilled? = some value) (other : Environment) :
    setting? (some value) other = setting? none environment := by
  have filled := List.find?_some first
  have found : environment.proxy? = some (trim value) := by
    rw [Environment.proxy?_eq, first]
    rfl
  unfold setting?
  rw [Environment.nonBlank?_filled filled, found]
  rfl

variable {explicit other : Option String} {environment elsewhere : Environment}

/-- All that matters of the text and the variables is the setting that they come to. -/
theorem resolve_congr (same : setting? explicit environment = setting? other elsewhere) :
    resolveWithShape explicit environment = resolveWithShape other elsewhere ∧
      ∀ shape, resolve shape explicit environment = resolve shape other elsewhere := by
  constructor
  · rw [resolveWithShape_eq, resolveWithShape_eq, same]
  · intro shape
    unfold resolve
    rw [same]

/-- The shape of dialer that suits a text and the variables. -/
def suitedShape (explicit : Option String) (environment : Environment) : DialerShape :=
  ((setting? explicit environment).map DialerShape.ofSetting).getD .address

theorem resolveWithShape_eq_resolve (explicit : Option String) (environment : Environment) :
    resolveWithShape explicit environment =
      (resolve (suitedShape explicit environment) explicit environment).map
        (·.map (·, suitedShape explicit environment)) := by
  rw [resolveWithShape_eq]
  unfold resolve suitedShape
  cases setting? explicit environment with
  | none => rfl
  | some text =>
      dsimp only [Option.map_some, Option.getD_some]
      cases ofText (.ofSetting text) text.toList <;> rfl

/-- A proxy of the suited shape can be installed, whatever the handle holds. -/
theorem installProxy_of_resolved {proxy : Proxy} {shape : DialerShape}
    (found : resolveWithShape explicit environment = .ok (some (proxy, shape))) (held : Held) :
    (InPlace.installProxy proxy shape held).1 = .ok () := by
  have scheme := resolveWithShape_scheme found
  rw [InPlace.installProxy_run]
  cases shape with
  | address => rfl
  | host =>
      have isSocks : proxy.scheme = .socks5 := scheme
      unfold Cluster.withProxy Cluster.hostDialer HostDialer.ofProxy
      rw [dif_pos isSocks]
      cases held.cluster.config.tls <;> rfl

/-- The proxy for whichever dialer suits is the one, or the failure is the one, that the way of that
dialer gives for the same text and variables. The dialer is a host dialer exactly if the proxy
speaks SOCKS, and it can be installed in any handle. A blank text is as good as none; no text is as
good as the first filled variable given as the text, and where none is filled, no proxy is named. -/
theorem resolveWithShape_matches (explicit : Option String) (environment : Environment) :
    resolveWithShape explicit environment =
      (resolve (suitedShape explicit environment) explicit environment).map
        (·.map (·, suitedShape explicit environment)) ∧
    (∀ proxy shape, resolveWithShape explicit environment = .ok (some (proxy, shape)) →
      (shape = .host ↔ proxy.scheme = .socks5) ∧
        ∀ held, (InPlace.installProxy proxy shape held).1 = .ok ()) ∧
    (∀ text : String, (∀ c ∈ text.toList, isBlank c = true) →
      resolveWithShape (some text) environment = resolveWithShape none environment ∧
        ∀ shape, resolve shape (some text) environment = resolve shape none environment) ∧
    (∀ value other, environment.firstFilled? = some value →
      resolveWithShape (some value) other = resolveWithShape none environment ∧
        ∀ shape, resolve shape (some value) other = resolve shape none environment) ∧
    (environment.firstFilled? = none →
      resolveWithShape none environment = .ok none ∧
        ∀ shape, resolve shape none environment = .ok none) := by
  refine ⟨resolveWithShape_eq_resolve explicit environment, ?_, ?_, ?_, ?_⟩
  · intro proxy shape found
    refine ⟨?_, installProxy_of_resolved found⟩
    rw [resolveWithShape_scheme found]
    cases shape <;> decide
  · intro text blank
    exact resolve_congr (setting?_blank blank environment)
  · intro value other first
    exact resolve_congr (setting?_firstFilled first other)
  · intro unfilled
    have unset : setting? none environment = none := by
      change environment.proxy? = none
      rw [Environment.proxy?_eq, unfilled]
      rfl
    constructor
    · rw [resolveWithShape_eq, unset]
    · intro shape
      unfold resolve
      rw [unset]

/-- The first variable is blank, and the second one names a SOCKS proxy. -/
def blankThenSocks : Environment
  | "HTTPS_PROXY" => some " \t"
  | "HTTP_PROXY" => some " SOCKS5h://[::1] "
  | _ => none

theorem resolveWithShape_matches_filled :
    ∃ proxy, resolveWithShape none blankThenSocks = .ok (some (proxy, .host)) ∧
      proxy.scheme = .socks5 ∧ (∀ held, (InPlace.installProxy proxy .host held).1 = .ok ()) ∧
      resolveWithShape (some "\n") blankThenSocks = resolveWithShape none blankThenSocks ∧
      resolveWithShape (some " SOCKS5h://[::1] ") .empty =
        resolveWithShape none blankThenSocks := by
  obtain ⟨-, found, blank, filled, -⟩ := resolveWithShape_matches none blankThenSocks
  have named : resolveWithShape none blankThenSocks =
      .ok (some (⟨.socks5, "::1", 1080, none⟩, .host)) := by rfl
  obtain ⟨suits, installs⟩ := found _ _ named
  refine ⟨_, named, suits.mp rfl, installs, ?_, ?_⟩
  · exact (blank "\n" (List.all_eq_true.mp rfl)).1
  · exact (filled _ .empty (by decide)).1

end Proxy

end ProxyDial
