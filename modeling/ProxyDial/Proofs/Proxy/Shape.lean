import ProxyDial.Proofs.Dial.Outcome
import ProxyDial.Proofs.Text.Blank
import ProxyDial.Proxy.Resolve

set_option autoImplicit false

/-! Shapes and schemes. A host dialer is chosen for a proxy exactly where the setting names SOCKS as
its scheme, and the proxy that is found is one that such a dialer can talk to. -/

namespace ProxyDial
open Text

/-- The scheme that is written and the shape chosen for it agree. -/
theorem DialerShape.schemeOf_eq_default {written : List Char} {scheme : ProxyScheme}
    {shape : DialerShape}
    (chosen : shape = if ProxyScheme.namesSocks written then host else address)
    (known : shape.schemeOf written = .ok scheme) : scheme = shape.defaultScheme := by
  unfold schemeOf at known
  simp only at known
  cases socks : ProxyScheme.namesSocks written with
  | true =>
      rw [socks, if_pos rfl] at chosen
      subst chosen
      rw [socks] at known
      split at known <;> cases known
      rfl
  | false =>
      rw [socks, if_neg Bool.false_ne_true] at chosen
      subst chosen
      rw [socks] at known
      split at known <;> cases known
      rfl

namespace Proxy

theorem verbatim_scheme (scheme : ProxyScheme) (text : List Char) :
    (verbatim scheme text).scheme = scheme := by
  unfold verbatim
  split
  · rfl
  · split
    · split <;> rfl
    · rfl

/-- The scheme of a proxy is the one that is written, or else the usual one of the shape. -/
theorem ofText_scheme {shape : DialerShape} {text : List Char} {proxy : Proxy}
    (named : ofText shape text = .ok proxy) : match cutAtText? ProxyScheme.mark text with
      | some (written, _) => shape.schemeOf written = .ok proxy.scheme
      | none => proxy.scheme = shape.defaultScheme := by
  unfold ofText at named
  cases cut : cutAtText? ProxyScheme.mark text with
  | none =>
      rw [cut] at named
      simp only [pure_bind] at named
      dsimp only
      split at named <;> cases named
      · rfl
      · exact verbatim_scheme _ text
  | some parts =>
      obtain ⟨written, rest⟩ := parts
      rw [cut] at named
      obtain ⟨scheme, known, made⟩ := Dial.bind_ok named
      rw [pure_bind] at made
      dsimp only at made ⊢
      rw [known]
      split at made <;> cases made
      · rfl
      · rw [verbatim_scheme]

/-- The text of a setting is not blank, and has no blanks around it. -/
theorem setting?_nonBlank {explicit : Option String} {environment : Environment} {text : String}
    (set : setting? explicit environment = some text) : nonBlank? (some text) = some text := by
  rcases Option.or_eq_some_iff.mp set with given | ⟨-, fromEnvironment⟩
  · exact nonBlank?_again given
  · obtain ⟨name, -, found⟩ := List.exists_of_findSome?_eq_some fromEnvironment
    exact nonBlank?_again found

/-- What is found is nothing where nothing is set, and otherwise the proxy that the text names. -/
theorem resolveWithShape_eq (explicit : Option String) (environment : Environment) :
    resolveWithShape explicit environment = match setting? explicit environment with
      | none => .ok none
      | some text => (ofText (.ofSetting text) text.toList).map
          fun proxy => some (proxy, .ofSetting text) := by
  unfold resolveWithShape
  cases set : setting? explicit environment with
  | none => rfl
  | some text =>
      have again : setting? (some text) environment = some text := by
        unfold setting?
        rw [setting?_nonBlank set]
        rfl
      unfold resolve
      dsimp only
      rw [again]
      dsimp only
      cases ofText (.ofSetting text) text.toList <;> rfl

theorem resolveWithShape_some {explicit : Option String} {environment : Environment}
    {proxy : Proxy} {shape : DialerShape}
    (found : resolveWithShape explicit environment = .ok (some (proxy, shape))) :
    ∃ text, setting? explicit environment = some text ∧ shape = .ofSetting text ∧
      ofText shape text.toList = .ok proxy := by
  rw [resolveWithShape_eq] at found
  split at found
  · cases found
  · rename_i text set
    cases named : ofText (.ofSetting text) text.toList with
    | error error =>
        rw [named] at found
        cases found
    | ok other =>
        rw [named] at found
        cases found
        exact ⟨text, set, rfl, named⟩

/-- Where the search succeeds, it finds nothing exactly if nothing is set. -/
theorem resolveWithShape_none_iff {explicit : Option String} {environment : Environment}
    {named : Option (Proxy × DialerShape)}
    (found : resolveWithShape explicit environment = .ok named) :
    named = none ↔ setting? explicit environment = none := by
  constructor
  · intro none
    subst none
    rw [resolveWithShape_eq] at found
    split at found
    · assumption
    · rename_i text set
      cases named : ofText (.ofSetting text) text.toList with
      | error error =>
          rw [named] at found
          cases found
      | ok other =>
          rw [named] at found
          cases found
  · intro unset
    rw [resolveWithShape_eq, unset] at found
    cases found
    rfl

/-- The proxy that is found speaks the protocol that its dialer is for. -/
theorem resolveWithShape_scheme {explicit : Option String} {environment : Environment}
    {proxy : Proxy} {shape : DialerShape}
    (found : resolveWithShape explicit environment = .ok (some (proxy, shape))) :
    proxy.scheme = shape.defaultScheme := by
  obtain ⟨text, set, chosen, named⟩ := resolveWithShape_some found
  obtain ⟨trims, -⟩ := nonBlank?_eq_some (setting?_nonBlank set)
  unfold DialerShape.ofSetting at chosen
  rw [trims] at chosen
  have scheme := ofText_scheme named
  cases cut : cutAtText? ProxyScheme.mark text.toList with
  | none =>
      rw [cut] at scheme
      exact scheme
  | some parts =>
      obtain ⟨written, rest⟩ := parts
      rw [cut] at scheme chosen
      exact DialerShape.schemeOf_eq_default chosen scheme

end Proxy

end ProxyDial
