import ProxyDial.Proofs.Proxy.Escaped

set_option autoImplicit false

/-! A proxy is shown as a setting. Where this setting is no URL it is taken as it stands, and the
proxy comes out of it again. -/

namespace ProxyDial
open Text

namespace Proxy

variable {proxy : Proxy}

/-- A host that can be told from the brackets around it. -/
structure Plain (host : List Char) : Prop where
  filled : host ≠ []
  start : host.head? ≠ some '['
  stop : host.getLast? ≠ some ']'

instance (host : List Char) : Decidable (Plain host) :=
  decidable_of_iff (host ≠ [] ∧ host.head? ≠ some '[' ∧ host.getLast? ≠ some ']')
    ⟨fun ⟨filled, start, stop⟩ => ⟨filled, start, stop⟩,
      fun ⟨filled, start, stop⟩ => ⟨filled, start, stop⟩⟩

/-- The host as it stands in the address, with brackets around it if it holds a colon. -/
def shownHost (proxy : Proxy) : List Char :=
  if ':' ∈ proxy.host.toList then '[' :: proxy.host.toList ++ [']'] else proxy.host.toList

theorem toList_address (plain : Plain proxy.host.toList) : proxy.address.toList =
    proxy.shownHost ++ ':' :: decimalDigits proxy.port.toNat := by
  unfold shownHost
  by_cases colon : ':' ∈ proxy.host.toList
  · rw [if_pos colon]
    exact @Destination.toList_authority_of_colon ⟨proxy.host, proxy.port⟩ colon plain.start
  · rw [if_neg colon]
    exact @Destination.toList_authority_of_bare ⟨proxy.host, proxy.port⟩ colon

theorem unbracketed_shownHost (plain : Plain proxy.host.toList) :
    unbracketed proxy.shownHost = proxy.host.toList := by
  unfold shownHost
  split
  · exact unbracketed_pair plain.start plain.stop
  · exact unbracketed_eq_self plain.start plain.stop

/-- Taken as it stands, the address gives the proxy back. -/
theorem verbatim_address (proxy : Proxy) (plain : Plain proxy.host.toList) :
    verbatim proxy.scheme proxy.address.toList =
      ⟨proxy.scheme, proxy.host, proxy.port, none⟩ := by
  -- The last colon is the one that host and port have been joined with.
  have noColon : ':' ∉ decimalDigits proxy.port.toNat :=
    Authority.not_mem_digits (by decide) proxy.port
  have cut : cutAtLast? ':' proxy.address.toList =
      some (proxy.shownHost, decimalDigits proxy.port.toNat) := by
    rw [toList_address plain]
    exact cutAtLast?_append_cons _ noColon
  have filled : proxy.shownHost.isEmpty = false := by
    unfold shownHost
    split
    · rfl
    · simpa using plain.filled
  have host : String.ofList (unbracketed proxy.shownHost) = proxy.host := by
    rw [unbracketed_shownHost plain, String.ofList_toList]
  unfold verbatim
  simp [cut, readUInt16?_decimalDigits, filled, host]

theorem toList_toString (proxy : Proxy) : (toString proxy).toList =
    proxy.scheme.text.toList ++ (ProxyScheme.mark ++ proxy.address.toList) := by
  change (proxy.scheme.text ++ "://" ++ proxy.address).toList = _
  simp [ProxyScheme.mark]

theorem trimmed_toString (plain : Plain proxy.host.toList) :
    trimmed (toString proxy).toList = (toString proxy).toList := by
  rw [toList_toString]
  apply trimmed_eq_self
  -- The first character is a letter of the scheme, the last one a digit of the port.
  · intro c first
    cases named : proxy.scheme <;> rw [named] at first <;> cases first <;> decide
  · intro c last
    rw [toList_address plain, ← List.append_assoc, ← List.append_assoc, List.getLast?_append,
      List.getLast?_cons, Option.some_or, ← List.getLast?_cons] at last
    exact Authority.isBlank_of_allowed
      (Authority.allowed_portPart proxy.port c (List.mem_of_getLast? last))

theorem cut_toString (proxy : Proxy) : cutAtText? ProxyScheme.mark (toString proxy).toList =
    some (proxy.scheme.text.toList, proxy.address.toList) := by
  rw [toList_toString]
  -- The mark is found before anything of the host is looked at.
  cases proxy.scheme <;> rfl

theorem behindScheme_toString (plain : Plain proxy.host.toList) :
    behindScheme (toString proxy) = proxy.address.toList := by
  unfold behindScheme
  rw [trimmed_toString plain, cut_toString]

theorem setting?_toString (plain : Plain proxy.host.toList) (environment : Environment) :
    setting? (some (toString proxy)) environment = some (toString proxy) := by
  have filled : '/' ∈ (toString proxy).toList := by
    rw [toList_toString]
    simp [ProxyScheme.mark]
  unfold setting?
  rw [nonBlank?_of_filled filled (by decide), trim, trimmed_toString plain, String.ofList_toList]
  rfl

/-- The text that shows a proxy names its scheme, host and port to every dialer that speaks the
scheme, wherever that text is no URL. -/
theorem resolve_toString_of_not_url (scheme : ProxyScheme) (host : String) (port : UInt16)
    (environment : Environment) (plain : Plain host.toList)
    (refused : Url.ofChars? (urlKind scheme)
      (behindScheme (toString (⟨scheme, host, port, none⟩ : Proxy))) = none) :
    ∀ shape : DialerShape, shape.Speaks scheme →
      resolve shape (some (toString (⟨scheme, host, port, none⟩ : Proxy))) environment =
        .ok (some ⟨scheme, host, port, none⟩) := by
  intro shape speaks
  rw [behindScheme_toString plain] at refused
  have shown := verbatim_address ⟨scheme, host, port, none⟩ plain
  unfold resolve
  rw [setting?_toString plain]
  dsimp only
  rw [ofText_of_cut (cut_toString _), DialerShape.schemeOf_of_speaks speaks]
  dsimp only [Except.map]
  rw [ofRest_of_not_url _ refused, shown]

/-- Blanks, colons, slashes, a second scheme and brackets inside of the host come through. -/
theorem resolve_marks_of_shown_host :
    resolve .address (some "http://[a b://c:d/e[f]g]:3128") .empty =
      .ok (some ⟨.http, "a b://c:d/e[f]g", 3128, none⟩) := by
  have shown : toString (⟨.http, "a b://c:d/e[f]g", 3128, none⟩ : Proxy) =
      "http://[a b://c:d/e[f]g]:3128" := by
    decide +kernel
  have resolved := resolve_toString_of_not_url .http "a b://c:d/e[f]g" 3128 .empty (by decide)
    (by decide +kernel) .address trivial
  rw [shown] at resolved
  exact resolved

end Proxy

end ProxyDial
