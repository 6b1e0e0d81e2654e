import ProxyDial.Proofs.Url.User

set_option autoImplicit false

/-! URLs that are an authority and nothing else. Nothing of such a text is passed over: all of it is
user information, host and port. -/

namespace ProxyDial.Url
open Text

variable {kind : UrlKind} {c : Char} {text host rest : List Char}

/-- A character that stands in an authority and stays there. -/
structure Inside (c : Char) : Prop where
  open' : endsAuthority .web c = false
  kept : isKept c = true
  visible : 0x20 < c.toNat

instance (c : Char) : Decidable (Inside c) :=
  decidable_of_iff (endsAuthority .web c = false ∧ isKept c = true ∧ 0x20 < c.toNat)
    ⟨fun ⟨open', kept, visible⟩ => ⟨open', kept, visible⟩,
      fun ⟨open', kept, visible⟩ => ⟨open', kept, visible⟩⟩

theorem Inside.endsAuthority_eq_false (inside : Inside c) (kind : UrlKind) :
    endsAuthority kind c = false := by
  have web := inside.open'
  cases kind with
  | web => exact web
  | generic =>
      -- The marks that end it are those of the web but for the backslash.
      unfold endsAuthority at web ⊢
      rw [Bool.or_eq_false_iff] at web
      rw [web.1]
      rfl

theorem Inside.endsPort_eq_false (inside : Inside c) : endsPort c = false := by
  have open' := inside.open'
  unfold endsAuthority at open'
  unfold endsPort
  grind

theorem readable_eq_self (inside : ∀ c ∈ text, Inside c) : readable kind text = text := by
  have visible : dropEndWhile (fun c => decide (c.toNat ≤ 0x20)) text = text := by
    apply dropEndWhile_eq_self
    intro c last
    have above := (inside c (List.mem_of_getLast? last)).visible
    rw [decide_eq_false_iff_not]
    omega
  have kept : cleaned text = text := by
    unfold cleaned
    rw [visible, List.filter_eq_self]
    exact fun c member => (inside c member).kept
  have start : text.dropWhile (fun c => decide (c = '/') || decide (c = '\\')) = text := by
    apply dropWhile_eq_self
    intro c first
    have open' := (inside c (List.mem_of_head? first)).open'
    unfold endsAuthority at open'
    grind
  cases kind with
  | generic => exact kept
  | web =>
      dsimp only [readable]
      rw [kept, start]

theorem takeWhile_authority (inside : ∀ c ∈ text, Inside c) :
    text.takeWhile (fun c => !endsAuthority kind c) = text := by
  rw [List.takeWhile_eq_self_iff]
  intro c member
  rw [(inside c member).endsAuthority_eq_false]
  rfl

theorem splitUser_of_not_mem (inside : ∀ c ∈ text, Inside c) (noAt : '@' ∉ text) :
    splitUser kind text = ([], text) := by
  unfold splitUser
  rw [takeWhile_authority inside, cutAtLast?_of_not_mem noAt]

theorem splitHost_append (kind : UrlKind) (inside : ∀ c ∈ host, Inside c)
    (unmarked : ∀ c ∈ host, c ≠ ':' ∧ c ≠ '[' ∧ c ≠ ']') (rest : List Char) :
    splitHost kind false (host ++ rest) =
      (host ++ (splitHost kind false rest).1, (splitHost kind false rest).2) := by
  -- Without brackets in it, the host is read outside of them all along.
  induction host with
  | nil => rfl
  | cons c host ih =>
      have open' := (inside c (.head _)).endsAuthority_eq_false kind
      obtain ⟨noColon, noOpening, noClosing⟩ := unmarked c (.head _)
      have later := ih (fun d member => inside d (.tail _ member))
        fun d member => unmarked d (.tail _ member)
      rw [List.cons_append, splitHost]
      simp only [open', noColon, noOpening, noClosing, decide_false, Bool.false_and, Bool.or_self,
        Bool.false_eq_true, if_false]
      rw [later]
      rfl

theorem splitHost_colon (rest : List Char) :
    splitHost kind false (':' :: rest) = ([], ':' :: rest) := by
  unfold splitHost
  simp

theorem takeWhile_port (inside : ∀ c ∈ text, Inside c) :
    text.takeWhile (fun c => !endsPort c) = text := by
  rw [List.takeWhile_eq_self_iff]
  intro c member
  rw [(inside c member).endsPort_eq_false]
  rfl

/-- A port has nothing but digits in it. -/
theorem readPort?_of_not_digit (inside : ∀ c ∈ text, Inside c) (member : c ∈ text)
    (other : isDigit c = false) : readPort? (':' :: text) = none := by
  have someOther : text.all isDigit = false := by
    rw [List.all_eq_false]
    exact ⟨c, member, by simpa using other⟩
  have noDigits : readDigits? 65536 text = none := by
    unfold readDigits?
    simp [someOther]
  have filled : text ≠ [] := List.ne_nil_of_mem member
  rw [readPort?, takeWhile_port inside]
  simp [filled, noDigits]

/-- Without user information a URL is its server. -/
theorem ofChars?_of_no_user (inside : ∀ c ∈ text, Inside c) (noAt : '@' ∉ text) :
    ofChars? kind text = (server? kind text).map fun server => ⟨[], [], server.1, server.2⟩ := by
  rw [ofChars?_eq, readable_eq_self inside, splitUser_of_not_mem inside noAt]
  rfl

end ProxyDial.Url
