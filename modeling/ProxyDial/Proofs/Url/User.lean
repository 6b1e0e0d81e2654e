import ProxyDial.Proofs.Text.Blank
import ProxyDial.Proofs.Text.Cut
import ProxyDial.Url

set_option autoImplicit false

/-! What a password in a URL can reach. As long as no character of it ends the authority, all else
that is read of the URL stays as it is, whatever the password. -/

namespace ProxyDial.Url
open Text

variable {kind : UrlKind}

/-- The server that is named behind the user information. -/
def server? (kind : UrlKind) (text : List Char) : Option (UrlHost × Option UInt16) := do
  let found := splitHost kind false text
  let host ← UrlHost.ofChars? kind found.1
  let port ← readPort? found.2
  return (host, port)

/-- A user's name, and what stands behind the first colon of the user information. -/
def userParts (user : List Char) : List Char × List Char := (cutAt? ':' user).getD (user, [])

/-- The text in which the authority is read, without what is passed over. -/
def readable : UrlKind → List Char → List Char
  | .web, text => (cleaned text).dropWhile fun c => c = '/' || c = '\\'
  | .generic, text => cleaned text

/-- A URL is read in two parts that do not look at each other. -/
theorem ofChars?_eq (kind : UrlKind) (text : List Char) :
    ofChars? kind text =
      let found := splitUser kind (readable kind text)
      (server? kind found.2).map fun server =>
        ⟨encoded (userParts found.1).1, encoded (userParts found.1).2, server.1, server.2⟩ := by
  have parts : ofChars? kind text =
      let found := splitUser kind (readable kind text)
      let rest := splitHost kind false found.2
      (UrlHost.ofChars? kind rest.1).bind fun host => (readPort? rest.2).bind fun port =>
        some ⟨encoded (userParts found.1).1, encoded (userParts found.1).2, host, port⟩ := by
    cases kind <;> rfl
  rw [parts]
  dsimp only
  generalize splitUser kind (readable kind text) = found
  unfold server?
  generalize splitHost kind false found.2 = rest
  cases named : UrlHost.ofChars? kind rest.1 with
  | none => simp [named]
  | some host => cases port : readPort? rest.2 <;> simp [named, port]

section Stops

/-! Nothing behind a character that ends the authority is looked at. -/

variable {c : Char}

theorem takeWhile_stop {p : Char → Bool} {before : List Char} (clean : ∀ d ∈ before, p d = true)
    (stops : p c = false) (rest : List Char) : (before ++ c :: rest).takeWhile p = before := by
  rw [List.takeWhile_append_of_pos clean, List.takeWhile_cons_of_neg (by simp [stops]),
    List.append_nil]

/-- Behind a first part that ends with a mark stands the rest of the text. -/
theorem drop_behind (before rest : List Char) (mark : Char) :
    (before ++ mark :: rest).drop (before.length + 1) = rest := by
  rw [← List.drop_drop, List.drop_left]
  rfl

theorem splitUser_stop (ends : endsAuthority kind c = true) {text : List Char}
    (clean : ∀ d ∈ text, endsAuthority kind d = false) (rest : List Char) :
    splitUser kind (text ++ c :: rest) =
      ((splitUser kind text).1, (splitUser kind text).2 ++ c :: rest) := by
  have inside : ∀ d ∈ text, (!endsAuthority kind d) = true := fun d member => by
    simp [clean d member]
  have authority := takeWhile_stop inside (by simp [ends] : (!endsAuthority kind c) = false) rest
  have all : text.takeWhile (fun d => !endsAuthority kind d) = text :=
    List.takeWhile_eq_self_iff.mpr inside
  unfold splitUser
  rw [authority, all]
  by_cases user : '@' ∈ text
  · obtain ⟨before, behind, rfl, absent⟩ := exists_last_mark user
    rw [cutAtLast?_append_cons before absent]
    dsimp only
    rw [List.append_assoc, List.cons_append, drop_behind, drop_behind]
  · rw [cutAtLast?_of_not_mem user]

theorem splitHost_stop (ends : endsAuthority kind c = true) (inside : Bool)
    (text rest : List Char) : splitHost kind inside (text ++ c :: rest) =
      ((splitHost kind inside text).1, (splitHost kind inside text).2 ++ c :: rest) := by
  induction text generalizing inside with
  | nil =>
      unfold splitHost
      simp [ends]
  | cons d text ih =>
      rw [List.cons_append, splitHost, splitHost]
      split
      · rfl
      · dsimp only
        rw [ih]

theorem endsPort_of_endsAuthority (ends : endsAuthority kind c = true) : endsPort c = true := by
  unfold endsAuthority at ends
  unfold endsPort
  grind

theorem readPort?_stop (ends : endsAuthority kind c = true) (text rest : List Char) :
    readPort? (text ++ c :: rest) = readPort? text := by
  have stops := endsPort_of_endsAuthority ends
  cases text with
  | nil =>
      have other : c ≠ ':' := by
        rintro rfl
        exact absurd stops (by decide)
      rw [List.nil_append]
      unfold readPort?
      split
      next same => exact absurd (List.cons.inj same).1 other
      next => rfl
  | cons d digits =>
      by_cases colon : d = ':'
      · subst colon
        have same : (digits ++ c :: rest).takeWhile (fun e => !endsPort e) =
            digits.takeWhile fun e => !endsPort e := by
          rw [List.takeWhile_append]
          split
          next all =>
            rw [List.takeWhile_cons_of_neg (by simp [stops]), List.append_nil]
            exact (List.takeWhile_prefix _).eq_of_length all |>.symm
          next => rfl
        rw [List.cons_append, readPort?, readPort?, same]
      · have unread : ∀ more, readPort? (d :: more) = some none := by
          intro more
          unfold readPort?
          split
          next same => exact absurd (List.cons.inj same).1 colon
          next => rfl
        rw [List.cons_append, unread, unread]

theorem server?_stop (ends : endsAuthority kind c = true) (text rest : List Char) :
    server? kind (text ++ c :: rest) = server? kind text := by
  unfold server?
  rw [splitHost_stop ends]
  dsimp only
  rw [readPort?_stop ends]

end Stops

/-- The user information reaches as far as the last at sign. How much there is behind this one, and
the text behind, has nothing to do with what stands before. -/
theorem splitUser_at (kind : UrlKind) (behind : List Char) : ∃ more rest, ∀ before,
    (∀ c ∈ before, endsAuthority kind c = false) →
      splitUser kind (before ++ '@' :: behind) = (before ++ more, rest) := by
  have open' : endsAuthority kind '@' = false := by cases kind <;> decide
  have authority : ∀ before, (∀ c ∈ before, endsAuthority kind c = false) →
      (before ++ '@' :: behind).takeWhile (fun c => !endsAuthority kind c) =
        before ++ '@' :: behind.takeWhile fun c => !endsAuthority kind c := by
    intro before clean
    rw [List.takeWhile_append_of_pos fun c member => by simp [clean c member],
      List.takeWhile_cons_of_pos (by simp [open'])]
  by_cases another : '@' ∈ behind.takeWhile fun c => !endsAuthority kind c
  · obtain ⟨user, host, split, absent⟩ := exists_last_mark another
    obtain ⟨path, parts⟩ := List.takeWhile_prefix (l := behind) fun c => !endsAuthority kind c
    refine ⟨'@' :: user, host ++ path, fun before clean => ?_⟩
    have whole : before ++ '@' :: behind = (before ++ '@' :: user) ++ '@' :: (host ++ path) := by
      conv => lhs; rw [← parts, split]
      simp
    have cut : before ++ '@' :: (user ++ '@' :: host) =
        (before ++ '@' :: user) ++ '@' :: host := by simp
    unfold splitUser
    rw [authority before clean, split, cut, cutAtLast?_append_cons _ absent]
    dsimp only
    rw [whole, drop_behind]
  · refine ⟨[], behind, fun before clean => ?_⟩
    unfold splitUser
    rw [authority before clean, cutAtLast?_append_cons before another]
    dsimp only
    rw [drop_behind, List.append_nil]

theorem userParts_name (user rest : List Char) :
    (userParts (user ++ ':' :: rest)).1 = (user ++ [':']).takeWhile (· ≠ ':') := by
  have name : (user ++ ':' :: rest).takeWhile (· ≠ ':') = (user ++ [':']).takeWhile (· ≠ ':') := by
    rw [List.takeWhile_append, List.takeWhile_append]
    split <;> rfl
  unfold userParts cutAt?
  rw [if_pos (by simp), name]
  rfl

/-- All that is read but the password is settled by what stands around it. -/
theorem splitUser_around (kind : UrlKind) (user behind : List Char) : ∃ name server, ∀ password,
    (∀ c ∈ password, endsAuthority kind c = false) →
      (userParts (splitUser kind (user ++ ':' :: (password ++ '@' :: behind))).1).1 = name ∧
      server? kind (splitUser kind (user ++ ':' :: (password ++ '@' :: behind))).2 = server := by
  cases first : user.find? (endsAuthority kind) with
  | none =>
      -- The password is inside the authority, before its last at sign.
      have clean : ∀ c ∈ user, endsAuthority kind c = false := by
        simpa using List.find?_eq_none.mp first
      obtain ⟨more, rest, found⟩ := splitUser_at kind behind
      refine ⟨(user ++ [':']).takeWhile (· ≠ ':'), server? kind rest, fun password inside => ?_⟩
      have colon : endsAuthority kind ':' = false := by cases kind <;> decide
      have whole : user ++ ':' :: (password ++ '@' :: behind) =
          (user ++ ':' :: password) ++ '@' :: behind := by simp
      have before : ∀ c ∈ user ++ ':' :: password, endsAuthority kind c = false :=
        List.forall_mem_append.mpr ⟨clean, List.forall_mem_cons.mpr ⟨colon, inside⟩⟩
      rw [whole, found _ before, List.append_assoc, List.cons_append]
      exact ⟨userParts_name user (password ++ more), rfl⟩
  | some c =>
      -- The authority ends before the password is reached.
      obtain ⟨ends, before, rest, rfl, earlier⟩ := List.find?_eq_some_iff_append.mp first
      have inside : ∀ d ∈ before, endsAuthority kind d = false := by simpa using earlier
      refine ⟨(userParts (splitUser kind before).1).1, server? kind (splitUser kind before).2, ?_⟩
      intro password _
      rw [List.append_assoc, List.cons_append, splitUser_stop ends inside, server?_stop ends]
      exact ⟨rfl, rfl⟩

/-- Whether a character stays wherever in a URL it stands. -/
def isKept (c : Char) : Bool := c ≠ '\t' && c ≠ '\n' && c ≠ '\r'

theorem cleaned_around (user password behind : List Char) :
    cleaned (user ++ ':' :: (password ++ '@' :: behind)) = user.filter isKept ++
      ':' :: (password.filter isKept ++
        '@' :: (dropEndWhile (·.toNat ≤ 0x20) behind).filter isKept) := by
  change (dropEndWhile _ _).filter isKept = _
  rw [← List.cons_append, ← List.append_assoc, dropEndWhile_append_cons (by decide),
    List.filter_append, List.filter_append, List.filter_cons_of_pos (by decide),
    List.filter_cons_of_pos (by decide), List.append_assoc, List.cons_append]

/-- What is passed over around a password, and inside it, leaves it between its marks. -/
theorem readable_around (kind : UrlKind) (user behind : List Char) : ∃ before after, ∀ password,
    readable kind (user ++ ':' :: (password ++ '@' :: behind)) =
      before ++ ':' :: (password.filter isKept ++ '@' :: after) := by
  cases kind with
  | generic => exact ⟨_, _, fun password => cleaned_around user password behind⟩
  | web =>
      refine ⟨(user.filter isKept).dropWhile fun c => c = '/' || c = '\\',
        (dropEndWhile (·.toNat ≤ 0x20) behind).filter isKept, fun password => ?_⟩
      dsimp only [readable]
      rw [cleaned_around, dropWhile_append_cons (by decide)]

/-- A URL with no more of its password than that there may be one. -/
def withoutPassword (url : Url) : Url := { url with password := [] }

/-- What is read of a URL but its password has nothing to do with the password, as long as no
character of the password ends the authority. -/
theorem ofChars?_around (kind : UrlKind) (user behind : List Char) : ∃ found, ∀ password,
    (∀ c ∈ password, endsAuthority kind c = false) →
      (ofChars? kind (user ++ ':' :: (password ++ '@' :: behind))).map withoutPassword = found := by
  obtain ⟨before, after, reads⟩ := readable_around kind user behind
  obtain ⟨name, server, settled⟩ := splitUser_around kind before after
  refine ⟨server.map fun server => ⟨encoded name, [], server.1, server.2⟩, fun password clean => ?_⟩
  obtain ⟨sameName, sameServer⟩ := settled _ fun c member =>
    clean c (List.mem_filter.mp member).1
  rw [ofChars?_eq, reads password]
  dsimp only
  rw [sameName, sameServer, Option.map_map]
  rfl

end ProxyDial.Url
