import ProxyDial.Proofs.Text.Visible

set_option autoImplicit false

/-! Base64 reads back. The writer goes by three bytes and the reader by eight characters, so what
the reader holds back at the start of three more bytes is nothing, four characters, or eight. -/

namespace ProxyDial.Text

theorem utf8_ofList_of_ascii {text : List Char} (ascii : ∀ c ∈ text, c.toNat < 128) :
    utf8 (String.ofList text) = text.map fun c => UInt8.ofNat c.toNat := by
  rw [utf8_eq_flatMap, String.toList_ofList]
  induction text with
  | nil => rfl
  | cons c rest ih =>
      rw [List.flatMap_cons, List.map_cons, utf8EncodeChar_of_ascii (ascii c (.head _)),
        ih fun d member => ascii d (.tail _ member)]
      rfl

/-- A text is read back from its bytes. -/
theorem ofUtf8?_utf8 (text : String) : ofUtf8? (utf8 text) = some text := by
  have bytes : (⟨(utf8 text).toArray⟩ : ByteArray) = text.toByteArray := by
    rw [utf8_eq_flatMap, ← String.utf8Encode_toList]
    apply ByteArray.ext
    apply Array.toList_inj.mp
    exact List.toList_data_toByteArray.symm
  unfold ofUtf8? String.fromUTF8?
  rw [bytes, dif_pos text.isValidUTF8]
  rfl

namespace Base64

/-- Six bits of a text, or the mark that pads. -/
abbrev Sextet := Option Nat

/-- The byte that stands for six bits. -/
def byteOf : Sextet → UInt8
  | some value => UInt8.ofNat (charOf value).toNat
  | none => UInt8.ofNat '='.toNat

/-- The four times six bits of three bytes. -/
def quad (a b c : UInt8) : List Sextet :=
  let bits := a.toNat * 65536 + b.toNat * 256 + c.toNat
  [some (bits / 262144), some (bits / 4096 % 64), some (bits / 64 % 64), some (bits % 64)]

@[simp]
theorem quad_length (a b c : UInt8) : (quad a b c).length = 4 := rfl

/-- What is written of some bytes, six bits at a time. -/
def sextets : Bytes → List Sextet
  | a :: b :: c :: rest => quad a b c ++ sextets rest
  | [a, b] => (quad a b 0).take 3 ++ [none]
  | [a] => (quad a 0 0).take 2 ++ [none, none]
  | [] => []

theorem utf8_encode (bytes : Bytes) :
    utf8 (String.ofList (encode bytes)) = (sextets bytes).map byteOf := by
  have ascii : ∀ c ∈ encode bytes, c.toNat < 128 := by
    intro c member
    have visible := (isSymbol_of_mem_encode bytes c member).visible
    omega
  rw [utf8_ofList_of_ascii ascii]
  clear ascii
  induction bytes using encode.induct with
  | case1 a b c rest ih => simp [encode, sextets, quad, byteOf, ih]
  | case2 a b => simp [encode, sextets, quad, byteOf]
  | case3 a => simp [encode, sextets, quad, byteOf]
  | case4 => rfl

/-- Six bits have a character, and a reader knows them by it. -/
def IsSextet (sextet : Sextet) : Prop := ∀ value, sextet = some value → value < 64

theorem isSextet_of_mem_quad (a b c : UInt8) : ∀ sextet ∈ quad a b c, IsSextet sextet := by
  have small := a.toNat_lt
  have smaller := b.toNat_lt
  have smallest := c.toNat_lt
  simp only [quad, IsSextet, List.mem_cons, List.not_mem_nil, or_false, forall_eq_or_imp,
    forall_eq, Option.some.injEq, forall_eq']
  omega

theorem symbolOf_charOf {value : Nat} (small : value < 64) :
    symbolOf (byteOf (some value)) = .value value := by
  have table : ∀ value : Fin 64,
      (let byte := byteOf (some value.val)
       ((0x09 ≤ byte && byte ≤ 0x0d) || byte = 0x20) = false ∧
        Char.ofNat byte.toNat ≠ '=' ∧ valueOf? (Char.ofNat byte.toNat) = some value.val) := by
    decide +kernel
  obtain ⟨blank, padding, known⟩ := table ⟨value, small⟩
  unfold symbolOf
  rw [if_neg (by simpa using blank)]
  simp only [padding, if_false, known]

variable {group symbols : List Sextet} {sextet : Sextet}

/-- While there is room, a character is held back. -/
theorem decodeFrom_cons (isSextet : IsSextet sextet) (rest : Bytes) :
    decodeFrom group (byteOf sextet :: rest) =
      if group.length < 8 then decodeFrom (group ++ [sextet]) rest
      else do return (← fullEight group) ++ (← decodeFrom [sextet] rest) := by
  cases sextet with
  | none => rfl
  | some value =>
      rw [decodeFrom, symbolOf_charOf (isSextet value rfl)]

theorem decodeFrom_append (room : group.length + symbols.length ≤ 8)
    (all : ∀ sextet ∈ symbols, IsSextet sextet) (rest : Bytes) :
    decodeFrom group (symbols.map byteOf ++ rest) = decodeFrom (group ++ symbols) rest := by
  induction symbols generalizing group with
  | nil => rw [List.append_nil, List.map_nil, List.nil_append]
  | cons sextet symbols ih =>
      rw [List.length_cons] at room
      have fits : (group ++ [sextet]).length + symbols.length ≤ 8 := by
        rw [List.length_append, List.length_singleton]
        omega
      rw [List.map_cons, List.cons_append, decodeFrom_cons (all sextet (.head _)),
        if_pos (by omega), ih fits fun other member => all other (.tail _ member),
        List.append_assoc, List.singleton_append]

/-- Eight characters are read when one more comes, as if it were the first one. -/
theorem decodeFrom_full (full : group.length = 8) (isSextet : IsSextet sextet) (rest : Bytes) :
    decodeFrom group (byteOf sextet :: rest) =
      do return (← fullEight group) ++ (← decodeFrom [] (byteOf sextet :: rest)) := by
  rw [decodeFrom_cons isSextet, if_neg (by omega), decodeFrom_cons isSextet,
    if_pos (by decide)]
  rfl

theorem threeBytes_quad (a b c : UInt8) :
    let bits := a.toNat * 65536 + b.toNat * 256 + c.toNat
    threeBytes (bits / 262144) (bits / 4096 % 64) (bits / 64 % 64) (bits % 64) = [a, b, c] := by
  have small := a.toNat_lt
  have smaller := b.toNat_lt
  have smallest := c.toNat_lt
  intro bits
  have whole : ((bits / 262144 * 64 + bits / 4096 % 64) * 64 + bits / 64 % 64) * 64 + bits % 64 =
      bits := by omega
  unfold threeBytes
  simp only [whole, List.cons.injEq, and_true, ← UInt8.toNat_inj, UInt8.toNat_ofNat']
  omega

/-- What is held back between two times three bytes, and the bytes it stands for. -/
inductive Pending : List Sextet → Bytes → Prop
  | nothing : Pending [] []
  | half (a b c : UInt8) : Pending (quad a b c) [a, b, c]
  | full (a b c d e f : UInt8) : Pending (quad a b c ++ quad d e f) [a, b, c, d, e, f]

theorem lastFour_quad (a b c : UInt8) : lastFour (quad a b c) = .ok [a, b, c] :=
  congrArg Except.ok (threeBytes_quad a b c)

theorem fullEight_quads (a b c d e f : UInt8) :
    fullEight (quad a b c ++ quad d e f) = .ok [a, b, c, d, e, f] := by
  have first := threeBytes_quad a b c
  have second := threeBytes_quad d e f
  simp only [quad, List.cons_append, List.nil_append, fullEight] at first second ⊢
  rw [first, second]
  rfl

theorem lastEight_short {last : List Sextet} (short : last.length ≤ 4) :
    lastEight last = lastFour last := by
  unfold lastEight
  exact if_pos short

/-- The last characters are read behind four others as they are read alone. -/
theorem lastEight_quad (a b c : UInt8) {last : List Sextet} (short : last.length ≤ 4) :
    lastEight (quad a b c ++ last) = (lastFour last).map ([a, b, c] ++ ·) := by
  by_cases empty : last = []
  · subst empty
    rw [List.append_nil, lastEight_short (by simp), lastFour_quad]
    rfl
  · have positive := List.length_pos_iff.mpr empty
    have clear : ((quad a b c ++ last).take ((quad a b c ++ last).length - 4)).any Option.isNone =
        false := by
      rw [List.any_eq_false]
      intro sextet member
      rw [List.length_append, quad_length, Nat.add_sub_cancel_left,
        List.take_append_of_le_length (by simpa using short)] at member
      have inside := List.mem_of_mem_take member
      simp only [quad, List.mem_cons, List.not_mem_nil, or_false] at inside
      rcases inside with rfl | rfl | rfl | rfl <;> simp
    have bytes := threeBytes_quad a b c
    unfold lastEight
    rw [if_neg (by rw [List.length_append, quad_length]; omega), clear]
    simp only [quad, List.cons_append, List.nil_append, Bool.false_eq_true, if_false] at bytes ⊢
    rw [bytes]
    rfl

variable {front bytes : Bytes}

theorem decodeFrom_last (pending : Pending group front) {last : List Sextet}
    (short : last.length ≤ 4) (all : ∀ sextet ∈ last, IsSextet sextet)
    (reads : lastFour last = .ok bytes) :
    decodeFrom group (last.map byteOf) = .ok (front ++ bytes) := by
  have held : ∀ {group : List Sextet}, group.length ≤ 4 →
      decodeFrom group (last.map byteOf) = lastEight (group ++ last) := by
    intro group room
    have read := @decodeFrom_append group last (by omega) all []
    rw [List.append_nil] at read
    exact read
  have alone : decodeFrom [] (last.map byteOf) = .ok bytes := by
    rw [held (by simp), List.nil_append, lastEight_short short, reads]
  cases pending with
  | nothing => exact alone
  | half a b c =>
      rw [held (by simp), lastEight_quad a b c short, reads]
      rfl
  | full a b c d e f =>
      cases last with
      | nil =>
          cases reads
          change lastEight _ = _
          rw [lastEight_quad a b c (by simp), lastFour_quad]
          rfl
      | cons sextet more =>
          rw [List.map_cons] at alone ⊢
          rw [decodeFrom_full rfl (all sextet (.head _)), fullEight_quads, alone]
          rfl

/-- Three bytes more: they are held back, or what was held back before is read. -/
theorem decodeFrom_quad (pending : Pending group front) (a b c : UInt8) {rest : Bytes}
    (reads : ∀ {group : List Sextet} {front : Bytes}, Pending group front →
      decodeFrom group rest = .ok (front ++ bytes)) :
    decodeFrom group ((quad a b c).map byteOf ++ rest) = .ok (front ++ a :: b :: c :: bytes) := by
  have four := isSextet_of_mem_quad a b c
  have alone : decodeFrom [] ((quad a b c).map byteOf ++ rest) = .ok (a :: b :: c :: bytes) := by
    rw [decodeFrom_append (by simp) four]
    exact reads (.half a b c)
  cases pending with
  | nothing => exact alone
  | half x y z =>
      rw [decodeFrom_append (by simp) four]
      exact reads (.full x y z a b c)
  | full x y z u v w =>
      have flushed : ∀ sextet more, quad a b c = sextet :: more →
          decodeFrom (quad x y z ++ quad u v w) ((quad a b c).map byteOf ++ rest) =
            .ok ([x, y, z, u, v, w] ++ a :: b :: c :: bytes) := by
        intro sextet more split
        rw [split] at four alone ⊢
        rw [List.map_cons, List.cons_append] at alone ⊢
        rw [decodeFrom_full rfl (four sextet (.head _)), fullEight_quads, alone]
        rfl
      exact flushed _ _ rfl

theorem isSextet_of_mem_padded (a b c : UInt8) (count padding : Nat) :
    ∀ sextet ∈ (quad a b c).take count ++ List.replicate padding none, IsSextet sextet := by
  intro sextet member
  rcases List.mem_append.mp member with inside | padded
  · exact isSextet_of_mem_quad a b c sextet (List.mem_of_mem_take inside)
  · rw [List.eq_of_mem_replicate padded]
    exact nofun

theorem decodeFrom_sextets (pending : Pending group front) (bytes : Bytes) :
    decodeFrom group ((sextets bytes).map byteOf) = .ok (front ++ bytes) := by
  induction bytes using sextets.induct generalizing group front with
  | case1 a b c rest ih =>
      rw [sextets, List.map_append]
      exact decodeFrom_quad pending a b c fun held => ih held
  | case2 a b =>
      have bits := threeBytes_quad a b 0
      have unused : (a.toNat * 65536 + b.toNat * 256 + (0 : UInt8).toNat) % 64 = 0 := by
        rw [UInt8.toNat_zero]
        omega
      dsimp only at bits
      rw [unused] at bits
      apply decodeFrom_last pending (by simp) (isSextet_of_mem_padded a b 0 3 1)
      change Except.ok ((threeBytes _ _ _ 0).take 2) = _
      rw [bits]
      rfl
  | case3 a =>
      have bits := threeBytes_quad a 0 0
      have unused : (a.toNat * 65536 + (0 : UInt8).toNat * 256 + (0 : UInt8).toNat) % 64 = 0 ∧
          (a.toNat * 65536 + (0 : UInt8).toNat * 256 + (0 : UInt8).toNat) / 64 % 64 = 0 := by
        rw [UInt8.toNat_zero]
        omega
      dsimp only at bits
      rw [unused.1, unused.2] at bits
      apply decodeFrom_last pending (by simp) (isSextet_of_mem_padded a 0 0 2 2)
      change Except.ok ((threeBytes _ _ 0 0).take 1) = _
      rw [bits]
      rfl
  | case4 => exact decodeFrom_last pending (by decide) nofun rfl

/-- What is written is read back. -/
theorem decode_encode (bytes : Bytes) :
    decode (utf8 (String.ofList (encode bytes))) = .ok bytes := by
  rw [utf8_encode]
  exact decodeFrom_sextets .nothing bytes

end Base64

end ProxyDial.Text
