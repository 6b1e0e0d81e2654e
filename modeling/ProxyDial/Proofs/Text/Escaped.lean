import ProxyDial.Proofs.Text.Base64
import ProxyDial.Text.Percent

set_option autoImplicit false

/-! Texts in which only letters and digits of ASCII stand for themselves. All other bytes are
written with a percent sign, so that such a text reads back, and may stand between any marks. -/

namespace ProxyDial.Text

theorem ascii_of_isAlphanum {c : Char} (letter : c.isAlphanum = true) : c.toNat < 128 := by
  unfold Char.isAlphanum Char.isAlpha Char.isUpper Char.isLower Char.isDigit at letter
  unfold Char.toNat
  simp only [Bool.or_eq_true, Bool.and_eq_true, decide_eq_true_eq, UInt32.le_iff_toNat_le,
    ge_iff_le, Char.reduceVal, UInt32.reduceToNat] at letter
  omega

namespace Percent

/-- Whether a byte is a letter or a digit of ASCII. -/
def isBare (byte : UInt8) : Bool := (Char.ofNat byte.toNat).isAlphanum

/-- A byte, with a percent sign unless it is a letter or a digit. -/
def escapeByte (byte : UInt8) : List Char :=
  if isBare byte then [Char.ofNat byte.toNat] else encodeByte byte

/-- A text with all of its bytes written like this. -/
def escape (text : String) : String := String.ofList ((utf8 text).flatMap escapeByte)

/-- The characters of an escaped text. -/
def isEscapeChar (c : Char) : Bool := c.isAlphanum || c = '%'

/-- The byte that a character of ASCII is. -/
def byteOf (c : Char) : UInt8 := UInt8.ofNat c.toNat

variable {byte : UInt8} {c : Char}

theorem isAlphanum_upperHexDigit {value : Nat} (digit : value < 16) :
    (upperHexDigit value).isAlphanum = true := by
  have all : ∀ number : Fin 16, (upperHexDigit number.val).isAlphanum = true := by decide
  exact all ⟨value, digit⟩

theorem byteHexValue?_upperHexDigit {value : Nat} (digit : value < 16) :
    byteHexValue? (byteOf (upperHexDigit value)) = some value := by
  have all : ∀ number : Fin 16,
      byteHexValue? (byteOf (upperHexDigit number.val)) = some number.val := by decide
  exact all ⟨value, digit⟩

theorem ascii_of_isEscapeChar (escaped : isEscapeChar c = true) : c.toNat < 128 := by
  rcases Bool.or_eq_true_iff.mp escaped with letter | percent
  · exact ascii_of_isAlphanum letter
  · obtain rfl := of_decide_eq_true percent
    decide

theorem isEscapeChar_of_mem (member : c ∈ escapeByte byte) : isEscapeChar c = true := by
  have digit (value : Nat) (small : value < 16) : isEscapeChar (upperHexDigit value) = true := by
    unfold isEscapeChar
    rw [isAlphanum_upperHexDigit small]
    rfl
  have bound := byte.toNat_lt
  unfold escapeByte at member
  split at member
  next bare =>
    obtain rfl := List.mem_singleton.mp member
    unfold isBare at bare
    unfold isEscapeChar
    rw [bare]
    rfl
  next =>
    unfold encodeByte at member
    simp only [List.mem_cons, List.not_mem_nil, or_false] at member
    rcases member with rfl | rfl | rfl
    · decide
    · exact digit _ (by omega)
    · exact digit _ (by omega)

theorem isEscapeChar_of_mem_escape {text : String} (member : c ∈ (escape text).toList) :
    isEscapeChar c = true := by
  unfold escape at member
  rw [String.toList_ofList] at member
  obtain ⟨byte, -, inByte⟩ := List.mem_flatMap.mp member
  exact isEscapeChar_of_mem inByte

theorem escapeByte_ne_nil (byte : UInt8) : escapeByte byte ≠ [] := by
  unfold escapeByte encodeByte
  split <;> simp

theorem escape_ne_nil {text : String} (filled : text ≠ "") : (escape text).toList ≠ [] := by
  unfold escape
  rw [String.toList_ofList]
  intro empty
  cases bytes : utf8 text with
  | nil =>
      have read := ofUtf8?_utf8 text
      rw [bytes] at read
      have nothing : ofUtf8? [] = some "" := by decide
      rw [nothing] at read
      exact filled (Option.some.inj read).symm
  | cons byte rest =>
      rw [bytes, List.flatMap_cons, List.append_eq_nil_iff] at empty
      exact escapeByte_ne_nil byte empty.1

/-- A text without characters of the set is written as it is. -/
theorem encode_eq_self {inSet : Char → Bool} {text : List Char}
    (clean : ∀ c ∈ text, inSet c = false) : encode inSet text = text := by
  unfold encode
  induction text with
  | nil => rfl
  | cons c rest ih =>
      rw [List.flatMap_cons, clean c (.head _), ih fun d member => clean d (.tail _ member)]
      rfl

theorem decodeBytes_cons_of_ne (other : byte ≠ percentByte) (rest : Bytes) :
    decodeBytes (byte :: rest) = byte :: decodeBytes rest := by
  conv => lhs; unfold decodeBytes
  exact if_neg other

/-- Without a percent sign all bytes stand for themselves. -/
theorem decodeBytes_eq_self {bytes : Bytes} (absent : percentByte ∉ bytes) :
    decodeBytes bytes = bytes := by
  induction bytes with
  | nil => rw [decodeBytes]
  | cons byte rest ih =>
      rw [List.mem_cons, not_or] at absent
      rw [decodeBytes_cons_of_ne (Ne.symm absent.1), ih absent.2]

/-- What has been written of one byte is read as this byte, and nothing of what follows. -/
theorem decodeBytes_escapeByte (byte : UInt8) (rest : Bytes) :
    decodeBytes ((escapeByte byte).map byteOf ++ rest) = byte :: decodeBytes rest := by
  unfold escapeByte
  by_cases bare : isBare byte = true
  · have same : byteOf (Char.ofNat byte.toNat) = byte := by
      have all : ∀ number : Fin 256, byteOf (Char.ofNat number.val) = UInt8.ofNat number.val := by
        decide +kernel
      have found := all ⟨byte.toNat, byte.toNat_lt⟩
      rw [UInt8.ofNat_toNat] at found
      exact found
    have noPercent : byte ≠ percentByte := by
      rintro rfl
      exact absurd bare (by decide)
    rw [if_pos bare, List.map_singleton, List.singleton_append, same,
      decodeBytes_cons_of_ne noPercent]
  · have bound := byte.toNat_lt
    have high := byteHexValue?_upperHexDigit (by omega : byte.toNat / 16 < 16)
    have low := byteHexValue?_upperHexDigit (by omega : byte.toNat % 16 < 16)
    have whole : 16 * (byte.toNat / 16) + byte.toNat % 16 = byte.toNat := by omega
    have percent : byteOf '%' = percentByte := by decide
    rw [if_neg bare]
    unfold encodeByte
    simp only [List.map_cons, List.map_nil, List.cons_append, List.nil_append]
    rw [decodeBytes, if_pos percent]
    simp only [high, low, whole, UInt8.ofNat_toNat]

theorem decodeBytes_flatMap (bytes : Bytes) :
    decodeBytes ((bytes.flatMap escapeByte).map byteOf) = bytes := by
  induction bytes with
  | nil => rw [List.flatMap_nil, List.map_nil, decodeBytes]
  | cons byte rest ih => rw [List.flatMap_cons, List.map_append, decodeBytes_escapeByte, ih]

/-- An escaped text reads back. -/
theorem decodeText_escape (text : String) : decodeText (escape text) = text := by
  have ascii : ∀ c ∈ (utf8 text).flatMap escapeByte, c.toNat < 128 := by
    intro c member
    obtain ⟨byte, -, inByte⟩ := List.mem_flatMap.mp member
    exact ascii_of_isEscapeChar (isEscapeChar_of_mem inByte)
  have bytes : decode (escape text) = utf8 text := by
    unfold decode escape
    rw [utf8_ofList_of_ascii ascii]
    exact decodeBytes_flatMap (utf8 text)
  unfold decodeText
  rw [bytes, ofUtf8?_utf8]
  rfl

end Percent

end ProxyDial.Text
