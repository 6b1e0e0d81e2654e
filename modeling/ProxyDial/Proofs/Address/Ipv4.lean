import Mathlib.Data.List.TakeWhile
import ProxyDial.Address.Ip
import ProxyDial.Proofs.Text.Cut
import ProxyDial.Proofs.Text.Digits

set_option autoImplicit false

/-! IPv4 addresses as text. The written form of an address reads back, and a text that is read holds
nothing but digits and dots. -/

namespace ProxyDial
open Text

namespace Ipv4

variable {text rest : List Char} {address : Ipv4}

theorem decimal_octet (octet : UInt8) : (decimal octet.toNat).length ≤ 3 ∧
    ((decimal octet.toNat).length = 1 ∨ (decimal octet.toNat).head? ≠ some '0') := by
  have all : ∀ number : Fin 256, (decimal number.val).length ≤ 3 ∧
      ((decimal number.val).length = 1 ∨ (decimal number.val).head? ≠ some '0') := by
    decide +kernel
  exact all ⟨octet.toNat, octet.toNat_lt⟩

theorem readOctet?_decimal (octet : UInt8) (stops : Stops isDigit rest) :
    readOctet? (decimal octet.toNat ++ rest) = some (octet, rest) := by
  have digits : ∀ c ∈ decimal octet.toNat, isDigit c = true :=
    fun c member => isDigit_of_mem_decimalDigits member
  have value : readDigits? 256 (decimal octet.toNat) = some octet.toNat :=
    readDigits?_decimalDigits octet.toNat_lt
  obtain ⟨taken, dropped⟩ := span_of_stops digits stops
  obtain ⟨short, noZero⟩ := decimal_octet octet
  unfold readOctet?
  simp only [taken, dropped, value]
  rw [if_pos (by simpa [short] using noZero)]
  simp

theorem read?_toChars (address : Ipv4) (stops : Stops isDigit rest) :
    read? (address.toChars ++ rest) = some (address, rest) := by
  have dot (more : List Char) : Stops isDigit ('.' :: more) := .cons (by decide)
  have skip (more : List Char) : skip? '.' ('.' :: more) = some more := rfl
  unfold read? toChars
  simp only [List.append_assoc, List.cons_append, readOctet?_decimal _ (dot _), skip,
    Option.bind_eq_bind, Option.bind_some, readOctet?_decimal _ stops]
  rfl

theorem ofChars?_toChars (address : Ipv4) : ofChars? address.toChars = some address := by
  have read := address.read?_toChars Stops.nil
  rw [List.append_nil] at read
  unfold ofChars?
  rw [read]

/-- The octets of a number of 32 bits are those of an address with that number. -/
theorem toNat_ofNat {bits : Nat} (small : bits < 4294967296) : (ofNat bits).toNat = bits := by
  unfold toNat ofNat
  simp only [UInt8.toNat_ofNat']
  omega

theorem exists_digits_of_readOctet? {octet : UInt8} (read : readOctet? text = some (octet, rest)) :
    ∃ digits, text = digits ++ rest ∧ ∀ c ∈ digits, isDigit c = true := by
  unfold readOctet? at read
  dsimp only at read
  split at read
  · obtain ⟨value, -, same⟩ := Option.map_eq_some_iff.mp read
    cases same
    exact ⟨text.takeWhile isDigit, List.takeWhile_append_dropWhile.symm,
      fun c member => List.mem_takeWhile_imp member⟩
  · cases read

theorem skip?_eq_some {expected : Char} (skip : skip? expected text = some rest) :
    text = expected :: rest := by
  cases text with
  | nil => cases skip
  | cons c others =>
      by_cases same : c = expected
      · rw [skip?, if_pos same] at skip
        cases skip
        rw [same]
      · rw [skip?, if_neg same] at skip
        cases skip

/-- A character that an address is written with. -/
def IsMark (c : Char) : Prop := isDigit c = true ∨ c = '.'

instance (c : Char) : Decidable (IsMark c) :=
  inferInstanceAs (Decidable (isDigit c = true ∨ c = '.'))

theorem exists_taken_of_read? (read : read? text = some (address, rest)) :
    ∃ taken, text = taken ++ rest ∧ '.' ∈ taken ∧ ∀ c ∈ taken, IsMark c := by
  unfold read? at read
  simp only [Option.bind_eq_bind, Option.bind_eq_some_iff, Prod.exists] at read
  obtain ⟨a, first, readA, second, skipA, b, third, readB, fourth, skipB, c, fifth, readC, sixth,
    skipC, d, last, readD, same⟩ := read
  cases same
  obtain ⟨digitsA, rfl, isDigitA⟩ := exists_digits_of_readOctet? readA
  obtain rfl := skip?_eq_some skipA
  obtain ⟨digitsB, rfl, isDigitB⟩ := exists_digits_of_readOctet? readB
  obtain rfl := skip?_eq_some skipB
  obtain ⟨digitsC, rfl, isDigitC⟩ := exists_digits_of_readOctet? readC
  obtain rfl := skip?_eq_some skipC
  obtain ⟨digitsD, rfl, isDigitD⟩ := exists_digits_of_readOctet? readD
  refine ⟨digitsA ++ '.' :: (digitsB ++ '.' :: (digitsC ++ '.' :: digitsD)), by simp, by simp, ?_⟩
  simp only [List.mem_append, List.mem_cons]
  rintro c (inA | dot | inB | dot | inC | dot | inD)
  · exact .inl (isDigitA c inA)
  · exact .inr dot
  · exact .inl (isDigitB c inB)
  · exact .inr dot
  · exact .inl (isDigitC c inC)
  · exact .inr dot
  · exact .inl (isDigitD c inD)

/-- An address starts with digits and a dot. -/
theorem read?_eq_none (noDot : (text.dropWhile isDigit).head? ≠ some '.') : read? text = none := by
  cases first : readOctet? text with
  | none =>
      unfold read?
      rw [first]
      rfl
  | some found =>
      obtain ⟨octet, behind⟩ := found
      have dropped : behind = text.dropWhile isDigit := by
        unfold readOctet? at first
        dsimp only at first
        split at first
        · obtain ⟨value, -, same⟩ := Option.map_eq_some_iff.mp first
          cases same
          rfl
        · cases first
      have none : skip? '.' behind = none := by
        cases skip : skip? '.' behind with
        | none => rfl
        | some rest =>
            rw [← dropped, skip?_eq_some skip] at noDot
            exact absurd rfl noDot
      unfold read?
      simp only [first, Option.bind_eq_bind, Option.bind_some, none, Option.bind_none]

/-- A text that is read as an address is written with digits and dots. -/
theorem isMark_of_ofChars? (read : ofChars? text = some address) :
    '.' ∈ text ∧ ∀ c ∈ text, IsMark c := by
  unfold ofChars? at read
  split at read
  next found whole =>
    obtain ⟨taken, rfl, dot, marks⟩ := exists_taken_of_read? whole
    rw [List.append_nil]
    exact ⟨dot, marks⟩
  · cases read

end Ipv4

end ProxyDial
