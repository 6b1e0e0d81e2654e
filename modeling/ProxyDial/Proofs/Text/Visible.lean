import Mathlib.Data.List.TakeWhile
import ProxyDial.Text.Base64

set_option autoImplicit false

/-! The bytes of a text, character by character. An ASCII character is one byte, the same number. So
a text of visible ASCII characters, such as base64, has no blank and no line end among its bytes. -/

namespace ProxyDial.Text

private theorem loop_eq (bytes : ByteArray) (index : Nat) (read : List UInt8) :
    ByteArray.toList.loop bytes index read = read.reverse ++ bytes.data.toList.drop index := by
  induction index, read using ByteArray.toList.loop.induct bytes with
  | case1 index read inside ih =>
      have here : index < bytes.data.toList.length := inside
      have byte : bytes.get! index = bytes.data.toList[index] :=
        getElem!_pos bytes.data index inside
      rw [ByteArray.toList.loop, if_pos inside, ih, List.drop_eq_getElem_cons here, byte]
      simp
  | case2 index read past =>
      have behind : bytes.data.toList.length ≤ index := Nat.le_of_not_lt past
      rw [ByteArray.toList.loop, if_neg past, List.drop_of_length_le behind, List.append_nil]

theorem utf8_eq_flatMap (text : String) :
    utf8 text = text.toList.flatMap String.utf8EncodeChar := by
  unfold utf8 ByteArray.toList
  rw [loop_eq]
  have encoded : text.toUTF8 = text.toList.utf8Encode := String.utf8Encode_toList.symm
  rw [encoded]
  exact List.toList_data_toByteArray

@[simp]
theorem utf8_append (text more : String) : utf8 (text ++ more) = utf8 text ++ utf8 more := by
  simp [utf8_eq_flatMap]

theorem utf8EncodeChar_of_ascii {c : Char} (ascii : c.toNat < 128) :
    String.utf8EncodeChar c = [UInt8.ofNat c.toNat] := by
  have small : c.val.toNat ≤ 127 := Nat.le_of_lt_succ ascii
  rw [String.utf8EncodeChar.eq_def]
  exact if_pos small

namespace Base64

/-- A character of the alphabet, or the mark that pads. -/
def IsSymbol (c : Char) : Prop := c ∈ alphabet ∨ c = '='

theorem isSymbol_charOf (value : Nat) : IsSymbol (charOf value) := by
  unfold charOf
  by_cases inside : value < alphabet.length
  · have entry : alphabet.getD value '=' = alphabet[value] := by simp [inside]
    rw [entry]
    exact .inl (List.getElem_mem inside)
  · have padding : alphabet.getD value '=' = '=' := by simp [Nat.le_of_not_lt inside]
    exact .inr padding

theorem isSymbol_of_mem_encode (bytes : Bytes) : ∀ c ∈ encode bytes, IsSymbol c := by
  induction bytes using encode.induct with
  | case1 a b c rest ih =>
      intro symbol member
      simp only [encode, List.mem_cons] at member
      rcases member with first | second | third | fourth | later
      · exact first ▸ isSymbol_charOf _
      · exact second ▸ isSymbol_charOf _
      · exact third ▸ isSymbol_charOf _
      · exact fourth ▸ isSymbol_charOf _
      · exact ih symbol later
  | case2 a b =>
      intro symbol member
      simp only [encode, List.mem_cons, List.not_mem_nil, or_false] at member
      rcases member with first | second | third | fourth
      · exact first ▸ isSymbol_charOf _
      · exact second ▸ isSymbol_charOf _
      · exact third ▸ isSymbol_charOf _
      · exact .inr fourth
  | case3 a =>
      intro symbol member
      simp only [encode, List.mem_cons, List.not_mem_nil, or_false] at member
      rcases member with first | second | third | fourth
      · exact first ▸ isSymbol_charOf _
      · exact second ▸ isSymbol_charOf _
      · exact .inr third
      · exact .inr fourth
  | case4 =>
      intro symbol impossible
      cases impossible

theorem IsSymbol.visible {c : Char} (symbol : IsSymbol c) : 0x21 ≤ c.toNat ∧ c.toNat ≤ 0x7e := by
  have letters : alphabet.all (fun c => 0x21 ≤ c.toNat && c.toNat ≤ 0x7e) = true := by decide
  simp only [List.all_eq_true, Bool.and_eq_true, decide_eq_true_eq] at letters
  rcases symbol with letter | padding
  · exact letters c letter
  · subst padding
    decide

end Base64

end ProxyDial.Text
