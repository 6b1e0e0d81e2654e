import ProxyDial.Dns.Message
import ProxyDial.Proofs.Dial.Outcome

set_option autoImplicit false

/-! The size of a query. The name of a host takes 255 bytes at most, so that a query always fits
behind the two bytes that hold its length. -/

namespace ProxyDial.Dns
open Text

namespace Name

private theorem foldl_length (labels : List Bytes) (start : Nat) :
    labels.foldl (fun length label => length + label.length + 1) start =
      start + (labels.flatMap fun label => UInt8.ofNat label.length :: label).length := by
  induction labels generalizing start with
  | nil => rfl
  | cons label labels ih =>
      rw [List.foldl_cons, ih, List.flatMap_cons, List.length_append, List.length_cons]
      omega

theorem length_encode (name : Name) : name.encode.length = name.length := by
  unfold encode length
  rw [foldl_length, List.length_append, List.length_singleton]
  omega

theorem length_concat (name : Name) (label : Bytes) :
    length ⟨name.labels ++ [label]⟩ = name.length + label.length + 1 := by
  unfold length
  rw [List.foldl_append]
  rfl

theorem append_fits {name extended : Name} {text : List Char}
    (appended : name.append text = .ok extended) : extended.length ≤ maxLength := by
  obtain ⟨label, -, fits⟩ := Dial.bind_ok appended
  by_cases long : name.length + label.length + 1 > maxLength
  · rw [if_pos long] at fits
    cases fits
  · rw [if_neg long] at fits
    cases fits
    rw [length_concat]
    omega

/-- A name grows by whole labels, and none of them makes it too long. -/
theorem readLabels_fits {name found : Name} {label text : List Char}
    (fits : name.length ≤ maxLength) (read : readLabels name label text = .ok found) :
    found.length ≤ maxLength := by
  fun_induction readLabels name label text with
  | case1 name =>
      cases read
      exact fits
  | case2 name label => exact append_fits read
  | case3 name label rest ih =>
      obtain ⟨extended, appended, read⟩ := Dial.bind_ok read
      exact ih extended (append_fits appended) read
  -- An octal escape, a character behind a backslash, and a plain character extend the label.
  | case4 _ _ _ _ _ _ _ _ _ _ _ _ _ ih => exact ih fits read
  | case5 => cases read
  | case6 => cases read
  | case7 _ _ _ _ _ ih => exact ih fits read
  | case8 name label => exact append_fits read
  | case9 => cases read
  | case10 _ _ _ _ _ _ _ _ ih => exact ih fits read

theorem ofHost_fits {host : String} {name : Name} (encodes : ofHost host = .ok name) :
    name.length ≤ maxLength := by
  have root : length root ≤ maxLength := by decide
  unfold ofHost at encodes
  dsimp only at encodes
  split at encodes
  · cases encodes
    exact root
  · exact readLabels_fits root encodes

end Name

theorem encodeQuery_fits {host : String} {name : Name} (encodes : Name.ofHost host = .ok name)
    (id : UInt16) (type : RecordType) : (encodeQuery id ⟨name, type⟩).length < 65536 := by
  have fits := Name.ofHost_fits encodes
  have bound : Name.maxLength = 255 := rfl
  simp only [encodeQuery, wide, List.length_append, List.length_cons, List.length_nil,
    Name.length_encode]
  omega

end ProxyDial.Dns
