import ProxyDial.Address.Ip

set_option autoImplicit false

/-! Numbers of sixteen bits as two octets each, the high one first, and IPv6 addresses as eight such
numbers. -/

namespace ProxyDial

theorem uint16_of_octets (number : UInt16) :
    (number >>> 8).toUInt8.toUInt16 * 256 + number.toUInt8.toUInt16 = number := by
  apply UInt16.toNat_inj.mp
  have bound := number.toNat_lt
  simp only [UInt16.toNat_add, UInt16.toNat_mul, UInt8.toNat_toUInt16, UInt16.toNat_toUInt8,
    UInt16.toNat_shiftRight, UInt16.reduceToNat, Nat.shiftRight_eq_div_pow, Nat.reduceMod,
    Nat.reducePow]
  omega

namespace Ipv6

theorem ofList_toList (address : Ipv6) : ofList address.toList = address := by
  cases address with
  | mk groups =>
      unfold ofList toList
      congr 1
      apply Vector.ext
      intro index within
      simp [List.getD_eq_getElem?_getD]

private theorem groups_of_octets (groups : List UInt16) (octets : List UInt8)
    (same : octets =
      groups.flatMap fun (group : UInt16) => [(group >>> 8).toUInt8, group.toUInt8]) :
    (List.range groups.length).map (fun index =>
      ((octets.getD (2 * index) 0).toUInt16 * 256 +
        (octets.getD (2 * index + 1) 0).toUInt16 : UInt16)) = groups := by
  subst same
  induction groups with
  | nil => rfl
  | cons group rest ih =>
      rw [List.length_cons, List.range_succ_eq_map, List.map_cons, List.map_map]
      exact List.cons_eq_cons.mpr ⟨uint16_of_octets group, ih⟩

theorem octets_length (address : Ipv6) : address.octets.length = 16 := by
  unfold octets toList
  rw [List.length_flatMap]
  simp [List.map_const']

theorem ofOctets_octets (address : Ipv6) : ofOctets address.octets = address := by
  have size : address.toList.length = 8 := by simp [toList]
  have groups := groups_of_octets address.toList address.octets rfl
  rw [size] at groups
  unfold ofOctets
  rw [groups]
  exact ofList_toList address

end Ipv6

end ProxyDial
