import ProxyDial.Proofs.Dns.Reading

set_option autoImplicit false

/-! Names as they may be written in a message. A name is written in full, or it ends with a pointer
to where an earlier name stands, or the end of one. However it is written, it is read. -/

namespace ProxyDial.Dns
open Text

/-- Labels that are written behind the bytes of a message so far: each behind its length, and at the
end an empty one or a pointer to labels in front of the name. -/
inductive WritesLabels : (before : Bytes) → (labels : List Bytes) → (part : Bytes) → Prop
  | root {before : Bytes} : WritesLabels before [] [0]
  | label {before label : Bytes} {labels : List Bytes} {part : Bytes} (filled : label ≠ [])
      (short : label.length ≤ Name.maxLabel) (behind : WritesLabels before labels part) :
      WritesLabels before (label :: labels) (UInt8.ofNat label.length :: (label ++ part))
  | pointer {front part back : Bytes} {labels : List Bytes} (near : front.length < 0x4000)
      (earlier : WritesLabels front labels part) :
      WritesLabels (front ++ (part ++ back)) labels (wide (UInt16.ofNat (0xc000 + front.length)))

/-- A pointer to labels that are found so many bytes behind the start of the message. -/
theorem WritesLabels.pointer_at {before : Bytes} {labels : List Bytes} (place size : Nat)
    (near : place < 0x4000) (inside : place ≤ before.length)
    (earlier : WritesLabels (before.take place) labels ((before.drop place).take size)) :
    WritesLabels before labels (wide (UInt16.ofNat (0xc000 + place))) := by
  have front : (before.take place).length = place := List.length_take_of_le inside
  have allowed : (before.take place).length < 0x4000 := by rwa [front]
  have points := @WritesLabels.pointer _ _ ((before.drop place).drop size) _ allowed earlier
  rwa [List.take_append_drop, List.take_append_drop, front] at points

structure WritesName (before : Bytes) (name : Name) (part : Bytes) : Prop where
  labels : WritesLabels before name.labels part
  fits : name.length ≤ Name.maxLength

theorem WritesLabels.length_pos {before part : Bytes} {labels : List Bytes}
    (writes : WritesLabels before labels part) : 0 < part.length := by
  cases writes with
  | root => exact Nat.one_pos
  | label filled short behind => exact Nat.succ_pos _
  | pointer near earlier => exact Nat.two_pos

theorem behind_append (before rest : Bytes) : Behind (before ++ rest) before.length rest where
  within := by
    rw [List.length_append]
    exact Nat.le_add_right _ _
  bytes := List.drop_left

section
variable {message rest : Bytes} {index steps start place : Nat} {name : Name} {bound : Option Nat}

/-- At a pointer the reader goes on at its place, where the labels have to stand in front of the
name. -/
theorem readLabelsAt_pointer (inFront : InFront bound index) (fits : name.length ≤ Name.maxLength)
    (near : place < 0x4000) (earlier : place < start)
    (behind : Behind message index (wide (UInt16.ofNat (0xc000 + place)) ++ rest)) :
    readLabelsAt message (steps + 1) start bound name index = do
      let (name, _) ← readLabelsAt message steps place (some start) name place
      return (name, index + 2) := by
  have number : (UInt16.ofNat (0xc000 + place)).toNat = 0xc000 + place := by
    rw [UInt16.toNat_ofNat']
    omega
  have target : (UInt16.ofNat (0xc000 + place)).toNat % 0x4000 = place := by
    rw [number]
    omega
  have high : ((UInt16.ofNat (0xc000 + place)) >>> 8).toUInt8.toNat = 0xc0 + place / 256 := by
    rw [UInt16.toNat_toUInt8, UInt16.toNat_shiftRight, number]
    simp only [UInt16.reduceToNat, Nat.shiftRight_eq_div_pow, Nat.reduceMod, Nat.reducePow]
    omega
  have isPointer : ((UInt16.ofNat (0xc000 + place)) >>> 8).toUInt8 ≥ 0xc0 := by
    rw [ge_iff_le, UInt8.le_iff_toNat_le, high]
    simp only [UInt8.reduceToNat]
    omega
  have notRoot : ((UInt16.ofNat (0xc000 + place)) >>> 8).toUInt8 ≠ 0 := by
    rw [Ne, ← UInt8.toNat_inj, high]
    simp only [UInt8.reduceToNat]
    omega
  have allowed : ¬ place ≥ start := Nat.not_le_of_lt earlier
  have first : Behind message index (((UInt16.ofNat (0xc000 + place)) >>> 8).toUInt8 ::
      ((UInt16.ofNat (0xc000 + place)).toUInt8 :: rest)) := behind
  rw [readLabelsAt_step steps start inFront fits first, if_neg notRoot, if_pos isPointer]
  simp only [readWide_eq behind, bind, Except.bind, pure, Except.pure, target, if_neg allowed]

theorem inFront_of_le {part : Bytes} (inFront : ∀ limit, bound = some limit →
    index + part.length ≤ limit) (filled : part ≠ []) : InFront bound index := by
  intro limit same
  have positive := List.length_pos_iff.mpr filled
  have fitting := inFront limit same
  omega

/-- The labels are read behind those that have been read before. Every step takes a byte of their
part, or goes to a place in front of the name, so that there are no more steps than bytes. -/
theorem readLabelsAt_writes {before part : Bytes} {labels : List Bytes}
    (writes : WritesLabels before labels part) (context : before <+: message)
    (later : before.length ≤ start)
    (inFront : ∀ limit, bound = some limit → index + part.length ≤ limit)
    (enough : before.length + part.length < steps)
    (fits : Name.length ⟨name.labels ++ labels⟩ ≤ Name.maxLength)
    (behind : Behind message index (part ++ rest)) :
    readLabelsAt message steps start bound name index =
      .ok (⟨name.labels ++ labels⟩, index + part.length) := by
  induction writes generalizing index steps start bound name rest with
  | root =>
      obtain ⟨steps, rfl⟩ := Nat.exists_eq_add_one_of_ne_zero (Nat.ne_zero_of_lt enough)
      rw [List.append_nil] at fits ⊢
      exact readLabelsAt_root steps start (inFront_of_le inFront (List.cons_ne_nil _ _)) fits behind
  | @label before label labels part filled short written ih =>
      obtain ⟨steps, rfl⟩ := Nat.exists_eq_add_one_of_ne_zero (Nat.ne_zero_of_lt enough)
      have here := inFront_of_le inFront (List.cons_ne_nil _ _)
      have whole : name.labels ++ label :: labels = (name.labels ++ [label]) ++ labels := by simp
      have size : (UInt8.ofNat label.length :: (label ++ part)).length =
          label.length + 1 + part.length := by
        rw [List.length_cons, List.length_append]
        omega
      rw [whole] at fits ⊢
      rw [size] at inFront enough ⊢
      have first : Name.length ⟨name.labels ++ [label]⟩ ≤ Name.maxLength :=
        Nat.le_trans (Name.length_append_labels _ labels) fits
      rw [List.cons_append, List.append_assoc] at behind
      have next : Behind message (index + (label.length + 1)) (part ++ rest) :=
        @Behind.after message (UInt8.ofNat label.length :: label) _ index behind
      have place : index + 1 + label.length = index + (label.length + 1) := by omega
      have inside (limit : Nat) (same : bound = some limit) :
          index + (label.length + 1) + part.length ≤ limit := by
        have fitting := inFront limit same
        omega
      rw [readLabelsAt_label steps start here filled short first behind, place,
        ih context later inside (by omega) fits next, Nat.add_assoc]
  | @pointer front part back labels near earlier ih =>
      obtain ⟨steps, rfl⟩ := Nat.exists_eq_add_one_of_ne_zero (Nat.ne_zero_of_lt enough)
      have here := inFront_of_le inFront (List.cons_ne_nil _ _)
      have sizes : (front ++ (part ++ back)).length = front.length + part.length + back.length := by
        rw [List.length_append, List.length_append]
        omega
      have positive := earlier.length_pos
      have two : (wide (UInt16.ofNat (0xc000 + front.length))).length = 2 := rfl
      rw [sizes] at later enough
      rw [two] at enough
      obtain ⟨tail, split⟩ := context
      have start' : front <+: message :=
        (List.prefix_append front (part ++ back)).trans ⟨tail, split⟩
      have there : Behind message front.length (part ++ (back ++ tail)) := by
        rw [← split, List.append_assoc, List.append_assoc]
        exact behind_append front _
      have inside (limit : Nat) (same : some start = some limit) :
          front.length + part.length ≤ limit := by
        cases same
        omega
      have shorter : name.length ≤ Name.maxLength :=
        Nat.le_trans (name.length_append_labels labels) fits
      have fewer : front.length + part.length < steps := by omega
      have read := ih start' (Nat.le_refl _) inside fewer fits there
      rw [readLabelsAt_pointer here shorter near (by omega) behind, read]
      rfl

end

/-- A name is read where it is written, and the reader goes on behind it. -/
theorem readName_writes {before part : Bytes} {name : Name} (writes : WritesName before name part)
    (rest : Bytes) : readName (before ++ (part ++ rest)) before.length =
      .ok (name, before.length + part.length) := by
  have steps : before.length + part.length < 2 * (before ++ (part ++ rest)).length + 2 := by
    rw [List.length_append, List.length_append]
    omega
  exact readLabelsAt_writes writes.labels (List.prefix_append before _) (Nat.le_refl _) nofun steps
    writes.fits (behind_append before _)

/-- In full a name may be written anywhere. -/
theorem Name.Writable.writes {name : Name} (writable : name.Writable) (before : Bytes) :
    WritesName before name name.encode where
  labels := by
    obtain ⟨filled, short, -⟩ := writable
    cases name with
    | mk labels =>
        induction labels with
        | nil => exact .root
        | cons label labels ih =>
            rw [encode_cons]
            exact .label (filled label List.mem_cons_self) (short label List.mem_cons_self)
              (ih (fun other member => filled other (List.mem_cons_of_mem _ member))
                fun other member => short other (List.mem_cons_of_mem _ member))
  fits := writable.fits

end ProxyDial.Dns
