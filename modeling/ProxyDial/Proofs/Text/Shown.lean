import ProxyDial.Proofs.Text.Cut
import ProxyDial.Proofs.Text.Hex
import ProxyDial.Text.Record

set_option autoImplicit false

/-! What diagnostics tell of the values that they show. A text reads back from its quoted form, so
that two texts are never quoted alike; and a record stays the same around the value of one field. -/

namespace ProxyDial.Text

/-- The character that a short escape stands for. -/
def escaped? : Char → Option Char
  | '0' => some '\x00'
  | 't' => some '\t'
  | 'r' => some '\r'
  | 'n' => some '\n'
  | '\\' => some '\\'
  | '"' => some '"'
  | _ => none

/-- The first character of a text inside quotes, and the rest. -/
def readQuotedChar? : List Char → Option (Char × List Char)
  | '\\' :: 'u' :: '\x7b' :: rest =>
      (cutAt? '\x7d' rest).map fun cut => (Char.ofNat (hexValue cut.1), cut.2)
  | '\\' :: mark :: rest => (escaped? mark).map fun c => (c, rest)
  | c :: rest => some (c, rest)
  | [] => none

theorem closing_not_mem_hexDigits (number : Nat) : '\x7d' ∉ hexDigits number := by
  intro member
  obtain ⟨value, reads⟩ := exists_value_of_mem_toDigits member
  cases reads

theorem readQuotedChar?_quotedChar (c : Char) (rest : List Char) :
    readQuotedChar? (quotedChar c ++ rest) = some (c, rest) := by
  unfold quotedChar
  split
  · rfl
  · rfl
  · rfl
  · rfl
  · rfl
  · rfl
  next noNul noTab noReturn noFeed noBackslash noQuote =>
    split
    · have plain : c ≠ '\\' := noBackslash
      unfold readQuotedChar?
      split <;> simp_all
    · have value : Char.ofNat (hexValue (hexDigits c.toNat)) = c := by
        unfold hexDigits
        rw [hexValue_toDigits, Char.ofNat_toNat]
      have cut := cutAt?_append_cons (closing_not_mem_hexDigits c.toNat) rest
      simp only [List.cons_append, List.nil_append, List.append_assoc, readQuotedChar?, cut,
        Option.map_some, value]

/-- Two lists are not written alike when the first item of every written list reads back. -/
theorem eq_of_flatMap_eq {α β : Type} {write : α → List β} {read : List β → Option (α × List β)}
    (nothing : read [] = none) (reads : ∀ item rest, read (write item ++ rest) = some (item, rest))
    {items others : List α} (same : items.flatMap write = others.flatMap write) :
    items = others := by
  induction items generalizing others with
  | nil =>
      cases others with
      | nil => rfl
      | cons other others =>
          have readsOther := reads other (others.flatMap write)
          rw [← List.flatMap_cons, ← same, List.flatMap_nil, nothing] at readsOther
          cases readsOther
  | cons item items ih =>
      have readsItem := reads item (items.flatMap write)
      rw [← List.flatMap_cons, same] at readsItem
      cases others with
      | nil =>
          rw [List.flatMap_nil, nothing] at readsItem
          cases readsItem
      | cons other others =>
          rw [List.flatMap_cons, reads] at readsItem
          obtain ⟨rfl, rest⟩ := Prod.mk.inj (Option.some.inj readsItem)
          rw [ih rest.symm]

theorem quoted_injective : Function.Injective quoted := by
  intro text other same
  have lists := congrArg String.toList same
  unfold quoted at lists
  rw [String.toList_ofList, String.toList_ofList] at lists
  have inner := List.append_cancel_left (List.append_cancel_right lists)
  exact String.toList_inj.mp (eq_of_flatMap_eq rfl readQuotedChar?_quotedChar inner)

theorem optional_injective : Function.Injective optional := by
  intro text other same
  have lists := congrArg String.toList same
  cases text with
  | none =>
      cases other with
      | none => rfl
      | some other => simp [optional, tagged, commas] at lists
  | some text =>
      cases other with
      | none => simp [optional, tagged, commas] at lists
      | some other =>
          have inner : text.toList = other.toList := by
            simpa [optional, tagged, commas] using lists
          rw [String.toList_inj.mp inner]

/-- What stands around one part of a list is the same whatever the part is. -/
theorem exists_commas_around (front back : List String) :
    ∃ before behind, ∀ part, commas (front ++ part :: back) = before ++ part ++ behind := by
  induction front with
  | nil =>
      cases back with
      | nil => exact ⟨"", "", fun part => by simp [commas]⟩
      | cons next back =>
          refine ⟨"", ", " ++ commas (next :: back), fun part => ?_⟩
          simp [commas, String.intercalate_cons_cons, String.append_assoc]
  | cons first front ih =>
      obtain ⟨before, behind, around⟩ := ih
      refine ⟨first ++ ", " ++ before, behind, fun part => ?_⟩
      have split : commas (first :: (front ++ part :: back)) =
          first ++ ", " ++ commas (front ++ part :: back) := by
        cases front with
        | nil => exact String.intercalate_cons_cons
        | cons second front => exact String.intercalate_cons_cons
      rw [List.cons_append, split, around, ← String.append_assoc, ← String.append_assoc]

/-- Two records that differ in one field are shown alike exactly if the field is. -/
theorem record_eq_iff (name label : String) (front back : List (String × String))
    (text other : String) :
    record name (front ++ (label, text) :: back) = record name (front ++ (label, other) :: back) ↔
      text = other := by
  obtain ⟨before, behind, around⟩ := exists_commas_around (labelled front) (labelled back)
  have shown (text : String) : record name (front ++ (label, text) :: back) =
      name ++ " \x7b " ++ (before ++ (label ++ ": " ++ text) ++ behind) ++ " \x7d" := by
    rw [← around]
    simp [record, labelled]
  constructor
  · intro same
    rw [shown, shown] at same
    have lists := congrArg String.toList same
    simp only [String.toList_append, List.append_assoc, List.append_cancel_left_eq,
      List.append_cancel_right_eq] at lists
    exact String.toList_inj.mp lists
  · intro same
    rw [same]

end ProxyDial.Text
