import QueryLoom.Uuid
import Mathlib.Algebra.Group.Nat.Defs

/-!
# Written UUIDs

A UUID is read back from its written form. The octets are digits to the base 256, and the written
digits are digits to the base 16; a number is put together again from either.
-/

namespace QueryLoom.Uuid

/-! ## Digits of a number -/

/-- The first digits of a number to a base put together the number without its last digits. -/
theorem foldl_digits {base count number : Nat} (h : number < base ^ count)
    {first : Nat} (hfirst : first ≤ count) :
    ((List.range first).map fun i => number / base ^ (count - 1 - i) % base).foldl
        (fun total value => base * total + value) 0 = number / base ^ (count - first) := by
  induction first with
  | zero => exact (Nat.div_eq_of_lt h).symm
  | succ first ih =>
    have hpower : count - first = count - 1 - first + 1 := by omega
    have hlast : count - (first + 1) = count - 1 - first := by omega
    rw [List.range_succ, List.map_append, List.foldl_append, ih (Nat.le_of_succ_le hfirst), hpower,
      Nat.pow_succ, ← Nat.div_div_eq_div_mul, hlast]
    exact Nat.div_add_mod _ _

theorem foldl_octets (id : Uuid) :
    (id.octets.map UInt8.toNat).foldl (fun total value => 256 * total + value) 0 =
      id.bits.toNat := by
  have hfold := @foldl_digits 256 16 _ id.bits.isLt 16 (Nat.le_refl 16)
  rw [Nat.sub_self, Nat.pow_zero, Nat.div_one] at hfold
  rw [octets, List.map_map]
  exact hfold

/-- An octet stands for two digits. -/
theorem foldl_halves (octets : List UInt8) (total : Nat) :
    (octets.flatMap fun octet => [octet.toNat / 16, octet.toNat % 16]).foldl
        (fun total value => 16 * total + value) total =
      (octets.map UInt8.toNat).foldl (fun total value => 256 * total + value) total := by
  induction octets generalizing total with
  | nil => rfl
  | cons octet rest ih =>
    have hoctet : 16 * (16 * total + octet.toNat / 16) + octet.toNat % 16 =
        256 * total + octet.toNat := by omega
    simp only [List.flatMap_cons, List.cons_append, List.nil_append, List.foldl_cons, hoctet, ih,
      List.map_cons]

theorem mapM_hexValue? (octets : List UInt8) :
    (octets.flatMap (Text.hexByte false)).mapM Text.hexValue? =
      some (octets.flatMap fun octet => [octet.toNat / 16, octet.toNat % 16]) := by
  induction octets with
  | nil => rfl
  | cons octet rest ih =>
    have hhigh := Text.hexValue?_hexDigit false (octet.toNat / 16)
      (Nat.div_lt_of_lt_mul octet.toNat_lt)
    have hlow := Text.hexValue?_hexDigit false (octet.toNat % 16) (Nat.mod_lt _ (by decide))
    simp [List.flatMap_cons, Text.hexByte, List.mapM_cons, hhigh, hlow, ih]

theorem ofDigits?_octets (id : Uuid) :
    ofDigits? (id.octets.flatMap (Text.hexByte false)) = some id := by
  have hlength : (id.octets.flatMap fun octet => [octet.toNat / 16, octet.toNat % 16]).length =
      32 := by
    simp [List.length_flatMap, List.map_const']
  rw [ofDigits?, mapM_hexValue?]
  simp only [Option.bind_eq_bind, Option.bind_some, hlength, if_true, foldl_halves, foldl_octets,
    BitVec.ofNat_toNat, BitVec.setWidth_eq, Option.pure_def]

/-! ## Hyphens -/

theorem hyphenated?_groups {a b c d e : List Char} (ha : a.length = 8) (hb : b.length = 4)
    (hc : c.length = 4) (hd : d.length = 4) (he : e.length = 12) :
    hyphenated? (a ++ '-' :: (b ++ '-' :: (c ++ '-' :: (d ++ '-' :: e)))) =
      some (a ++ b ++ c ++ d ++ e) := by
  simp [hyphenated?, List.drop_append, List.getElem?_append, List.drop_of_length_le,
    List.take_of_length_le, ha, hb, hc, hd, he]

theorem toList_intercalate (a b c d e : List Char) :
    ("-".intercalate [String.ofList a, String.ofList b, String.ofList c, String.ofList d,
        String.ofList e]).toList =
      a ++ '-' :: (b ++ '-' :: (c ++ '-' :: (d ++ '-' :: e))) := by
  have hjoined : "-".intercalate [String.ofList a, String.ofList b, String.ofList c,
      String.ofList d, String.ofList e] = String.ofList a ++ "-" ++ String.ofList b ++ "-" ++
        String.ofList c ++ "-" ++ String.ofList d ++ "-" ++ String.ofList e := rfl
  simp [hjoined]

/-- The groups between the hyphens are the digits. -/
theorem groups_append {digits : List Char} (h : digits.length = 32) :
    (digits.drop 0).take 8 ++ (digits.drop 8).take 4 ++ (digits.drop 12).take 4 ++
      (digits.drop 16).take 4 ++ (digits.drop 20).take 12 = digits := by
  rw [List.drop_zero, ← List.take_add, ← List.take_add, ← List.take_add, ← List.take_add]
  exact List.take_of_length_le (Nat.le_of_eq h)

/-- A text of 36 characters can only be the hyphenated form. -/
theorem parse?_of_length {text : String} (h : text.toList.length = 36) :
    parse? text = (do ofDigits? (← hyphenated? text.toList)) := by
  simp [parse?, h]

theorem parse?_render (id : Uuid) : parse? id.render = some id := by
  have hdigits := ofDigits?_octets id
  have hlength : (id.octets.flatMap (Text.hexByte false)).length = 32 := by
    simp [List.length_flatMap, Text.hexByte, List.map_const']
  rw [render]
  generalize id.octets.flatMap (Text.hexByte false) = digits at hdigits hlength ⊢
  have hgroup : ∀ start length, start + length ≤ 32 →
      ((digits.drop start).take length).length = length := by
    intro start length hend
    rw [List.length_take, List.length_drop]
    omega
  have h₁ := hgroup 0 8 (by decide)
  have h₂ := hgroup 8 4 (by decide)
  have h₃ := hgroup 12 4 (by decide)
  have h₄ := hgroup 16 4 (by decide)
  have h₅ := hgroup 20 12 (by decide)
  rw [parse?_of_length, toList_intercalate, hyphenated?_groups h₁ h₂ h₃ h₄ h₅,
    groups_append hlength]
  · exact hdigits
  · rw [toList_intercalate]
    simp only [List.length_append, List.length_cons, h₁, h₂, h₃, h₄, h₅]

end QueryLoom.Uuid
