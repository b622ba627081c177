import Std.Data.String.ToNat
import QueryLoom.Sql

/-!
# Names of numbered parameters

A parameter is named by its property and its number, with nothing between them. Two parameters of
different numbers have the same name exactly if the property of the earlier one ends in the digits
by which the later number is longer.
-/

namespace QueryLoom

/-- The property `p` numbered `n` is taken for the property `q` numbered `m`: `p` ends in the digits
that `m` has in front of those of `n`. -/
def NamesClash (p : String) (n : Nat) (q : String) (m : Nat) : Prop :=
  ∃ digits : String, digits ≠ "" ∧ p = q ++ digits ∧ toString m = digits ++ toString n

theorem toList_parameterName (property : String) (number : Nat) :
    (parameterName property number).toList = property.toList ++ number.repr.toList := by
  simp [parameterName]

/-- A larger number is not written with fewer digits. -/
theorem length_repr_le_length_repr {n m : Nat} (h : n ≤ m) : n.repr.length ≤ m.repr.length := by
  have hm : m < 10 ^ m.repr.length :=
    (Nat.length_repr_le_iff Nat.length_repr_pos).mp (Nat.le_refl _)
  exact (Nat.length_repr_le_iff Nat.length_repr_pos).mpr (Nat.lt_of_le_of_lt h hm)

theorem parameterName_eq_of_namesClash {p q : String} {n m : Nat} (h : NamesClash p n q m) :
    parameterName p n = parameterName q m := by
  obtain ⟨digits, -, rfl, hm⟩ := h
  unfold parameterName
  rw [hm, String.append_assoc]

/-- Equal names of different numbers clash, the smaller number having the longer property. -/
theorem namesClash_of_parameterName_eq {p q : String} {n m : Nat} (hlt : n < m)
    (h : parameterName p n = parameterName q m) : NamesClash p n q m := by
  have hlist : p.toList ++ n.repr.toList = q.toList ++ m.repr.toList := by
    rw [← toList_parameterName, ← toList_parameterName, h]
  have hlen : n.repr.toList.length ≤ m.repr.toList.length := by
    simpa only [String.length_toList] using length_repr_le_length_repr (Nat.le_of_lt hlt)
  have hne : n.repr.toList ≠ m.repr.toList := fun heq =>
    Nat.ne_of_lt hlt (Nat.repr_inj.mp (String.toList_inj.mp heq))
  rcases List.append_eq_append_iff.mp hlist with ⟨extra, hq, hn⟩ | ⟨extra, hp, hm⟩
  · -- the later number would be the shorter one
    have hextra : extra = [] := by
      rw [hn, List.length_append] at hlen
      exact List.length_eq_zero_iff.mp (by omega)
    rw [hextra, List.nil_append] at hn
    exact absurd hn hne
  · refine ⟨String.ofList extra, ?_, ?_, ?_⟩
    · intro hempty
      have hextra : extra = [] := by simpa using congrArg String.toList hempty
      rw [hextra, List.nil_append] at hm
      exact hne hm.symm
    · rw [← String.toList_inj, String.toList_append, String.toList_ofList, hp]
    · rw [← String.toList_inj, String.toList_append, String.toList_ofList, Nat.toString_eq_repr,
        Nat.toString_eq_repr, hm]

/-- Two parameters of different numbers have the same name exactly if they clash. -/
theorem parameterName_eq_iff {p q : String} {n m : Nat} (hne : n ≠ m) :
    parameterName p n = parameterName q m ↔ NamesClash p n q m ∨ NamesClash q m p n := by
  constructor
  · intro h
    rcases Nat.lt_or_gt_of_ne hne with hlt | hgt
    · exact .inl (namesClash_of_parameterName_eq hlt h)
    · exact .inr (namesClash_of_parameterName_eq hgt h.symm)
  · rintro (h | h)
    · exact parameterName_eq_of_namesClash h
    · exact (parameterName_eq_of_namesClash h).symm

/-- A property that does not end in a digit clashes with no other parameter. -/
theorem not_namesClash_of_getLast {p q : String} {n m : Nat}
    (h : p.toList.getLast?.all (!·.isDigit) = true) : ¬ NamesClash p n q m := by
  rintro ⟨digits, hne, rfl, hm⟩
  have hdigits : digits.toList ≠ [] := fun hnil =>
    hne (String.toList_inj.mp (by rw [hnil]; rfl))
  have hlast : (q ++ digits).toList.getLast? = some (digits.toList.getLast hdigits) := by
    rw [String.toList_append, List.getLast?_append, List.getLast?_eq_some_getLast hdigits,
      Option.some_or]
  have hmem : digits.toList.getLast hdigits ∈ Nat.toDigits 10 m := by
    rw [← Nat.toList_repr, ← Nat.toString_eq_repr, hm, String.toList_append]
    exact List.mem_append_left _ (List.getLast_mem hdigits)
  have hdigit := Nat.isDigit_of_mem_toDigits (by omega) (by omega) hmem
  rw [hlast, Option.all_some, hdigit] at h
  exact Bool.false_ne_true h

example : NamesClash "A1" 0 "A" 10 := ⟨"1", by decide, rfl, rfl⟩

end QueryLoom
