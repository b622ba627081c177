import QueryLoom.Calendar.Reader
import Mathlib.Algebra.Group.Nat.Defs

/-!
# Written dates and times

Dates and moments are read back from their written form.

## Implementation notes

What a reader takes off a text is stated with the rest of the text behind it. The rest matters: a
number of fixed width needs no blank behind it, and a year of any length something that is no digit.
-/

namespace QueryLoom

namespace Text

theorem toList_padded (width number : Nat) :
    (padded width number).toList =
      List.replicate (width - (Nat.toDigits 10 number).length) '0' ++ Nat.toDigits 10 number := by
  rw [padded, Nat.toString_eq_ofList_toDigits, String.toList_append, String.length_ofList,
    String.toList_ofList, String.toList_ofList]

theorem isDigit_of_mem_padded {width number : Nat} {c : Char}
    (h : c ∈ (padded width number).toList) : c.isDigit = true := by
  rw [toList_padded, List.mem_append] at h
  rcases h with h | h
  · rw [List.eq_of_mem_replicate h]
    rfl
  · exact Nat.isDigit_of_mem_toDigits (by decide) (by decide) h

theorem padded_ne_nil (width number : Nat) : (padded width number).toList ≠ [] := by
  rw [toList_padded]
  exact List.append_ne_nil_of_right_ne_nil _ Nat.toDigits_ne_nil

theorem length_padded {width number : Nat} (hwidth : 0 < width) (h : number < 10 ^ width) :
    (padded width number).toList.length = width := by
  have hlength := (Nat.length_toDigits_le_iff (by decide : 1 < 10) hwidth).mpr h
  rw [toList_padded, List.length_append, List.length_replicate]
  exact Nat.sub_add_cancel hlength

theorem decimalValue_padded (width number : Nat) :
    decimalValue (padded width number).toList = number := by
  have hzeros : ∀ count, (List.replicate count '0').foldl
      (fun value c => 10 * value + (c.toNat - 48)) 0 = 0 := by
    intro count
    induction count with
    | zero => rfl
    | succ count ih => exact ih
  rw [toList_padded, decimalValue, List.foldl_append, hzeros]
  exact Nat.ofDigitChars_toDigits (by decide) (by decide)

/-- A run of digits is read whole if it fits the width and no digit within the width follows. -/
theorem readDigits?_append {width : Nat} {digits : List Char} (rest : List Char) (hne : digits ≠ [])
    (hdigits : ∀ c ∈ digits, c.isDigit = true) (hwidth : digits.length ≤ width)
    (hrest : (rest.take (width - digits.length)).takeWhile Char.isDigit = []) :
    readDigits? width (digits ++ rest) = some (digits, rest) := by
  have hrun : ((digits ++ rest).take width).takeWhile Char.isDigit = digits := by
    rw [List.take_append, List.take_of_length_le hwidth, List.takeWhile_append_of_pos hdigits,
      hrest, List.append_nil]
  unfold readDigits?
  rw [hrun]
  cases digits with
  | nil => exact absurd rfl hne
  | cons c tail => simp

theorem readDigits?_padded {width number : Nat} (hwidth : 0 < width) (h : number < 10 ^ width)
    (rest : List Char) :
    readDigits? width ((padded width number).toList ++ rest) =
      some ((padded width number).toList, rest) := by
  have hlength := length_padded hwidth h
  refine readDigits?_append _ (padded_ne_nil width number) (fun c => isDigit_of_mem_padded)
    (Nat.le_of_eq hlength) ?_
  rw [hlength, Nat.sub_self, List.take_zero, List.takeWhile_nil]

theorem isBlank_of_isDigit {c : Char} (h : c.isDigit = true) : isBlank c = false := by
  have hlow : 48 ≤ c.toNat ∧ c.toNat ≤ 57 := by
    simp only [Char.isDigit, Bool.and_eq_true, decide_eq_true_eq] at h
    exact ⟨h.1, h.2⟩
  simp only [isBlank]
  grind

theorem skipBlanks_digits {digits : List Char} (hdigits : ∀ c ∈ digits, c.isDigit = true)
    (hne : digits ≠ []) (rest : List Char) : skipBlanks (digits ++ rest) = digits ++ rest := by
  cases digits with
  | nil => exact absurd rfl hne
  | cons c tail =>
    have hc := isBlank_of_isDigit (hdigits c List.mem_cons_self)
    rw [List.cons_append, skipBlanks, List.dropWhile_cons_of_neg (by simp [hc])]

end Text

namespace Calendar

open Text

theorem readNumber?_padded {width number : Nat} (hwidth : 0 < width) (h : number < 10 ^ width)
    (rest : List Char) (hrest : skipBlanks rest = rest) :
    readNumber? width ((padded width number).toList ++ rest) = some (number, rest) := by
  rw [readNumber?, skipBlanks_digits (fun c => isDigit_of_mem_padded) (padded_ne_nil width number),
    readDigits?_padded hwidth h]
  simp only [Option.bind_eq_bind, Option.bind_some, decimalValue_padded, hrest, Option.pure_def]

/-- A year behind a sign has as many digits as there are in front of the hyphen. -/
theorem readDigits?_signed (number : Nat) (tail : List Char) :
    readDigits? ((padded 4 number).toList ++ '-' :: tail).length
        ((padded 4 number).toList ++ '-' :: tail) =
      some ((padded 4 number).toList, '-' :: tail) := by
  refine readDigits?_append _ (padded_ne_nil 4 number) (fun c => isDigit_of_mem_padded) ?_ ?_
  · rw [List.length_append]
    exact Nat.le_add_right _ _
  · rw [List.length_append, Nat.add_sub_cancel_left, List.take_length]
    rfl

theorem readYear?_minus (text : List Char) :
    readYear? ('-' :: text) = (do
      let (digits, rest) ← readDigits? text.length text
      return (-decimalValue digits, skipBlanks rest)) := rfl

theorem readYear?_plus (text : List Char) :
    readYear? ('+' :: text) = (do
      let (digits, rest) ← readDigits? text.length text
      return (decimalValue digits, skipBlanks rest)) := rfl

theorem readYear?_unsigned {digits : List Char} (hne : digits ≠ [])
    (hdigits : ∀ c ∈ digits, c.isDigit = true) (rest : List Char) :
    readYear? (digits ++ rest) = (do
      let (digits, rest) ← readDigits? 4 (digits ++ rest)
      return (decimalValue digits, skipBlanks rest)) := by
  have hsigned : ∀ c tail, digits ++ rest = c :: tail → c.isDigit = true := by
    intro c tail htext
    cases digits with
    | nil => exact absurd rfl hne
    | cons first others =>
      have hfirst : first = c := (List.cons.inj htext).1
      exact hfirst ▸ hdigits first List.mem_cons_self
  rw [readYear?, skipBlanks_digits hdigits hne]
  split
  next tail htext => exact absurd (hsigned '-' tail htext) (by decide)
  next tail htext => exact absurd (hsigned '+' tail htext) (by decide)
  next => rfl

theorem readYear?_written (year : Int) (tail : List Char) :
    readYear? ((Date.writtenYear year).toList ++ '-' :: tail) = some (year, '-' :: tail) := by
  have hhyphen : skipBlanks ('-' :: tail) = '-' :: tail := rfl
  rw [Date.writtenYear]
  split
  next hnegative =>
    have hyear : -(year.natAbs : Int) = year := by omega
    have htext : ("-" ++ padded 4 year.natAbs).toList ++ '-' :: tail =
        '-' :: ((padded 4 year.natAbs).toList ++ '-' :: tail) := by simp
    rw [htext, readYear?_minus, readDigits?_signed]
    simp only [Option.bind_eq_bind, Option.bind_some, decimalValue_padded, hhyphen, hyear,
      Option.pure_def]
  next hnegative =>
    have hyear : (year.natAbs : Int) = year := by omega
    split
    next hshort =>
      have hdigits : year.natAbs < 10 ^ 4 := by omega
      rw [readYear?_unsigned (padded_ne_nil 4 _) (fun c => isDigit_of_mem_padded),
        readDigits?_padded (by decide) hdigits]
      simp only [Option.bind_eq_bind, Option.bind_some, decimalValue_padded, hhyphen, hyear,
        Option.pure_def]
    next hlong =>
      have htext : ("+" ++ padded 4 year.natAbs).toList ++ '-' :: tail =
          '+' :: ((padded 4 year.natAbs).toList ++ '-' :: tail) := by simp
      rw [htext, readYear?_plus, readDigits?_signed]
      simp only [Option.bind_eq_bind, Option.bind_some, decimalValue_padded, hhyphen, hyear,
        Option.pure_def]

/-! ## Dates -/

theorem lt_of_isDate {year : Int} {month day : Nat} (h : isDate year month day = true) :
    month < 10 ^ 2 ∧ day < 10 ^ 2 := by
  simp only [isDate, Bool.and_eq_true, decide_eq_true_eq] at h
  obtain ⟨⟨-, hfirst⟩, hlast⟩ := h
  unfold daysInMonth at hlast
  split at hlast
  case h_1 => split at hlast <;> omega
  all_goals omega

theorem readDate?_render (date : Date) (rest : List Char) (hrest : skipBlanks rest = rest) :
    readDate? (date.render.toList ++ rest) = some (date, rest) := by
  obtain ⟨hmonth, hday⟩ := lt_of_isDate date.valid
  have htext : date.render.toList ++ rest = (Date.writtenYear date.year).toList ++ '-' ::
      ((padded 2 date.month).toList ++ '-' :: ((padded 2 date.day).toList ++ rest)) := by
    simp [Date.render]
  have hmonth := readNumber?_padded (by decide) hmonth
    ('-' :: ((padded 2 date.day).toList ++ rest)) rfl
  have hday := readNumber?_padded (by decide) hday rest hrest
  rw [htext, readDate?, readYear?_written]
  simp only [Option.bind_eq_bind, Option.bind_some, expect?, if_true, hmonth, hday,
    Date.of?_parts, Option.pure_def]

/-! ## Times of day -/

theorem lt_of_isTime {hour minute second nanosecond : Nat}
    (h : isTime hour minute second nanosecond = true) :
    hour < 10 ^ 2 ∧ minute < 10 ^ 2 ∧ second < 10 ^ 2 ∧ nanosecond < 10 ^ 9 := by
  simp only [isTime, Bool.and_eq_true, decide_eq_true_eq] at h
  omega

/-- A fraction of a second is read from its first digits if the others are zeros. -/
theorem readFraction?_padded {width nanosecond : Nat} (hpositive : 0 < width) (hwidth : width ≤ 9)
    (h : nanosecond < 10 ^ 9) (hzeros : nanosecond % 10 ^ (9 - width) = 0) :
    readFraction? ("." ++ padded width (nanosecond / 10 ^ (9 - width))).toList =
      some (nanosecond, []) := by
  have hnumber : nanosecond / 10 ^ (9 - width) < 10 ^ width := by
    rw [Nat.div_lt_iff_lt_mul (Nat.pow_pos (by decide)), ← Nat.pow_add,
      Nat.add_sub_cancel' hwidth]
    exact h
  have hlength := length_padded hpositive hnumber
  have hread := readDigits?_append [] (padded_ne_nil width _)
    (fun c => isDigit_of_mem_padded) (Nat.le_trans (Nat.le_of_eq hlength) hwidth)
    (by simp)
  rw [List.append_nil] at hread
  have htext : ("." ++ padded width (nanosecond / 10 ^ (9 - width))).toList =
      '.' :: (padded width (nanosecond / 10 ^ (9 - width))).toList := by simp
  rw [htext, readFraction?, hread]
  simp only [Option.bind_eq_bind, Option.bind_some, decimalValue_padded, hlength,
    List.dropWhile_nil, Option.pure_def]
  have hexact := Nat.div_mul_cancel (Nat.dvd_of_mod_eq_zero hzeros)
  exact congrArg (fun number => some (number, [])) hexact

theorem readFraction?_written {nanosecond : Nat} (h : nanosecond < 10 ^ 9) :
    readFraction? (Time.writtenFraction nanosecond).toList = some (nanosecond, []) := by
  rw [Time.writtenFraction]
  split
  next hzero => rw [beq_iff_eq.mp hzero]; rfl
  next hzero =>
    split
    next hmillis => exact readFraction?_padded (by decide) (by decide) h (beq_iff_eq.mp hmillis)
    next hmillis =>
      split
      next hmicros => exact readFraction?_padded (by decide) (by decide) h (beq_iff_eq.mp hmicros)
      next hmicros =>
        have hwhole : nanosecond / 10 ^ (9 - 9) = nanosecond := Nat.div_one nanosecond
        have hread := @readFraction?_padded 9 _ (by decide) (by decide) h (Nat.mod_one _)
        rwa [hwhole] at hread

theorem readTime?_render (time : Time) : readTime? time.render.toList = some (time, []) := by
  obtain ⟨hhour, hminute, hsecond, hnanosecond⟩ := lt_of_isTime time.valid
  have htext : time.render.toList = (padded 2 time.hour).toList ++ ':' ::
      ((padded 2 time.minute).toList ++ ':' :: ((padded 2 time.second).toList ++
        (Time.writtenFraction time.nanosecond).toList)) := by
    simp [Time.render]
  have hhour := readNumber?_padded (by decide) hhour (':' :: ((padded 2 time.minute).toList ++
    ':' :: ((padded 2 time.second).toList ++ (Time.writtenFraction time.nanosecond).toList))) rfl
  have hminute := readNumber?_padded (by decide) hminute
    (':' :: ((padded 2 time.second).toList ++ (Time.writtenFraction time.nanosecond).toList)) rfl
  have hskip := skipBlanks_digits (fun c => isDigit_of_mem_padded (c := c))
    (padded_ne_nil 2 time.second) (Time.writtenFraction time.nanosecond).toList
  rw [htext, readTime?]
  simp only [Option.bind_eq_bind, Option.bind_some, expect?, if_true, hhour, hminute, hskip,
    readDigits?_padded (by decide : 0 < 2) hsecond, decimalValue_padded,
    readFraction?_written hnanosecond, Time.of?_parts, Option.pure_def]
  rfl

end Calendar

theorem Date.parse?_render (date : Date) : parse? date.render = some date := by
  have hread := Calendar.readDate?_render date [] rfl
  rw [List.append_nil] at hread
  simp only [parse?, hread, Option.bind_eq_bind, Option.bind_some, List.isEmpty_nil, if_true,
    Option.pure_def]

theorem DateTime.parse?_render (moment : DateTime) :
    parse? (moment.render "T") = some moment := by
  have htext : (moment.render "T").toList =
      moment.date.render.toList ++ 'T' :: moment.time.render.toList := by
    simp [DateTime.render]
  have hdate := Calendar.readDate?_render moment.date ('T' :: moment.time.render.toList) rfl
  simp only [parse?, htext, hdate, Calendar.expect?, Calendar.readTime?_render, if_true,
    Option.bind_eq_bind, Option.bind_some, List.isEmpty_nil, Option.pure_def]

end QueryLoom
