import Mathlib.Algebra.Group.Nat.Defs
import Mathlib.Data.List.TakeWhile
import Mathlib.Data.Option.Basic
import Waterway.Instant.Text

/-!
# Instants read back

The text of an instant denotes the instant, to the nanosecond and with its leap second. Whatever a text denotes, with
any offset and any fraction, is an instant of that kind.

## Main definitions

- `Instant.OnClock` — an instant that a clock can show

## Main statements

- `parse?_text` — an instant that a clock can show is denoted by its text
- `onClock_of_parse?` — no text denotes any other
-/

namespace Waterway.Instant

/-- An instant that a clock of universal time can show: its year is one that instants may have, and if it lies in a leap
second, this is the one after the last second of a minute. -/
structure OnClock (t : Instant) : Prop where
  year : yearInRange t.date.year
  leap : t.isLeap → t.second % 60 = 59

/-! ## Numbers -/

theorem toNat_of_isDigit {c : Char} (h : c.isDigit) : 48 ≤ c.toNat ∧ c.toNat ≤ 57 := by
  simp only [Char.isDigit, Bool.and_eq_true, decide_eq_true_eq, ge_iff_le, UInt32.le_iff_toNat_le] at h
  exact h

theorem not_isBlank_of_isDigit {c : Char} (h : c.isDigit) : ¬Text.isBlank c := by
  have hrange := toNat_of_isDigit h
  simp only [Text.isBlank, Text.blankRanges, List.any_cons, List.any_nil, Bool.or_false, Bool.or_eq_true,
    Bool.and_eq_true, decide_eq_true_eq]
  omega

theorem isDigit_padded {width n : Nat} {c : Char} (h : c ∈ padded width n) : c.isDigit := by
  rcases List.mem_append.mp h with h | h
  · rw [List.eq_of_mem_replicate h]
    decide
  · exact Nat.isDigit_of_mem_toDigits (by decide) (by decide) h

theorem padded_ne_nil (width n : Nat) : padded width n ≠ [] :=
  List.append_ne_nil_of_right_ne_nil _ Nat.toDigits_ne_nil

theorem length_padded {width n : Nat} (hwidth : 0 < width) (h : n < 10 ^ width) : (padded width n).length = width := by
  have hlength := (Nat.length_toDigits_le_iff (by decide) hwidth).mpr h
  rw [padded, List.length_append, List.length_replicate]
  omega

theorem digits_padded (width n : Nat) : digits (padded width n) = n := by
  show (padded width n).foldl (fun n c => 10 * n + (c.toNat - '0'.toNat)) 0 = n
  rw [← Nat.ofDigitChars_eq_foldl, padded, Nat.ofDigitChars_append, Nat.ofDigitChars_replicate_zero, Nat.mul_zero]
  exact Nat.ofDigitChars_ten_toDigits

theorem digits_lt {ds : List Char} (h : ∀ c ∈ ds, c.isDigit) : digits ds < 10 ^ ds.length := by
  have hfrom (n : Nat) : ds.foldl (fun n c => 10 * n + (c.toNat - '0'.toNat)) n < (n + 1) * 10 ^ ds.length := by
    induction ds generalizing n with
    | nil => simp
    | cons c ds ih =>
      have hdigit : c.toNat - '0'.toNat ≤ 9 := by
        have hrange := toNat_of_isDigit (h c List.mem_cons_self)
        have hzero : '0'.toNat = 48 := rfl
        omega
      calc ds.foldl _ (10 * n + (c.toNat - '0'.toNat))
        _ < (10 * n + (c.toNat - '0'.toNat) + 1) * 10 ^ ds.length := ih (fun d hd => h d (List.mem_cons_of_mem _ hd)) _
        _ ≤ (n + 1) * 10 * 10 ^ ds.length := Nat.mul_le_mul_right _ (by omega)
        _ = (n + 1) * 10 ^ (ds.length + 1) := by rw [Nat.pow_succ', Nat.mul_assoc]
  simpa [digits] using hfrom 0

/-! ## Parts of a text -/

/-- A number begins with a digit. -/
theorem exists_padded (width n : Nat) : ∃ c cs, padded width n = c :: cs ∧ c.isDigit := by
  obtain ⟨c, cs, hdigits⟩ := List.exists_cons_of_ne_nil (padded_ne_nil width n)
  exact ⟨c, cs, hdigits, isDigit_padded (hdigits ▸ List.mem_cons_self)⟩

theorem dropWhile_isBlank_padded (width n : Nat) (rest : List Char) :
    (padded width n ++ rest).dropWhile Text.isBlank = padded width n ++ rest := by
  obtain ⟨c, cs, hdigits, hc⟩ := exists_padded width n
  rw [hdigits]
  exact List.dropWhile_cons_of_neg (not_isBlank_of_isDigit hc)

theorem padded_append_ne_cons (width n : Nat) (rest : List Char) {c : Char} (hc : ¬c.isDigit) (cs : List Char) :
    padded width n ++ rest ≠ c :: cs := by
  obtain ⟨d, ds, hdigits, hd⟩ := exists_padded width n
  rw [hdigits]
  intro h
  exact hc ((List.cons.inj h).1 ▸ hd)

theorem takeWhile_padded (width n : Nat) : (padded width n).takeWhile Char.isDigit = padded width n :=
  List.takeWhile_eq_self_iff.mpr fun _ => isDigit_padded

/-- A number of a fixed number of digits reads back. -/
theorem numberWithin?_padded {width n : Nat} (hwidth : 0 < width) (h : n < 10 ^ width) (rest : List Char) :
    numberWithin? width (padded width n ++ rest) = some (n, rest) := by
  have hlength := length_padded hwidth h
  have htaken : (padded width n ++ rest).take width = padded width n := List.take_left' hlength
  unfold numberWithin?
  dsimp only
  rw [dropWhile_isBlank_padded, htaken, takeWhile_padded]
  split
  case h_1 hempty => exact absurd hempty (padded_ne_nil width n)
  case h_2 => rw [digits_padded, List.drop_left]

/-- A number of any number of digits reads back up to the first character that is no digit. -/
theorem number?_padded (width n : Nat) {c : Char} (hc : ¬c.isDigit) (rest : List Char) :
    number? (padded width n ++ c :: rest) = some (n, c :: rest) := by
  have htaken : (padded width n ++ c :: rest).takeWhile Char.isDigit = padded width n := by
    rw [List.takeWhile_append_of_pos fun _ => isDigit_padded, List.takeWhile_cons_of_neg hc, List.append_nil]
  have hdropped : (padded width n ++ c :: rest).dropWhile Char.isDigit = c :: rest := by
    rw [List.dropWhile_append_of_pos fun _ => isDigit_padded, List.dropWhile_cons_of_neg hc]
  unfold number?
  rw [htaken, hdropped]
  split
  case h_1 hempty => exact absurd hempty (padded_ne_nil width n)
  case h_2 => rw [digits_padded]

theorem mark?_cons {c : Char} (hc : ¬Text.isBlank c) (rest : List Char) : mark? c (c :: rest) = some rest := by
  rw [mark?, List.dropWhile_cons_of_neg hc]
  exact if_pos rfl

/-- A year reads back, with its sign if it has one. -/
theorem year?_yearText (year : Int) (rest : List Char) :
    year? (yearText year ++ '-' :: rest) = some (year, '-' :: rest) := by
  unfold yearText
  split
  case isTrue hplain =>
    have hyear : (year.toNat : Int) = year := by omega
    unfold year?
    rw [dropWhile_isBlank_padded]
    split
    case h_1 heq => exact absurd heq (padded_append_ne_cons _ _ _ (by decide) _)
    case h_2 heq => exact absurd heq (padded_append_ne_cons _ _ _ (by decide) _)
    case h_3 =>
      rw [numberWithin?_padded (by decide) (by omega)]
      exact congrArg (fun y => some (y, '-' :: rest)) hyear
  case isFalse =>
    split
    case isTrue hnegative =>
      have hyear : -(year.natAbs : Int) = year := by omega
      show (number? (padded 4 year.natAbs ++ '-' :: rest)).bind _ = _
      rw [number?_padded _ _ (by decide)]
      exact congrArg (fun y => some (y, '-' :: rest)) hyear
    case isFalse hpositive =>
      have hyear : (year.natAbs : Int) = year := by omega
      show (number? (padded 4 year.natAbs ++ '-' :: rest)).bind _ = _
      rw [number?_padded _ _ (by decide)]
      exact congrArg (fun y => some (y, '-' :: rest)) hyear

/-- A fraction of up to nine digits reads back. -/
theorem fraction?_padded {width n : Nat} (hwidth : 0 < width) (hnine : width ≤ 9) (h : n < 10 ^ width)
    (rest : List Char) :
    fraction? ('.' :: padded width n ++ 'Z' :: rest) = some (n * 10 ^ (9 - width), 'Z' :: rest) := by
  have hlength := length_padded hwidth h
  have htaken : (padded width n ++ 'Z' :: rest).takeWhile Char.isDigit = padded width n := by
    rw [List.takeWhile_append_of_pos fun _ => isDigit_padded, List.takeWhile_cons_of_neg (by decide), List.append_nil]
  have hdropped : (padded width n ++ 'Z' :: rest).dropWhile Char.isDigit = 'Z' :: rest := by
    rw [List.dropWhile_append_of_pos fun _ => isDigit_padded, List.dropWhile_cons_of_neg (by decide)]
  have hnine : (padded width n).take 9 = padded width n := List.take_of_length_le (by omega)
  rw [List.cons_append, fraction?, htaken, hdropped, hnine]
  split
  case h_1 hempty => exact absurd hempty (padded_ne_nil width n)
  case h_2 => rw [digits_padded, hlength]; rfl

theorem fraction?_fractionText {nano : Nat} (h : nano < 1000000000) (rest : List Char) :
    fraction? (fractionText nano ++ 'Z' :: rest) = some (nano, 'Z' :: rest) := by
  unfold fractionText
  split
  case isTrue hzero => rw [hzero]; rfl
  case isFalse =>
    split
    case isTrue =>
      have hnano : nano / 1000000 * 10 ^ (9 - 3) = nano := by omega
      rw [fraction?_padded (by decide) (by decide) (by omega), hnano]
    case isFalse =>
      split
      case isTrue =>
        have hnano : nano / 1000 * 10 ^ (9 - 6) = nano := by omega
        rw [fraction?_padded (by decide) (by decide) (by omega), hnano]
      case isFalse =>
        have hnano : nano * 10 ^ (9 - 9) = nano := by omega
        rw [fraction?_padded (by decide) (by decide) h, hnano]

/-! ## Whole texts -/

theorem addSeconds_zero (t : Instant) : t.addSeconds 0 = t := by
  have hsecond := t.second_lt
  have hday : ((t.second : Int) + 0) / 86400 = 0 := by omega
  have hrest : (((t.second : Int) + 0) % 86400).toNat = t.second := by omega
  obtain ⟨date, second, nano, _, _⟩ := t
  simp only [addSeconds, hday, hrest]
  rfl

/-- A clock reading of universal time is the instant it shows. -/
theorem ofClock?_of {t : Instant} {hour minute second nano leap : Nat} (hyear : yearInRange t.date.year)
    (hhour : hour < 24) (hminute : minute < 60) (hsecond : second ≤ 60) (hleap : leap = if second = 60 then 1 else 0)
    (htime : hour * 3600 + minute * 60 + second - leap = t.second) (hnano : nano + leap * 1000000000 = t.nano) :
    ofClock? t.date.year t.date.month t.date.day hour minute second nano 0 = some t := by
  have hdate : Date.mk? t.date.year t.date.month t.date.day = some t.date := dif_pos ⟨t.date.day_pos, t.date.day_le⟩
  have hlocal : mk? t.date t.second t.nano = some t := dif_pos ⟨t.second_lt, t.nano_lt⟩
  have hchecked : (guard (yearInRange t.date.year && decide (hour < 24) && decide (minute < 60) &&
      decide (second ≤ 60) && decide ((0 : Int).natAbs < 86400)) : Option Unit) = some () :=
    if_pos (by simp [hyear, hhour, hminute, hsecond])
  have hkept : (guard (yearInRange t.date.year) : Option Unit) = some () := if_pos hyear
  simp only [ofClock?, hchecked, hkept, ← hleap, htime, hnano, hdate, hlocal, Int.neg_zero, addSeconds_zero,
    Option.bind_eq_bind, Option.bind_some]

/-- The clock reading that the text of an instant shows is that of the instant. -/
theorem ofClock?_eq_some {t : Instant} (h : t.OnClock) :
    ofClock? t.date.year t.date.month t.date.day (t.second / 3600) (t.second / 60 % 60)
      (t.second % 60 + if t.isLeap then 1 else 0) (t.nano % 1000000000) 0 = some t := by
  have hsecond := t.second_lt
  have hnano := t.nano_lt
  by_cases hleap : t.isLeap
  · have hlast := h.leap hleap
    have hlong : 1000000000 ≤ t.nano := of_decide_eq_true hleap
    rw [if_pos hleap, hlast]
    exact ofClock?_of h.year (by omega) (by omega) (by decide) (if_pos rfl).symm (by omega) (by omega)
  · have hshort : ¬1000000000 ≤ t.nano := fun hlong => hleap (decide_eq_true hlong)
    rw [if_neg hleap]
    exact ofClock?_of h.year (by omega) (by omega) (by omega) (if_neg (by omega)).symm (by omega) (by omega)

theorem day_le_thirtyOne (d : Date) : d.day ≤ 31 := by
  have hday := d.day_le
  unfold daysInMonth at hday
  repeat' split at hday
  all_goals omega

/-- An instant that a clock can show is denoted by its text. -/
theorem parse?_text {t : Instant} (h : t.OnClock) : parse? t.text = some t := by
  have hmonth_range := t.date.month_range
  have hday_range := day_le_thirtyOne t.date
  have hsecond_range := t.second_lt
  have hleap : (if t.isLeap then 1 else 0) ≤ 1 := by split <;> decide
  have htwo {n : Nat} (h : n < 100) (rest : List Char) : numberWithin? 2 (padded 2 n ++ rest) = some (n, rest) :=
    numberWithin?_padded (by decide) h rest
  have hmonth := @htwo t.date.month (by omega)
  have hday := @htwo t.date.day (by omega)
  have hhour := @htwo (t.second / 3600) (by omega)
  have hminute := @htwo (t.second / 60 % 60) (by omega)
  have hsecond := @htwo (t.second % 60 + if t.isLeap then 1 else 0) (by omega)
  have hnano := @fraction?_fractionText (t.nano % 1000000000) (by omega) []
  have hdash := mark?_cons (c := '-') (by decide)
  have hcolon := mark?_cons (c := ':') (by decide)
  have hzone : offset? (['Z'].dropWhile Text.isBlank) = some (0, []) := by decide
  simp only [parse?, text, String.toList_ofList, List.append_assoc, List.cons_append]
  -- the fields are read one after the other
  have hstep {α β : Type} {x : Option α} {a : α} {f : α → Option β} {b : β} (hx : x = some a) (hf : f a = some b) :
      (x >>= f) = some b := Option.bind_eq_some_iff.mpr ⟨a, hx, hf⟩
  refine hstep (year?_yearText _ _) (hstep (hdash _) (hstep (hmonth _) (hstep (hdash _) (hstep (hday _) ?_))))
  refine hstep rfl (hstep (hhour _) (hstep (hcolon _) (hstep (hminute _) (hstep (hcolon _) (hstep (hsecond _) ?_)))))
  exact hstep hnano (hstep hzone (hstep rfl (ofClock?_eq_some h)))

/-! ## What texts denote -/

theorem fraction?_lt {cs rest : List Char} {nano : Nat} (h : fraction? cs = some (nano, rest)) : nano < 1000000000 := by
  unfold fraction? at h
  split at h
  case h_1 cs =>
    split at h
    case h_1 => cases h
    case h_2 =>
      cases h
      have hdigits : ∀ c ∈ (cs.takeWhile Char.isDigit).take 9, c.isDigit := fun c hc =>
        List.mem_takeWhile_imp (List.mem_of_mem_take hc)
      have hlength : ((cs.takeWhile Char.isDigit).take 9).length ≤ 9 := List.length_take_le 9 _
      calc digits _ * 10 ^ (9 - ((cs.takeWhile Char.isDigit).take 9).length)
        _ < 10 ^ ((cs.takeWhile Char.isDigit).take 9).length * 10 ^ (9 - ((cs.takeWhile Char.isDigit).take 9).length) :=
          Nat.mul_lt_mul_of_pos_right (digits_lt hdigits) (Nat.pow_pos (by decide))
        _ = 10 ^ 9 := by rw [← Nat.pow_add, Nat.add_sub_cancel' hlength]
  case h_2 =>
    cases h
    decide

/-- An offset consists of whole minutes. -/
theorem dvd_of_offset? {cs rest : List Char} {seconds : Int} (h : offset? cs = some (seconds, rest)) :
    60 ∣ seconds := by
  unfold offset? at h
  split at h
  case h_1 | h_2 =>
    cases h
    exact Int.dvd_zero 60
  case h_3 c rest' _ _ =>
    dsimp only at h
    split at h
    · cases h
      exact Int.dvd_zero 60
    · split at h
      · simp only [Option.bind_eq_bind, Option.bind_eq_some_iff] at h
        obtain ⟨hours, -, minutes, -, h⟩ := h
        split at h
        · cases h
          split <;> omega
        · cases h
      · cases h
  case h_4 => cases h

theorem of_guard {p : Prop} [Decidable p] {u : Unit} (h : (guard p : Option Unit) = some u) : p := by
  by_contra hp
  rw [guard, if_neg hp] at h
  cases h

theorem mk?_eq_some {date : Date} {second nano : Nat} {t : Instant} (h : mk? date second nano = some t) :
    t.second = second ∧ t.nano = nano := by
  unfold mk? at h
  split at h
  · cases h
    exact ⟨rfl, rfl⟩
  · cases h

/-- A clock reading with an offset of whole minutes is an instant that a clock of universal time can show. -/
theorem onClock_of_ofClock? {year offset : Int} {month day hour minute second nano : Nat} {t : Instant}
    (hnano : nano < 1000000000) (hoffset : 60 ∣ offset)
    (h : ofClock? year month day hour minute second nano offset = some t) : t.OnClock := by
  simp only [ofClock?, Option.bind_eq_bind, Option.bind_eq_some_iff] at h
  obtain ⟨_, -, date, -, local_, hlocal, _, hyear, heq⟩ := h
  obtain rfl := Option.some_inj.mp heq
  refine ⟨of_guard hyear, fun hleap => ?_⟩
  obtain ⟨hsecond, hnano'⟩ := mk?_eq_some hlocal
  have hlong : 1000000000 ≤ local_.nano := of_decide_eq_true hleap
  -- only second 60 of a clock has brought so many nanoseconds
  have hlast : second = 60 := by
    by_contra hne
    rw [if_neg hne] at hnano'
    omega
  rw [if_pos hlast] at hsecond
  show (((local_.second : Int) + -offset) % 86400).toNat % 60 = 59
  omega

/-- What a text that denotes an instant consists of, as far as the rest of its clock reading goes. -/
theorem exists_clock_of_parse? {s : String} {t : Instant} (h : parse? s = some t) :
    ∃ (year : Int) (month day hour minute second nano : Nat) (offset : Int),
      (∃ cs rest, fraction? cs = some (nano, rest)) ∧ (∃ cs rest, offset? cs = some (offset, rest)) ∧
        ofClock? year month day hour minute second nano offset = some t := by
  unfold parse? parseChars? at h
  obtain ⟨⟨year, cs⟩, -, h⟩ := Option.bind_eq_some_iff.mp h
  obtain ⟨cs, -, h⟩ := Option.bind_eq_some_iff.mp h
  obtain ⟨⟨month, cs⟩, -, h⟩ := Option.bind_eq_some_iff.mp h
  obtain ⟨cs, -, h⟩ := Option.bind_eq_some_iff.mp h
  obtain ⟨⟨day, cs⟩, -, h⟩ := Option.bind_eq_some_iff.mp h
  -- the letter between date and time of day may be one of three
  dsimp only at h
  split at h
  case h_4 => cases h
  all_goals
    obtain ⟨cs, -, h⟩ := Option.bind_eq_some_iff.mp h
    obtain ⟨⟨hour, cs⟩, -, h⟩ := Option.bind_eq_some_iff.mp h
    obtain ⟨cs, -, h⟩ := Option.bind_eq_some_iff.mp h
    obtain ⟨⟨minute, cs⟩, -, h⟩ := Option.bind_eq_some_iff.mp h
    obtain ⟨cs, -, h⟩ := Option.bind_eq_some_iff.mp h
    obtain ⟨⟨second, cs⟩, -, h⟩ := Option.bind_eq_some_iff.mp h
    obtain ⟨⟨nano, cs⟩, hnano, h⟩ := Option.bind_eq_some_iff.mp h
    obtain ⟨⟨offset, cs⟩, hoffset, h⟩ := Option.bind_eq_some_iff.mp h
    obtain ⟨-, -, hclock⟩ := Option.bind_eq_some_iff.mp h
    exact ⟨_, _, _, _, _, _, _, _, ⟨_, _, hnano⟩, ⟨_, _, hoffset⟩, hclock⟩

/-- No text denotes an instant that a clock cannot show. -/
theorem onClock_of_parse? {s : String} {t : Instant} (h : parse? s = some t) : t.OnClock := by
  obtain ⟨year, month, day, hour, minute, second, nano, offset, ⟨_, _, hnano⟩, ⟨_, _, hoffset⟩, hclock⟩ :=
    exists_clock_of_parse? h
  exact onClock_of_ofClock? (fraction?_lt hnano) (dvd_of_offset? hoffset) hclock

theorem parse?_text_iff {t : Instant} : parse? t.text = some t ↔ t.OnClock :=
  ⟨onClock_of_parse?, parse?_text⟩

end Waterway.Instant
