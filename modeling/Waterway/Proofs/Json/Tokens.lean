import Mathlib.Algebra.Group.Int.Defs
import Mathlib.Algebra.Group.Nat.Defs
import Mathlib.Data.List.TakeWhile
import Waterway.Json.Draft
import Waterway.Json.Printer

/-!
# The tokens of numbers, words and strings

The printer writes numbers and words as runs of letters, digits, signs and points, and strings between quotes. The
scanner finds them again, and where they end does not depend on what follows.

## Main definitions

- `Apart` — what follows cannot prolong a number or a word

## Main statements

- `scan_run` — a number or a word is scanned to its end
- `bareTokens_integer` — an integer of 64 bits is one token
- `scan_printText` — so is a string, whatever its characters
-/

namespace Waterway.Json

/-! ## Numbers and words -/

/-- What follows does not begin with a character that may belong to a number or a word. -/
def Apart (cs : List Char) : Prop :=
  ∀ c ∈ cs.head?, ¬isBare c

theorem apart_nil : Apart [] := by
  rintro _ ⟨⟩

theorem apart_cons {c : Char} (h : ¬isBare c) (cs : List Char) : Apart (c :: cs) := by
  rintro _ ⟨⟩
  exact h

theorem begin?_of_isBare {c : Char} (h : isBare c) : begin? c = some ([], .inRun [c]) := by
  unfold begin?
  split <;> first | exact absurd h (by decide) | exact if_pos h

/-- A run of bare characters is scanned to its end and no further. -/
theorem scan_inRun {run rest : List Char} (hrun : ∀ c ∈ run, isBare c) (hrest : Apart rest) (read : List Char) :
    scan (.inRun read) (run ++ rest) = bareTokens (read.reverse ++ run) ++ scan .between rest := by
  induction run generalizing read with
  | nil =>
    cases rest with
    | nil => simp [scan]
    | cons c cs =>
      have hc : ¬isBare c := hrest c rfl
      simp [scan, hc]
  | cons c run ih =>
    have hc : isBare c := hrun c List.mem_cons_self
    rw [List.cons_append, scan, if_pos hc, ih fun d hd => hrun d (List.mem_cons_of_mem _ hd)]
    simp

theorem scan_run {run rest : List Char} (hne : run ≠ []) (hrun : ∀ c ∈ run, isBare c) (hrest : Apart rest) :
    scan .between (run ++ rest) = bareTokens run ++ scan .between rest := by
  cases run with
  | nil => exact absurd rfl hne
  | cons c run =>
    rw [List.cons_append, scan, begin?_of_isBare (hrun c List.mem_cons_self)]
    exact scan_inRun (fun d hd => hrun d (List.mem_cons_of_mem _ hd)) hrest [c]

/-- The tokens of a run are at most one and the mark that the rest of it is not JSON. -/
theorem bareTokens_shape (run : List Char) : ∃ t, bareTokens run = [t] ∨ bareTokens run = [t, .stop] := by
  unfold bareTokens
  split
  split
  · exact ⟨_, .inl rfl⟩
  · exact ⟨_, .inr rfl⟩

theorem isBare_of_all {run : List Char} (h : run.all isBare) {c : Char} (hc : c ∈ run) : isBare c :=
  List.all_eq_true.mp h c hc

theorem isBare_of_isDigit {c : Char} (h : c.isDigit) : isBare c := by
  simp [isBare, Char.isAlphanum, h]

theorem isBare_toDigits {n : Nat} {c : Char} (h : c ∈ Nat.toDigits 10 n) : isBare c :=
  isBare_of_isDigit (Nat.isDigit_of_mem_toDigits (by decide) (by decide) h)

theorem isBare_sign {condition : Prop} [Decidable condition] {c : Char}
    (h : c ∈ if condition then ['-'] else []) : isBare c := by
  split at h
  · rw [List.mem_singleton.mp h]
    decide
  · cases h

theorem isBare_replicate {n : Nat} {c : Char} (h : c ∈ List.replicate n '0') : isBare c := by
  rw [List.eq_of_mem_replicate h]
  decide

theorem isBare_positional {d : Decimal.Digits} {c : Char} (h : c ∈ d.positional) : isBare c := by
  unfold Decimal.Digits.positional at h
  split at h
  · simp only [List.mem_append, List.mem_cons, List.not_mem_nil, or_false] at h
    rcases h with (h | h) | rfl | rfl
    · exact isBare_toDigits h
    · exact isBare_replicate h
    · decide
    · decide
  · have hpadded (n : Nat) {c : Char} (h : c ∈ List.replicate n '0' ++ Nat.toDigits 10 d.significand) : isBare c :=
      (List.mem_append.mp h).elim isBare_replicate isBare_toDigits
    simp only [List.mem_append, List.mem_cons] at h
    rcases h with h | rfl | h
    · exact hpadded _ (List.mem_of_mem_take h)
    · decide
    · exact hpadded _ (List.mem_of_mem_drop h)

theorem isBare_scientific {d : Decimal.Digits} {c : Char} (h : c ∈ d.scientific) : isBare c := by
  unfold Decimal.Digits.scientific at h
  simp only [List.mem_append, List.mem_cons] at h
  rcases h with h | rfl | rfl | h
  · cases hdigits : Nat.toDigits 10 d.significand with
    | nil => simp [hdigits] at h
    | cons first more =>
      have hmem (c : Char) (hc : c ∈ first :: more) : isBare c := isBare_toDigits (hdigits ▸ hc)
      cases more with
      | nil => exact hmem c (by simpa [hdigits] using h)
      | cons second more =>
        simp only [hdigits, List.mem_cons] at h
        rcases h with rfl | rfl | h
        · exact hmem _ List.mem_cons_self
        · decide
        · exact hmem c (by simp [h])
  · decide
  · split <;> decide
  · exact isBare_toDigits h

theorem isBare_digits {l : Decimal.Layout} {d : Decimal.Digits} {c : Char} (h : c ∈ l.digits d) : isBare c := by
  unfold Decimal.Layout.digits at h
  split at h
  · exact isBare_positional h
  · exact isBare_scientific h

/-- The text of a finite double consists of bare characters. -/
theorem isBare_write {l : Decimal.Layout} {x : Float} {c : Char} (h : c ∈ (l.write x).toList) : isBare c := by
  rw [Decimal.Layout.write, String.toList_ofList, List.mem_append] at h
  exact h.elim isBare_sign isBare_digits

theorem isBare_integer {n : Int} {c : Char} (h : c ∈ (toString n).toList) : isBare c := by
  rw [Int.toString_eq_repr, Int.repr_eq_if] at h
  split at h
  · rw [Nat.toList_repr] at h
    exact isBare_toDigits h
  · rw [String.toList_append, Nat.toList_repr, List.mem_append] at h
    rcases h with h | h
    · rw [List.mem_singleton.mp h]
      decide
    · exact isBare_toDigits h

/-- Only zero begins with the digit zero. -/
theorem eq_zero_of_head?_toDigits {n : Nat} (h : (Nat.toDigits 10 n).head? = some '0') : n = 0 := by
  induction n using Nat.strongRecOn with
  | ind n ih =>
    by_cases hsmall : n < 10
    · rw [Nat.toDigits_of_lt_base hsmall, List.head?_cons, Option.some_inj, Nat.digitChar_eq_zero] at h
      exact h
    · have hsome : (Nat.toDigits 10 (n / 10)).head?.isSome := List.isSome_head?.mpr Nat.toDigits_ne_nil
      rw [Nat.toDigits_of_base_le (by decide) (by omega), List.head?_append, Option.or_of_isSome hsome] at h
      have hfirst : n / 10 = 0 := ih (n / 10) (by omega) h
      omega

theorem digitsValue_toDigits (n : Nat) : digitsValue (Nat.toDigits 10 n) = n :=
  Nat.ofDigitChars_eq_foldl.symm.trans Nat.ofDigitChars_ten_toDigits

theorem numberToken_toDigits (negative : Bool) (n : Nat) :
    numberToken negative (Nat.toDigits 10 n) = (integerToken negative n, []) := by
  have hall : ∀ c ∈ Nat.toDigits 10 n, c.isDigit := fun c hc =>
    Nat.isDigit_of_mem_toDigits (by decide) (by decide) hc
  have hwhole : (Nat.toDigits 10 n).takeWhile Char.isDigit = Nat.toDigits 10 n := List.takeWhile_eq_self_iff.mpr hall
  have hrest : (Nat.toDigits 10 n).dropWhile Char.isDigit = [] := List.dropWhile_eq_nil_iff.mpr hall
  have hproper : ¬((Nat.toDigits 10 n).isEmpty ∨
      (Nat.toDigits 10 n).head? = some '0' ∧ 1 < (Nat.toDigits 10 n).length) := by
    rintro (hempty | ⟨hzero, hlong⟩)
    · exact Nat.toDigits_ne_nil (List.isEmpty_iff.mp hempty)
    · rw [eq_zero_of_head?_toDigits hzero] at hlong
      exact absurd hlong (by decide)
  rw [numberToken, hwhole, hrest, if_neg hproper, digitsValue_toDigits]

/-- A run that begins with a digit is a number. -/
theorem bareTokens_of_isDigit {c : Char} {cs : List Char} (h : c.isDigit) {t : Token}
    (ht : numberToken false (c :: cs) = (t, [])) : bareTokens (c :: cs) = [t] := by
  unfold bareTokens
  split
  next token rest heq =>
    split at heq
    case h_5 =>
      rw [ht] at heq
      cases heq
      rfl
    all_goals
      obtain rfl := (List.cons.inj ‹_›).1
      exact absurd h (by decide)

/-- A run that begins with a minus is a number, too. -/
theorem bareTokens_minus {cs : List Char} {t : Token} (ht : numberToken true cs = (t, [])) :
    bareTokens ('-' :: cs) = [t] := by
  unfold bareTokens
  split
  next token rest heq =>
    have hnumber : numberToken true cs = (token, rest) := heq
    rw [ht] at hnumber
    cases hnumber
    rfl

theorem bareTokens_toDigits (n : Nat) : bareTokens (Nat.toDigits 10 n) = [integerToken false n] := by
  have hnumber := numberToken_toDigits false n
  cases hdigits : Nat.toDigits 10 n with
  | nil => exact absurd hdigits Nat.toDigits_ne_nil
  | cons c cs =>
    have hc : c.isDigit := Nat.isDigit_of_mem_toDigits (by decide) (by decide) (hdigits ▸ List.mem_cons_self)
    rw [hdigits] at hnumber
    exact bareTokens_of_isDigit hc hnumber

/-- An integer of 64 bits, with or without a sign, is one token. -/
theorem bareTokens_integer {n : Int} (hleast : -(2 ^ 63) ≤ n) (hgreatest : n < 2 ^ 64) :
    bareTokens (toString n).toList = [.integer n] := by
  rw [Int.toString_eq_repr, Int.repr_eq_if]
  split
  case isTrue hsign =>
    have hsmall : n.toNat < Nat.pow 2 64 := by show n.toNat < 2 ^ 64; omega
    rw [Nat.toList_repr, bareTokens_toDigits, integerToken, if_neg Bool.false_ne_true, if_pos hsmall,
      Int.toNat_of_nonneg hsign]
  case isFalse hsign =>
    have hsmall : 0 < (-n).toNat ∧ (-n).toNat ≤ Nat.pow 2 63 := by show _ ∧ (-n).toNat ≤ 2 ^ 63; omega
    have htoken : integerToken true (-n).toNat = .integer n := by
      rw [integerToken, if_pos rfl, if_pos hsmall, Int.toNat_of_nonneg (by omega), Int.neg_neg]
    rw [String.toList_append, Nat.toList_repr]
    exact bareTokens_minus ((numberToken_toDigits true _).trans (by rw [htoken]))

/-! ## Strings -/

theorem exists_hex4 {n : Nat} (h : n < 32) : ∃ a b c d, hex4 n = [a, b, c, d] ∧ unit? a b c d = some n := by
  have hhex : ∀ n < 32, hex4 n = ['0', '0', Nat.digitChar (n / 16), Nat.digitChar (n % 16)] := by decide
  have hunit : ∀ n < 32, unit? '0' '0' (Nat.digitChar (n / 16)) (Nat.digitChar (n % 16)) = some n := by decide
  exact ⟨_, _, _, _, hhex n h, hunit n h⟩

theorem scan_plain (s : Scanned) {c : Char} (rest : List Char) (hquote : c ≠ '"') (hslash : c ≠ '\\')
    (hcontrol : ¬c.toNat < 0x20) : scan (.inText s) (c :: rest) = scan (.inText (s.push c)) rest := by
  rw [scan, if_neg]
  all_goals simp_all

/-- A character of a string is scanned back from its written form. -/
theorem scan_escape (s : Scanned) (c : Char) (rest : List Char) :
    scan (.inText s) (escape c ++ rest) = scan (.inText (s.push c)) rest := by
  unfold escape
  split
  case h_8 hquote hslash _ _ _ _ _ =>
    split
    case isTrue hcontrol =>
      obtain ⟨a, b, c', d, hhex, hunit⟩ := exists_hex4 hcontrol
      have hpush : s.pushUnit c.toNat = s.push c := by
        rw [Scanned.pushUnit, if_neg (by omega), if_neg (by omega), Char.ofNat_toNat]
      rw [hhex]
      show scan (.inText s) ('\\' :: 'u' :: a :: b :: c' :: d :: rest) = _
      rw [scan, hunit, ← hpush]
    case isFalse hcontrol => exact scan_plain s rest hquote hslash hcontrol
  all_goals rfl

/-- The rest of a string is scanned back, up to its closing quote. -/
theorem scan_inText (read cs rest : List Char) :
    scan (.inText ⟨read, none, true⟩) (cs.flatMap escape ++ '"' :: rest) =
      .text (String.ofList (read.reverse ++ cs)) :: scan .between rest := by
  induction cs generalizing read with
  | nil =>
    rw [List.append_nil]
    rfl
  | cons c cs ih =>
    have hpush : Scanned.push ⟨read, none, true⟩ c = ⟨c :: read, none, true⟩ := rfl
    rw [List.flatMap_cons, List.append_assoc, scan_escape, hpush, ih, List.reverse_cons, List.append_assoc]
    rfl

/-- A string is one token, whatever its characters. -/
theorem scan_printText (s : String) (rest : List Char) :
    scan .between (printText s ++ rest) = .text s :: scan .between rest := by
  have h := scan_inText [] s.toList rest
  rw [List.reverse_nil, List.nil_append, String.ofList_toList] at h
  rw [← h, printText, List.cons_append, List.cons_append, List.append_assoc]
  rfl

end Waterway.Json
