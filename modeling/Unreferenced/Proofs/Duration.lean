import Unreferenced.Duration
import Unreferenced.Proofs.Numeric.Double

/-!
# Durations for people

People are shown a duration in milliseconds, in seconds with one decimal or in minutes and
seconds (`Duration.Shown`), and the text says which of them it is (`Duration.Shown.text_inj`).
Milliseconds and minutes are cut off and tenths of a second are rounded, to the nearest one of
the duration in spite of the errors of double arithmetic (`Duration.tenths_near`).  So from
59.95 seconds on, a full minute is shown in the form for less than that
(`Duration.full_minute_shown_iff`).
-/

namespace Unreferenced

/-- Where the digits of a number end, the number is known. -/
theorem Text.toDigits_append_inj {m n : Nat} {c d : Char} {front back : List Char}
    (hc : c.isDigit = false) (hd : d.isDigit = false)
    (same : Nat.toDigits 10 m ++ c :: front = Nat.toDigits 10 n ++ d :: back) :
    m = n ∧ c :: front = d :: back := by
  have digits {n : Nat} {c : Char} {rest : List Char} (hc : c.isDigit = false) :
      (Nat.toDigits 10 n ++ c :: rest).takeWhile Char.isDigit = Nat.toDigits 10 n := by
    rw [List.takeWhile_append_of_pos, List.takeWhile_cons_of_neg (by simp [hc]), List.append_nil]
    intro digit member
    exact Nat.isDigit_of_mem_toDigits (by decide) (by decide) member
  have number : Nat.toDigits 10 m = Nat.toDigits 10 n := by
    rw [← digits hc, same, digits hd]
  constructor
  · rw [← Nat.ofDigitChars_ten_toDigits (n := m), number, Nat.ofDigitChars_ten_toDigits]
  · rw [number] at same
    exact List.append_cancel_left same

namespace Duration

open Numeric (Double)

/-! ## What is shown -/

/-- What people are shown of a duration: milliseconds, tenths of a second, or minutes and
seconds. -/
inductive Shown
  | millis (count : Nat)
  | tenths (count : Nat)
  | minutes (count seconds : Nat)
deriving DecidableEq, Repr

namespace Shown

/-- The text that people read. -/
def text : Shown → String
  | millis n => toString n ++ "ms"
  | tenths n => toString (n / 10) ++ "." ++ toString (n % 10) ++ "s"
  | minutes n s => toString n ++ "m " ++ toString s ++ "s"

/-- At least one unit is shown in the form for it, and no full unit in the form for less. -/
def IsProper : Shown → Prop
  | millis n => n < 1000
  | tenths n => 10 ≤ n ∧ n < 600
  | minutes n s => 1 ≤ n ∧ s < 60

instance : DecidablePred IsProper
  | millis _ => inferInstanceAs (Decidable (_ < _))
  | tenths _ => inferInstanceAs (Decidable (_ ∧ _))
  | minutes _ _ => inferInstanceAs (Decidable (_ ∧ _))

/-- The number that the text begins with. -/
def first : Shown → Nat
  | millis n => n
  | tenths n => n / 10
  | minutes n _ => n

/-- The text after this number. -/
def rest : Shown → List Char
  | millis _ => ['m', 's']
  | tenths n => '.' :: (Nat.toDigits 10 (n % 10) ++ ['s'])
  | minutes _ s => 'm' :: ' ' :: (Nat.toDigits 10 s ++ ['s'])

theorem toList_text (shown : Shown) :
    shown.text.toList = Nat.toDigits 10 shown.first ++ shown.rest := by
  cases shown <;> simp [text, first, rest, Nat.toString_eq_repr]

theorem exists_rest_eq (shown : Shown) :
    ∃ mark after, shown.rest = mark :: after ∧ mark.isDigit = false := by
  cases shown <;> exact ⟨_, _, rfl, by decide⟩

/-- The text says what is shown. -/
theorem text_inj {a b : Shown} : a.text = b.text ↔ a = b := by
  constructor
  · intro same
    obtain ⟨mark, after, restA, noDigit⟩ := a.exists_rest_eq
    obtain ⟨mark', after', restB, noDigit'⟩ := b.exists_rest_eq
    rw [← String.toList_inj, toList_text, toList_text, restA, restB] at same
    obtain ⟨begins, ends⟩ := Text.toDigits_append_inj noDigit noDigit' same
    rw [← restA, ← restB] at ends
    have digit : 's'.isDigit = false := by decide
    cases a with
    | millis n =>
      cases b with
      | millis n' => exact congrArg millis begins
      | tenths n' => simp [rest] at ends
      | minutes n' s' => simp [rest] at ends
    | tenths n =>
      cases b with
      | millis n' => simp [rest] at ends
      | tenths n' =>
        obtain ⟨last, -⟩ := Text.toDigits_append_inj digit digit (List.cons.inj ends).2
        exact congrArg tenths (by simp only [first] at begins; omega)
      | minutes n' s' => simp [rest] at ends
    | minutes n s =>
      cases b with
      | millis n' => simp [rest] at ends
      | tenths n' => simp [rest] at ends
      | minutes n' s' =>
        obtain ⟨last, -⟩ :=
          Text.toDigits_append_inj digit digit (List.cons.inj (List.cons.inj ends).2).2
        exact congrArg₂ minutes begins last
  · rintro rfl
    rfl

end Shown

/-! ## Seconds -/

/-- The whole duration in nanoseconds. -/
def nanoseconds (d : Duration) : Nat := d.secs * 1000000000 + d.nanos

theorem nanoseconds_div (d : Duration) : d.nanoseconds / 1000000000 = d.secs := by
  have nanos := d.nanos_lt
  simp only [nanoseconds]
  omega

theorem secs_lt_iff {d : Duration} : d.secs < 60 ↔ d.nanoseconds < 60000000000 := by
  rw [← nanoseconds_div]
  omega

/-- Below a minute, the seconds as a double are the duration but for an error that is far
below a nanosecond. -/
theorem abs_seconds_sub_le {d : Duration} (short : d.secs < 60) :
    |d.seconds.toRat - d.nanoseconds / 1000000000| ≤ 1 / 2 ^ 46 := by
  have nanos : (d.nanos : ℚ) ≤ 1000000000 := by exact_mod_cast d.nanos_lt.le
  have secs : (d.secs : ℚ) ≤ 59 := by exact_mod_cast Nat.lt_succ_iff.mp short
  have exactSecs : (Double.ofNat d.secs).toRat = d.secs :=
    Double.toRat_ofNat (short.trans (by decide))
  have exactNanos : (Double.ofNat d.nanos).toRat = d.nanos :=
    Double.toRat_ofNat (d.nanos_lt.trans (by decide))
  have exactUnit : (Double.ofNat 1000000000).toRat = 1000000000 :=
    Double.toRat_ofNat (by decide)
  have quotient := Double.abs_toRat_div_sub_le (Double.ofNat d.nanos)
    (y := Double.ofNat 1000000000) (by decide +kernel)
  have sum := Double.abs_toRat_add_sub_le (Double.ofNat d.secs)
    ((Double.ofNat d.nanos).div (Double.ofNat 1000000000))
  rw [exactNanos, exactUnit] at quotient
  rw [exactSecs] at sum
  rw [seconds, nanoseconds]
  generalize ((Double.ofNat d.nanos).div (Double.ofNat 1000000000)).toRat = q at quotient sum
  generalize (Double.add _ _).toRat = v at sum
  rw [abs_le] at quotient sum ⊢
  push_cast
  constructor <;> linarith

/-- Below a minute, the tenths that are shown are nearest to the duration. -/
theorem tenths_near {d : Duration} (short : d.secs < 60) :
    d.seconds.tenths * 100000000 ≤ d.nanoseconds + 50000000 ∧
      d.nanoseconds ≤ d.seconds.tenths * 100000000 + 50000000 := by
  have printed := Double.abs_tenths_sub_le d.seconds
  have added := abs_seconds_sub_le short
  rw [abs_le] at printed added
  have above : (d.seconds.tenths : ℚ) * 100000000 < d.nanoseconds + 50000001 := by linarith
  have below : (d.nanoseconds : ℚ) < d.seconds.tenths * 100000000 + 50000001 := by linarith
  constructor
  · have : d.seconds.tenths * 100000000 < d.nanoseconds + 50000001 := by exact_mod_cast above
    omega
  · have : d.nanoseconds < d.seconds.tenths * 100000000 + 50000001 := by exact_mod_cast below
    omega

/-- The seconds reach a minute when they are nearer to it than to the tenth before, or half way
between the two. -/
theorem tenths_lt_iff {d : Duration} (short : d.secs < 60) :
    d.seconds.tenths < 600 ↔ d.nanoseconds < 59950000000 := by
  obtain ⟨above, below⟩ := tenths_near short
  rcases Nat.lt_trichotomy d.nanoseconds 59950000000 with less | half | more
  · omega
  · -- here the double decides, which is not below 59.95
    have exactly : d = ⟨59, 950000000, by decide⟩ := by
      obtain ⟨secs, nanos, small⟩ := d
      simp only [nanoseconds] at half
      obtain ⟨rfl, rfl⟩ : secs = 59 ∧ nanos = 950000000 := by omega
      rfl
    rw [exactly]
    decide +kernel
  · omega

/-! ## The form -/

/-- What is shown of a duration. -/
def shown (d : Duration) : Shown :=
  if d.nanoseconds < 1000000000 then .millis (d.nanoseconds / 1000000)
  else if d.nanoseconds < 60000000000 then .tenths d.seconds.tenths
  else .minutes (d.nanoseconds / 60000000000) (d.nanoseconds / 1000000000 % 60)

theorem text_eq (d : Duration) : d.text = d.shown.text := by
  have millis : d.nanoseconds / 1000000 = d.millis := by
    simp only [nanoseconds, Duration.millis]
    omega
  have minutes : d.nanoseconds / 60000000000 = d.secs / 60 := by
    rw [← nanoseconds_div]
    omega
  have one : d.millis < 1000 ↔ d.nanoseconds < 1000000000 := by
    rw [← millis]
    omega
  rw [text, shown, nanoseconds_div, minutes, millis]
  simp only [one, secs_lt_iff]
  split
  · rfl
  · split
    · rw [Double.fixed_one]
      rfl
    · rfl

/-- What is shown is true of the duration: milliseconds and seconds are cut off, and tenths of
a second are the nearest ones. -/
def Shown.IsTrueOf (d : Duration) : Shown → Prop
  | .millis n => n = d.nanoseconds / 1000000
  | .tenths n => n * 100000000 ≤ d.nanoseconds + 50000000 ∧
      d.nanoseconds ≤ n * 100000000 + 50000000
  | .minutes n s => n * 60 + s = d.nanoseconds / 1000000000

theorem isTrueOf_shown (d : Duration) : d.shown.IsTrueOf d := by
  rw [shown]
  split
  · rfl
  · split
    · next short => exact tenths_near (secs_lt_iff.mpr short)
    · simp only [Shown.IsTrueOf]
      omega

theorem shown_eq_tenths_iff (d : Duration) :
    (∃ n, d.shown = .tenths n) ↔ 1000000000 ≤ d.nanoseconds ∧ d.nanoseconds < 60000000000 := by
  rw [shown]
  split
  · next below => simp [Nat.not_le.mpr below]
  · next second =>
    split
    · next short => simp [Nat.not_lt.mp second, short]
    · next long => simp [long]

/-- The only full unit that is shown in the form for less is the minute. -/
theorem isProper_shown_iff (d : Duration) : d.shown.IsProper ↔ d.shown ≠ .tenths 600 := by
  rw [shown]
  split
  · simp only [Shown.IsProper, ne_eq, reduceCtorEq, not_false_eq_true, iff_true]
    omega
  · next second =>
    split
    · next short =>
      obtain ⟨above, below⟩ := tenths_near (secs_lt_iff.mpr short)
      simp only [Shown.IsProper, ne_eq, Shown.tenths.injEq]
      omega
    · simp only [Shown.IsProper, ne_eq, reduceCtorEq, not_false_eq_true, iff_true]
      omega

theorem shown_eq_minute_iff (d : Duration) : d.shown = .tenths 600 ↔
    59950000000 ≤ d.nanoseconds ∧ d.nanoseconds < 60000000000 := by
  rw [shown]
  split
  · simp only [reduceCtorEq, false_iff]
    omega
  · split
    · next short =>
      have reaches := tenths_lt_iff (secs_lt_iff.mpr short)
      obtain ⟨above, -⟩ := tenths_near (secs_lt_iff.mpr short)
      rw [Shown.tenths.injEq]
      omega
    · simp only [reduceCtorEq, false_iff]
      omega

/-- **A full minute is shown in seconds.**  Every duration has one text, which says what is
shown: milliseconds, tenths of a second, which are the nearest ones, or minutes and seconds.
The tenths of a second are for the durations from one second up to, but not including, one
minute.  At least one second and one minute are shown in the forms for them, and no full unit
in the form for less, except that a duration from 59.95 seconds up to a minute is shown as 60.0
seconds. -/
theorem full_minute_shown_iff (d : Duration) : ∃ shown : Shown,
    d.text = shown.text ∧ (∀ other : Shown, d.text = other.text → other = shown) ∧
    shown.IsTrueOf d ∧
    ((∃ n, shown = .tenths n) ↔ 1000000000 ≤ d.nanoseconds ∧ d.nanoseconds < 60000000000) ∧
    (shown.IsProper ↔ ¬(59950000000 ≤ d.nanoseconds ∧ d.nanoseconds < 60000000000)) ∧
    (¬shown.IsProper → d.text = "60.0s") := by
  refine ⟨d.shown, text_eq d, ?_, isTrueOf_shown d, shown_eq_tenths_iff d, ?_, ?_⟩
  · intro other same
    exact (Shown.text_inj.mp (same.symm.trans (text_eq d)))
  · rw [isProper_shown_iff, Ne, shown_eq_minute_iff]
  · intro improper
    rw [isProper_shown_iff, not_not] at improper
    rw [text_eq, improper]
    rfl

/-- One nanosecond before the minute, the text is that of 600 tenths of a second, and of nothing
that is proper. -/
theorem minute_shown_in_seconds :
    (⟨59, 999999999, by decide⟩ : Duration).text = "60.0s" ∧
      ¬∃ shown : Shown, (⟨59, 999999999, by decide⟩ : Duration).text = shown.text ∧
        shown.IsProper := by
  have minute : (⟨59, 999999999, by decide⟩ : Duration).text = (Shown.tenths 600).text := by
    decide +kernel
  refine ⟨minute, ?_⟩
  rintro ⟨shown, same, proper⟩
  cases Shown.text_inj.mp (same.symm.trans minute)
  exact absurd proper (by decide)

end Duration
end Unreferenced
