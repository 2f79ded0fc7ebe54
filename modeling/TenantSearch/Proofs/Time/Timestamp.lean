import TenantSearch.Proofs.Time.Calendar

/-!
# `TenantSearch.Proofs.Time.Timestamp`: timestamps are read back

The canonical text of a timestamp is made of numbers with zeros before them, and of the marks
between them. Each part is read up to its end and not further: a number of fixed width by its
width, and any other by the mark behind it. `read?_canonical` puts the parts together.
-/

set_option autoImplicit false

namespace TenantSearch.Time

open TenantSearch.Decimal (digit? spanDigits ofDigits)

namespace Rfc3339

/-! ### Digits -/

/-- The text does not go on with a digit. -/
def NoDigit (cs : List Char) : Prop := ∀ c ∈ cs.head?, c.isDigit = false

/-- A text that begins with a mark does not go on with a digit, whatever follows the mark. -/
theorem noDigit_cons {c : Char} (h : c.isDigit = false) (rest : List Char) :
    NoDigit (c :: rest) := by
  intro d hd
  cases hd
  exact h

/-- A digit is read as its distance from `0`, which has the code point 48. -/
theorem digit?_of_isDigit {c : Char} (h : c.isDigit = true) : digit? c = some (c.toNat - 48) := by
  have hrange : '0' ≤ c ∧ c ≤ '9' := by
    simpa [Char.isDigit, Char.le_def] using h
  exact if_pos hrange

/-- Other characters are not read as digits. Core and the reader name the same ten. -/
theorem digit?_of_not_isDigit {c : Char} (h : c.isDigit = false) : digit? c = none := by
  have hrange : ¬ ('0' ≤ c ∧ c ≤ '9') := by
    -- A character in the range is a digit for core.
    intro hin
    have hdigit : c.isDigit = true := by simpa [Char.isDigit, Char.le_def] using hin
    rw [h] at hdigit
    cases hdigit
  exact if_neg hrange

/-- Digits are read up to the first character that is none. This is where the rest of the text
matters, so `NoDigit` is the only thing that is asked of it. -/
theorem spanDigits_append {ds rest : List Char} (h : ∀ c ∈ ds, c.isDigit = true)
    (hrest : NoDigit rest) :
    spanDigits (ds ++ rest) = (ds.map fun c => c.toNat - 48, rest) := by
  induction ds with
  | nil =>
    cases rest with
    | nil => rfl
    | cons c rest =>
      have hc : digit? c = none := digit?_of_not_isDigit (hrest c rfl)
      simp [spanDigits, hc]
  | cons c ds ih =>
    have hc : digit? c = some (c.toNat - 48) := digit?_of_isDigit (h c List.mem_cons_self)
    have hds := ih fun d hd => h d (List.mem_cons_of_mem c hd)
    simp [spanDigits, hc, hds]

/-- The reader folds its digits into a number as core does, only with the factors in the other
order. -/
theorem ofDigits_map (ds : List Char) :
    ofDigits (ds.map fun c => c.toNat - 48) = Nat.ofDigitChars 10 ds 0 := by
  rw [ofDigits, List.foldl_map, Nat.ofDigitChars_eq_foldl]
  congr
  funext n c
  rw [Nat.mul_comm]
  rfl

/-! ### Padded numbers -/

/-- A padded number holds digits only, since the padding is zeros. -/
theorem isDigit_of_mem_padded {width n : Nat} {c : Char} (h : c ∈ padded width n) :
    c.isDigit = true := by
  rcases List.mem_append.1 h with hzero | hdigit
  · rw [List.eq_of_mem_replicate hzero]
    rfl
  · exact Nat.isDigit_of_mem_toDigits (by decide) (by decide) hdigit

/-- Zeros in front do not change a number. -/
theorem ofDigitChars_padded (width n : Nat) : Nat.ofDigitChars 10 (padded width n) 0 = n := by
  rw [padded, Nat.ofDigitChars_append, Nat.ofDigitChars_replicate_zero]
  exact Nat.ofDigitChars_ten_toDigits

/-- A padded number has at least one digit, because zero is written as `0`. -/
theorem padded_ne_nil (width n : Nat) : padded width n ≠ [] := by
  simp [padded]

/-- A number that fits its width is as long as the width. A longer one would keep all its digits. -/
theorem length_padded {width n : Nat} (hwidth : 0 < width) (h : n < Nat.pow 10 width) :
    (padded width n).length = width := by
  have hle : (Nat.toDigits 10 n).length ≤ width :=
    (Nat.length_toDigits_le_iff (by decide) hwidth).2 h
  simp only [padded, List.length_append, List.length_replicate]
  omega

/-- A padded number is read to its end, which is where its width ends or its digits do. Without one
of the two, the reader would take digits of the text behind it. -/
theorem number?_padded {most width n : Nat} {rest : List Char}
    (hmost : (padded width n).length ≤ most)
    (hend : (padded width n).length = most ∨ NoDigit rest) :
    number? most (padded width n ++ rest) = some (n, rest) := by
  -- What is read beyond the number, if anything, does not start with a digit.
  have hrest : NoDigit (rest.take (most - (padded width n).length)) := by
    rcases hend with hlength | hno
    · rw [hlength, Nat.sub_self]
      intro c hc
      cases hc
    · intro c hc
      cases rest with
      | nil => simp at hc
      | cons d rest =>
        -- Either nothing of the rest is looked at, or its first character is.
        cases hk : most - (padded width n).length with
        | zero => simp [hk] at hc
        | succ k => exact hno c (by simpa [hk] using hc)
  have hspan : (spanDigits ((padded width n ++ rest).take most)).1 =
      (padded width n).map fun c => c.toNat - 48 := by
    rw [List.take_append, List.take_of_length_le hmost,
      spanDigits_append (fun c hc => isDigit_of_mem_padded hc) hrest]
  unfold number?
  rw [hspan]
  cases hcs : padded width n with
  | nil => exact absurd hcs (padded_ne_nil width n)
  | cons c cs =>
    -- The number is what its digits say, and as many characters are taken off.
    show some (ofDigits ((c :: cs).map fun c => c.toNat - 48),
      (c :: cs ++ rest).drop ((c :: cs).map fun c => c.toNat - 48).length) = _
    rw [ofDigits_map, List.length_map, List.drop_left, ← hcs, ofDigitChars_padded]

/-- A number of at most `width` digits takes up its width, so it is read in full whatever follows.
-/
theorem number?_fixed {width n : Nat} (rest : List Char) (hwidth : 0 < width)
    (h : n < Nat.pow 10 width) : number? width (padded width n ++ rest) = some (n, rest) :=
  number?_padded (Nat.le_of_eq (length_padded hwidth h)) (.inl (length_padded hwidth h))

/-! ### Marks -/

/-- Nothing is skipped before a character that is not blank. -/
theorem skipBlank_cons {c : Char} (rest : List Char) (h : Text.isBlank c = false) :
    skipBlank (c :: rest) = c :: rest := by
  simp [skipBlank, h]

/-- No digit is blank. The ranges of blank characters lie below and above those of the digits. -/
theorem isBlank_of_isDigit {c : Char} (h : c.isDigit = true) : Text.isBlank c = false := by
  simp only [Char.isDigit, Bool.and_eq_true, decide_eq_true_eq, UInt32.le_iff_toNat_le] at h
  have hrange : 48 ≤ c.toNat ∧ c.toNat ≤ 57 := h
  simp only [Text.isBlank, Text.blankRanges, List.any_cons, List.any_nil]
  simp
  omega

/-- Nothing is skipped before a number, as it begins with a digit. -/
theorem skipBlank_padded (width n : Nat) (rest : List Char) :
    skipBlank (padded width n ++ rest) = padded width n ++ rest := by
  cases hcs : padded width n with
  | nil => exact absurd hcs (padded_ne_nil width n)
  | cons c cs =>
    have hc : c.isDigit = true := isDigit_of_mem_padded (hcs ▸ List.mem_cons_self)
    exact skipBlank_cons (cs ++ rest) (isBlank_of_isDigit hc)

/-- A mark and the number of two digits behind it. The reader allows blank characters in both
places, and the writer puts none. -/
theorem marked?_padded {mark : Char} {n : Nat} (rest : List Char)
    (hmark : Text.isBlank mark = false) (h : n < 100) :
    marked? mark (mark :: padded 2 n ++ rest) = some (n, rest) := by
  rw [List.cons_append, marked?, skipBlank_cons _ hmark]
  show (if mark = mark then number? 2 (skipBlank (padded 2 n ++ rest)) else none) = _
  rw [if_pos rfl, skipBlank_padded, number?_fixed rest (by decide) h]

/-- The fraction is a number of three, six or nine digits, scaled to nanoseconds. It has no width of
its own in the reader, so it ends where the digits do. -/
theorem fraction?_padded {width n : Nat} {rest : List Char} (hwidth : 0 < width) (hle : width ≤ 9)
    (h : n < Nat.pow 10 width) (hrest : NoDigit rest) :
    fraction? ('.' :: padded width n ++ rest) = some (n * Nat.pow 10 (9 - width), rest) := by
  have hlength := length_padded hwidth h
  have hspan : spanDigits (padded width n ++ rest) =
      ((padded width n).map fun c => c.toNat - 48, rest) :=
    spanDigits_append (fun c hc => isDigit_of_mem_padded hc) hrest
  have htake : ((padded width n).map fun c => c.toNat - 48).take 9 =
      (padded width n).map fun c => c.toNat - 48 := by
    apply List.take_of_length_le
    rw [List.length_map, hlength]
    exact hle
  have hvalue := ofDigitChars_padded width n
  rw [List.cons_append, fraction?, hspan]
  cases hcs : padded width n with
  | nil => exact absurd hcs (padded_ne_nil width n)
  | cons c cs =>
    rw [hcs] at hlength htake hvalue
    show some (ofDigits (((c :: cs).map fun c => c.toNat - 48).take 9) *
      Nat.pow 10 (9 - (((c :: cs).map fun c => c.toNat - 48).take 9).length), rest) = _
    rw [htake, List.length_map, hlength, ofDigits_map, hvalue]

/-- A fraction of whole units, `width` digits after the second, needs no more digits. To scale it
back is exact, because nothing is left below the unit. -/
theorem fraction?_units {width nano : Nat} {rest : List Char} (hwidth : 0 < width)
    (hle : width ≤ 9) (h : nano < nanosPerSecond) (hwhole : nano % Nat.pow 10 (9 - width) = 0)
    (hrest : NoDigit rest) :
    fraction? ('.' :: padded width (nano / Nat.pow 10 (9 - width)) ++ rest) =
      some (nano, rest) := by
  -- A second has as many units as the digits can count.
  have hsecond : Nat.pow 10 (9 - width) * Nat.pow 10 width = nanosPerSecond := by
    have hsum := Nat.pow_add 10 (9 - width) width
    rw [Nat.sub_add_cancel hle] at hsum
    exact hsum.symm
  have hlt : nano / Nat.pow 10 (9 - width) < Nat.pow 10 width := by
    apply Nat.div_lt_of_lt_mul
    rw [hsecond]
    exact h
  rw [fraction?_padded hwidth hle hlt hrest,
    Nat.div_mul_cancel (Nat.dvd_of_mod_eq_zero hwhole)]

/-- Every fraction is read back, in whichever of the four forms it is written. The shortest form
that loses nothing is written, and each form is read by its number of digits. -/
theorem fraction?_fractionText {nano : Nat} (h : nano < nanosPerSecond) :
    fraction? (fractionText nano ++ ['Z']) = some (nano, ['Z']) := by
  have hrest : NoDigit ['Z'] := noDigit_cons rfl []
  unfold fractionText
  -- A whole second, milliseconds, microseconds or nanoseconds.
  split
  · rename_i hzero
    rw [hzero]
    rfl
  split
  · rename_i hmillis
    exact @fraction?_units 3 nano _ (by decide) (by decide) h hmillis hrest
  split
  · rename_i hmicros
    exact @fraction?_units 6 nano _ (by decide) (by decide) h hmicros hrest
  · have hlt : nano < Nat.pow 10 9 := h
    have hscaled : nano * Nat.pow 10 (9 - 9) = nano := Nat.mul_one nano
    rw [fraction?_padded (by decide) (by decide) hlt hrest, hscaled]

/-! ### Years -/

/-- A year of four digits has no sign, and its width ends it. Years outside of that range are
written with a sign, and are settled apart. -/
theorem year?_padded {n : Nat} (rest : List Char) (h : n < Nat.pow 10 4) :
    year? (padded 4 n ++ rest) = some ((n : Int), rest) := by
  have hnumber := number?_fixed rest (by decide) h
  cases hcs : padded 4 n with
  | nil => exact absurd hcs (padded_ne_nil 4 n)
  | cons c cs =>
    have hc : c.isDigit = true := isDigit_of_mem_padded (hcs ▸ List.mem_cons_self)
    rw [hcs, List.cons_append] at hnumber
    rw [List.cons_append]
    unfold year?
    -- The first digit is neither of the signs.
    split
    · rename_i heq
      obtain ⟨rfl, -⟩ := List.cons.inj heq
      cases hc
    · rename_i heq
      obtain ⟨rfl, -⟩ := List.cons.inj heq
      cases hc
    · rw [hnumber]
      rfl

/-- Behind a sign there may be more than four digits, so the year ends with the mark behind it. -/
theorem number?_signed (n : Nat) {rest : List Char} (hrest : NoDigit rest) :
    number? (padded 4 n ++ rest).length (padded 4 n ++ rest) = some (n, rest) := by
  refine number?_padded ?_ (.inr hrest)
  rw [List.length_append]
  exact Nat.le_add_right _ _

/-- A year outside four digits has a sign. The sign is also what tells the reader that there may be
more digits. -/
theorem year?_yearText (year : Int) {rest : List Char} (hrest : NoDigit rest) :
    year? (yearText year ++ rest) = some (year, rest) := by
  unfold yearText
  split
  · rename_i hplain
    have hwidth : year.toNat < Nat.pow 10 4 := by
      show year.toNat < 10000
      omega
    rw [year?_padded rest hwidth, Int.toNat_of_nonneg hplain.1]
  split
  · have hsame : -((year.natAbs : Nat) : Int) = year := by omega
    rw [List.cons_append, year?, number?_signed _ hrest]
    simp only [Option.map_some, hsame]
  · have hsame : ((year.natAbs : Nat) : Int) = year := by omega
    rw [List.cons_append, year?, number?_signed _ hrest]
    simp only [Option.map_some, hsame]

/-- Nothing is skipped before a year, which begins with a digit or a sign. -/
theorem skipBlank_yearText (year : Int) (rest : List Char) :
    skipBlank (yearText year ++ rest) = yearText year ++ rest := by
  unfold yearText
  split
  · exact skipBlank_padded 4 _ rest
  · split
    · exact skipBlank_cons _ (by decide)
    · exact skipBlank_cons _ (by decide)

/-! ### The whole text -/

/-- A time as it is written in universal time. -/
def text (w : WrittenTime) : List Char :=
  yearText w.date.year ++ '-' :: padded 2 w.date.month ++ '-' :: padded 2 w.date.day ++ 'T' ::
    padded 2 w.hour ++ ':' :: padded 2 w.minute ++ ':' :: padded 2 w.second ++
    fractionText w.nano ++ ['Z']

/-- All parts of a time but the year and the fraction have two digits at most. -/
theorem two_digits {w : WrittenTime} (h : w.isValid = true) :
    w.date.month < 100 ∧ w.date.day < 100 ∧ w.hour < 100 ∧ w.minute < 100 ∧ w.second < 100 := by
  simp only [WrittenTime.isValid, Date.isValid, Bool.and_eq_true, decide_eq_true_eq] at h
  have hdays := Date.daysInMonth_le w.date.year w.date.month
  omega

/-- A time in universal time is read back from its text, part by part. Each part leaves the text of
the later ones as it is. -/
theorem written?_text {w : WrittenTime} (hvalid : w.isValid = true)
    (hnano : w.nano < nanosPerSecond) (hoffset : w.offset = 0) : written? (text w) = some w := by
  obtain ⟨hmonth, hday, hhour, hminute, hsecond⟩ := two_digits hvalid
  obtain ⟨⟨year, month, day⟩, hour, minute, second, nano, offset⟩ := w
  subst hoffset
  simp only [text, List.append_assoc]
  unfold written?
  -- The parts are read from left to right, each up to the mark behind it.
  rw [skipBlank_yearText, List.cons_append, year?_yearText year (noDigit_cons rfl _)]
  simp only [bind, Option.bind]
  rw [← List.cons_append, marked?_padded _ (by decide) hmonth]
  simp only []
  rw [marked?_padded _ (by decide) hday]
  simp only [List.cons_append, true_or, if_true]
  rw [skipBlank_padded, number?_fixed _ (by decide) hhour]
  simp only []
  rw [← List.cons_append, marked?_padded _ (by decide) hminute]
  simp only []
  rw [← List.cons_append, marked?_padded _ (by decide) hsecond]
  simp only []
  rw [fraction?_fractionText hnano]
  rfl

end Rfc3339

namespace Timestamp

/-- The parts of the timestamp as they are written. -/
def written (t : Timestamp) : WrittenTime where
  date := Date.ofDayNumber t.day
  hour := t.second / 3600
  minute := t.second / 60 % 60
  second := t.second % 60 + (if t.inLeapSecond then 1 else 0)
  nano := t.fraction
  offset := 0

/-- The canonical text is that of the parts as they are written. -/
theorem canonical_eq (t : Timestamp) : t.canonical = String.ofList (Rfc3339.text t.written) := rfl

/-- The fraction is below a second, also in a leap second, where a whole second is taken off. -/
theorem fraction_lt (t : Timestamp) : t.fraction < nanosPerSecond := by
  have hrange := t.nano_range
  unfold fraction inLeapSecond
  split
  · omega
  · rename_i hnot
    simp only [decide_eq_true_eq] at hnot
    omega

/-- A leap second is written as second 60 of its minute. Then the second of the timestamp is 59, and
the second too much is in its nanoseconds. -/
theorem written_second (t : Timestamp) :
    t.inLeapSecond = true ∧ t.second % 60 = 59 ∧ t.written.second = 60 ∧
        t.fraction + nanosPerSecond = t.nano ∨
      t.inLeapSecond = false ∧ t.written.second = t.second % 60 ∧ t.fraction = t.nano := by
  have hrange := t.nano_range
  by_cases hleap : nanosPerSecond ≤ t.nano
  · have hin : t.inLeapSecond = true := decide_eq_true hleap
    have hlast : t.second % 60 = 59 := by omega
    refine .inl ⟨hin, hlast, ?_, ?_⟩
    · simp [written, hin, hlast]
    · rw [fraction, if_pos hin]
      omega
  · have hout : t.inLeapSecond = false := decide_eq_false hleap
    refine .inr ⟨hout, ?_, ?_⟩
    · simp [written, hout]
    · rw [fraction, hout]
      rfl

/-- The second of a written time is at most 60, which only a leap second reaches. -/
theorem second_le (t : Timestamp) : t.written.second ≤ 60 := by
  rcases t.written_second with ⟨-, -, h, -⟩ | ⟨-, h, -⟩ <;> omega

/-- The parts of a timestamp are a date of the calendar and a time of the clock. The range of the
days is that of the years. -/
theorem isValid_written (t : Timestamp) : t.written.isValid = true := by
  have hdate : t.written.date.isValid = true := Date.isValid_ofDayNumber t.day
  -- The calendar puts the first and the last day into the first and the last year.
  have hyear : -262143 ≤ t.written.date.year ∧ t.written.date.year ≤ 262142 :=
    Date.year_ofDayNumber_range t.day_range.1 t.day_range.2
  have hhour : t.written.hour ≤ 23 := by
    have hsecond := t.second_lt
    simp only [secondsPerDay] at hsecond
    show t.second / 3600 ≤ 23
    omega
  have hminute : t.written.minute ≤ 59 := by
    show t.second / 60 % 60 ≤ 59
    omega
  have hoffset : t.written.offset = 0 := rfl
  simp [WrittenTime.isValid, hdate, hyear.1, hyear.2, hhour, hminute, t.second_le, hoffset]

/-- The parts of a timestamp lead back to it. The day and the second of the day are put together
again, and so is the leap second. -/
theorem toTimestamp?_written (t : Timestamp) : t.written.toTimestamp? = some t := by
  have hday : t.written.date.dayNumber = t.day := Date.dayNumber_ofDayNumber t.day
  -- The minutes of the day stay within the day, because the offset is zero.
  have hminutes : ((t.written.hour : Int) * 60 + t.written.minute - t.written.offset) =
      (t.second / 60 : Nat) := by
    show ((t.second / 3600 : Nat) : Int) * 60 + (t.second / 60 % 60 : Nat) - 0 = _
    omega
  have hsecond := t.second_lt
  simp only [secondsPerDay] at hsecond
  have hdays : ((t.second / 60 : Nat) : Int) / 1440 = 0 := by omega
  have hrest : (((t.second / 60 : Nat) : Int) % 1440).toNat = t.second / 60 := by omega
  -- The second 60 is taken for 59, and the nanoseconds say that it was a leap second.
  have hclock : t.second / 60 * 60 + min t.written.second 59 = t.second := by
    rcases t.written_second with ⟨-, hlast, h, -⟩ | ⟨-, h, -⟩ <;> omega
  have hnano : (if t.written.second = 60 then t.written.nano + nanosPerSecond else t.written.nano) =
      t.nano := by
    show (if t.written.second = 60 then t.fraction + nanosPerSecond else t.fraction) = _
    rcases t.written_second with ⟨-, -, h, hsum⟩ | ⟨-, h, hsame⟩
    · rw [if_pos h, hsum]
    · rw [if_neg (by omega), hsame]
  unfold WrittenTime.toTimestamp?
  rw [if_pos t.isValid_written]
  simp only [hminutes, hdays, hrest, hday, hclock, hnano, Int.add_zero]
  rw [dif_pos ⟨t.day_range, t.second_lt, t.nano_range⟩]

/-- A timestamp is read back from its canonical text. Nothing of it is lost, down to the last
nanosecond and with leap seconds kept apart. -/
theorem read?_canonical (t : Timestamp) : read? t.canonical = some t := by
  have hwritten : Rfc3339.written? (Rfc3339.text t.written) = some t.written :=
    Rfc3339.written?_text t.isValid_written t.fraction_lt rfl
  rw [read?, canonical_eq, String.toList_ofList, hwritten]
  exact t.toTimestamp?_written

end Timestamp

end TenantSearch.Time
