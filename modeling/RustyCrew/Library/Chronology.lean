import RustyCrew.Library.Rfc3339

namespace RustyCrew.Library

open List

variable {a b : OffsetDateTime} {m n : Nat}

/-! ## The order of texts -/

section
variable {α : Type} [LinearOrder α]

theorem append_lt_append {p q : List α} (x y : List α) (same : p.length = q.length) :
    p ++ x < q ++ y ↔ p < q ∨ p = q ∧ x < y := by
  induction p generalizing q with
  | nil =>
    obtain rfl : q = [] := length_eq_zero_iff.mp same.symm
    simp
  | cons a p ih =>
    cases q with
    | nil => cases same
    | cons b q =>
      have tails := ih (by simpa using same)
      simp only [cons_append, cons_lt_cons_iff, List.cons.injEq, tails]
      tauto

theorem append_lt_append_of_apart (x y : List α) (first : ¬p <+: q)
    (second : ¬q <+: p) : p ++ x < q ++ y ↔ p < q := by
  induction p generalizing q with
  | nil => exact (first nil_prefix).elim
  | cons a p ih =>
    cases q with
    | nil => exact (second nil_prefix).elim
    | cons b q =>
      simp only [cons_append, cons_lt_cons_iff]
      by_cases same : a = b
      · subst same
        rw [prefix_cons_inj] at first second
        rw [ih first second]
      · simp [same]

end

/-! ## The calendar -/

theorem daysBeforeMonth_le (year : Int) (valid : 1 ≤ month) (before : month < later) :
    daysBeforeMonth year month + daysInMonth year month ≤ daysBeforeMonth year later := by
  induction later, before using Nat.le_induction with
  | base => rw [Nat.succ_eq_add_one, daysBeforeMonth, if_neg (by omega)]
  | succ later before ih =>
    rw [daysBeforeMonth, if_neg (by omega)]
    omega

theorem daysBeforeMonth_year (year : Int) :
    daysBeforeMonth year 12 + daysInMonth year 12 = if isLeapYear year then 366 else 365 := by
  cases leap : isLeapYear year <;> simp [daysBeforeMonth, daysInMonth, leap]

theorem isLeapYear_eq_true :
    isLeapYear year = true ↔ year % 4 = 0 ∧ (year % 100 ≠ 0 ∨ year % 400 = 0) := by
  simp [isLeapYear]

theorem daysBeforeYear_succ (year : Int) :
    daysBeforeYear (year + 1) =
      daysBeforeYear year + (daysBeforeMonth year 12 + daysInMonth year 12 : Nat) := by
  rw [daysBeforeMonth_year]
  simp only [daysBeforeYear, isLeapYear_eq_true]
  split <;> omega

theorem daysBeforeYear_le (before : year ≤ later) : daysBeforeYear year ≤ daysBeforeYear later := by
  simp only [daysBeforeYear]
  omega

namespace OffsetDateTime

def DateBefore (a b : OffsetDateTime) : Prop :=
  a.year < b.year ∨ a.year = b.year ∧ (a.month < b.month ∨ a.month = b.month ∧ a.day < b.day)

theorem dayNumber_lt (before : DateBefore a b) : a.dayNumber < b.dayNumber := by
  have dayOfA := a.day_valid
  have dayOfB := b.day_valid
  have monthOfA := a.month_valid
  unfold dayNumber
  rcases before with year | ⟨year, month | ⟨month, day⟩⟩
  · have next := daysBeforeYear_succ a.year
    have later := daysBeforeYear_le (show a.year + 1 ≤ b.year by omega)
    have december : daysBeforeMonth a.year a.month + daysInMonth a.year a.month ≤
        daysBeforeMonth a.year 12 + daysInMonth a.year 12 := by
      rcases Nat.lt_or_eq_of_le monthOfA.2 with earlier | same
      · have := daysBeforeMonth_le a.year monthOfA.1 earlier
        omega
      · rw [same]
    omega
  · have later := daysBeforeMonth_le a.year monthOfA.1 month
    rw [← year]
    omega
  · rw [← year, ← month]
    omega

theorem dayNumber_lt_iff : a.dayNumber < b.dayNumber ↔ DateBefore a b := by
  constructor
  · intro less
    by_contra later
    have cases : DateBefore b a ∨ a.year = b.year ∧ a.month = b.month ∧ a.day = b.day := by
      unfold DateBefore at later ⊢
      omega
    rcases cases with before | ⟨year, month, day⟩
    · have := dayNumber_lt before
      omega
    · rw [dayNumber, dayNumber, year, month, day] at less
      exact lt_irrefl _ less
  · exact dayNumber_lt

def SecondBefore (a b : OffsetDateTime) : Prop :=
  DateBefore a b ∨ ¬DateBefore b a ∧ (a.hour < b.hour ∨ a.hour = b.hour ∧
    (a.minute < b.minute ∨ a.minute = b.minute ∧ a.second < b.second))

theorem secondNumber_lt_iff : a.secondNumber < b.secondNumber ↔ SecondBefore a b := by
  have hours := And.intro a.hour_valid b.hour_valid
  have minutes := And.intro a.minute_valid b.minute_valid
  have seconds := And.intro a.second_valid b.second_valid
  unfold SecondBefore
  rw [← dayNumber_lt_iff, ← dayNumber_lt_iff]
  unfold secondNumber
  omega

/-! ## Texts in the order of the instants -/

theorem length_padded (width n : Nat) : (padded width n).length = width := by
  induction width generalizing n with
  | zero => rfl
  | succ width ih => simp [padded, ih]

theorem digit_lt : digit m < digit n ↔ m % 10 < n % 10 := by
  have digits : ∀ i j : Fin 10, Char.ofNat ('0'.toNat + i) < Char.ofNat ('0'.toNat + j) ↔
      i < j := by
    decide
  exact digits ⟨m % 10, Nat.mod_lt _ (by decide)⟩ ⟨n % 10, Nat.mod_lt _ (by decide)⟩

theorem digit_inj : digit m = digit n ↔ m % 10 = n % 10 := by
  have first := @digit_lt m n
  have second := @digit_lt n m
  constructor
  · intro same
    simp only [same, lt_irrefl, false_iff] at first second
    omega
  · intro same
    rw [digit, digit, same]

theorem padded_inj : padded width m = padded width n ↔ m % 10 ^ width = n % 10 ^ width := by
  induction width generalizing m n with
  | zero => simp [padded, Nat.mod_one]
  | succ width ih =>
    have split : padded (width + 1) m = padded (width + 1) n ↔
        padded width (m / 10) = padded width (n / 10) ∧ digit m = digit n := by
      constructor
      · intro same
        obtain ⟨high, low⟩ := append_inj' same rfl
        exact ⟨high, singleton_inj.mp low⟩
      · rintro ⟨high, low⟩
        rw [padded, padded, high, low]
    rw [split, ih, digit_inj, pow_succ', Nat.mod_mul, Nat.mod_mul]
    omega

theorem padded_lt : padded width m < padded width n ↔ m % 10 ^ width < n % 10 ^ width := by
  induction width generalizing m n with
  | zero => simp [padded, Nat.mod_one]
  | succ width ih =>
    rw [padded, padded, pow_succ', Nat.mod_mul, Nat.mod_mul]
    rw [append_lt_append _ _ (by rw [length_padded, length_padded]), ih, padded_inj]
    simp only [cons_lt_cons_iff, digit_lt, not_lt_nil, and_false, or_false]
    omega

theorem digit_of_mem_padded (member : c ∈ padded width n) : '0' ≤ c ∧ c < 'Z' := by
  induction width generalizing n with
  | zero => cases member
  | succ width ih =>
    rw [padded, mem_append, mem_singleton] at member
    rcases member with high | rfl
    · exact ih high
    · have zero : ¬digit n < digit 0 := by
        rw [digit_lt]
        omega
      have nine : ¬digit 9 < digit n := by
        rw [digit_lt]
        omega
      exact ⟨not_lt.mp zero, (not_lt.mp nine).trans_lt (by decide)⟩

def fractionDigits (nanosecond : Nat) : List Char :=
  (padded 9 nanosecond).rdropWhile (· = '0')

theorem fractionDigits_zeros (nanosecond : Nat) :
    ∃ zeros : List Char, padded 9 nanosecond = fractionDigits nanosecond ++ zeros ∧
      ∀ c ∈ zeros, c = '0' := by
  refine ⟨(padded 9 nanosecond).rtakeWhile (· = '0'), rdropWhile_append_rtakeWhile.symm, ?_⟩
  intro c member
  simpa using mem_rtakeWhile_imp member

theorem not_lt_zeros {digits zeros : List Char} (isDigit : ∀ c ∈ digits, '0' ≤ c)
    (zero : ∀ c ∈ zeros, c = '0') (same : digits.length = zeros.length) : ¬digits < zeros := by
  induction digits generalizing zeros with
  | nil =>
    rw [length_eq_zero_iff.mp same.symm]
    exact lt_irrefl _
  | cons c digits ih =>
    cases zeros with
    | nil => cases same
    | cons z zeros =>
      rw [forall_mem_cons] at isDigit zero
      rw [cons_lt_cons_iff, zero.1]
      rintro (less | ⟨-, later⟩)
      · exact not_lt.mpr isDigit.1 less
      · exact ih isDigit.2 zero.2 (by simpa using same) later

def FractionsApart (m n : Nat) : Prop :=
  (fraction m <+: fraction n → m = n) ∧ (fraction n <+: fraction m → m = n)

theorem padded_nano_lt (small : m < 10 ^ 9) (otherSmall : n < 10 ^ 9) :
    padded 9 m < padded 9 n ↔ m < n := by
  rw [padded_lt, Nat.mod_eq_of_lt small, Nat.mod_eq_of_lt otherSmall]

section
variable (small : m < 10 ^ 9) (otherSmall : n < 10 ^ 9)
include small otherSmall

theorem le_of_leading_digits (continued : fractionDigits m <+: fractionDigits n) : m ≤ n := by
  obtain ⟨rest, more⟩ := continued
  obtain ⟨zeros, text, zero⟩ := fractionDigits_zeros m
  obtain ⟨others, otherText, -⟩ := fractionDigits_zeros n
  rw [← more, append_assoc] at otherText
  rw [← not_lt, ← padded_nano_lt otherSmall small]
  have digits : ∀ c ∈ rest ++ others, '0' ≤ c := by
    intro c member
    have inText : c ∈ padded 9 n := by
      rw [otherText]
      exact mem_append_right _ member
    exact (digit_of_mem_padded inText).1
  have lengths : (rest ++ others).length = zeros.length := by
    have first := congrArg List.length text
    have second := congrArg List.length otherText
    rw [length_padded, length_append] at first second
    omega
  rw [text, otherText, append_lt_append _ _ rfl]
  rintro (less | ⟨-, less⟩)
  · exact lt_irrefl _ less
  · exact not_lt_zeros digits zero lengths less

theorem fraction_longer (differ : m ≠ n) (positive : m ≠ 0)
    (continued : fractionDigits m <+: fractionDigits n) :
    ∃ c rest, fraction n = fraction m ++ c :: rest ∧ ('.' ≤ c ∧ c < 'Z') ∧ m < n := by
  have less : m < n := lt_of_le_of_ne (le_of_leading_digits small otherSmall continued) differ
  obtain ⟨rest, more⟩ := continued
  cases rest with
  | nil =>
    rw [append_nil] at more
    have ge := le_of_leading_digits otherSmall small (more ▸ prefix_rfl)
    omega
  | cons c rest =>
    refine ⟨c, rest, ?_, ?_, less⟩
    · rw [fraction, fraction, if_neg positive, if_neg (by omega)]
      exact congrArg _ more.symm
    · have digit : '0' ≤ c ∧ c < 'Z' := by
        apply digit_of_mem_padded (n := n)
        obtain ⟨zeros, text, -⟩ := fractionDigits_zeros n
        rw [text, ← more]
        simp
      exact ⟨le_trans (by decide) digit.1, digit.2⟩

theorem fraction_cases (differ : m ≠ n) :
    (FractionsApart m n ∧ ∀ x y, fraction m ++ x < fraction n ++ y ↔ m < n) ∨
      (∃ c rest, fraction n = fraction m ++ c :: rest ∧ ('.' ≤ c ∧ c < 'Z') ∧ m < n) ∨
      ∃ c rest, fraction m = fraction n ++ c :: rest ∧ ('.' ≤ c ∧ c < 'Z') ∧ n < m := by
  by_cases whole : m = 0
  · refine .inr (.inl ⟨'.', fractionDigits n, ?_, by decide, by omega⟩)
    rw [fraction, fraction, if_pos whole, if_neg (by omega)]
    rfl
  by_cases otherWhole : n = 0
  · refine .inr (.inr ⟨'.', fractionDigits m, ?_, by decide, by omega⟩)
    rw [fraction, fraction, if_pos otherWhole, if_neg whole]
    rfl
  by_cases continued : fractionDigits m <+: fractionDigits n
  · exact .inr (.inl (fraction_longer small otherSmall differ whole continued))
  by_cases otherContinued : fractionDigits n <+: fractionDigits m
  · exact .inr (.inr (fraction_longer otherSmall small differ.symm otherWhole otherContinued))
  have first : fraction m = '.' :: fractionDigits m := if_neg whole
  have second : fraction n = '.' :: fractionDigits n := if_neg otherWhole
  left
  refine ⟨⟨fun leads => absurd ?_ continued, fun leads => absurd ?_ otherContinued⟩, ?_⟩
  · rwa [first, second, prefix_cons_inj] at leads
  · rwa [first, second, prefix_cons_inj] at leads
  intro x y
  obtain ⟨zeros, text, -⟩ := fractionDigits_zeros m
  obtain ⟨others, otherText, -⟩ := fractionDigits_zeros n
  rw [← padded_nano_lt small otherSmall, text, otherText, first, second, cons_append,
    cons_append, cons_lt_cons_self]
  rw [append_lt_append_of_apart _ _ continued otherContinued,
    append_lt_append_of_apart _ _ continued otherContinued]

end

/-- The texts are in the order of the fractions, except that in UTC the text of a fraction comes
after those that continue it, as `Z` comes after the digits and the point. -/
theorem fraction_text_lt_iff (small : m < 10 ^ 9) (otherSmall : n < 10 ^ 9) :
    (fraction m ++ offsetText offset < fraction n ++ offsetText offset ↔ m < n) ↔
      (offset = 0 → FractionsApart m n) := by
  by_cases same : m = n
  · simp [same, FractionsApart]
  have sign : offset ≠ 0 → ∃ c rest, offsetText offset = c :: rest ∧ c < '.' := by
    intro numeric
    rw [offsetText, if_neg numeric]
    refine ⟨_, _, rfl, ?_⟩
    split <;> decide
  have longer_lt : ∀ {k l c rest}, fraction l = fraction k ++ c :: rest → '.' ≤ c ∧ c < 'Z' →
      if offset = 0 then fraction l ++ offsetText offset < fraction k ++ offsetText offset
      else fraction k ++ offsetText offset < fraction l ++ offsetText offset := by
    intro k l c rest longer point
    rw [longer, append_assoc, append_lt_append _ _ rfl, append_lt_append _ _ rfl]
    split
    · next utc =>
      rw [offsetText, if_pos utc]
      exact .inr ⟨rfl, List.Lex.rel point.2⟩
    · next numeric =>
      obtain ⟨d, text, isText, low⟩ := sign numeric
      rw [isText]
      exact .inr ⟨rfl, List.Lex.rel (low.trans_le point.1)⟩
  rcases fraction_cases small otherSmall same with ⟨apart, texts⟩ | ⟨c, rest, longer, point, less⟩ |
    ⟨c, rest, longer, point, less⟩
  · exact iff_of_true (texts _ _) fun _ => apart
  · have texts := longer_lt longer point
    by_cases utc : offset = 0
    · rw [if_pos utc] at texts
      exact iff_of_false (fun order => texts.asymm (order.mpr less))
        fun apart => same ((apart utc).1 ⟨_, longer.symm⟩)
    · rw [if_neg utc] at texts
      exact iff_of_true (iff_of_true texts less) fun zero => absurd zero utc
  · have texts := longer_lt longer point
    by_cases utc : offset = 0
    · rw [if_pos utc] at texts
      exact iff_of_false (fun order => less.asymm (order.mp texts))
        fun apart => same ((apart utc).2 ⟨_, longer.symm⟩)
    · rw [if_neg utc] at texts
      exact iff_of_true (iff_of_false texts.asymm less.asymm) fun zero => absurd zero utc

theorem padded_append_lt (small : m < 10 ^ width) (otherSmall : n < 10 ^ width) (x y : List Char) :
    padded width m ++ x < padded width n ++ y ↔ m < n ∨ m = n ∧ x < y := by
  rw [append_lt_append _ _ (by rw [length_padded, length_padded]), padded_lt, padded_inj,
    Nat.mod_eq_of_lt small, Nat.mod_eq_of_lt otherSmall]

section
variable {a b : OffsetDateTime}

theorem day_lt (time : OffsetDateTime) : time.day < 10 ^ 2 := by
  have valid := time.day_valid
  have short : daysInMonth time.year time.month ≤ 31 := by
    unfold daysInMonth
    split <;> (try split) <;> omega
  omega

theorem secondText_lt (year : 0 ≤ a.year ∧ a.year < 10000) (otherYear : 0 ≤ b.year ∧ b.year < 10000)
    (x y : List Char) :
    a.secondText ++ x < b.secondText ++ y ↔
      a.secondNumber < b.secondNumber ∨ a.secondNumber = b.secondNumber ∧ x < y := by
  have months := And.intro a.month_valid b.month_valid
  have days := And.intro a.day_lt b.day_lt
  have hours := And.intro a.hour_valid b.hour_valid
  have minutes := And.intro a.minute_valid b.minute_valid
  have seconds := And.intro a.second_valid b.second_valid
  have less := @secondNumber_lt_iff a b
  have greater := @secondNumber_lt_iff b a
  unfold SecondBefore DateBefore at less greater
  simp only [secondText, append_assoc, cons_append]
  rw [padded_append_lt (by omega) (by omega), cons_lt_cons_self,
    padded_append_lt (by omega) (by omega), cons_lt_cons_self,
    padded_append_lt (by omega) (by omega), cons_lt_cons_self,
    padded_append_lt (by omega) (by omega), cons_lt_cons_self,
    padded_append_lt (by omega) (by omega), cons_lt_cons_self,
    padded_append_lt (by omega) (by omega)]
  by_cases texts : x < y
  · simp only [texts, and_true]
    omega
  · simp only [texts, and_false, or_false]
    omega

theorem instant_lt_iff (offsets : a.offsetSeconds = b.offsetSeconds) :
    a.instant < b.instant ↔ a.secondNumber < b.secondNumber ∨
      a.secondNumber = b.secondNumber ∧ a.nanosecond < b.nanosecond := by
  have nanoseconds := And.intro a.nanosecond_valid b.nanosecond_valid
  unfold instant
  rw [offsets]
  omega

/-- Two times whose texts can be compared: they have one offset and, if it is UTC, are not in the
same second with the fraction of one continuing that of the other. -/
structure Comparable (a b : OffsetDateTime) : Prop where
  offsets : a.offsetSeconds = b.offsetSeconds
  apart : a.offsetSeconds = 0 → a.secondNumber = b.secondNumber →
    FractionsApart a.nanosecond b.nanosecond

theorem text_lt_iff (offsets : a.offsetSeconds = b.offsetSeconds)
    (formatted : a.formatRfc3339 = some text) (otherFormatted : b.formatRfc3339 = some other) :
    (text < other ↔ a.instant < b.instant) ↔ Comparable a b := by
  rw [formatRfc3339, Option.ite_none_right_eq_some, Option.some_inj] at formatted otherFormatted
  obtain ⟨⟨low, high, -⟩, rfl⟩ := formatted
  obtain ⟨⟨otherLow, otherHigh, -⟩, rfl⟩ := otherFormatted
  have comparable : Comparable a b ↔ (a.offsetSeconds = 0 → a.secondNumber = b.secondNumber →
      FractionsApart a.nanosecond b.nanosecond) := ⟨(·.apart), (⟨offsets, ·⟩)⟩
  rw [String.lt_iff_toList_lt, String.toList_ofList, String.toList_ofList, append_assoc,
    append_assoc, secondText_lt ⟨low, high⟩ ⟨otherLow, otherHigh⟩, instant_lt_iff offsets,
    ← offsets, comparable]
  by_cases same : a.secondNumber = b.secondNumber
  · simp [same, fraction_text_lt_iff a.nanosecond_valid b.nanosecond_valid]
  · simp [same]

end

end OffsetDateTime

end RustyCrew.Library
