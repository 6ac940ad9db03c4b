import Mathlib.Order.Basic
import PlaybackRules.Proofs.Findings

/-!
# Elapsed days

Two moments are as far apart as calendar and clock say: the same time of the following date is 24
hours later, within a date the clock tells the difference, and a larger offset makes the same civil
time earlier.  No other measure of time has these laws (`Moment.measures_iff`).  The days that have
passed are the whole number of times 24 hours go into that, rounded down also where the later moment
comes first (`Moment.daysPass_iff`).  So the days of absence and the age of an account grow with the
present moment, and a user who was active since the account was made has been absent no longer than
that (`Field.observe_days`).
-/

namespace PlaybackRules

/-! ## The calendar -/

theorem daysInMonth_bounds (year month : Nat) :
    28 ≤ daysInMonth year month ∧ daysInMonth year month ≤ 31 := by
  unfold daysInMonth
  split <;> try split
  all_goals omega

namespace Date

theorem ofNumbers?_eq_some_iff {year month day : Nat} {date : Date} :
    ofNumbers? year month day = some date ↔
      date.year = year ∧ date.month = month ∧ date.day = day := by
  unfold ofNumbers?
  constructor
  · intro h
    split at h
    case isTrue =>
        obtain rfl := Option.some.inj h
        exact ⟨rfl, rfl, rfl⟩
    case isFalse => cases h
  · rintro ⟨rfl, rfl, rfl⟩
    rw [dif_pos ⟨date.year_le, date.month_le, date.day_le⟩]

theorem ofNumbers?_eq_none_iff {year month day : Nat} :
    ofNumbers? year month day = none ↔
      ¬((1 ≤ year ∧ year ≤ 9999) ∧ (1 ≤ month ∧ month ≤ 12) ∧
        (1 ≤ day ∧ day ≤ daysInMonth year month)) := by
  unfold ofNumbers?
  split <;> simp_all

/-- The following date, unless the calendar ends. -/
def next? (date : Date) : Option Date :=
  (ofNumbers? date.year date.month (date.day + 1)).or
    ((ofNumbers? date.year (date.month + 1) 1).or (ofNumbers? (date.year + 1) 1 1))

theorem daysBeforeMonth_succ (year : Nat) {month : Nat} (h : 1 ≤ month) :
    daysBeforeMonth year (month + 1) = daysBeforeMonth year month + daysInMonth year month := by
  unfold daysBeforeMonth
  rw [List.range_succ, List.drop_append_of_le_length (by rwa [List.length_range]),
    List.foldl_append]
  rfl

theorem isLeapYear_iff (year : Nat) :
    isLeapYear year = true ↔ year % 4 = 0 ∧ (year % 100 ≠ 0 ∨ year % 400 = 0) := by
  rw [isLeapYear, Bool.and_eq_true, Bool.or_eq_true, beq_iff_eq, bne_iff_ne, beq_iff_eq]

/-- Leap years are counted by the multiples of 4, 100 and 400. -/
theorem daysBeforeYear_succ {year : Nat} (h : 1 ≤ year) :
    daysBeforeYear (year + 1) = daysBeforeYear year + if isLeapYear year then 366 else 365 := by
  obtain ⟨past, rfl⟩ := Nat.exists_eq_add_of_le' h
  simp only [daysBeforeYear, isLeapYear_iff, Nat.add_sub_cancel, Nat.succ_div,
    Nat.dvd_iff_mod_eq_zero]
  by_cases h4 : (past + 1) % 4 = 0
  · by_cases h100 : (past + 1) % 100 = 0
    · by_cases h400 : (past + 1) % 400 = 0
      · simp [h4, h100, h400]
        omega
      · simp [h4, h100, h400]
        omega
    · have h400 : ¬(past + 1) % 400 = 0 := by omega
      simp [h4, h100, h400]
      omega
  · have h100 : ¬(past + 1) % 100 = 0 := by omega
    have h400 : ¬(past + 1) % 400 = 0 := by omega
    simp [h4, h100, h400]
    omega

/-- The eleven months before December and its 31 days make a year. -/
theorem daysBeforeMonth_december (year : Nat) :
    daysBeforeMonth year 12 + 31 = if isLeapYear year then 366 else 365 := by
  have hmonths : daysBeforeMonth year 12 = 0 + 31 + daysInMonth year 2 + 31 + 30 + 31 + 30 + 31 +
      31 + 30 + 31 + 30 := rfl
  rw [hmonths, daysInMonth]
  split <;> rfl

theorem dayNumber_next {date next : Date} (h : date.next? = some next) :
    next.dayNumber = date.dayNumber + 1 := by
  have hday := date.day_le
  have hmonth := date.month_le
  unfold dayNumber
  rcases Option.or_eq_some_iff.1 h with h | ⟨hsame, h⟩
  · obtain ⟨hy, hm, hd⟩ := ofNumbers?_eq_some_iff.1 h
    rw [hy, hm, hd]
    omega
  · have hlast : date.day = daysInMonth date.year date.month := by
      have hnot := ofNumbers?_eq_none_iff.1 hsame
      have hyear := date.year_le
      omega
    rcases Option.or_eq_some_iff.1 h with h | ⟨hmonths, h⟩
    · obtain ⟨hy, hm, hd⟩ := ofNumbers?_eq_some_iff.1 h
      rw [hy, hm, hd, daysBeforeMonth_succ _ hmonth.1]
      omega
    · have hdecember : date.month = 12 := by
        have hnot := ofNumbers?_eq_none_iff.1 hmonths
        have hyear := date.year_le
        have hbounds := daysInMonth_bounds date.year (date.month + 1)
        omega
      obtain ⟨hy, hm, hd⟩ := ofNumbers?_eq_some_iff.1 h
      rw [hdecember] at hlast
      have hdays : date.day = 31 := hlast
      have hfirst : daysBeforeMonth (date.year + 1) 1 = 0 := rfl
      rw [hy, hm, hd, hdecember, daysBeforeYear_succ date.year_le.1,
        ← daysBeforeMonth_december, hdays, hfirst]
      omega

section Follows

variable {previous date : Date}

theorem next?_of_day (hyear : date.year = previous.year) (hmonth : date.month = previous.month)
    (hday : date.day = previous.day + 1) : previous.next? = some date :=
  Option.or_eq_some_iff.2 (.inl (ofNumbers?_eq_some_iff.2 ⟨hyear, hmonth, hday⟩))

variable (hlast : previous.day = daysInMonth previous.year previous.month)
include hlast

theorem ofNumbers?_past_month :
    ofNumbers? previous.year previous.month (previous.day + 1) = none := by
  rw [ofNumbers?_eq_none_iff]
  omega

theorem next?_of_month (hyear : date.year = previous.year)
    (hmonth : date.month = previous.month + 1) (hday : date.day = 1) :
    previous.next? = some date := by
  refine Option.or_eq_some_iff.2 (.inr ⟨ofNumbers?_past_month hlast, ?_⟩)
  exact Option.or_eq_some_iff.2 (.inl (ofNumbers?_eq_some_iff.2 ⟨hyear, hmonth, hday⟩))

theorem next?_of_year (hdecember : previous.month = 12) (hyear : date.year = previous.year + 1)
    (hmonth : date.month = 1) (hday : date.day = 1) : previous.next? = some date := by
  have hpast : ofNumbers? previous.year (previous.month + 1) 1 = none := by
    rw [ofNumbers?_eq_none_iff]
    omega
  refine Option.or_eq_some_iff.2 (.inr ⟨ofNumbers?_past_month hlast, ?_⟩)
  exact Option.or_eq_some_iff.2 (.inr ⟨hpast, ofNumbers?_eq_some_iff.2 ⟨hyear, hmonth, hday⟩⟩)

end Follows

/-- The first date of the calendar. -/
def first : Date := ⟨1, 1, 1, by decide, by decide, by decide⟩

/-- Every date but the first follows another one. -/
theorem eq_first_or_exists_next (date : Date) :
    date = first ∨ ∃ previous : Date, previous.next? = some date := by
  have hyear := date.year_le
  have hmonth := date.month_le
  have hday := date.day_le
  by_cases hinMonth : 1 < date.day
  · let previous : Date := ⟨date.year, date.month, date.day - 1, hyear, hmonth, by omega⟩
    exact .inr ⟨previous, next?_of_day rfl rfl (Nat.sub_add_cancel hday.1).symm⟩
  have hfirstDay : date.day = 1 := by omega
  by_cases hinYear : 1 < date.month
  · have hbounds := daysInMonth_bounds date.year (date.month - 1)
    let previous : Date :=
      ⟨date.year, date.month - 1, daysInMonth date.year (date.month - 1), hyear, by omega, by omega⟩
    exact .inr ⟨previous, next?_of_month rfl rfl (Nat.sub_add_cancel hmonth.1).symm hfirstDay⟩
  have hfirstMonth : date.month = 1 := by omega
  by_cases hlater : 1 < date.year
  · let previous : Date := ⟨date.year - 1, 12, 31, by omega, by decide, by decide, Nat.le_refl 31⟩
    exact .inr ⟨previous,
      next?_of_year rfl rfl (Nat.sub_add_cancel hyear.1).symm hfirstMonth hfirstDay⟩
  · have hfirstYear : date.year = 1 := by omega
    have hdate : ofNumbers? 1 1 1 = some date :=
      ofNumbers?_eq_some_iff.2 ⟨hfirstYear, hfirstMonth, hfirstDay⟩
    exact .inl (Option.some.inj (hdate.symm.trans rfl))

end Date

/-! ## Time between moments -/

/-- The microseconds since midnight. -/
def CivilTime.clock (t : CivilTime) : Int :=
  ((t.hour * 60 + t.minute) * 60 + t.second : Nat) * 1000000 + (t.micro : Nat)

namespace Moment

/-- The moment at the same time of day on a date. -/
def onDate (m : Moment) (date : Date) : Moment := { m with civil := { m.civil with date } }

/-- A measure of the time between two moments goes by calendar and clock. -/
structure Measures (elapsed : Moment → Moment → Int) : Prop where
  trans : ∀ a b c, elapsed a b + elapsed b c = elapsed a c
  nextDate : ∀ m date, m.civil.date.next? = some date →
    elapsed m (m.onDate date) = 24 * 3600 * 1000000
  clock : ∀ m m', m.civil.date = m'.civil.date → m.offset = m'.offset →
    elapsed m m' = m'.civil.clock - m.civil.clock
  offset : ∀ m m', m.civil = m'.civil →
    elapsed m m' = (m.offset.minutes - m'.offset.minutes) * 60000000

theorem instant_eq (m : Moment) :
    m.instant = m.civil.date.dayNumber * CivilTime.dayLength + m.civil.clock -
      m.offset.minutes * 60000000 := by
  unfold instant CivilTime.micros CivilTime.clock CivilTime.dayLength
  omega

theorem measures_since : Measures fun earlier later => later.since earlier where
  trans a b c := by
    unfold since
    omega
  nextDate m date h := by
    have hnumber := Date.dayNumber_next h
    have hdate : (m.onDate date).instant =
        date.dayNumber * CivilTime.dayLength + m.civil.clock - m.offset.minutes * 60000000 :=
      instant_eq _
    unfold since
    rw [hdate, instant_eq, hnumber]
    unfold CivilTime.dayLength
    omega
  clock m m' hdate hoffset := by
    unfold since
    rw [instant_eq, instant_eq, hdate, hoffset]
    omega
  offset m m' hcivil := by
    unfold since
    rw [instant_eq, instant_eq, hcivil]
    omega

section Unique

variable {elapsed elapsed' : Moment → Moment → Int} (h : Measures elapsed) (h' : Measures elapsed')
include h h'

theorem Measures.eq_trans {a b c : Moment} (hab : elapsed a b = elapsed' a b)
    (hbc : elapsed b c = elapsed' b c) : elapsed a c = elapsed' a c := by
  rw [← h.trans a b c, ← h'.trans a b c, hab, hbc]

theorem Measures.eq_symm {a b : Moment} (hab : elapsed a b = elapsed' a b) :
    elapsed b a = elapsed' b a := by
  have hback := h.trans a b a
  have hback' := h'.trans a b a
  have hstay := h.trans a a a
  have hstay' := h'.trans a a a
  omega

/-- By induction on the number of the date. -/
theorem Measures.eq_onDate_first (m : Moment) :
    elapsed (m.onDate .first) m = elapsed' (m.onDate .first) m := by
  induction hnumber : m.civil.date.dayNumber generalizing m with
  | zero =>
      rcases m.civil.date.eq_first_or_exists_next with hfirst | ⟨previous, hnext⟩
      · have hself : m.onDate .first = m := by
          rw [← hfirst]
          rfl
        have hstay := h.trans m m m
        have hstay' := h'.trans m m m
        rw [hself]
        omega
      · have hstep := Date.dayNumber_next hnext
        omega
  | succ n ih =>
      rcases m.civil.date.eq_first_or_exists_next with hfirst | ⟨previous, hnext⟩
      · rw [hfirst] at hnumber
        exact absurd hnumber.symm (Nat.succ_ne_zero n)
      · have hstep := Date.dayNumber_next hnext
        have hbefore := ih (m.onDate previous) (show previous.dayNumber = n by omega)
        have hday : elapsed (m.onDate previous) m = elapsed' (m.onDate previous) m :=
          (h.nextDate _ _ hnext).trans (h'.nextDate _ _ hnext).symm
        exact h.eq_trans h' hbefore hday

/-- Calendar and clock leave no choice: on the first date, moments differ by the clock and then by
the offset. -/
theorem Measures.unique : elapsed = elapsed' := by
  funext a b
  let sameOffset : Moment := ⟨(b.onDate .first).civil, a.offset⟩
  have hclock : elapsed (a.onDate .first) sameOffset = elapsed' (a.onDate .first) sameOffset :=
    (h.clock (a.onDate .first) sameOffset rfl rfl).trans
      (h'.clock (a.onDate .first) sameOffset rfl rfl).symm
  have hoffset : elapsed sameOffset (b.onDate .first) = elapsed' sameOffset (b.onDate .first) :=
    (h.offset sameOffset (b.onDate .first) rfl).trans
      (h'.offset sameOffset (b.onDate .first) rfl).symm
  have hstart := h.eq_symm h' (h.eq_onDate_first h' a)
  have hend := h.eq_onDate_first h' b
  exact h.eq_trans h' hstart (h.eq_trans h' hclock (h.eq_trans h' hoffset hend))

end Unique

theorem measures_iff {elapsed : Moment → Moment → Int} :
    Measures elapsed ↔ elapsed = fun earlier later => later.since earlier :=
  ⟨fun h => h.unique measures_since, fun h => h ▸ measures_since⟩

/-- A number of days of 24 hours goes into the time between two moments, and one more does not. -/
def DaysPass (since now : Moment) (days : Int) : Prop :=
  days * (24 * 3600 * 1000000) ≤ now.since since ∧
    now.since since < (days + 1) * (24 * 3600 * 1000000)

theorem daysPass_iff {since now : Moment} {days : Int} :
    since.DaysPass now days ↔ days = now.daysSince since := by
  unfold DaysPass daysSince CivilTime.dayLength
  omega

theorem daysSince_mono {since since' now now' : Moment} (h : now.since since ≤ now'.since since') :
    now.daysSince since ≤ now'.daysSince since' :=
  Int.ediv_le_ediv (by decide) h

end Moment

/-! ## The observations -/

/-- The moment since when a user has been away: the last activity or, without any, the making of
the account. -/
inductive User.AwaySince (user : User) : Moment → Prop where
  | active {last : Moment} (h : user.lastActivityAt = some last) : AwaySince user last
  | never (h : user.lastActivityAt = none) : AwaySince user user.createdAt

theorem User.awaySince_iff {user : User} {since : Moment} :
    user.AwaySince since ↔ since = user.lastActivityAt.getD user.createdAt := by
  constructor
  · intro h
    cases h with
    | active h => rw [h]; rfl
    | never h => rw [h]; rfl
  · rintro rfl
    cases h : user.lastActivityAt with
    | none => exact .never h
    | some last => exact .active h

/-- The context at another present moment. -/
def Context.withNow (context : Context) (now : Moment) : Context := { context with now }

namespace Field

variable {window : Except Failure Binary64} {context : Context} {condition : Condition}
  {actual : Value}

theorem finds_accountAge_iff :
    accountAge.Finds window context condition actual ↔
      actual = .int (context.now.daysSince context.user.createdAt) := by
  have hobserve : accountAge.observe window context condition =
      .ok (Observation.accountAge context condition) := rfl
  exact finds_iff_of_observe hobserve

theorem finds_inactiveDays_iff {since : Moment} (h : context.user.AwaySince since) :
    inactiveDays.Finds window context condition actual ↔
      actual = .int (context.now.daysSince since) := by
  have hobserve : inactiveDays.observe window context condition =
      .ok (Observation.inactiveDays context condition) := rfl
  rw [User.awaySince_iff.1 h]
  exact finds_iff_of_observe hobserve

end Field

/-- The time between two moments is the only one that goes by calendar and clock, and both
observations are the number of days that have passed of it, from the moment since when the user has
been away and from the making of the account.  They do not fall as the present moment advances, and
the first is not above the second if the last activity does not come before the account. -/
theorem Field.observe_days (window : Except Failure Binary64) (context : Context)
    (condition : Condition) :
    (∀ elapsed, Moment.Measures elapsed ↔ elapsed = fun earlier later => later.since earlier) ∧
    (∀ since, context.user.AwaySince since →
      ∃ days, inactiveDays.Finds window context condition (.int days) ∧
        ∀ n, since.DaysPass context.now n ↔ n = days) ∧
    (∃ days, accountAge.Finds window context condition (.int days) ∧
      ∀ n, context.user.createdAt.DaysPass context.now n ↔ n = days) ∧
    (∀ later : Moment, 0 ≤ later.since context.now → ∀ field ∈ [inactiveDays, accountAge],
      ∃ days days', field.Finds window context condition (.int days) ∧
        field.Finds window (context.withNow later) condition (.int days') ∧ days ≤ days') ∧
    ((∀ last, context.user.lastActivityAt = some last →
        0 ≤ last.since context.user.createdAt) →
      ∃ days age, inactiveDays.Finds window context condition (.int days) ∧
        accountAge.Finds window context condition (.int age) ∧ days ≤ age) := by
  obtain ⟨since, hsince⟩ : ∃ since, context.user.AwaySince since :=
    ⟨_, User.awaySince_iff.2 rfl⟩
  have hinactive : ∀ now, inactiveDays.Finds window (context.withNow now) condition
      (.int (now.daysSince since)) := by
    intro now
    have haway : (context.withNow now).user.AwaySince since := hsince
    exact (finds_inactiveDays_iff haway).2 rfl
  have hage : ∀ now, accountAge.Finds window (context.withNow now) condition
      (.int (now.daysSince context.user.createdAt)) := fun _ => finds_accountAge_iff.2 rfl
  refine ⟨fun _ => Moment.measures_iff,
    fun since' hsince' => ⟨context.now.daysSince since', ?_, ?_⟩,
    ⟨context.now.daysSince context.user.createdAt, hage context.now, ?_⟩,
    fun later hlater field hfield => ?_,
    fun hlast => ⟨_, _, hinactive context.now, hage context.now, ?_⟩⟩
  · exact (finds_inactiveDays_iff hsince').2 rfl
  · exact fun n => Moment.daysPass_iff
  · exact fun n => Moment.daysPass_iff
  · have hmono : ∀ start, context.now.daysSince start ≤ later.daysSince start := by
      intro start
      apply Moment.daysSince_mono
      unfold Moment.since at hlater ⊢
      omega
    simp only [List.mem_cons, List.not_mem_nil, or_false] at hfield
    rcases hfield with rfl | rfl
    · exact ⟨_, _, hinactive context.now, hinactive later, hmono since⟩
    · exact ⟨_, _, hage context.now, hage later, hmono context.user.createdAt⟩
  · apply Moment.daysSince_mono
    cases hsince with
    | active h =>
        have hle := hlast _ h
        unfold Moment.since at hle ⊢
        omega
    | never h => exact Int.le_refl _

/-- An account made on a leap day fourteen hours ahead of UTC, whose last activity is two
microseconds away in the future. -/
theorem Field.observe_days_future :
    let created : Moment :=
      ⟨⟨⟨2024, 2, 29, by decide, by decide, by decide⟩, 12, 0, 0, 0⟩, { minutes := 840 }⟩
    let last : Moment := ⟨⟨⟨2024, 3, 1, by decide, by decide, by decide⟩, 0, 0, 0, 1⟩, .utc⟩
    let now : Moment :=
      ⟨⟨⟨2024, 2, 29, by decide, by decide, by decide⟩, 23, 59, 59, 999999⟩, .utc⟩
    let later : Moment :=
      ⟨⟨⟨2024, 3, 1, by decide, by decide, by decide⟩, 0, 0, 0, 0⟩, { minutes := -720 }⟩
    let context : Context := { Context.lone with
      user := { Context.lone.user with createdAt := created, lastActivityAt := some last }, now }
    let condition : Condition := { field := .known .inactiveDays, operator := .lt }
    let window : Except Failure Binary64 := .error .noRule
    (context.user.AwaySince last ∧ last.DaysPass now (-1) ∧
      Field.inactiveDays.Finds window context condition (.int (-1))) ∧
    (0 ≤ later.since context.now ∧ Field.accountAge ∈ [Field.inactiveDays, .accountAge] ∧
      ∃ days days', Field.accountAge.Finds window context condition (.int days) ∧
        Field.accountAge.Finds window (context.withNow later) condition (.int days') ∧
          days ≤ days') ∧
    (∀ seen, context.user.lastActivityAt = some seen → 0 ≤ seen.since context.user.createdAt) ∧
      ∃ days age, Field.inactiveDays.Finds window context condition (.int days) ∧
        Field.accountAge.Finds window context condition (.int age) ∧ days ≤ age := by
  intro created last now later context condition window
  obtain ⟨-, haway, -, hlater, hlast⟩ := Field.observe_days window context condition
  have hsince : context.user.AwaySince last := .active rfl
  have hpass : last.DaysPass now (-1) := by
    unfold Moment.DaysPass
    decide
  have hmember : Field.accountAge ∈ [Field.inactiveDays, .accountAge] := by decide
  have hadvance : 0 ≤ later.since context.now := by decide
  have hseen : ∀ seen, context.user.lastActivityAt = some seen →
      0 ≤ seen.since context.user.createdAt := by
    rintro seen ⟨⟩
    decide
  obtain ⟨days, hfinds, hunique⟩ := haway last hsince
  rw [← (hunique (-1)).1 hpass] at hfinds
  exact ⟨⟨hsince, hpass, hfinds⟩, ⟨hadvance, hmember, hlater later hadvance _ hmember⟩, hseen,
    hlast hseen⟩

end PlaybackRules
