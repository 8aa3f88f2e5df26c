import GatewayOperator.Instant
import GatewayOperator.Proofs.Text.Decimal

/-!
# Time stamps in order

In a calendar that counts its years from March the leap day is the last day of a year, so the day of the year
grows by one from day to day until a year ends. Month and day follow from it without exceptions, and hence
dates are in the order of their days. A time stamp shows date and time from the greatest part to the least,
each filled up to a fixed length. So as texts the stamps of instants are in the order of the seconds that they
show.
-/

set_option autoImplicit false

namespace GatewayOperator.Instant

/-! ## Years from March -/

/-- The number of days of an era before one of its years. -/
def daysBefore (year : Int) : Int := 365 * year + year / 4 - year / 100

/-- The year of an era on one of its days. -/
def yearOn (day : Int) : Int := (day - day / 1460 + day / 36524 - day / 146096) / 365

/-- The day of the year on a day of an era. -/
def dayOn (day : Int) : Int := day - daysBefore (yearOn day)

/-- A day that is not the last one of the era lies between the start of its year and that of the next. -/
theorem daysBefore_yearOn {day : Int} (h : 0 ≤ day) (h' : day < 146096) :
    0 ≤ yearOn day ∧ yearOn day ≤ 399 ∧ daysBefore (yearOn day) ≤ day ∧
      day < daysBefore (yearOn day + 1) := by
  have hera : day / 146096 = 0 := by omega
  unfold yearOn
  rw [hera]
  generalize hyear : (day - day / 1460 + day / 36524 - 0) / 365 = year
  have hcentury : 100 * (day / 36524) ≤ year ∧ year < 100 * (day / 36524) + 100 := by omega
  have hleaps : year / 4 ≤ day / 1460 ∧ day / 1460 ≤ (year + 1) / 4 := by omega
  unfold daysBefore
  -- the last year of a century has no leap day
  by_cases hlast : year + 1 = 100 * (day / 36524) + 100
  · omega
  · omega

/-- A day of an era of 400 years has a year of it, and a day of that year. -/
theorem bounds_yearOn (day : Int) (h : 0 ≤ day) (h' : day ≤ 146096) :
    0 ≤ yearOn day ∧ yearOn day ≤ 399 ∧ 0 ≤ dayOn day ∧ dayOn day ≤ 365 := by
  rcases Int.lt_or_eq_of_le h' with hlt | rfl
  · obtain ⟨hlow, hhigh, hstart, hnext⟩ := daysBefore_yearOn h hlt
    have hlength : daysBefore (yearOn day + 1) ≤ daysBefore (yearOn day) + 366 := by
      unfold daysBefore
      omega
    unfold dayOn
    omega
  · decide

/-- In the course of an era the years go by, and in the course of a year its days. -/
theorem yearOn_lt_or {m n : Int} (hm : 0 ≤ m) (hn : n ≤ 146096) (h : m < n) :
    yearOn m < yearOn n ∨ yearOn m = yearOn n ∧ dayOn m < dayOn n := by
  obtain ⟨-, -, hstart, -⟩ := daysBefore_yearOn hm (by omega)
  obtain ⟨-, -, -, hlate⟩ := bounds_yearOn n (by omega) hn
  rcases Int.lt_trichotomy (yearOn m) (yearOn n) with hlt | heq | hgt
  · exact .inl hlt
  · refine .inr ⟨heq, ?_⟩
    unfold dayOn
    rw [heq]
    omega
  · -- the year of the earlier day would start after the later one
    have hyears : daysBefore (yearOn n) + 365 ≤ daysBefore (yearOn m) := by
      unfold daysBefore
      omega
    unfold dayOn at hlate
    omega

/-! ## Dates in order -/

/-- Whether a date comes before another: by year, then by month, then by day. -/
def Date.Before (d e : Date) : Prop :=
  d.year < e.year ∨ d.year = e.year ∧ (d.month < e.month ∨ d.month = e.month ∧ d.day < e.day)

/-- The date on a day of a year that starts in March. -/
def Date.ofMarch (year day : Int) : Date :=
  let fromMarch := (5 * day + 2) / 153
  let month := if fromMarch < 10 then fromMarch + 3 else fromMarch - 9
  ⟨year + (if month ≤ 2 then 1 else 0), month.toNat, (day - (153 * fromMarch + 2) / 5 + 1).toNat⟩

/-- Dates that count from March are in the order of their years and days. -/
theorem Date.ofMarch_before {year year' m n : Int} (hm : 0 ≤ m ∧ m ≤ 365) (hn : 0 ≤ n ∧ n ≤ 365)
    (h : year < year' ∨ year = year' ∧ m < n) : (ofMarch year m).Before (ofMarch year' n) := by
  unfold Before ofMarch
  simp only
  split <;> split <;> split <;> split <;> omega

/-- Month and day have two digits at most. -/
theorem Date.ofMarch_lt {year m : Int} (h : 0 ≤ m ∧ m ≤ 365) :
    (ofMarch year m).month < 100 ∧ (ofMarch year m).day < 100 := by
  unfold ofMarch
  simp only
  split <;> omega

/-- The date of a day by its era, and by year and day within it, counted from March. -/
theorem Date.ofDays_eq (days : Int) : ofDays days =
    ofMarch (yearOn ((days + 719468) % 146097) + (days + 719468) / 146097 * 400)
      (dayOn ((days + 719468) % 146097)) := by
  have hera : (days + 719468).fdiv 146097 = (days + 719468) / 146097 :=
    Int.fdiv_eq_ediv_of_nonneg _ (by decide)
  have hday : days + 719468 - (days + 719468) / 146097 * 146097 = (days + 719468) % 146097 := by omega
  unfold ofDays
  simp only [hera, hday]
  rfl

/-- A later day has a later date. -/
theorem Date.ofDays_before {m n : Int} (h : m < n) : (ofDays m).Before (ofDays n) := by
  rw [ofDays_eq, ofDays_eq]
  generalize hfirst : m + 719468 = first
  generalize hsecond : n + 719468 = second
  have hm := bounds_yearOn (first % 146097) (by omega) (by omega)
  have hn := bounds_yearOn (second % 146097) (by omega) (by omega)
  apply ofMarch_before hm.2.2 hn.2.2
  by_cases hera : first / 146097 = second / 146097
  · have hday : first % 146097 < second % 146097 := by omega
    rw [hera]
    rcases yearOn_lt_or (by omega) (by omega) hday with hyear | ⟨hyear, hday⟩
    · exact .inl (by omega)
    · exact .inr ⟨by rw [hyear], hday⟩
  · -- an era has years up to 399
    exact .inl (by omega)

/-- Dates are in the order of their days. -/
theorem Date.ofDays_before_iff (m n : Int) : (ofDays m).Before (ofDays n) ↔ m < n := by
  refine ⟨fun h => ?_, ofDays_before⟩
  rcases Int.lt_trichotomy m n with hlt | rfl | hgt
  · exact hlt
  · unfold Before at h
    omega
  · have hother := ofDays_before hgt
    unfold Before at h hother
    omega

/-- Different days have different dates. -/
theorem Date.ofDays_inj {m n : Int} : ofDays m = ofDays n ↔ m = n := by
  refine ⟨fun h => ?_, fun h => by rw [h]⟩
  rcases Int.lt_trichotomy m n with hlt | heq | hgt
  · have hbefore := ofDays_before hlt
    rw [h, ofDays_before_iff] at hbefore
    omega
  · exact heq
  · have hbefore := ofDays_before hgt
    rw [h, ofDays_before_iff] at hbefore
    omega

/-- Month and day of a date have two digits at most. -/
theorem Date.ofDays_lt (days : Int) : (ofDays days).month < 100 ∧ (ofDays days).day < 100 := by
  obtain ⟨-, -, hday⟩ := bounds_yearOn ((days + 719468) % 146097) (by omega) (by omega)
  rw [ofDays_eq]
  exact ofMarch_lt hday

/-- The days of the years of the calendar are close to the epoch. -/
theorem Date.bounds_of_hasYear {days : Int} (h : hasYear (ofDays days).year = true) :
    -100000000 ≤ days ∧ days ≤ 100000000 := by
  obtain ⟨hlow, hhigh, -, -⟩ := bounds_yearOn ((days + 719468) % 146097) (by omega) (by omega)
  have hyear : -262143 ≤ (ofDays days).year ∧ (ofDays days).year ≤ 262142 := by simpa [hasYear] using h
  rw [ofDays_eq] at hyear
  simp only [ofMarch] at hyear
  generalize yearOn ((days + 719468) % 146097) = year at hlow hhigh hyear
  split at hyear <;> omega

/-- The seconds of an instant that was read are those of a year of the calendar. -/
theorem bounds_of_read {text : String} {t : Instant} (h : read text = .ok t) :
    -10000000000000 ≤ t.seconds ∧ t.seconds ≤ 10000000000000 := by
  have hyear : hasYear t.date.year = true := by
    simp only [read, bind, Except.bind, pure, Except.pure] at h
    -- date, mark, time and offset are read, nothing is left, and the parts are in range
    iterate 6
      split at h
      · cases h
    split at h
    · next hlast =>
      cases h
      exact hlast
    · cases h
  have hdays := Date.bounds_of_hasYear hyear
  rw [Int.fdiv_eq_ediv_of_nonneg _ (by decide)] at hdays
  omega

/-! ## What a stamp shows -/

/-- Instants are in the order of their seconds, and within a second of their nanoseconds. -/
instance : LT Instant := ⟨fun a b => a.seconds < b.seconds ∨ a.seconds = b.seconds ∧ a.nanos < b.nanos⟩

/-- The start of the second in which an instant lies. A leap second is a second of its own. -/
def wholeSecond (t : Instant) : Instant := ⟨t.seconds, t.nanos / 1000000000 * 1000000000⟩

/-- Instants are ordered by their seconds and then by what is beyond these. -/
theorem lt_iff {a b : Instant} :
    a < b ↔ a.seconds < b.seconds ∨ a.seconds = b.seconds ∧ a.nanos < b.nanos := Iff.rfl

/-- No instant is before itself. -/
theorem ne_of_lt {a b : Instant} (h : a < b) : a ≠ b := by
  rintro rfl
  rw [lt_iff] at h
  omega

/-- Whole seconds are ordered by the seconds, where a leap second comes after its second. -/
theorem wholeSecond_lt_iff {a b : Instant} : a.wholeSecond < b.wholeSecond ↔
    a.seconds < b.seconds ∨ a.seconds = b.seconds ∧ a.nanos / 1000000000 < b.nanos / 1000000000 := by
  rw [lt_iff]
  simp only [wholeSecond]
  omega

/-- Cutting to whole seconds does not turn the order around. -/
theorem not_wholeSecond_lt {a b : Instant} (h : a < b) : ¬ b.wholeSecond < a.wholeSecond := by
  rw [lt_iff] at h
  rw [wholeSecond_lt_iff]
  omega

/-- Instants of different seconds are in the order of their seconds. -/
theorem wholeSecond_lt {a b : Instant} (h : a < b) (hne : a.wholeSecond ≠ b.wholeSecond) :
    a.wholeSecond < b.wholeSecond := by
  simp only [wholeSecond, ne_eq, Instant.mk.injEq] at hne
  rw [lt_iff] at h
  rw [wholeSecond_lt_iff]
  omega

/-- Whether there is such an instant, and its year is one of 0 to 9999. -/
structure HasStamp (t : Instant) : Prop where
  exists_ofUnix : ofUnix? t.seconds t.nanos = some t
  year : 0 ≤ t.date.year ∧ t.date.year ≤ 9999

/-- The second of the minute that a stamp shows. -/
def shownSecond (t : Instant) : Nat :=
  if 1000000000 ≤ t.nanos then t.secondOfDay % 60 + 1 else t.secondOfDay % 60

/-- Whether the time of the day that one stamp shows is before that of another. -/
def ClockBefore (a b : Instant) : Prop :=
  a.secondOfDay / 3600 < b.secondOfDay / 3600 ∨ a.secondOfDay / 3600 = b.secondOfDay / 3600 ∧
    (a.secondOfDay / 60 % 60 < b.secondOfDay / 60 % 60 ∨
      a.secondOfDay / 60 % 60 = b.secondOfDay / 60 % 60 ∧ a.shownSecond < b.shownSecond)

/-- The second of the day is what is left of the seconds beyond whole days. -/
theorem secondOfDay_eq (t : Instant) : (t.secondOfDay : Int) = t.seconds % 86400 := by
  have hday : t.seconds.fmod 86400 = t.seconds % 86400 := Int.fmod_eq_emod_of_nonneg _ (by decide)
  unfold secondOfDay
  rw [hday]
  omega

/-- A day has 86400 seconds. -/
theorem secondOfDay_lt (t : Instant) : t.secondOfDay < 86400 := by
  have h := secondOfDay_eq t
  omega

/-- The shown second has two digits at most. -/
theorem shownSecond_lt (t : Instant) : t.shownSecond < 100 := by
  unfold shownSecond
  split <;> omega

namespace HasStamp

variable {a b t : Instant}

/-- Only the last second of a minute has a leap second after it. -/
theorem leap (h : t.HasStamp) :
    t.nanos < 1000000000 ∨ t.nanos < 2000000000 ∧ t.secondOfDay % 60 = 59 := by
  have hsecond := secondOfDay_eq t
  have hminute : t.seconds.fmod 60 = t.seconds % 60 := Int.fmod_eq_emod_of_nonneg _ (by decide)
  have hexists := h.exists_ofUnix
  unfold ofUnix? at hexists
  rw [hminute] at hexists
  simp only at hexists
  split at hexists
  · cases hexists
  · split at hexists
    · exact .inl (by assumption)
    · split at hexists
      · next hleap => exact .inr ⟨hleap.1, by omega⟩
      · cases hexists

/-- The shown second is that of the minute, and one more in a leap second. -/
theorem shownSecond_eq (h : t.HasStamp) :
    t.shownSecond = t.secondOfDay % 60 + t.nanos / 1000000000 := by
  have hleap := h.leap
  unfold shownSecond
  split <;> omega

/-- A stamp is made of padded numbers and the signs between them. -/
theorem toList_stamp (h : t.HasStamp) : t.stamp.toList =
    Text.padded 4 t.date.year.toNat ++ '-' :: (Text.padded 2 t.date.month ++ '-' ::
      (Text.padded 2 t.date.day ++ 'T' :: (Text.padded 2 (t.secondOfDay / 3600) ++ ':' ::
        (Text.padded 2 (t.secondOfDay / 60 % 60) ++ ':' :: (Text.padded 2 t.shownSecond ++ ['Z']))))) := by
  obtain ⟨hlow, hhigh⟩ := h.year
  have hyear : yearText t.date.year = Text.padded 4 t.date.year.toNat := by
    have hnat : t.date.year.natAbs = t.date.year.toNat := by omega
    unfold yearText
    rw [if_neg (by omega), if_pos hhigh, hnat]
  simp only [stamp, String.toList_ofList, secondsText, hyear, List.append_assoc, List.cons_append]
  rfl

/-! ## Stamps in order -/

/-- Stamps are in the order of the dates and times that they show. -/
theorem stamp_lt_iff_shown (ha : a.HasStamp) (hb : b.HasStamp) :
    a.stamp < b.stamp ↔ a.date.Before b.date ∨ a.date = b.date ∧ a.ClockBefore b := by
  obtain ⟨hyear, hyear'⟩ := ha.year
  obtain ⟨hother, hother'⟩ := hb.year
  obtain ⟨hmonth, hday⟩ := Date.ofDays_lt (a.seconds.fdiv 86400)
  obtain ⟨hmonth', hday'⟩ := Date.ofDays_lt (b.seconds.fdiv 86400)
  have hhour := secondOfDay_lt a
  have hhour' := secondOfDay_lt b
  have hsame : a.date = b.date ↔
      a.date.year = b.date.year ∧ a.date.month = b.date.month ∧ a.date.day = b.date.day := by
    rw [← Date.mk.injEq]
  have hyears : (a.date.year.toNat < b.date.year.toNat ↔ a.date.year < b.date.year) ∧
      (a.date.year.toNat = b.date.year.toNat ↔ a.date.year = b.date.year) := by omega
  show a.stamp.toList < b.stamp.toList ↔ _
  rw [ha.toList_stamp, hb.toList_stamp]
  -- part by part, each with the mark that follows it
  rw [Text.padded_append_lt_iff (by decide) (by omega) (by omega), List.cons_lt_cons_self,
    Text.padded_append_lt_iff (by decide) hmonth hmonth', List.cons_lt_cons_self,
    Text.padded_append_lt_iff (by decide) hday hday', List.cons_lt_cons_self,
    Text.padded_append_lt_iff (by decide) (by omega) (by omega), List.cons_lt_cons_self,
    Text.padded_append_lt_iff (by decide) (by omega) (by omega), List.cons_lt_cons_self,
    Text.padded_append_lt_iff (by decide) (shownSecond_lt a) (shownSecond_lt b), hyears.1, hyears.2, hsame]
  unfold Date.Before ClockBefore
  simp only [List.lt_irrefl, and_false, or_false, or_assoc, and_or_left, and_assoc]

/-- Clock times are in the order of their seconds, a leap second being after its second. -/
theorem clockBefore_iff (ha : a.HasStamp) (hb : b.HasStamp) :
    a.ClockBefore b ↔ a.secondOfDay < b.secondOfDay ∨
      a.secondOfDay = b.secondOfDay ∧ a.nanos / 1000000000 < b.nanos / 1000000000 := by
  have hleap := ha.leap
  have hleap' := hb.leap
  unfold ClockBefore
  rw [ha.shownSecond_eq, hb.shownSecond_eq]
  omega

/-- As texts the stamps of instants are in the order of the seconds in which the instants lie. -/
theorem stamp_lt_stamp_iff (ha : a.HasStamp) (hb : b.HasStamp) :
    a.stamp < b.stamp ↔ a.wholeSecond < b.wholeSecond := by
  have hsecond := secondOfDay_eq a
  have hsecond' := secondOfDay_eq b
  have hday : a.seconds.fdiv 86400 = a.seconds / 86400 := Int.fdiv_eq_ediv_of_nonneg _ (by decide)
  have hday' : b.seconds.fdiv 86400 = b.seconds / 86400 := Int.fdiv_eq_ediv_of_nonneg _ (by decide)
  rw [stamp_lt_iff_shown ha hb, clockBefore_iff ha hb, wholeSecond_lt_iff]
  unfold date
  rw [Date.ofDays_before_iff, Date.ofDays_inj, hday, hday']
  omega

end HasStamp

end GatewayOperator.Instant
