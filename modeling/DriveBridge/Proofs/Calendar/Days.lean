import DriveBridge.Calendar

namespace DriveBridge.Calendar

variable {m n : Nat} {year later : Int}

theorem isLeap_iff : isLeap year ↔ year % 4 = 0 ∧ (year % 100 ≠ 0 ∨ year % 400 = 0) := by
  simp [isLeap]

theorem isLeap_add (cycles year : Int) : isLeap (cycles * 400 + year) = isLeap year := by
  rw [Bool.eq_iff_iff, isLeap_iff, isLeap_iff]
  omega

def yearLength (year : Int) : Nat := if isLeap year then 366 else 365

theorem daysBefore_succ (year : Int) :
    daysBefore (year + 1) = daysBefore year + yearLength year := by
  simp only [daysBefore, yearLength, isLeap_iff]
  split <;> omega

theorem daysBefore_mono (h : year ≤ later) : daysBefore year ≤ daysBefore later := by
  simp only [daysBefore]
  omega

theorem daysBefore_add (cycles year : Int) :
    daysBefore (cycles * 400 + year) = cycles * cycle + daysBefore year := by
  simp only [daysBefore, cycle]
  omega

def daysBeforeMonth (year : Int) (month : Nat) : Nat :=
  ((monthLengths year).take (month - 1)).foldl (· + ·) 0

theorem daysBeforeMonth_succ (hm : 1 ≤ m) : daysBeforeMonth year (m + 1) =
    daysBeforeMonth year m + (monthLengths year)[m - 1]?.getD 0 := by
  have hsucc : m + 1 - 1 = m - 1 + 1 := by omega
  rw [daysBeforeMonth, hsucc, List.take_add_one, List.foldl_append]
  cases (monthLengths year)[m - 1]? <;> rfl

theorem daysBeforeMonth_mono (year : Int) (h : m ≤ n) :
    daysBeforeMonth year m ≤ daysBeforeMonth year n := by
  induction h with
  | refl => exact Nat.le_refl _
  | @step n _ ih =>
    cases n with
    | zero => exact ih
    | succ n =>
      rw [daysBeforeMonth_succ (by omega)]
      omega

theorem length_monthLengths (year : Int) : (monthLengths year).length = 12 := rfl

theorem foldl_monthLengths (year : Int) : (monthLengths year).foldl (· + ·) 0 = yearLength year := by
  simp only [monthLengths, yearLength, List.foldl_cons, List.foldl_nil]
  split <;> omega

theorem daysBeforeMonth_le (year : Int) (m : Nat) : daysBeforeMonth year m ≤ yearLength year := by
  have hall : daysBeforeMonth year (m + 13) = yearLength year := by
    rw [daysBeforeMonth, List.take_of_length_le, foldl_monthLengths]
    rw [length_monthLengths]
    omega
  rw [← hall]
  exact daysBeforeMonth_mono year (by omega)

def Date.dayOfYear (d : Date) : Nat := daysBeforeMonth d.year d.month + d.day

theorem Date.isValid_iff {d : Date} : d.isValid ↔
    1 ≤ d.month ∧ 1 ≤ d.day ∧ d.day ≤ (monthLengths d.year)[d.month - 1]?.getD 0 := by
  simp only [isValid, Bool.and_eq_true, decide_eq_true_eq, and_assoc]
  cases (monthLengths d.year)[d.month - 1]? with
  | none =>
    simp
    omega
  | some n => simp

theorem Date.toDays_eq (d : Date) :
    d.toDays = daysBefore d.year - daysBefore 1970 + d.dayOfYear - 1 := by
  simp only [toDays, dayOfYear, daysBeforeMonth]
  omega

theorem Date.dayOfYear_bounds {d : Date} (h : d.isValid) :
    daysBeforeMonth d.year d.month < d.dayOfYear ∧
      d.dayOfYear ≤ daysBeforeMonth d.year (d.month + 1) := by
  obtain ⟨hm, _, hd⟩ := isValid_iff.mp h
  rw [daysBeforeMonth_succ hm, dayOfYear]
  omega

def Date.IsBefore (d e : Date) : Prop :=
  d.year < e.year ∨ d.year = e.year ∧ (d.month < e.month ∨ d.month = e.month ∧ d.day < e.day)

theorem Date.toDays_lt {d e : Date} (hd : d.isValid) (he : e.isValid) (h : d.IsBefore e) :
    d.toDays < e.toDays := by
  have hlast := (dayOfYear_bounds hd).2
  have hfirst := (dayOfYear_bounds he).1
  rw [toDays_eq, toDays_eq]
  rcases h with hyear | ⟨hyear, hmonth | ⟨hmonth, hday⟩⟩
  · have hnext := daysBefore_mono (show d.year + 1 ≤ e.year from hyear)
    have hwithin := daysBeforeMonth_le d.year (d.month + 1)
    rw [daysBefore_succ] at hnext
    omega
  · have hnext := daysBeforeMonth_mono e.year (show d.month + 1 ≤ e.month from hmonth)
    rw [hyear] at hlast ⊢
    omega
  · rw [dayOfYear, dayOfYear, hyear, hmonth]
    omega

theorem Date.le_of_isValid {d : Date} (h : d.isValid) : d.month ≤ 12 ∧ d.day ≤ 31 := by
  obtain ⟨hm, hd, hlength⟩ := isValid_iff.mp h
  cases hget : (monthLengths d.year)[d.month - 1]? with
  | none =>
    rw [hget, Option.getD_none] at hlength
    omega
  | some n =>
    have hmonth := (List.getElem?_eq_some_iff.mp hget).1
    have hall : ∀ n ∈ monthLengths d.year, n ≤ 31 := by
      simp only [monthLengths]
      cases isLeap d.year <;> decide
    have := hall n (List.mem_of_getElem? hget)
    rw [hget, Option.getD_some] at hlength
    rw [length_monthLengths] at hmonth
    omega

theorem Date.isValid_newYear (year : Int) : (Date.mk year 1 1).isValid := by
  simp [isValid_iff, monthLengths]

theorem Date.year_lt_iff {d : Date} (hd : d.isValid) :
    d.year < year ↔ d.toDays < (Date.mk year 1 1).toDays := by
  constructor
  · intro h
    exact toDays_lt hd (isValid_newYear year) (.inl h)
  · intro h
    have hfirst := (dayOfYear_bounds hd).1
    have hnew : (Date.mk year 1 1).dayOfYear = 1 := rfl
    rw [toDays_eq, toDays_eq, hnew] at h
    rcases Int.lt_or_le d.year year with hlt | hge
    · exact hlt
    · have := daysBefore_mono hge
      dsimp only at h
      omega

theorem yearOfCycle_lt (h : n < cycle) : yearOfCycle n < 400 := by
  simp only [yearOfCycle, cycle] at *
  omega

theorem yearOfCycle_mono (h : m ≤ n) (hn : n < cycle) : yearOfCycle m ≤ yearOfCycle n := by
  simp only [yearOfCycle, cycle] at *
  apply Nat.div_le_div_right
  omega

theorem daysBefore_of_lt {year : Nat} (h : year < 400) :
    daysBefore (year + 1) = yearStart year := by
  simp only [daysBefore, yearStart]
  omega

theorem yearOfCycle_ends : ∀ year < 400, yearOfCycle (yearStart year) = year ∧
    (0 < year → yearOfCycle (yearStart year - 1) + 1 = year) := by
  decide +kernel

theorem daysBefore_yearOfCycle_le (h : n < cycle) : daysBefore (yearOfCycle n + 1) ≤ n := by
  have hyear := yearOfCycle_lt h
  rw [daysBefore_of_lt hyear]
  generalize hy : yearOfCycle n = year at hyear
  rcases Nat.lt_or_ge n (yearStart year) with hn | hn
  · have hpos : 0 < year := by
      apply Nat.pos_of_ne_zero
      rintro rfl
      cases hn
    have hlast := (yearOfCycle_ends year hyear).2 hpos
    have := yearOfCycle_mono (show n ≤ yearStart year - 1 by omega)
      (by simp only [yearStart, cycle]; omega)
    omega
  · omega

theorem lt_daysBefore_yearOfCycle (h : n < cycle) : n < daysBefore (yearOfCycle n + 2) := by
  have hyear := yearOfCycle_lt h
  generalize hy : yearOfCycle n = year at hyear
  rcases Nat.lt_or_ge year 399 with hlast | hlast
  · have hnext : year + 1 < 400 := by omega
    have hstart : daysBefore (year + 2) = yearStart (year + 1) := daysBefore_of_lt hnext
    rw [hstart]
    rcases Nat.lt_or_ge n (yearStart (year + 1)) with hn | hn
    · omega
    · have := yearOfCycle_mono hn h
      rw [(yearOfCycle_ends _ hnext).1] at this
      omega
  · obtain rfl : year = 399 := by omega
    simp only [daysBefore, cycle] at *
    omega

/-- The date of a day of a year that starts in March, counted from zero. The year is the one that
its March is in. -/
def Date.ofMarch (year : Int) (dayOfYear : Nat) : Date :=
  let month := (5 * dayOfYear + 2) / 153
  let day := dayOfYear - monthStart month + 1
  if month < 10 then ⟨year, month + 3, day⟩ else ⟨year + 1, month - 9, day⟩

theorem Date.exists_march (days : Int) : ∃ (year : Int) (dayOfYear : Nat),
    ofDays days = ofMarch year dayOfYear ∧ days + epoch = daysBefore (year + 1) + dayOfYear ∧
      dayOfYear < yearLength (year + 1) := by
  have hcycle : ((days + epoch) % cycle).toNat < cycle := by
    simp only [cycle]
    omega
  have hdays : days + epoch = (days + epoch) / cycle * cycle + ((days + epoch) % cycle).toNat := by
    simp only [cycle]
    omega
  refine ⟨(days + epoch) / cycle * 400 + yearOfCycle ((days + epoch) % cycle).toNat, _, rfl, ?_⟩
  generalize ((days + epoch) % cycle).toNat = n at hcycle hdays ⊢
  generalize (days + epoch) / cycle = cycles at hdays ⊢
  have hstart := daysBefore_yearOfCycle_le hcycle
  have hnext := lt_daysBefore_yearOfCycle hcycle
  have hyear := daysBefore_of_lt (yearOfCycle_lt hcycle)
  have hlength : daysBefore (yearOfCycle n + 2) =
      daysBefore (yearOfCycle n + 1) + yearLength (yearOfCycle n + 1) := by
    rw [← daysBefore_succ, Int.add_assoc]
    rfl
  rw [Int.add_assoc, daysBefore_add, yearLength, isLeap_add, ← yearLength]
  omega

theorem daysBeforeMonth_march (year : Int) : ∀ month < 10,
    daysBeforeMonth year (month + 3) + 306 = monthStart month + yearLength year := by
  simp only [daysBeforeMonth, monthLengths, yearLength]
  cases isLeap year <;> decide

theorem length_march (year : Int) : ∀ month < 10,
    (monthLengths year)[month + 3 - 1]?.getD 0 = monthStart (month + 1) - monthStart month := by
  simp only [monthLengths]
  cases isLeap year <;> decide

theorem daysBeforeMonth_turn (year : Int) : ∀ month < 12, 10 ≤ month →
    daysBeforeMonth year (month - 9) + 306 = monthStart month := by
  simp only [daysBeforeMonth, monthLengths]
  cases isLeap year <;> decide

theorem length_turn (year : Int) : ∀ month < 12, 10 ≤ month →
    (monthLengths year)[month - 9 - 1]?.getD 0 =
      min (monthStart (month + 1)) (yearLength year) - monthStart month := by
  simp only [monthLengths, yearLength]
  cases isLeap year <;> decide

theorem month_bounds (n : Nat) : monthStart ((5 * n + 2) / 153) ≤ n ∧
    n < monthStart ((5 * n + 2) / 153 + 1) := by
  simp only [monthStart]
  omega

theorem yearLength_le (year : Int) : yearLength year ≤ 366 := by
  rw [yearLength]
  split <;> omega

theorem Date.ofMarch_spec {dayOfYear : Nat} (h : dayOfYear < yearLength (year + 1)) :
    (ofMarch year dayOfYear).isValid ∧
      (ofMarch year dayOfYear).toDays + epoch = daysBefore (year + 1) + dayOfYear := by
  obtain ⟨hstart, hnext⟩ := month_bounds dayOfYear
  have hlast := yearLength_le (year + 1)
  have htwelve : (5 * dayOfYear + 2) / 153 < 12 := by omega
  have horigin : daysBefore 1970 + 306 = epoch := by decide
  rw [isValid_iff, toDays_eq, Date.dayOfYear, ofMarch]
  generalize (5 * dayOfYear + 2) / 153 = month at *
  split
  · rename_i hten
    have hbefore := daysBeforeMonth_march year month hten
    have hlength := length_march year month hten
    have hsucc := daysBefore_succ year
    dsimp only
    rw [hlength]
    omega
  · rename_i hten
    have hbefore := daysBeforeMonth_turn (year + 1) month htwelve (by omega)
    have hlength := length_turn (year + 1) month htwelve (by omega)
    dsimp only
    rw [hlength]
    omega

theorem Date.isValid_ofDays (days : Int) : (ofDays days).isValid := by
  obtain ⟨year, dayOfYear, hdate, _, hlength⟩ := exists_march days
  rw [hdate]
  exact (ofMarch_spec hlength).1

theorem Date.toDays_ofDays (days : Int) : (ofDays days).toDays = days := by
  obtain ⟨year, dayOfYear, hdate, hdays, hlength⟩ := exists_march days
  have hcount := (ofMarch_spec hlength).2
  rw [hdate]
  omega

end DriveBridge.Calendar
