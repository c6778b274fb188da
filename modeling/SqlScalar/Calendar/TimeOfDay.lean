/-! # Times of day

A time of day is a second of the day and nanoseconds within it. The last second of a
minute may be followed by a leap second: it is held as a second second's worth of
nanoseconds, so the nanoseconds run up to two seconds there. Moving a time of day passes
a leap second in no time at all, unless the move ends inside it.
-/

namespace SqlScalar.Calendar

def nanosPerSecond : Nat := 1000000000

def secondsPerDay : Nat := 86400

def nanosPerDay : Nat := secondsPerDay * nanosPerSecond

/-- A time of day, to the nanosecond. The last second of a minute can be a leap second. -/
structure TimeOfDay where
  second : Nat
  /-- Nanoseconds within the second, from a full second on within a leap second. -/
  nano : Nat
  second_lt : second < secondsPerDay
  nano_lt : nano < 2 * nanosPerSecond
  leap_at_end : nano < nanosPerSecond ∨ second % 60 = 59
deriving DecidableEq

namespace TimeOfDay

/-- The beginning of a day. -/
def midnight : TimeOfDay where
  second := 0
  nano := 0
  second_lt := by decide
  nano_lt := by decide
  leap_at_end := by decide

/-- Whether a time of day lies in a leap second. -/
def isLeap (time : TimeOfDay) : Bool :=
  nanosPerSecond ≤ time.nano

/-- The time of day with a given hour, minute, second and nanoseconds, if there is one. -/
def ofClock? (hour minute second nano : Nat) : Option TimeOfDay :=
  if valid : hour < 24 ∧ minute < 60 ∧ second < 60 ∧ nano < 2 * nanosPerSecond ∧
      (nano < nanosPerSecond ∨ second = 59) then
    some {
      second := hour * 3600 + minute * 60 + second
      nano := nano
      second_lt := by simp only [secondsPerDay]; omega
      nano_lt := valid.2.2.2.1
      leap_at_end := by omega }
  else none

/-- The time of day with a given second of the day and nanoseconds, if there is one. -/
def ofSecond? (second nano : Nat) : Option TimeOfDay :=
  if valid : second < secondsPerDay ∧ nano < 2 * nanosPerSecond ∧
      (nano < nanosPerSecond ∨ second % 60 = 59) then
    some ⟨second, nano, valid.1, valid.2.1, valid.2.2⟩
  else none

/-- The nanoseconds since midnight. A leap second has the same ones as the second behind it. -/
def nanoseconds (time : TimeOfDay) : Int :=
  time.second * nanosPerSecond + time.nano

/-- The time of day a number of nanoseconds after midnight, round the clock if need be. -/
def ofNanoseconds (nanoseconds : Int) : TimeOfDay :=
  let ofDay := (nanoseconds % nanosPerDay).toNat
  have ofDay_lt : ofDay < nanosPerDay := by
    simp only [ofDay, nanosPerDay, secondsPerDay, nanosPerSecond]; omega
  { second := ofDay / nanosPerSecond
    nano := ofDay % nanosPerSecond
    second_lt := Nat.div_lt_of_lt_mul (by rw [Nat.mul_comm]; exact ofDay_lt)
    nano_lt := by simp only [nanosPerSecond]; omega
    leap_at_end := .inl (Nat.mod_lt _ (by decide)) }

/-- The time of day a number of nanoseconds later, or earlier for a negative number, and
the number of midnights passed on the way. A leap second that is left behind does not
count. -/
def advance (time : TimeOfDay) (nanoseconds : Int) : TimeOfDay × Int :=
  let moved := time.nanoseconds + nanoseconds
  if leap : time.isLeap ∧ nanosPerSecond ≤ time.nano + nanoseconds then
    if inside : time.nano + nanoseconds < 2 * nanosPerSecond then
      ({ second := time.second
         nano := (time.nano + nanoseconds).toNat
         second_lt := time.second_lt
         nano_lt := by omega
         leap_at_end := .inr (by
          have isLeap := leap.1
          simp only [TimeOfDay.isLeap, decide_eq_true_eq] at isLeap
          exact time.leap_at_end.resolve_left (by omega)) }, 0)
    else (ofNanoseconds (moved - nanosPerSecond), (moved - nanosPerSecond) / nanosPerDay)
  else (ofNanoseconds moved, moved / nanosPerDay)

/-- The order of times of day: by second, then by nanosecond. -/
def compare (left right : TimeOfDay) : Ordering :=
  (Ord.compare left.second right.second).then (Ord.compare left.nano right.nano)

/-- The second and the nanoseconds of a time of day make up that time of day. -/
theorem ofSecond?_second_nano (time : TimeOfDay) :
    ofSecond? time.second time.nano = some time :=
  dif_pos ⟨time.second_lt, time.nano_lt, time.leap_at_end⟩

/-- A time of day from nanoseconds is that many nanoseconds after midnight, but for whole
days. -/
theorem nanoseconds_ofNanoseconds (count : Int) :
    (ofNanoseconds count).nanoseconds = count % nanosPerDay := by
  simp only [ofNanoseconds, nanoseconds, nanosPerDay, secondsPerDay, nanosPerSecond]
  omega

theorem isLeap_ofNanoseconds (count : Int) : (ofNanoseconds count).isLeap = false := by
  have nano_lt : (ofNanoseconds count).nano < nanosPerSecond := Nat.mod_lt _ (by decide)
  exact decide_eq_false (Nat.not_le_of_lt nano_lt)

end TimeOfDay

end SqlScalar.Calendar
