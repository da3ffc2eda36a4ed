import FilePaths.Stat.Record

/-!
# Stamps of files

A stamp is read by going from the epoch to its second and on by its nanoseconds, and a moment is
written by splitting its distance from the epoch.  Reading is exact and never leaves the words it
works in.  Writing gives the stamp back, and leaves its words in one case only: the second 2 ^ 63
before the epoch, without a fraction, is reached by negating a distance that no signed word holds.
-/

namespace FilePaths

/-! ## Words -/

/-- A word is found for a number exactly if it stands for that number. -/
theorem word?_eq_some_iff {number : Int} {word : Int64} :
    word? number = some word ↔ word.toInt = number := by
  rw [word?]
  constructor
  · intro word_eq
    split at word_eq
    · rename_i inRange
      obtain rfl := Option.some.inj word_eq
      rw [Int64.toInt_minValue, Int64.toInt_maxValue] at inRange
      exact Int64.toInt_ofInt_of_le inRange.1 (by omega)
    · cases word_eq
  · rintro rfl
    rw [if_pos ⟨word.minValue_le_toInt, word.toInt_le⟩, Int64.ofInt_toInt]

namespace Instant

/-- A length of time in whole seconds, as many as lie between a second and the epoch. -/
def distance (seconds : Int64) : Span :=
  ⟨UInt64.ofNat seconds.toInt.natAbs, epoch.nanos⟩

theorem toNat_distance (seconds : Int64) :
    (distance seconds).seconds.toNat = seconds.toInt.natAbs := by
  have notBelow := seconds.le_toInt
  have isBelow := seconds.toInt_lt
  exact UInt64.toNat_ofNat_of_lt' (by rw [UInt64.size]; omega)

/-! ## Reading -/

/-- Going on by a length of time without a carry reaches the second that lies as far ahead. -/
theorem later?_of_noCarry
    {instant : Instant}
    {span : Span}
    {seconds : Int64}
    (seconds_eq : seconds.toInt = instant.seconds.toInt + span.seconds.toNat)
    (noCarry : instant.nanos.val + span.nanos.val < 1000000000) :
    instant.later? span = some ⟨seconds, ⟨instant.nanos.val + span.nanos.val, noCarry⟩⟩ := by
  rw [later?, word?_eq_some_iff.mpr seconds_eq, Option.bind_some, dif_pos noCarry]

/-- Going back by whole seconds reaches the second that lies as far behind. -/
theorem earlier?_of_whole
    {instant : Instant}
    {span : Span}
    {seconds : Int64}
    (seconds_eq : seconds.toInt = instant.seconds.toInt - span.seconds.toNat)
    (isWhole : span.nanos = 0) :
    instant.earlier? span = some ⟨seconds, instant.nanos⟩ := by
  have noBorrow : span.nanos.val ≤ instant.nanos.val := by
    rw [isWhole]
    exact Nat.zero_le _
  rw [earlier?, word?_eq_some_iff.mpr seconds_eq, Option.bind_some, dif_pos noBorrow]
  simp [isWhole]

/-- Every second is reached from the epoch, in its own direction. -/
theorem start_eq (seconds : Int64) :
    (if 0 ≤ seconds then epoch.later? (distance seconds)
      else epoch.earlier? (distance seconds)) = some ⟨seconds, 0⟩ := by
  have distance_eq := toNat_distance seconds
  split
  · rename_i isAfter
    rw [Int64.le_iff_toInt_le, Int64.toInt_zero] at isAfter
    apply later?_of_noCarry
    change seconds.toInt = 0 + ((distance seconds).seconds.toNat : Int)
    omega
  · rename_i isBefore
    rw [Int64.le_iff_toInt_le, Int64.toInt_zero] at isBefore
    apply earlier?_of_whole
    · change seconds.toInt = 0 - ((distance seconds).seconds.toNat : Int)
      omega
    · rfl

/-- Reading a stamp takes its second as it is and moves its nanoseconds into their range. -/
theorem ofStamp?_eq (seconds nanos : Int64) :
    ofStamp? seconds nanos = some ⟨seconds, clampNanos nanos⟩ := by
  change (if 0 ≤ seconds then epoch.later? (distance seconds)
    else epoch.earlier? (distance seconds)).bind _ = _
  have noCarry : (0 : Nat) + (clampNanos nanos).val < 1000000000 := by
    omega
  have later_eq : (⟨seconds, 0⟩ : Instant).later? ⟨0, clampNanos nanos⟩ =
      some ⟨seconds, ⟨0 + (clampNanos nanos).val, noCarry⟩⟩ :=
    later?_of_noCarry (by simp) noCarry
  rw [start_eq, Option.bind_some, later_eq]
  simp

theorem val_clampNanos (nanos : Int64) :
    ((clampNanos nanos).val : Int) = max 0 (min nanos.toInt 999999999) := by
  rw [clampNanos]
  dsimp only
  omega

/-! ## Writing -/

/-- Seconds before the epoch are found again by negating their distance. -/
theorem word?_neg_distance
    {seconds : Int64}
    {count : Nat}
    (isShort : (count : Int) ≤ Int64.maxValue.toInt)
    (seconds_eq : seconds.toInt = -count) :
    word? (-(UInt64.ofNat count).toInt64.toInt) = some seconds := by
  rw [Int64.toInt_maxValue] at isShort
  have isShort : count < 2 ^ 63 := by
    omega
  rw [word?_eq_some_iff, seconds_eq, UInt64.toInt64_ofNat', Int64.toInt_ofNat_of_lt isShort]

variable {instant : Instant}

theorem stamp?_of_after (isAfter : 0 ≤ instant.seconds) :
    instant.stamp? = some (instant.seconds, Int64.ofNat instant.nanos.val) := by
  rw [stamp?, offset, if_pos isAfter]
  simp only [Int64.toInt64_toUInt64]

theorem stamp?_of_whole
    (isBefore : ¬0 ≤ instant.seconds)
    (isWhole : instant.nanos.val = 0)
    (notLeast : instant.seconds ≠ Int64.minValue) :
    instant.stamp? = some (instant.seconds, Int64.ofNat instant.nanos.val) := by
  rw [stamp?, offset, if_neg isBefore, dif_pos isWhole]
  rw [Int64.le_iff_toInt_le, Int64.toInt_zero] at isBefore
  have notBelow := instant.seconds.le_toInt
  have notLeastInt : instant.seconds.toInt ≠ -2 ^ 63 := fun isLeast =>
    notLeast (Int64.toInt_inj.mp (isLeast.trans Int64.toInt_minValue.symm))
  have seconds_found : word? (-(UInt64.ofNat instant.seconds.toInt.natAbs).toInt64.toInt) =
      some instant.seconds :=
    word?_neg_distance (by rw [Int64.toInt_maxValue]; omega) (by omega)
  dsimp only
  rw [seconds_found, isWhole]
  rfl

/-- A fraction is carried over to the second before it, whose distance is a signed word. -/
theorem stamp?_of_part
    (isBefore : ¬0 ≤ instant.seconds)
    (isPart : instant.nanos.val ≠ 0) :
    instant.stamp? = some (instant.seconds, Int64.ofNat instant.nanos.val) := by
  rw [stamp?, offset, if_neg isBefore, dif_neg isPart]
  rw [Int64.le_iff_toInt_le, Int64.toInt_zero] at isBefore
  have notBelow := instant.seconds.le_toInt
  have isBelow := instant.nanos.isLt
  obtain ⟨next, next_eq⟩ : ∃ next : Int64, next.toInt = instant.seconds.toInt + 1 :=
    ⟨Int64.ofInt (instant.seconds.toInt + 1), Int64.toInt_ofInt_of_le (by omega) (by omega)⟩
  have next_found : word? (-(UInt64.ofNat (instant.seconds.toInt.natAbs - 1)).toInt64.toInt) =
      some next :=
    word?_neg_distance (by rw [Int64.toInt_maxValue]; omega) (by omega)
  have back : word? (next.toInt - 1) = some instant.seconds :=
    word?_eq_some_iff.mpr (by omega)
  have rest_eq : 1000000000 - (1000000000 - instant.nanos.val) = instant.nanos.val := by
    omega
  dsimp only
  rw [next_found, Option.bind_some, if_neg (by omega), back, Option.map_some, rest_eq]

/-- The distance of the least second is no signed word. -/
theorem stamp?_least :
    (⟨Int64.minValue, 0⟩ : Instant).stamp? = none := by
  decide

/-- Writing a moment gives its second and its nanoseconds, but for one moment. -/
theorem stamp?_eq (instant : Instant) :
    instant.stamp? =
      if instant = ⟨Int64.minValue, 0⟩ then none
      else some (instant.seconds, Int64.ofNat instant.nanos.val) := by
  split
  · rename_i isLeast
    rw [isLeast, stamp?_least]
  · rename_i notLeast
    by_cases isAfter : 0 ≤ instant.seconds
    · exact stamp?_of_after isAfter
    · by_cases isWhole : instant.nanos.val = 0
      · refine stamp?_of_whole isAfter isWhole fun isLeast => notLeast ?_
        obtain ⟨seconds, nanos⟩ := instant
        obtain rfl : seconds = Int64.minValue := isLeast
        obtain rfl : nanos = 0 := Fin.ext isWhole
        rfl
      · exact stamp?_of_part isAfter isWhole

/-- A word that is found for a number is the one that wrapping around gives. -/
theorem eq_ofInt_of_word?
    {number : Int}
    {word : Int64}
    (isFound : word? number = some word) :
    word = Int64.ofInt number := by
  rw [← word?_eq_some_iff.mp isFound, Int64.ofInt_toInt]

/-- Where no step leaves its word, nothing wraps around. -/
theorem stamp_of_stamp?
    {stamp : Int64 × Int64}
    (isWritten : instant.stamp? = some stamp) :
    instant.stamp = stamp := by
  unfold stamp? at isWritten
  unfold Instant.stamp
  split at isWritten
  · exact Option.some.inj isWritten
  · rename_i span offset_eq
    obtain ⟨seconds, isFound, isWritten⟩ := Option.bind_eq_some_iff.mp isWritten
    have seconds_eq : -span.seconds.toInt64 = seconds := by
      rw [eq_ofInt_of_word? isFound, Int64.ofInt_neg, Int64.ofInt_toInt]
    rw [seconds_eq]
    dsimp only
    split at isWritten
    · rename_i isWhole
      rw [if_pos isWhole]
      exact Option.some.inj isWritten
    · rename_i isPart
      rw [if_neg isPart]
      obtain ⟨before, isFound, rfl⟩ := Option.map_eq_some_iff.mp isWritten
      rw [eq_ofInt_of_word? isFound, Int64.ofInt_sub, Int64.ofInt_toInt]
      rfl

/-- Where a word is left, wrapping around gives the same stamp. -/
theorem stamp_eq (instant : Instant) :
    instant.stamp = (instant.seconds, Int64.ofNat instant.nanos.val) := by
  by_cases isLeast : instant = ⟨Int64.minValue, 0⟩
  · rw [isLeast]
    decide
  · apply stamp_of_stamp?
    rw [stamp?_eq, if_neg isLeast]

theorem toInt_nanos (instant : Instant) :
    (Int64.ofNat instant.nanos.val).toInt = instant.nanos.val :=
  Int64.toInt_ofNat_of_lt (by omega)

/-! ## Reading and writing -/

/-- A moment stands for a stamp: it has been read without leaving a word, it is exactly as far from
the epoch as the stamp says, and it is written as the same stamp, with a fraction that is less than
a second.  Writing it leaves a word only for the least second without a fraction. -/
structure StandsFor (instant : Instant) (seconds nanos : Int64) : Prop where
  isRead : ofStamp? seconds nanos = some instant
  total_eq :
    instant.total = seconds.toInt * 1000000000 + max 0 (min nanos.toInt 999999999)
  isWritten :
    0 ≤ nanos.toInt → nanos.toInt ≤ 999999999 → instant.stamp = (seconds, nanos)
  nanos_nonneg : 0 ≤ instant.stamp.2.toInt
  nanos_lt : instant.stamp.2.toInt < 1000000000
  leavesWord_iff : instant.stamp? = none ↔ seconds = Int64.minValue ∧ nanos.toInt ≤ 0

theorem ofStamp_eq (seconds nanos : Int64) :
    ofStamp seconds nanos = ⟨seconds, clampNanos nanos⟩ := by
  rw [ofStamp, ofStamp?_eq, Option.getD_some]

theorem standsFor_ofStamp (seconds nanos : Int64) :
    (ofStamp seconds nanos).StandsFor seconds nanos := by
  rw [ofStamp_eq]
  have nanos_eq := val_clampNanos nanos
  constructor
  · exact ofStamp?_eq seconds nanos
  · rw [total, nanos_eq]
  · intro notBelow notAbove
    rw [stamp_eq]
    refine Prod.ext rfl (Int64.toInt_inj.mp ?_)
    rw [toInt_nanos]
    dsimp only
    omega
  · rw [stamp_eq, toInt_nanos]
    omega
  · rw [stamp_eq, toInt_nanos]
    omega
  · rw [stamp?_eq]
    split <;> rename_i isLeast <;> rw [mk.injEq, Fin.ext_iff] at isLeast
    · refine iff_of_true rfl ⟨isLeast.1, ?_⟩
      have := isLeast.2
      omega
    · refine iff_of_false (by simp) ?_
      rintro ⟨rfl, notAbove⟩
      exact isLeast ⟨rfl, by omega⟩

end Instant

namespace FileRecord

/-- The times of a file stand for the stamps in its record. -/
theorem times_standFor_stamps (record : SystemRecord) :
    (ofSystem record).accessed.StandsFor record.accessed.1 record.accessed.2 ∧
      (ofSystem record).modified.StandsFor record.modified.1 record.modified.2 ∧
      (ofSystem record).changed.StandsFor record.changed.1 record.changed.2 :=
  ⟨Instant.standsFor_ofStamp _ _, Instant.standsFor_ofStamp _ _, Instant.standsFor_ofStamp _ _⟩

/-- A record with the least second, with the least fraction and without one. -/
def earliest : SystemRecord where
  accessed := (Int64.minValue, 1)
  modified := (-2, 500000000)
  changed := (Int64.minValue, 0)

theorem earliest_accessed_standsFor_stamp :
    0 ≤ earliest.accessed.2.toInt ∧ earliest.accessed.2.toInt ≤ 999999999 ∧
      (ofSystem earliest).accessed.stamp = (Int64.minValue, 1) ∧
      (ofSystem earliest).accessed.total = -9223372036854775808 * 1000000000 + 1 ∧
      (ofSystem earliest).accessed.stamp? ≠ none := by
  have standsFor := (times_standFor_stamps earliest).1
  refine ⟨by decide, by decide, standsFor.isWritten (by decide) (by decide), standsFor.total_eq, ?_⟩
  rw [ne_eq, standsFor.leavesWord_iff]
  decide

/-- Writing the least second without a fraction negates a distance that is read as the least signed
word. -/
theorem earliest_changed_leaves_word :
    Instant.ofStamp? earliest.changed.1 earliest.changed.2 = some (ofSystem earliest).changed ∧
      (ofSystem earliest).changed.offset = .before ⟨0x8000000000000000, 0⟩ ∧
      word? (-(0x8000000000000000 : UInt64).toInt64.toInt) = none ∧
      (ofSystem earliest).changed.stamp? = none := by
  decide

end FileRecord
end FilePaths
