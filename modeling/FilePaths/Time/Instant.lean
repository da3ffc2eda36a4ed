/-!
# Instants

A moment as the clock of a file system keeps it: whole seconds from the epoch in a signed 64-bit
word, and the nanoseconds that have passed since that second.  Reading and writing a stamp goes
through the distance from the epoch, in words of fixed width; a step that leaves its word makes
the whole computation fail.
-/

namespace FilePaths

/-- A moment: the last whole second before it, counted from the epoch, and the nanoseconds since
then. -/
structure Instant where
  /-- Whole seconds from the epoch, rounded down. -/
  seconds : Int64
  /-- Nanoseconds since that second. -/
  nanos : Fin 1000000000
  deriving DecidableEq, Repr

/-- A length of time. -/
structure Span where
  /-- Whole seconds. -/
  seconds : UInt64
  /-- The rest in nanoseconds. -/
  nanos : Fin 1000000000
  deriving DecidableEq, Repr

/-- A number as a signed 64-bit word, if it fits. -/
def word? (number : Int) : Option Int64 :=
  if Int64.minValue.toInt ≤ number ∧ number ≤ Int64.maxValue.toInt then
    some (Int64.ofInt number)
  else none

namespace Instant

/-- The moment that stamps count from. -/
def epoch : Instant := ⟨0, 0⟩

instance : Inhabited Instant := ⟨epoch⟩

/-- The number of nanoseconds from the epoch. -/
def total (instant : Instant) : Int :=
  instant.seconds.toInt * 1000000000 + instant.nanos.val

/-- The moment a length of time later. -/
def later? (instant : Instant) (span : Span) : Option Instant :=
  let sum := instant.nanos.val + span.nanos.val
  (word? (instant.seconds.toInt + span.seconds.toNat)).bind fun seconds =>
    if small : sum < 1000000000 then some ⟨seconds, ⟨sum, small⟩⟩
    else
      (word? (seconds.toInt + 1)).map fun seconds =>
        ⟨seconds, ⟨sum - 1000000000, by omega⟩⟩

/-- The moment a length of time earlier. -/
def earlier? (instant : Instant) (span : Span) : Option Instant :=
  (word? (instant.seconds.toInt - span.seconds.toNat)).bind fun seconds =>
    if enough : span.nanos.val ≤ instant.nanos.val then
      some ⟨seconds, ⟨instant.nanos.val - span.nanos.val, by omega⟩⟩
    else
      (word? (seconds.toInt - 1)).map fun seconds =>
        ⟨seconds, ⟨instant.nanos.val + 1000000000 - span.nanos.val, by omega⟩⟩

/-- The nanosecond part of a stamp, moved to the nearest one there can be. -/
def clampNanos (nanos : Int64) : Fin 1000000000 :=
  ⟨min nanos.toInt.toNat 999999999, by omega⟩

/-- The moment of a stamp: from the epoch by the seconds, in their direction, and from there on
by the nanoseconds.  `none` stands for a step that leaves its word. -/
def ofStamp? (seconds nanos : Int64) : Option Instant :=
  let whole : Span := ⟨UInt64.ofNat seconds.toInt.natAbs, 0⟩
  let start := if 0 ≤ seconds then epoch.later? whole else epoch.earlier? whole
  start.bind fun start => start.later? ⟨0, clampNanos nanos⟩

/-- The moment of a stamp. -/
def ofStamp (seconds nanos : Int64) : Instant :=
  (ofStamp? seconds nanos).getD epoch

/-- The side of the epoch that a moment lies on, and its distance from the epoch. -/
inductive Offset
  | after (span : Span)
  | before (span : Span)
  deriving DecidableEq, Repr

/-- Where a moment lies from the epoch. -/
def offset (instant : Instant) : Offset :=
  if 0 ≤ instant.seconds then .after ⟨instant.seconds.toUInt64, instant.nanos⟩
  else if exact : instant.nanos.val = 0 then
    .before ⟨UInt64.ofNat instant.seconds.toInt.natAbs, 0⟩
  else
    .before
      ⟨UInt64.ofNat (instant.seconds.toInt.natAbs - 1),
        ⟨1000000000 - instant.nanos.val, by omega⟩⟩

/-- The stamp of a moment, from its distance to the epoch.  `none` stands for a step that leaves
its word; the seconds of the distance are read as a signed word first. -/
def stamp? (instant : Instant) : Option (Int64 × Int64) :=
  match instant.offset with
  | .after span => some (span.seconds.toInt64, Int64.ofNat span.nanos.val)
  | .before span =>
      (word? (-span.seconds.toInt64.toInt)).bind fun seconds =>
        if span.nanos.val = 0 then some (seconds, 0)
        else
          (word? (seconds.toInt - 1)).map fun seconds =>
            (seconds, Int64.ofNat (1000000000 - span.nanos.val))

/-- The stamp of a moment, where a step that leaves its word wraps around. -/
def stamp (instant : Instant) : Int64 × Int64 :=
  match instant.offset with
  | .after span => (span.seconds.toInt64, Int64.ofNat span.nanos.val)
  | .before span =>
      let seconds := -span.seconds.toInt64
      if span.nanos.val = 0 then (seconds, 0)
      else (seconds - 1, Int64.ofNat (1000000000 - span.nanos.val))

end Instant
end FilePaths
