import FaberRuntime.Foundation.Signed

namespace FaberRuntime

open Signed

/-! Points in time: nanoseconds since the Unix epoch with a declared precision. `checks` says
whether the build has overflow checks; `none` is then the panic of an overflowing operator. -/

def nanosPerSecond : Int := 1000000000
def nanosPerMilli : Int := 1000000
def nanosPerMicro : Int := 1000
def secondsPerMinute : Int := 60
def secondsPerHour : Int := 3600
def nanosPerDay : Int := secondsPerHour * 24 * nanosPerSecond

inductive InstansPraecisio
  | secunda
  | millisecunda
  | microsecunda
  | nanosecunda
  deriving DecidableEq, Repr

namespace InstansPraecisio

def rank : InstansPraecisio → Nat
  | secunda => 0
  | millisecunda => 1
  | microsecunda => 2
  | nanosecunda => 3

def modulusNanos : InstansPraecisio → Int
  | secunda => nanosPerSecond
  | millisecunda => nanosPerMilli
  | microsecunda => nanosPerMicro
  | nanosecunda => 1

def truncateNanos (checks : Bool) (praecisio : InstansPraecisio) (nanos : Int64) : Option Int64 :=
  operator checks (floorTo praecisio.modulusNanos nanos.toInt)

def fractionDigits : InstansPraecisio → Nat
  | secunda => 0
  | millisecunda => 3
  | microsecunda => 6
  | nanosecunda => 9

theorem modulus_pos (praecisio : InstansPraecisio) : 0 < praecisio.modulusNanos := by
  cases praecisio <;> decide

theorem modulus_dvd_second (praecisio : InstansPraecisio) :
    praecisio.modulusNanos ∣ nanosPerSecond := by
  cases praecisio <;> decide

end InstansPraecisio

structure Instans where
  nanos : Int64
  praecisio : InstansPraecisio
  deriving DecidableEq, Repr

def coarserPraecisio (a b : InstansPraecisio) : InstansPraecisio :=
  if a.rank ≤ b.rank then a else b

namespace Instans

def fromNanos (checks : Bool) (nanos : Int64) (praecisio : InstansPraecisio) : Option Instans :=
  (praecisio.truncateNanos checks nanos).map fun nanos => ⟨nanos, praecisio⟩

def fromEpochSeconds (checks : Bool) (seconds : Int64) (praecisio : InstansPraecisio) :
    Option Instans :=
  fromNanos checks (saturating (seconds.toInt * nanosPerSecond)) praecisio

def fromEpochMillis (checks : Bool) (millis : Int64) (praecisio : InstansPraecisio) :
    Option Instans :=
  fromNanos checks (saturating (millis.toInt * nanosPerMilli)) praecisio

def fromEpochMicros (checks : Bool) (micros : Int64) (praecisio : InstansPraecisio) :
    Option Instans :=
  fromNanos checks (saturating (micros.toInt * nanosPerMicro)) praecisio

def fromEpochInteger (checks : Bool) (epoch : Int64) (praecisio : InstansPraecisio) :
    Option Instans :=
  match praecisio with
  | .secunda => fromEpochSeconds checks epoch praecisio
  | .millisecunda => fromEpochMillis checks epoch praecisio
  | .microsecunda => fromEpochMicros checks epoch praecisio
  | .nanosecunda => fromNanos checks epoch praecisio

def adPraecisionem (checks : Bool) (instant : Instans) (praecisio : InstansPraecisio) :
    Option Instans :=
  fromNanos checks instant.nanos praecisio

def cmpAtCoarser (checks : Bool) (self other : Instans) : Option Ordering := do
  let praecisio := coarserPraecisio self.praecisio other.praecisio
  let lhs ← praecisio.truncateNanos checks self.nanos
  let rhs ← praecisio.truncateNanos checks other.nanos
  some (compare lhs.toInt rhs.toInt)

end Instans

theorem coarserPraecisio_comm (a b : InstansPraecisio) :
    coarserPraecisio a b = coarserPraecisio b a := by
  cases a <;> cases b <;> rfl

theorem coarserPraecisio_self (a : InstansPraecisio) : coarserPraecisio a a = a := by
  cases a <;> rfl

/-- The first whole second of the range: rounding down from here on does not overflow. -/
def firstSecond : Int := -9223372036 * nanosPerSecond

theorem truncate_fits (praecisio : InstansPraecisio) (nanos : Int64)
    (late : firstSecond ≤ nanos.toInt) : Fits (floorTo praecisio.modulusNanos nanos.toInt) := by
  have grid : praecisio.modulusNanos ∣ firstSecond :=
    Int.dvd_trans praecisio.modulus_dvd_second (Int.dvd_mul_left _ _)
  have below := floorTo_le _ praecisio.modulus_pos nanos.toInt
  have above := le_floorTo _ praecisio.modulus_pos firstSecond nanos.toInt grid late
  have first : firstSecond = -9223372036000000000 := rfl
  have fits := toInt_fits nanos
  unfold Fits at *
  omega

end FaberRuntime
