namespace ClusterClient

structure Duration where
  seconds : UInt64
  nanos : UInt32
deriving DecidableEq, Repr, Inhabited

namespace Duration

def totalNanos (d : Duration) : Nat := d.seconds.toNat * 1000000000 + d.nanos.toNat

def totalMillis (d : Duration) : Nat := d.totalNanos / 1000000

/-- The milliseconds in a word; those that do not fit begin again at zero. -/
def millisWord (d : Duration) : UInt64 := UInt64.ofNat d.totalMillis

theorem toNat_millisWord (d : Duration) : d.millisWord.toNat = d.totalMillis % UInt64.size :=
  UInt64.toNat_ofNat'

theorem millisWord_eq_zero_iff (d : Duration) : d.millisWord = 0 ↔ UInt64.size ∣ d.totalMillis := by
  rw [← UInt64.toNat_inj, toNat_millisWord]
  exact Nat.dvd_iff_mod_eq_zero.symm

def ofMillis (millis : UInt64) : Duration :=
  ⟨millis / 1000, UInt32.ofNat (millis.toNat % 1000 * 1000000)⟩

theorem totalNanos_ofMillis (millis : UInt64) :
    (ofMillis millis).totalNanos = millis.toNat * 1000000 := by
  have seconds : (millis / 1000).toNat = millis.toNat / 1000 := UInt64.toNat_div ..
  have nanos : (UInt32.ofNat (millis.toNat % 1000 * 1000000)).toNat =
      millis.toNat % 1000 * 1000000 := UInt32.toNat_ofNat_of_lt' (by simp only [UInt32.size]; omega)
  rw [ofMillis, totalNanos, seconds, nanos]
  omega

end Duration

end ClusterClient
