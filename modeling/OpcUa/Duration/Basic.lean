/-!
Lengths of time in seconds and nanoseconds.
-/

namespace OpcUa

/-- A length of time. The nanoseconds are the part below one second. -/
structure Duration where
  seconds : UInt64
  nanos : Nat
  nanos_lt : nanos < 1000000000
deriving DecidableEq, Repr

namespace Duration

def zero : Duration := ⟨0, 0, by decide⟩

instance : Inhabited Duration := ⟨zero⟩

def ofSeconds (s : UInt64) : Duration := ⟨s, 0, by decide⟩

def toNanos (d : Duration) : Nat := d.seconds.toNat * 1000000000 + d.nanos

/-- The length of `n` nanoseconds; none if the seconds do not fit into 64 bits. -/
def ofNanos? (n : Nat) : Option Duration :=
  if n / 1000000000 < UInt64.size then
    some ⟨UInt64.ofNat (n / 1000000000), n % 1000000000, Nat.mod_lt _ (by decide)⟩
  else none

def isZero (d : Duration) : Bool := d.seconds == 0 && d.nanos == 0

theorem toNanos_inj {d e : Duration} (same : d.toNanos = e.toNanos) : d = e := by
  obtain ⟨s, n, hn⟩ := d
  obtain ⟨t, m, hm⟩ := e
  simp only [toNanos] at same
  obtain rfl : n = m := by omega
  obtain rfl : s = t := UInt64.toNat_inj.mp (by omega)
  rfl

theorem toNanos_lt (d : Duration) : d.toNanos < UInt64.size * 1000000000 := by
  have seconds := d.seconds.toNat_lt
  have nanos := d.nanos_lt
  simp only [toNanos, UInt64.size] at *
  omega

theorem isZero_iff {d : Duration} : d.isZero ↔ d = zero := by
  constructor
  · intro none
    obtain ⟨s, n, below⟩ := d
    obtain ⟨rfl, rfl⟩ : s = 0 ∧ n = 0 := by simpa [isZero] using none
    rfl
  · rintro rfl
    rfl

end Duration

end OpcUa
