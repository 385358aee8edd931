import Mathlib.Data.Nat.Bitwise
import Mathlib.Data.List.Pairwise

/-!
The session ids of the host.  The firmware tells sessions apart by their ids alone, and the
results about runs of several sessions ask for ids that differ.
-/

namespace Lamella

/-- `sinceEpoch` is the clock in nanoseconds, unless it is set before the epoch. -/
def sessionId (sinceEpoch : Option Nat) (process : UInt32) : UInt64 :=
  UInt64.ofNat (sinceEpoch.getD 0) ^^^ ⟨process.toUInt64.toBitVec.rotateLeft 32⟩

def serialSessionId : Option Nat → UInt32 → UInt64 := sessionId

def nusbSessionId : Option Nat → UInt32 → UInt64 := sessionId

def bridgeSessionId : Option Nat → UInt32 → UInt64 := sessionId

theorem rotated_toNat (process : UInt32) :
    (process.toUInt64.toBitVec.rotateLeft 32).toNat = process.toNat * 2 ^ 32 := by
  have bound := process.toNat_lt
  have high : process.toNat / 4294967296 = 0 := Nat.div_eq_of_lt bound
  have low : process.toNat * 4294967296 < 18446744073709551616 := by omega
  simp [BitVec.toNat_rotateLeft, Nat.shiftLeft_eq, Nat.shiftRight_eq_div_pow, high,
    Nat.mod_eq_of_lt low]

theorem sessionId_toNat (sinceEpoch : Option Nat) (process : UInt32) :
    (sessionId sinceEpoch process).toNat =
      (sinceEpoch.getD 0 % 2 ^ 64) ^^^ (process.toNat * 2 ^ 32) := by
  rw [sessionId, UInt64.toNat_xor, ← rotated_toNat]
  rfl

/-- The process id only touches the upper half. -/
theorem sessionId_eq_iff (first second : Option Nat) (process other : UInt32) :
    sessionId first process = sessionId second other ↔
      first.getD 0 % 2 ^ 32 = second.getD 0 % 2 ^ 32 ∧
        (first.getD 0 % 2 ^ 64 / 2 ^ 32) ^^^ process.toNat =
          (second.getD 0 % 2 ^ 64 / 2 ^ 32) ^^^ other.toNat := by
  have halves (clock : Option Nat) (process : UInt32) :
      (sessionId clock process).toNat % 2 ^ 32 = clock.getD 0 % 2 ^ 32 ∧
        (sessionId clock process).toNat / 2 ^ 32 =
          (clock.getD 0 % 2 ^ 64 / 2 ^ 32) ^^^ process.toNat := by
    rw [sessionId_toNat, Nat.xor_mod_two_pow, Nat.xor_div_two_pow, Nat.mul_mod_left,
      Nat.mul_div_cancel _ (by decide), Nat.xor_zero, Nat.mod_mod_of_dvd _ (by decide)]
    exact ⟨rfl, rfl⟩
  obtain ⟨low, high⟩ := halves first process
  obtain ⟨otherLow, otherHigh⟩ := halves second other
  rw [← UInt64.toNat_inj, ← low, ← high, ← otherLow, ← otherHigh]
  omega

/-- Sessions in the order of their start get different ids, if the clock runs forward, and starts
of different processes are never a multiple of 2^32 nanoseconds (4.3 s) apart. -/
theorem sessionIds_distinct {make : Option Nat → UInt32 → UInt64}
    (made : make ∈ [serialSessionId, nusbSessionId, bridgeSessionId])
    {starts : List (Nat × UInt32)}
    (forward : starts.Pairwise fun first second =>
      first.1 < second.1 ∧ second.1 < first.1 + 2 ^ 64 ∧
        (first.2 ≠ second.2 → ¬2 ^ 32 ∣ second.1 - first.1)) :
    (starts.map fun start => make (some start.1) start.2).Nodup := by
  have same : make = sessionId := by
    simpa [serialSessionId, nusbSessionId, bridgeSessionId] using made
  subst same
  rw [List.Nodup, List.pairwise_map]
  refine forward.imp ?_
  rintro ⟨first, process⟩ ⟨second, other⟩ ⟨earlier, recent, apart⟩ equal
  obtain ⟨low, high⟩ := (sessionId_eq_iff _ _ _ _).mp equal
  simp only [Option.getD_some] at low high
  by_cases same : process = other
  · subst same
    have upper := Nat.xor_left_inj.mp high
    omega
  · exact apart same (by omega)

/-- A process starts two sessions, and the next process one. -/
theorem sessionIds_distinct_restarted :
    ([(0, 1), (2 ^ 32, 1), (2 ^ 33 + 5, 3)].map fun start =>
      serialSessionId (some start.1) start.2).Nodup :=
  sessionIds_distinct (by simp) (by decide)

/-- Without the condition on different processes the ids may agree. -/
example : serialSessionId (some 0) 1 = serialSessionId (some (2 ^ 33)) 3 := by decide

end Lamella
