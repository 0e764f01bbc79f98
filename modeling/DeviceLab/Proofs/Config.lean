import DeviceLab.Config
import Mathlib.Data.Nat.Basic

/-!
# Laws of configurations

A configuration is valid exactly if four settings are not nothing (`validate_eq_ok_iff`).
`Config.validate` asks for no more: no number has a greatest value.

Five settings are times (`Timing`). Each is given as a span and read as a span, and in between it is
a count of milliseconds of 64 bits. `Span.counted` is what is left of a span on that way, the same
for all five (`timing?_withTiming`).

What is finer than a millisecond is dropped, which loses less than one. But the longest spans have
more milliseconds than 64 bits can count, and their counts wrap around
(`Span.length_eq_counted_add`). So a time is kept to the millisecond exactly below 2 ^ 64 of them
(`Span.length_lt_counted_iff`); from there on longer times may become shorter, and some become
nothing at all (`Span.wrapping`). `timing_keeps_milliseconds_iff` says all of this of a setting.
-/

namespace DeviceLab

namespace Span

/-! ### Lengths -/

/-- The nanoseconds in a millisecond. -/
def nanosPerMilli : Nat := 1000000

/-- The length of a span in nanoseconds. -/
def length (s : Span) : Nat :=
  s.seconds.toNat * 1000000000 + s.nanos

/-- What is left of a span whose milliseconds were counted. -/
def counted (s : Span) : Span :=
  .ofMillis s.millis64

/-- The whole milliseconds of a span are those of its length. -/
theorem millis_eq (s : Span) : s.millis = s.length / nanosPerMilli := by
  rw [millis, length, nanosPerMilli]
  omega

/-- A shorter span has no more milliseconds. -/
theorem millis_le {s t : Span} (h : s.length ≤ t.length) : s.millis ≤ t.millis := by
  rw [millis_eq, millis_eq]
  exact Nat.div_le_div_right h

theorem length_ofMillis (ms : UInt64) : (ofMillis ms).length = ms.toNat * nanosPerMilli := by
  have hseconds : (ms / 1000).toNat = ms.toNat / 1000 := UInt64.toNat_div ms 1000
  show (ms / 1000).toNat * 1000000000 + ms.toNat % 1000 * 1000000 = ms.toNat * 1000000
  omega

/-- The milliseconds are counted modulo 2 ^ 64. -/
theorem length_counted (s : Span) :
    s.counted.length = s.millis % UInt64.size * nanosPerMilli := by
  rw [counted, length_ofMillis, millis64, UInt64.toNat_ofNat']

/-- What the counting loses: the rounds that the count went around, and what is finer than a
millisecond. -/
theorem length_eq_counted_add (s : Span) :
    s.length = s.counted.length + s.millis / UInt64.size * UInt64.size * nanosPerMilli +
      s.length % nanosPerMilli := by
  rw [length_counted, ← Nat.add_mul, Nat.mod_add_div', millis_eq, Nat.div_add_mod']

theorem counted_le (s : Span) : s.counted.length ≤ s.length := by
  have h := s.length_eq_counted_add
  omega

/-- **Less than a millisecond is lost** on the way to `counted`, exactly if 64 bits can count the
milliseconds. -/
theorem length_lt_counted_iff (s : Span) :
    s.length < s.counted.length + nanosPerMilli ↔ s.millis < UInt64.size := by
  have h := s.length_eq_counted_add
  have hfine : s.length % nanosPerMilli < nanosPerMilli := Nat.mod_lt _ (by decide)
  rw [← Nat.div_eq_zero_iff_lt (by decide : 0 < UInt64.size)]
  generalize s.millis / UInt64.size = rounds at h ⊢
  rw [Nat.mul_assoc] at h
  have hround : nanosPerMilli ≤ UInt64.size * nanosPerMilli := by decide
  cases rounds with
  | zero => omega
  | succ n =>
    rw [Nat.add_mul, Nat.one_mul] at h
    omega

/-! ### The first count that wraps around -/

/-- The shortest span with 2 ^ 64 milliseconds. -/
def wrapping : Span :=
  ⟨18446744073709551, 616000000, by decide⟩

/-- The span that is a millisecond shorter. -/
def beforeWrapping : Span :=
  ⟨18446744073709551, 615000000, by decide⟩

theorem wrapping_le {s : Span} (h : UInt64.size ≤ s.millis) : wrapping.length ≤ s.length := by
  rw [millis_eq, nanosPerMilli] at h
  have hlength : wrapping.length = UInt64.size * 1000000 := by decide
  omega

end Span

namespace Config

/-! ### Validity -/

/-- What a valid configuration is. -/
theorem validate_eq_ok_iff (c : Config) :
    c.validate = .ok () ↔
      c.podsQueryInterval ≠ 0 ∧ c.routerCapacity ≠ 0 ∧ c.deploymentPrefix ≠ "" ∧
        c.sessionTimeout ≠ some 0 := by
  rw [validate, ne_eq c.deploymentPrefix, ← String.isEmpty_iff]
  by_cases hquery : c.podsQueryInterval = 0
  · simp [hquery]
  by_cases hcapacity : c.routerCapacity = 0
  · simp [hquery, hcapacity]
  by_cases hprefix : c.deploymentPrefix.isEmpty = true
  · simp [hquery, hcapacity, hprefix]
  by_cases htimeout : c.sessionTimeout = some 0
  · simp [hquery, hcapacity, hprefix, htimeout]
  · simp [hquery, hcapacity, hprefix, htimeout]

/-! ### The five times -/

/-- The settings that are times. -/
inductive Timing
  | podsQueryInterval
  | deploymentCreationTimeout
  | bootTimeout
  | sessionTimeout
  | workerShutdownTimeout
  deriving DecidableEq

/-- The configuration with a time set. -/
def withTiming (c : Config) : Timing → Span → Config
  | .podsQueryInterval => c.withPodsQueryInterval
  | .deploymentCreationTimeout => c.withDeploymentCreationTimeout
  | .bootTimeout => c.withBootTimeout
  | .sessionTimeout => c.withSessionTimeout
  | .workerShutdownTimeout => c.withWorkerShutdownTimeout

/-- The time that is set, if there is one. -/
def timing? (c : Config) : Timing → Option Span
  | .podsQueryInterval => some c.podsQueryIntervalSpan
  | .deploymentCreationTimeout => some c.deploymentCreationTimeoutSpan
  | .bootTimeout => some c.bootTimeoutSpan
  | .sessionTimeout => c.sessionTimeoutSpan?
  | .workerShutdownTimeout => some c.workerShutdownTimeoutSpan

/-- A time that was set reads as what is left of it. -/
theorem timing?_withTiming (c : Config) (t : Timing) (s : Span) :
    (c.withTiming t s).timing? t = some s.counted := by
  cases t <;> rfl

/-- Setting one time leaves the others alone. -/
theorem timing?_withTiming_of_ne (c : Config) {t u : Timing} (h : u ≠ t) (s : Span) :
    (c.withTiming t s).timing? u = c.timing? u := by
  cases t <;> cases u <;> first | rfl | exact absurd rfl h

/-- **What becomes of a configured time.** Whichever of the five times is set (`withTiming`), it
reads (`timing?`) as what is left of it, the others read as before, and it is never longer than it
was meant to be: it has as many milliseconds, modulo 2 ^ 64.

Exactly if that are fewer than 2 ^ 64 milliseconds, it is less than one millisecond shorter; and
exactly as far as that, longer times never become shorter than others, and no time of a millisecond
or more becomes nothing. -/
theorem timing_keeps_milliseconds_iff (c : Config) (t : Timing) (d : Span) :
    (∃ g, (c.withTiming t d).timing? t = some g ∧ g.length ≤ d.length ∧
      g.length = d.millis % UInt64.size * Span.nanosPerMilli ∧
      (d.length < g.length + Span.nanosPerMilli ↔ d.millis < UInt64.size)) ∧
    (∀ u, u ≠ t → (c.withTiming t d).timing? u = c.timing? u) ∧
    ((∀ a b : Span, a.length ≤ b.length → b.length ≤ d.length →
        ∃ x y, (c.withTiming t a).timing? t = some x ∧ (c.withTiming t b).timing? t = some y ∧
          x.length ≤ y.length) ↔ d.millis < UInt64.size) ∧
    ((∀ a : Span, 0 < a.millis → a.length ≤ d.length →
        ∃ x, (c.withTiming t a).timing? t = some x ∧ 0 < x.length) ↔ d.millis < UInt64.size) := by
  refine ⟨⟨_, timing?_withTiming c t d, d.counted_le, d.length_counted, d.length_lt_counted_iff⟩,
    fun u hu ↦ timing?_withTiming_of_ne c hu d, ⟨fun hmono ↦ ?_, fun hd a b hab hbd ↦ ?_⟩,
    ⟨fun hpos ↦ ?_, fun hd a ha had ↦ ?_⟩⟩
  · by_contra hle
    have hwrap := Span.wrapping_le (Nat.le_of_not_lt hle)
    obtain ⟨x, y, hx, hy, hxy⟩ := hmono Span.beforeWrapping Span.wrapping (by decide) hwrap
    rw [timing?_withTiming] at hx hy
    obtain rfl := Option.some.inj hx
    obtain rfl := Option.some.inj hy
    exact absurd hxy (by decide)
  · refine ⟨_, _, timing?_withTiming c t a, timing?_withTiming c t b, ?_⟩
    have hb := Nat.lt_of_le_of_lt (Span.millis_le hbd) hd
    have ha := Nat.lt_of_le_of_lt (Span.millis_le hab) hb
    rw [Span.length_counted, Span.length_counted, Nat.mod_eq_of_lt ha, Nat.mod_eq_of_lt hb]
    exact Nat.mul_le_mul_right _ (Span.millis_le hab)
  · by_contra hle
    have hwrap := Span.wrapping_le (Nat.le_of_not_lt hle)
    obtain ⟨x, hx, hzero⟩ := hpos Span.wrapping (by decide) hwrap
    rw [timing?_withTiming] at hx
    obtain rfl := Option.some.inj hx
    exact absurd hzero (by decide)
  · refine ⟨_, timing?_withTiming c t a, ?_⟩
    have hless := Nat.lt_of_le_of_lt (Span.millis_le had) hd
    rw [Span.length_counted, Nat.mod_eq_of_lt hless]
    exact Nat.mul_pos ha (by decide)

/-- A boot timeout of 2 ^ 64 milliseconds is none at all, and the timeout that is a millisecond
shorter is kept. -/
theorem forgets_two_pow_milliseconds :
    let c : Config := {}
    Span.wrapping.millis = UInt64.size ∧
      (c.withBootTimeout Span.wrapping).bootTimeoutSpan = ⟨0, 0, by decide⟩ ∧
      ¬ Span.wrapping.length <
        (c.withBootTimeout Span.wrapping).bootTimeoutSpan.length + Span.nanosPerMilli ∧
      (c.withBootTimeout Span.beforeWrapping).bootTimeoutSpan = Span.beforeWrapping := by
  decide

end Config

end DeviceLab
