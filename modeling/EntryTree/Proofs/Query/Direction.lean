import EntryTree.Proofs.Query.Age
import Mathlib.Logic.Basic

/-!
# The two sides of a reference

Whether a subject lies on this side of a reference or on the other is a matter of their difference,
and the difference only changes its sign with the direction in which it is taken, also where one of
the two instants lies in a leap second. So no subject is on both sides, and tests of ages and tests
of times to come share none. On its own side each form is cut by its amount: an age of more than a
count is an age of not less than the next count, and a time to come is more than a span, less, or
the span itself.
-/

namespace EntryTree

/-! ## Differences -/

namespace Instant

theorem leapCorrection_swap (later earlier : Instant) :
    leapCorrection later earlier = -leapCorrection earlier later := by
  unfold leapCorrection
  rcases Int.lt_trichotomy earlier.secondOfDay later.secondOfDay with before | same | behind
  · have notBehind := Int.lt_asymm before
    cases earlier.isLeap <;> simp [before, notBehind]
  · simp [same]
  · have notBefore := Int.lt_asymm behind
    cases later.isLeap <;> simp [behind, notBefore]

/-- A difference changes its sign with its direction. -/
theorem since_swap (later earlier : Instant) : later.since earlier = -earlier.since later := by
  rw [since, since, leapCorrection_swap]
  simp only [nanosPerSecond]
  omega

/-- Midnight comes after the leap second in front of it, but not by difference. -/
example : since ⟨86400, 200000000⟩ ⟨86399, 1500000000⟩ = -300000000 := by decide

end Instant

/-! ## Tests of times -/

namespace Extent

/-- The subject lies on the side of the reference that is measured. -/
def Reaches (extent : Extent) (reference subject : Instant) : Prop :=
  match extent with
  | .past _ _ => 0 ≤ reference.since subject
  | .future _ => 0 < subject.since reference

end Extent

namespace TimeTest

variable {bound : Bound} {count : Nat} {unit : TimeUnit} {span : Span} {reference subject : Instant}
  {more less test : TimeTest}

theorem holds_future_iff :
    (future bound span reference).holds subject = true ↔
      0 < subject.since reference ∧ bound.Admits (subject.since reference) span.nanos := by
  generalize remaining : subject.since reference = nanos
  cases bound <;> simp [holds, future, remaining, Bound.Admits]

theorem reaches_of_holds (holds : test.holds subject = true) :
    test.extent.Reaches test.reference subject := by
  rcases test with ⟨bound, extent, reference⟩
  cases extent with
  | past count unit => exact (holds_past_iff.mp holds).1
  | future span => exact (holds_future_iff.mp holds).1

theorem eq_of_past? (made : past? bound count unit reference = .ok test) :
    test = ⟨bound, .past count unit, reference⟩ := by
  unfold past? at made
  split at made
  · exact (Except.ok.inj made).symm
  · contradiction

theorem holds_more_iff_not_less (reached : 0 ≤ reference.since subject)
    (first : past? .moreThan count unit reference = .ok more)
    (second : past? .lessThan (count + 1) unit reference = .ok less) :
    more.holds subject = true ↔ ¬less.holds subject = true := by
  rw [eq_of_past? first, eq_of_past? second, holds_past_iff, holds_past_iff]
  simp only [reached, true_and, Bound.Admits]
  omega

/-- A subject lies on one side of a reference, and only tests of that side hold of it. On the side
of ages, either more than a count of units have passed or less than the next one; on the other side,
a span is exceeded, not reached or met. -/
theorem holds_complementary (reference subject : Instant) :
    Xor (0 ≤ reference.since subject) (0 < subject.since reference) ∧
    (∀ test : TimeTest, test.reference = reference → test.holds subject = true →
      test.extent.Reaches reference subject) ∧
    (∀ bound count unit bound' span,
      ¬(holds ⟨bound, .past count unit, reference⟩ subject = true ∧
        (future bound' span reference).holds subject = true)) ∧
    (0 ≤ reference.since subject → ∀ count unit more less,
      past? .moreThan count unit reference = .ok more →
      past? .lessThan (count + 1) unit reference = .ok less →
        Xor (more.holds subject = true) (less.holds subject = true)) ∧
    (0 < subject.since reference → ∀ span,
      let exceeded := (future .moreThan span reference).holds subject = true
      let unreached := (future .lessThan span reference).holds subject = true
      let met := subject.since reference = span.nanos
      (exceeded ∧ ¬unreached ∧ ¬met) ∨ (¬exceeded ∧ unreached ∧ ¬met) ∨
        (¬exceeded ∧ ¬unreached ∧ met)) := by
  have swap := Instant.since_swap reference subject
  refine ⟨?_, ?_, ?_, ?_, ?_⟩
  · rw [xor_iff_iff_not]
    omega
  · rintro test rfl holds
    exact reaches_of_holds holds
  · rintro bound count unit bound' span ⟨ago, ahead⟩
    have passed := (holds_past_iff.mp ago).1
    have coming := (holds_future_iff.mp ahead).1
    omega
  · intro reached count unit more less first second
    rw [xor_iff_iff_not]
    exact holds_more_iff_not_less reached first second
  · intro coming span
    simp only [holds_future_iff, Bound.Admits]
    omega

/-- On the two sides of the end of a leap second. -/
theorem holds_complementary_leap_second :
    let leap : Instant := ⟨86399, 1500000000⟩
    let midnight : Instant := ⟨86400, 200000000⟩
    (holds ⟨.lessThan, .past 1 .second, leap⟩ midnight = true ∧ 0 ≤ leap.since midnight) ∧
    Xor (holds ⟨.moreThan, .past 0 .second, leap⟩ midnight = true)
      (holds ⟨.lessThan, .past 1 .second, leap⟩ midnight = true) ∧
    (leap.since midnight = 300000000 ∧
      ¬(future .moreThan ⟨300000000⟩ midnight).holds leap = true) := by
  intro leap midnight
  have ages := holds_complementary leap midnight
  have coming := holds_complementary midnight leap
  have young : holds ⟨.lessThan, .past 1 .second, leap⟩ midnight = true := by decide
  have reached : 0 ≤ leap.since midnight := ages.2.1 _ rfl young
  have met : leap.since midnight = 300000000 := by decide
  refine ⟨⟨young, reached⟩, ages.2.2.2.1 reached 0 .second _ _ rfl rfl, met, ?_⟩
  rcases coming.2.2.2.2 (by decide) ⟨300000000⟩ with ⟨_, _, missed⟩ | ⟨_, _, missed⟩ | ⟨short, _, _⟩
  · exact absurd met missed
  · exact absurd met missed
  · exact short

end TimeTest
end EntryTree
