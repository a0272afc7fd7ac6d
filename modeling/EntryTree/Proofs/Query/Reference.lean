import EntryTree.Proofs.Expression.Meanings
import EntryTree.Proofs.Query.Clauses
import EntryTree.Proofs.Query.Composition

/-!
# Queries and their reference

The times of a query are measured from its reference. The reference has no say in what the tokens
of a query mean otherwise, nor in whether they are a query; and a test of a time sees nothing but
the difference between the time and the reference. So a query and a snapshot may be moved in time
together.

Differences take leap seconds into account, and where one of the two instants lies in a leap second
they depend on the time of day. Hence only instants outside of leap seconds can be moved freely.
-/

namespace EntryTree

/-! ## Differences -/

namespace Instant

/-- The instant that many nanoseconds later. -/
def shifted (instant : Instant) (nanos : Int) : Instant :=
  let total := instant.seconds * nanosPerSecond + instant.nanos + nanos
  ⟨total / nanosPerSecond, (total % nanosPerSecond).toNat⟩

variable {reference other subject moved : Instant} {nanos : Int}

theorem isLeap_shifted (instant : Instant) (nanos : Int) :
    (instant.shifted nanos).isLeap = false := by
  rw [isLeap, decide_eq_false_iff_not]
  simp only [shifted, nanosPerSecond]
  omega

example : shifted ⟨5400, 600000000⟩ 1500000000 = ⟨5402, 100000000⟩ := by decide

theorem leapCorrection_eq_zero {later earlier : Instant} (plain : later.isLeap = false)
    (plainEarlier : earlier.isLeap = false) : leapCorrection later earlier = 0 := by
  simp [leapCorrection, plain, plainEarlier]

/-- Two instants that are shifted together are as far from one another as before. -/
theorem since_shifted {later earlier : Instant} (plain : later.isLeap = false)
    (plainEarlier : earlier.isLeap = false) (nanos : Int) :
    (later.shifted nanos).since (earlier.shifted nanos) = later.since earlier := by
  rw [since, since, leapCorrection_eq_zero plain plainEarlier,
    leapCorrection_eq_zero (isLeap_shifted later nanos) (isLeap_shifted earlier nanos)]
  simp only [shifted, nanosPerSecond]
  omega

/-- The subjects are as far from their references, in either direction. -/
structure Parallel (reference other subject moved : Instant) : Prop where
  ago : reference.since subject = other.since moved
  ahead : subject.since reference = moved.since other

theorem parallel_shifted (plain : reference.isLeap = false) (plainSubject : subject.isLeap = false)
    (nanos : Int) :
    Parallel reference (reference.shifted nanos) subject (subject.shifted nanos) where
  ago := (since_shifted plain plainSubject nanos).symm
  ahead := (since_shifted plainSubject plain nanos).symm

end Instant

/-! ## Tests of times -/

namespace TimeTest

variable {reference other subject moved : Instant}

/-- The same test against another reference. -/
def against (test : TimeTest) (reference : Instant) : TimeTest :=
  { test with reference }

theorem holds_against (test : TimeTest)
    (parallel : Instant.Parallel reference other subject moved) :
    (test.against reference).holds subject = (test.against other).holds moved := by
  unfold holds against
  cases test.extent with
  | past count unit => simp only [parallel.ago]
  | future span => simp only [parallel.ahead]

theorem past?_against (bound : Bound) (count : Nat) (unit : TimeUnit) (reference other : Instant) :
    past? bound count unit other = (past? bound count unit reference).map (·.against other) := by
  unfold past?
  split <;> rfl

theorem ofEnclosed_against (bound : Bound) (reference other : Instant) (text : List Char) :
    ofEnclosed bound other text = (ofEnclosed bound reference text).map (·.against other) := by
  unfold ofEnclosed
  dsimp only
  split
  · rfl
  · split <;> rfl

theorem readSigned_against (bound : Bound) (reference other : Instant) (text : List Char)
    (more : List String) :
    readSigned bound other text more =
      (readSigned bound reference text more).map fun (test, rest) =>
        (test.against other, rest) := by
  unfold readSigned
  split
  · rw [readFuture_eq, readFuture_eq]
    split
    · rfl
    · rw [ofEnclosed_against bound reference other]
      cases ofEnclosed bound reference _ <;> rfl
  · unfold readPast
    split
    · rfl
    · dsimp only
      split
      · rfl
      · rw [past?_against bound _ _ reference other]
        cases past? bound _ _ reference <;> rfl

theorem read_against (reference other : Instant) :
    read other = Primary.map (read reference) (·.against other) := by
  funext tokens
  rw [Primary.map]
  cases tokens with
  | nil => rfl
  | cons token more =>
      simp only [read]
      split
      · exact readSigned_against .moreThan reference other _ more
      · exact readSigned_against .lessThan reference other _ more
      · split
        · rfl
        · split <;> rfl
      · rfl

/-- Two references give the same answers, but for the reference of the tests. -/
theorem read_alike (reference other : Instant) :
    Primary.Alike
      (fun first second => ∃ test : TimeTest,
        first = test.against reference ∧ second = test.against other)
      (read reference) (read other) := by
  rw [read_against reference other]
  nth_rewrite 1 [read_against reference reference]
  apply (Primary.alike_refl (read reference)).map
  rintro test _ rfl
  exact ⟨test, rfl, rfl⟩

/-- A primary that tests times answers alike for all references, and the tests answer the same for
subjects that are as far from their references. -/
theorem primary_alike (reference other : Instant) (move : Instant → Instant) :
    Primary.Alike
      (fun first second : Predicate Id Instant => ∀ subject,
        Instant.Parallel reference other subject (move subject) →
          first.holds subject = second.holds (move subject))
      (primary reference some) (primary other some) := by
  apply (read_alike reference other).map
  rintro _ _ ⟨test, rfl, rfl⟩ subject parallel
  exact holds_against test parallel

end TimeTest

/-! ## Snapshots -/

namespace Attributes

/-- The timestamps that are known. -/
def times (attributes : Attributes) : List Instant :=
  attributes.atime.toList ++ attributes.mtime.toList ++ attributes.ctime.toList ++
    attributes.crtime.toList

/-- The attributes with every timestamp moved. -/
def mapTimes (move : Instant → Instant) (attributes : Attributes) : Attributes :=
  { attributes with
    atime := attributes.atime.map move
    mtime := attributes.mtime.map move
    ctime := attributes.ctime.map move
    crtime := attributes.crtime.map move }

end Attributes

namespace Snapshot

/-- The snapshot with every timestamp moved. -/
def mapTimes (move : Instant → Instant) (snapshot : Snapshot) : Snapshot :=
  { snapshot with attributes := snapshot.attributes.mapTimes move }

/-- Every timestamp is as far from one reference as the moved one is from the other. -/
def Parallel (reference other : Instant) (move : Instant → Instant) (snapshot : Snapshot) : Prop :=
  ∀ time ∈ snapshot.attributes.times, Instant.Parallel reference other time (move time)

end Snapshot

/-! ## The primaries of queries -/

namespace Clause

variable {registry : ActionRegistry} {reference other : Instant} {move : Instant → Instant}

/-- Both clauses look at metadata, or neither does and they have the same outcome for snapshots that
are as far from their references. -/
structure Moves (reference other : Instant) (move : Instant → Instant) (first second : Clause) :
    Prop where
  uses : first.usesMetadata = second.usesMetadata
  same : first.usesMetadata = false → ∀ snapshot : Snapshot,
    snapshot.Parallel reference other move →
      first.test.holds snapshot = second.test.holds (snapshot.mapTimes move)

/-- The test does not depend on timestamps. -/
def Timeless (clause : Clause) : Prop :=
  ∀ (snapshot : Snapshot) (move : Instant → Instant),
    clause.test.holds (snapshot.mapTimes move) = clause.test.holds snapshot

/-- A primary that does not depend on the reference answers alike for all references. -/
theorem alike_of_timeless {primary : Primary Clause}
    (timeless : ∀ ⦃tokens clause rest⦄, primary tokens = .ok (clause, rest) → clause.Timeless) :
    Primary.Alike (Moves reference other move) primary primary := by
  intro tokens
  cases answered : primary tokens with
  | error error => exact .inl ⟨error, rfl, rfl⟩
  | ok answer =>
      refine .inr ⟨answer.1, answer.1, answer.2, rfl, rfl, rfl, ?_⟩
      intro _ snapshot _
      exact (timeless answered snapshot move).symm

theorem timeless_of_constant {answer : Bool} {tokens rest : List String} {clause : Clause}
    (answered : constant answer tokens = .ok (clause, rest)) : clause.Timeless := by
  rcases eq_of_constant answered with rfl
  exact fun snapshot move => rfl

theorem timeless_of_glob {text : Snapshot → String} {tokens rest : List String} {clause : Clause}
    (timeless : ∀ (snapshot : Snapshot) move, text (snapshot.mapTimes move) = text snapshot)
    (answered : glob text tokens = .ok (clause, rest)) : clause.Timeless := by
  rcases eq_of_glob answered with ⟨pattern, rfl⟩
  intro snapshot move
  simp only [plain, Predicate.holds, Predicate.run, timeless]

theorem timeless_of_action {tokens rest : List String} {clause : Clause}
    (answered : action registry tokens = .ok (clause, rest)) : clause.Timeless := by
  rcases eq_of_action answered with ⟨wanted, rfl⟩
  exact fun snapshot move => rfl

theorem timeless_of_size {tokens rest : List String} {clause : Clause}
    (answered : size tokens = .ok (clause, rest)) : clause.Timeless := by
  rcases eq_of_size answered with ⟨comparison, rfl⟩
  exact fun snapshot move => holds_lift comparison rfl

theorem alike_time {timestamp : Attributes → Option Instant}
    (known : ∀ (attributes : Attributes) time, timestamp attributes = some time →
      time ∈ attributes.times)
    (moves : ∀ attributes : Attributes,
      timestamp (attributes.mapTimes move) = (timestamp attributes).map move) :
    Primary.Alike (Moves reference other move) (time reference timestamp)
      (time other timestamp) := by
  apply (TimeTest.primary_alike reference other move).map
  intro first second same
  refine ⟨rfl, fun _ snapshot parallel => ?_⟩
  have moved : timestamp (snapshot.mapTimes move).attributes =
      (timestamp snapshot.attributes).map move := moves snapshot.attributes
  simp only [plain, Predicate.lift, Predicate.holds, Predicate.run, moved]
  cases present : timestamp snapshot.attributes with
  | none => rfl
  | some time => exact same time (parallel time (known _ _ present))

/-- The tests of values in metadata are read alike; what they mean is left open. -/
theorem alike_value (reference other : Instant) :
    Primary.Alike (fun _ _ => True) (value reference) (value other) := by
  have alike (primary : Primary (Predicate Id Json)) :
      Primary.Alike (fun _ _ => True) primary primary :=
    (Primary.alike_refl primary).imp fun _ _ _ => trivial
  apply Primary.alike_firstOf
  refine .cons ?_ (.cons (alike _) (.cons (alike _) (.cons (alike _) .nil)))
  exact (TimeTest.read_alike reference other).map fun _ _ _ => trivial

theorem alike_metadata :
    Primary.Alike (Moves reference other move) (metadata reference) (metadata other) := by
  intro tokens
  cases tokens with
  | nil => exact .inl ⟨_, rfl, rfl⟩
  | cons path after =>
      cases read : KeyPath.read? path with
      | none =>
          left
          simp only [metadata, read]
          exact ⟨_, rfl, rfl⟩
      | some keys =>
          rw [metadata_cons reference read, metadata_cons other read]
          rcases alike_value reference other after with
            ⟨error, failed, failed'⟩ | ⟨test, test', rest, answered, answered', _⟩
          · left
            rw [failed, failed']
            exact ⟨_, rfl, rfl⟩
          · right
            rw [answered, answered']
            refine ⟨_, _, rest, rfl, rfl, rfl, ?_⟩
            intro needless
            contradiction

theorem alike_table (registry : ActionRegistry) (reference other : Instant)
    (move : Instant → Instant) :
    Primary.Alike (Moves reference other move) (table registry reference).primary
      (table registry other).primary := by
  apply PrimaryTable.alike_primary
  apply Keyed.rel_find?_ofList
  refine .cons ⟨rfl, ?_⟩ <| .cons ⟨rfl, ?_⟩ <| .cons ⟨rfl, ?_⟩ <| .cons ⟨rfl, ?_⟩ <|
    .cons ⟨rfl, ?_⟩ <| .cons ⟨rfl, ?_⟩ <| .cons ⟨rfl, ?_⟩ <| .cons ⟨rfl, ?_⟩ <|
    .cons ⟨rfl, ?_⟩ <| .cons ⟨rfl, ?_⟩ <| .cons ⟨rfl, ?_⟩ .nil
  · exact alike_of_timeless fun _ _ _ => timeless_of_constant
  · exact alike_of_timeless fun _ _ _ => timeless_of_constant
  · exact alike_of_timeless fun _ _ _ => timeless_of_glob fun _ _ => rfl
  · exact alike_of_timeless fun _ _ _ => timeless_of_glob fun _ _ => rfl
  · exact alike_of_timeless fun _ _ _ => timeless_of_action
  · exact alike_of_timeless fun _ _ _ => timeless_of_size
  · exact alike_time (fun _ _ known => by simp [Attributes.times, known]) fun _ => rfl
  · exact alike_time (fun _ _ known => by simp [Attributes.times, known]) fun _ => rfl
  · exact alike_time (fun _ _ known => by simp [Attributes.times, known]) fun _ => rfl
  · exact alike_time (fun _ _ known => by simp [Attributes.times, known]) fun _ => rfl
  · exact alike_metadata

end Clause

/-! ## Whole queries -/

namespace Query

variable {registry : ActionRegistry} {reference other : Instant} {move : Instant → Instant}
  {tokens : List String} {query : Query}

/-- Both queries need metadata, or neither does and they accept the same snapshots where those are
as far from their references. -/
structure Moves (reference other : Instant) (move : Instant → Instant) (first second : Query) :
    Prop where
  needs : first.needsMetadata = second.needsMetadata
  same : first.needsMetadata = false → ∀ snapshot : Snapshot,
    snapshot.Parallel reference other move →
      first.accepts snapshot = second.accepts (snapshot.mapTimes move)

theorem moves_ofExpression
    (whole :
      Expression {pair : Clause × Clause // Clause.Moves reference other move pair.1 pair.2}) :
    Moves reference other move (ofExpression reference (whole.map fun pair => pair.1.1))
      (ofExpression other (whole.map fun pair => pair.1.2)) where
  needs := by
    simp only [ofExpression, Expression.meanings_map, List.any_map, Function.comp_def]
    exact congrArg (whole.meanings.any ·) (funext fun pair => pair.2.uses)
  same needless snapshot parallel := by
    rw [accepts_ofExpression, accepts_ofExpression, Expression.truth_map, Expression.truth_map]
    apply Expression.truth_congr
    intro pair member
    simp only [ofExpression, Expression.meanings_map, List.any_map] at needless
    refine pair.2.same ?_ snapshot parallel
    simpa using List.any_eq_false.mp needless pair member

/-- Tokens are compiled against all references, or against none and with the same error. -/
theorem compile_cases (registry : ActionRegistry) (reference other : Instant)
    (move : Instant → Instant) (tokens : List String) :
    (∃ error, compile registry reference tokens = .error error ∧
      compile registry other tokens = .error error) ∨
    ∃ first second, compile registry reference tokens = .ok first ∧
      compile registry other tokens = .ok second ∧ Moves reference other move first second := by
  cases tokens with
  | nil => exact .inr ⟨_, _, rfl, rfl, rfl, fun _ snapshot _ => rfl⟩
  | cons token after =>
      have some := List.cons_ne_nil token after
      rw [compile_eq registry reference some, compile_eq registry other some]
      rcases Expression.read_alike (Clause.alike_table registry reference other move)
        (token :: after) with ⟨error, failed, failed'⟩ | ⟨whole, read, read'⟩
      · left
        rw [failed, failed']
        exact ⟨error, rfl, rfl⟩
      · right
        rw [read, read']
        exact ⟨_, _, rfl, rfl, moves_ofExpression whole⟩

/-- Whether tokens are a query, and how they fail to be one, is the same for all references. What a
query that needs no metadata accepts depends on differences from the reference only: if the
reference and all timestamps of a snapshot are shifted by the same time, the answer is as before. -/
theorem compile_shifted (registry : ActionRegistry) (reference : Instant) (tokens : List String) :
    (∀ other,
      ((∃ query, compile registry reference tokens = .ok query) ↔
        ∃ query, compile registry other tokens = .ok query) ∧
      ∀ error, compile registry reference tokens = .error error ↔
        compile registry other tokens = .error error) ∧
    ∀ query, compile registry reference tokens = .ok query → query.needsMetadata = false →
      reference.isLeap = false → ∀ nanos, ∃ moved,
        compile registry (reference.shifted nanos) tokens = .ok moved ∧
        ∀ snapshot : Snapshot, (∀ time ∈ snapshot.attributes.times, time.isLeap = false) →
          query.accepts snapshot = moved.accepts (snapshot.mapTimes (·.shifted nanos)) := by
  constructor
  · intro other
    rcases compile_cases registry reference other id tokens with
      ⟨error, failed, failed'⟩ | ⟨first, second, compiled, compiled', _⟩
    · simp only [failed, failed', reduceCtorEq, exists_false, implies_true, and_self]
    · simp [compiled, compiled']
  · intro query compiled needless plain nanos
    rcases compile_cases registry reference (reference.shifted nanos) (·.shifted nanos) tokens with
      ⟨error, failed, _⟩ | ⟨first, moved, compiled', shifted, moves⟩
    · rw [failed] at compiled
      contradiction
    · rcases Except.ok.inj (compiled.symm.trans compiled') with rfl
      refine ⟨moved, shifted, fun snapshot plainTimes => ?_⟩
      exact moves.same needless snapshot fun time known =>
        Instant.parallel_shifted plain (plainTimes time known) nanos

/-- A query for what was modified less than an hour ago, one and a half seconds later. -/
theorem compile_shifted_mtime :
    (∃ query moved,
      compile .core ⟨7200, 0⟩ ["-mtime", "-1h"] = .ok query ∧
      compile .core ⟨7201, 500000000⟩ ["-mtime", "-1h"] = .ok moved ∧
      query.accepts { attributes := { mtime := some ⟨5400, 600000000⟩ } } = true ∧
      moved.accepts { attributes := { mtime := some ⟨5402, 100000000⟩ } } = true) ∧
    ∃ error, compile .core ⟨7200, 0⟩ ["-mtime"] = .error error ∧
      compile .core ⟨0, 0⟩ ["-mtime"] = .error error := by
  constructor
  · have compiled : compile .core ⟨7200, 0⟩ ["-mtime", "-1h"] = _ :=
      compile_primary .core ⟨7200, 0⟩ (by decide) rfl
    rcases (compile_shifted .core ⟨7200, 0⟩ ["-mtime", "-1h"]).2 _ compiled rfl rfl 1500000000 with
      ⟨moved, shifted, same⟩
    refine ⟨_, moved, compiled, shifted, by rfl, ?_⟩
    exact (same { attributes := { mtime := some ⟨5400, 600000000⟩ } } (by decide)).symm.trans rfl
  · have free : Mark.ofToken? "-mtime" = none := by decide
    have failed : compile .core ⟨7200, 0⟩ ["-mtime"] =
        .error (.failure ⟨.malformed, "-mtime: expected a sign or a digit", 1⟩) := by
      rw [compile_eq _ _ (List.cons_ne_nil _ _), Expression.read_eq, Expression.takeDisjunction_eq,
        Expression.takeConjunction_eq, Expression.takeOperand_primary free]
      rfl
    have same := ((compile_shifted .core ⟨7200, 0⟩ ["-mtime"]).1 ⟨0, 0⟩).2
    exact ⟨_, failed, (same _).mp failed⟩

end Query
end EntryTree
