/-!
# Halts

A computation that gives no value fails or panics. A failure has an error, which callers may look at
and change; a panic passes all of them as it is, and nothing else is tried.
-/

namespace EntryTree

/-- Why a computation gives no value. -/
inductive Halt (ε : Type)
  | failure (error : ε)
  | panic (message : String)
  deriving DecidableEq, Repr

namespace Halt

variable {ε δ α : Type}

instance : Coe ε (Halt ε) :=
  ⟨.failure⟩

/-- The panic of a sum that does not fit its word, where the sum is not checked. -/
def overflow : Halt ε :=
  .panic "attempt to add with overflow"

/-- The same halt with another error. -/
def map (f : ε → δ) : Halt ε → Halt δ
  | .failure error => .failure (f error)
  | .panic message => .panic message

/-- The outcome of a computation that never panics, among those of computations that may. -/
def lift : Except ε α → Except (Halt ε) α
  | .ok value => .ok value
  | .error error => .error (.failure error)

@[simp]
theorem map_failure (f : ε → δ) (error : ε) : map f (.failure error) = .failure (f error) :=
  rfl

@[simp]
theorem map_panic (f : ε → δ) (message : String) : map f (.panic message) = .panic message :=
  rfl

@[simp]
theorem map_overflow (f : ε → δ) : map f overflow = overflow :=
  rfl

@[simp]
theorem lift_ok (value : α) : lift (.ok value : Except ε α) = .ok value :=
  rfl

@[simp]
theorem lift_error (error : ε) : lift (.error error : Except ε α) = .error (.failure error) :=
  rfl

end Halt
end EntryTree
