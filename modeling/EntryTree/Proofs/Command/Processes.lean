import EntryTree.Command.Shell.Run

/-!
# What the processes of a shell leave alone

The stages of a pipeline, and the scripts whose output becomes part of a word, run in processes of
their own. Whatever they do to their variables, functions, options, handlers and descriptors, the
shell that started them has its own unchanged: they have in common with it only the machine.

That a step of a shell is `Apart` is kept by whatever steps are made of, so that the pipeline is an
induction on its stages with a lemma for each thing that a stage does.
-/

namespace EntryTree.Command.Shell

/-- Two states of a shell differ in the machine at most. -/
def Alike (before after : Shell) : Prop :=
  after = { before with machine := after.machine }

theorem Alike.refl (shell : Shell) : Alike shell shell :=
  rfl

theorem Alike.trans {first second third : Shell} (near : Alike first second)
    (far : Alike second third) : Alike first third := by
  rw [Alike] at *
  rw [far, near]

theorem Alike.machine (shell : Shell) (machine : Machine) :
    Alike shell { shell with machine } :=
  rfl

/-- A step of a shell does something to the machine at most. -/
def Apart {α : Type} (work : Work α) : Prop :=
  ∀ shell, Alike shell (work.run.run shell).2

namespace Apart

variable {α β : Type} {work : Work α} {next : α → Work β}

theorem pure (value : α) : Apart (Pure.pure value : Work α) :=
  Alike.refl

theorem throw (leave : Leave) : Apart (throw leave : Work α) :=
  Alike.refl

theorem bind (first : Apart work) (further : ∀ value, Apart (next value)) :
    Apart (work >>= next) := by
  intro shell
  have kept := first shell
  rw [ExceptT.run_bind, StateT.run_bind]
  rcases found : work.run.run shell with ⟨outcome, after⟩
  rw [found] at kept
  cases outcome with
  | error leave => exact kept
  | ok value => exact kept.trans (further value after)

theorem map {change : α → β} (apart : Apart work) : Apart (change <$> work) := by
  rw [← bind_pure_comp]
  exact apart.bind fun value => pure (change value)

/-- Looking at the shell does nothing to it. -/
theorem get : Apart (get : Work Shell) :=
  Alike.refl

theorem act {action : Act α} : Apart (act action) :=
  fun _ => rfl

theorem modify {change : Shell → Shell} (apart : ∀ shell, Alike shell (change shell)) :
    Apart (modify change : Work Unit) :=
  apart

theorem attempt (apart : Apart work) : Apart (attempt work) := by
  intro shell
  have kept := apart shell
  rcases found : work.run.run shell with ⟨outcome, after⟩
  rw [found] at kept
  have run : (Shell.attempt work).run.run shell = (.ok outcome, after) := by
    rw [Shell.attempt, ExceptT.run_lift, StateT.run_map, found]
    rfl
  rw [run]
  exact kept

/-- A step that is taken for every value of a list. -/
theorem forIn {values : List α} {step : α → Work Unit} (apart : ∀ value, Apart (step value)) :
    Apart (forIn values PUnit.unit fun value _ => do
      step value
      Pure.pure (ForInStep.yield PUnit.unit)) := by
  induction values with
  | nil => exact pure PUnit.unit
  | cons value values further =>
    rw [List.forIn_cons, bind_assoc]
    refine (apart value).bind fun _ => ?_
    rw [pure_bind]
    exact further

end Apart

/-! ### A process of its own -/

theorem apart_noteEnd : Apart noteEnd := by
  apply Apart.modify
  intro shell
  split
  case isTrue => exact Alike.machine shell _
  case isFalse => exact Alike.refl shell

/-- Whatever a process does, and however it ends, it does it to a copy. -/
theorem apart_fork (level : Level) (process : Nat) (prepare : Shell → Shell) (body : Work Unit) :
    Apart (fork level process prepare body) := by
  intro shell
  let copy :=
    { shell with
      process, jobs := [], traps := shell.traps.filter (·.2.isEmpty), interrupted := none }
  let outcome := (finish level body).run (prepare copy)
  let after : Shell := { shell with machine := outcome.2.machine }
  have noted : Alike after (noteEnd.run.run after).2 := apart_noteEnd after
  exact (Alike.machine shell _).trans noted

theorem apart_tellOf (status : ProcessStatus) : Apart (tellOf status) := by
  cases status with
  | exited code => exact .pure ()
  | signalled signal =>
    simp only [tellOf]
    split
    case isFalse => exact .pure ()
    case isTrue => exact Apart.map (Apart.get.bind fun shell => .act)

theorem apart_withPatience {α : Type} {patience : Nat} {body : Work α} (apart : Apart body) :
    Apart (withPatience patience body) := by
  have setBudget (budget : Nat) : Apart (modify fun shell : Shell =>
      { shell with machine := { shell.machine with budget } } : Work Unit) :=
    .modify fun shell => .machine shell _
  refine Apart.get.bind fun before => (setBudget _).bind fun _ => apart.attempt.bind fun result =>
    Apart.get.bind fun after => (setBudget _).bind fun _ => ?_
  cases result with
  | ok value => exact .pure value
  | error leave => exact .throw leave

/-- What becomes part of a word is written by a copy of the shell. -/
theorem apart_capture (level : Level) (body : Work Unit) : Apart (capture level body) := by
  refine Apart.act.bind fun sink => Apart.act.bind fun process => ?_
  refine (apart_fork level process _ body).bind fun status => Apart.act.bind fun supplies => ?_
  refine Apart.bind (Apart.forIn fun supply => .act) fun _ => .pure _

/-- The stages of a pipeline leave the shell as it is, whichever way they end. -/
theorem apart_runStages (level : Level) (mode : Mode) (start : Nat) (input : Option Channel)
    (stages : List Script) : Apart (runStages level mode start input stages) := by
  induction stages generalizing input with
  | nil => exact .pure _
  | cons stage stages further =>
    cases stages with
    | nil =>
      refine Apart.act.bind fun process => (apart_fork level process _ _).bind fun status => ?_
      exact (apart_tellOf status).bind fun _ => .pure status
    | cons second rest =>
      refine Apart.act.bind fun sink => Apart.act.bind fun process => ?_
      refine (apart_withPatience (apart_fork level process _ _)).bind fun status => ?_
      refine Apart.act.bind fun supplies => Apart.act.bind fun source => Apart.get.bind fun _ => ?_
      refine (apart_tellOf status).bind fun _ => ?_
      refine Apart.bind (.modify fun shell => .machine shell _) fun _ => ?_
      refine (further (some (.source source))).bind fun last => ?_
      split
      case isTrue => exact Apart.act.bind fun _ => .pure last
      case isFalse => exact .pure last

end EntryTree.Command.Shell
