import EntryTree.Proofs.Command.Starting

/-!
# Running a script from its start to its end

Each step of a shell is described by the value that it brings and the state that it leaves
(`Does`), so that what a script does is put together from what its steps do. A shell that is
launched with a script runs the script, and ends with the status of the last command.
-/

namespace EntryTree.Command

open Shell

/-! ### Steps of a shell -/

/-- A step of a shell brings a value and goes on in some state. -/
def Does {α : Type} (work : Work α) (before : Shell) (value : α) (after : Shell) : Prop :=
  work.run.run before = (.ok value, after)

namespace Does

variable {α β : Type} {work : Work α} {next : α → Work β} {before between after : Shell}
  {value : α} {result : β}

theorem bind (first : Does work before value between)
    (second : Does (next value) between result after) :
    Does (work >>= next) before result after := by
  rw [Does, ExceptT.run_bind, StateT.run_bind, first]
  exact second

theorem attempt (does : Does work before value after) :
    Does (Shell.attempt work) before (.ok value) after := by
  rw [Does, Shell.attempt, ExceptT.run_lift, StateT.run_map, does]
  rfl

theorem get_bind {next : Shell → Work β} (does : Does (next before) before result after) :
    Does (get >>= next) before result after :=
  does

theorem modify_bind {change : Shell → Shell} {next : Unit → Work β}
    (does : Does (next ()) (change before) result after) :
    Does (modify change >>= next) before result after :=
  does

/-- Afterwards the shell speaks as it did before. -/
theorem speaking {speaker : String}
    (does : Does work { before with speaker } value { after with speaker })
    (same : after.speaker = before.speaker) :
    Does (Shell.speaking speaker work) before value after := by
  rw [Shell.speaking]
  refine get_bind (modify_bind (does.attempt.bind (modify_bind ?_)))
  rw [← same]
  rfl

end Does

/-- The shell has no functions and options of its own, no signal has arrived, and it may go on. -/
structure Calm (shell : Shell) : Prop where
  functions : shell.functions = []
  options : shell.options = []
  deliveries : shell.machine.deliveries = []
  patient : shell.machine.budget ≠ 0
  whole : shell.broken = false

section Steps

variable {shell : Shell}

theorem does_countCommand (patient : shell.machine.budget ≠ 0) :
    ∃ budget, Does countCommand shell ()
      { shell with machine := { shell.machine with budget } } := by
  obtain ⟨budget, positive⟩ := Nat.exists_eq_succ_of_ne_zero patient
  refine ⟨budget, ?_⟩
  rw [countCommand]
  refine Does.get_bind ?_
  rw [positive]
  rfl

/-- Without redirections a command is only run; it leaves the descriptors as they are. -/
theorem does_withRedirections {body refused : Work Unit} {after : Shell}
    (does : Does body shell () after) (same : after.channels = shell.channels) :
    Does (withRedirections [] false refused body) shell () after := by
  rw [withRedirections]
  refine Does.get_bind ?_
  have opened : Does (openAll []) shell true shell := rfl
  refine opened.bind (does.attempt.bind ?_)
  simp only [Bool.false_and, Bool.not_false, if_true]
  refine Does.modify_bind ?_
  rw [← same]
  rfl

theorem does_checkSignals (deliveries : shell.machine.deliveries = []) (level : Level) :
    Does (checkSignals level) shell () shell := by
  rw [checkSignals]
  refine Does.get_bind ?_
  simp only [deliveries, List.any_nil, Bool.false_eq_true, if_false]
  rfl

theorem does_trace (options : shell.options = []) (channel : Option Channel)
    (words : List String) : Does (trace channel words) shell () shell := by
  rw [trace]
  refine Does.get_bind ?_
  rw [options]
  rfl

/-- A simple command without assignments and redirections that calls a builtin does what the
builtin does. -/
theorem does_runSimple {level : Level} {mode : Mode} {line : Nat} {words : List Word}
    {fields : List String} {action : Builtin} {name : String} {arguments : List String}
    {counted begun after : Shell}
    (counts : Does countCommand shell () counted)
    (begins : begun = { counted with line, inner := none })
    (expands : Does (commandFields level [] words) begun fields begun)
    (options : begun.options = [])
    (calls : begun.callOf fields = ⟨.builtin action, name, arguments, false⟩)
    (runs : Does (runBuiltin level mode action ⟨.builtin action, name, arguments, false⟩) begun ()
      after)
    (same : after.channels = begun.channels) :
    Does (runSimple level mode line [] words []) shell () after := by
  rw [runSimple]
  refine counts.bind (Does.modify_bind ?_)
  rw [← begins]
  have opened : Does (openingsOf level []) begun [] begun := rfl
  refine expands.bind (Does.get_bind ?_)
  simp only [calls]
  refine opened.bind (does_withRedirections ?_ same)
  have assigned : Does (assignAll level true []) begun ([], []) begun := rfl
  exact assigned.bind ((does_trace options _ _).bind (runs.attempt.bind rfl))

/-- A command of a shell without options is only run, if no signal arrives meanwhile. -/
theorem does_runCommand {level : Level} {mode : Mode} {line : Nat} {words : List Word}
    {after : Shell} (calm : Calm shell)
    (simple : Does (runSimple level mode line [] words []) shell () after)
    (quiet : after.machine.deliveries = []) (options : after.options = []) :
    Does (runCommand level mode (.simple line [] words [])) shell () after := by
  rw [runCommand]
  refine (does_checkSignals calm.deliveries level).bind (Does.get_bind ?_)
  rw [calm.options]
  simp only [List.contains_nil, Bool.false_eq_true, if_false]
  refine simple.bind ((does_checkSignals quiet level).bind (Does.get_bind ?_))
  rw [options]
  simp only [List.contains_nil, Bool.and_false, Bool.false_and, Bool.false_eq_true, if_false]
  rfl

/-- A script of one command is that command. -/
theorem does_runText {level : Level} {text : String} {mode : Mode} {script : Script} {after : Shell}
    (read : readScript text 1 = ([⟨script, true⟩], none))
    (does : Does (level.command mode script) shell () after) :
    Does (runText level text 1 mode) shell () after := by
  have same : (⟨mode.tested, mode.last && true⟩ : Mode) = mode := by rw [Bool.and_true]
  rw [runText, read]
  simp only [List.forIn_cons, same, bind_assoc]
  exact does.bind rfl

/-- A shell without a handler for its end ends with the status of the last command. -/
theorem run_finish {level : Level} {body : Work Unit} {after : Shell}
    (does : Does body shell () after) (unhandled : after.traps = []) :
    (finish level body).run shell = (.exited (after.status % 256), after) := by
  rw [finish, StateT.run_bind, does]
  show (farewell level after.status).run after = _
  rw [farewell, StateT.run_bind, StateT.run_get, pure_bind]
  simp only [unhandled, List.lookup_nil]
  rfl

/-- The program of a shell leaves what the shell has left, except that the shell is gone. -/
theorem run_runShell {level : Level} {start : Machine → Shell} {machine : Machine}
    {body : Work Unit} {begun after : Shell}
    (begins : begun = start { machine with shells := (start machine).process :: machine.shells })
    (does : Does body begun () after) (unhandled : after.traps = []) :
    (runShell level start body).run machine = (.exited (after.status % 256),
      { after.machine with shells := after.machine.shells.filter (· != begun.process) }) := by
  have ended : (finish level body).run begun = (.exited (after.status % 256), after) :=
    run_finish does unhandled
  rw [begins] at ended ⊢
  rw [runShell, StateT.run_bind, StateT.run_get, pure_bind]
  simp only [ended]
  rfl

end Steps

/-! ### From the program to the script -/

theorem installed_sh : Installed "sh" "/usr/bin/sh" fun _ shell => shell where
  filled := by decide +kernel
  clean := by decide +kernel
  plain := by decide +kernel
  found := by decide +kernel
  known launch shell := by
    have last : lastStep "/usr/bin/sh" = "sh" := by decide +kernel
    rw [last]
    rfl

/-- A shell that is given a script as an argument runs it. -/
theorem run_program (level : Level) (invocation : Invocation) {script : String} {c : Char}
    {rest : List Char} (given : invocation.arguments = ["-c", script])
    (begins : script.toList = c :: rest) (plain : c ≠ '-' ∧ c ≠ '+') :
    Shell.program level invocation =
      runShell level (ofInvocation invocation invocation.name [] [])
        (runText level script 1 ⟨false, false⟩) := by
  have rest : wishes ⟨[], true, false, [script]⟩ 2 = .ok ⟨[], true, false, [script]⟩ := by
    rw [wishes]
    simp only [begins]
    split
    · next same => exact absurd (List.cons.inj same).1 plain.1
    · next same => exact absurd (List.cons.inj same).1 plain.1
    · next same => exact absurd (List.cons.inj same).1 plain.1
    · next same => exact absurd (List.cons.inj same).1 plain.2
    · rfl
  have wished : wishes ⟨[], false, false, ["-c", script]⟩ 3 =
      .ok ⟨[], true, false, [script]⟩ := rest
  rw [Shell.program, given]
  simp only [List.length_cons, List.length_nil, wished]
  rfl

end EntryTree.Command
