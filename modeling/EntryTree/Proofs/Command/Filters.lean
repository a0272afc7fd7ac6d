import EntryTree.Proofs.Command.Encoding
import EntryTree.Proofs.Command.Lines
import EntryTree.Proofs.Command.Starting

/-!
# Programs that turn their input into their output

A program that is launched without arguments reads all of its standard input and writes what
becomes of it. Whoever launches it receives that, nothing on the standard error, and the exit code
zero: `cat` gives the input back, byte by byte, and `tac` the lines of the input in reverse.

What a program does between two streams is `Turns`, which says nothing on the machine but that it
takes from the one and puts on the other.
-/

namespace EntryTree.Command

open Machine

/-- An invocation without arguments that stands between two streams. -/
structure Invocation.Between (invocation : Invocation) (source sink : Nat) : Prop where
  plain : invocation.arguments = []
  reads : invocation.channel 0 = some (.source source)
  writes : invocation.channel 1 = some (.sink sink)

/-- A program takes all that can be read and writes what becomes of it. -/
def Turns (program : Program) (body : String → String) : Prop :=
  ∀ {invocation : Invocation} {source sink : Nat}, invocation.Between source sink →
    ∀ machine, ∃ between after, (program invocation).run machine = (.exited 0, after) ∧
      Takes source (machine.remaining source) machine between ∧
      Puts sink (body (String.ofList (machine.remaining source))).toList between after

section Programs

variable {invocation : Invocation} {source sink : Nat}

theorem print_puts (writes : invocation.channel 1 = some (.sink sink)) (text : String) (code : Nat)
    (machine : Machine) :
    ∃ after, (invocation.print text code).run machine = (.exited code, after) ∧
      Puts sink text.toList machine after := by
  unfold Invocation.print
  split
  · next empty =>
      refine ⟨machine, rfl, ?_⟩
      rw [String.isEmpty_iff.mp empty]
      exact Puts.refl sink machine
  · rw [writes]
    exact ⟨_, rfl, Puts.emit machine sink text⟩

/-- One piece is written when its time has come. -/
def copyPiece (invocation : Invocation) (supply : Supply) (status : ProcessStatus) :
    Act (ForInStep ProcessStatus) := do
  waitUntil supply.time
  match ← invocation.print supply.data 0 with
  | .exited 0 => return .yield status
  | failed => return .yield failed

theorem copyPieces_puts (writes : invocation.channel 1 = some (.sink sink))
    (supplies : List Supply) (machine : Machine) :
    ∃ after, (forIn supplies (ProcessStatus.exited 0) (copyPiece invocation)).run machine =
        (.exited 0, after) ∧
      Puts sink (charactersOf supplies) machine after := by
  induction supplies generalizing machine with
  | nil => exact ⟨machine, rfl, Puts.refl sink machine⟩
  | cons supply supplies ih =>
      rcases print_puts writes supply.data 0 ((waitUntil supply.time).run machine).2 with
        ⟨between, printed, puts⟩
      rcases ih between with ⟨after, copied, putsMore⟩
      have piece : (copyPiece invocation supply (.exited 0)).run machine =
          (.yield (.exited 0), between) := by
        rw [copyPiece, StateT.run_bind]
        show (StateT.run (invocation.print supply.data 0 >>= _)
          ((waitUntil supply.time).run machine).2) = _
        rw [StateT.run_bind, printed]
        rfl
      refine ⟨after, ?_, ?_⟩
      · rw [List.forIn_cons, StateT.run_bind, piece]
        exact copied
      · have all := ((Puts.wait sink supply.time machine).trans puts).trans putsMore
        rwa [List.nil_append, ← charactersOf_cons] at all

theorem turns_cat : Turns cat id := by
  intro invocation source sink between machine
  have taken : Takes source (machine.remaining source) machine
      ((setRest source []).run machine).2 := takes_setRest (List.append_nil _)
  rcases copyPieces_puts between.writes ((machine.sources.lookup source).getD [])
    ((setRest source []).run machine).2 with ⟨after, copied, puts⟩
  refine ⟨_, after, ?_, taken, ?_⟩
  · unfold cat Invocation.withOptions
    rw [between.plain]
    simp only [OptionTable.parse, List.isEmpty_nil, if_true, List.all_nil, List.forIn_cons,
      List.forIn_nil, decide_true, Bool.true_or, pure_bind, between.reads, bind_assoc]
    exact copied
  · rw [id, String.toList_ofList]
    exact puts

theorem turns_filter (table : OptionTable) (body : Parsed → String → String) :
    Turns (filter table body) (body ⟨[], []⟩) := by
  intro invocation source sink between machine
  rcases readText_takes machine source with ⟨after, read, takes⟩
  rcases print_puts between.writes (body ⟨[], []⟩ (String.ofList (machine.remaining source))) 0
    after with ⟨last, printed, puts⟩
  refine ⟨after, last, ?_, takes, puts⟩
  have single : ∀ text : String, String.join (([] ++ [("-", text)]).map Prod.snd) = text := by
    intro text
    apply String.toList_injective
    simp
  unfold filter Invocation.withOptions
  rw [between.plain]
  simp only [OptionTable.parse, readInputs, List.isEmpty_nil, if_true, List.forIn_cons,
    List.forIn_nil, Invocation.read, Invocation.input, decide_true, Bool.true_or, pure_bind,
    between.reads, bind_assoc, single]
  rw [StateT.run_bind, read]
  exact printed

end Programs

/-! ### Reading no more than is needed -/

theorem run_readLines {channel : Option Channel} {count steps : Nat} {text block : String}
    {machine between : Machine} (wanting : ¬count ≤ text.toList.count '\n')
    (read : (readCount channel blockSize).run machine = (block, between)) :
    (readLines? channel count (steps + 1) text).run machine =
      if block.isEmpty then (text, between)
      else (readLines? channel count steps (text ++ block)).run between := by
  rw [readLines?, if_neg wanting, StateT.run_bind, read]
  show StateT.run (if block.isEmpty then _ else _) between = _
  split <;> rfl

/-- Blocks are read until enough lines end in them, or nothing is left. Every block takes a
character at least, so that a step for each character is enough. -/
theorem readLines_takes (source count : Nat) {steps : Nat} {machine : Machine}
    (enough : (machine.remaining source).length < steps) (text : String) :
    ∃ taken after, (readLines? (some (.source source)) count steps text).run machine =
        (text ++ String.ofList taken, after) ∧ Takes source taken machine after ∧
      (count ≤ (text ++ String.ofList taken).toList.count '\n' ∨
        after.remaining source = []) := by
  induction steps generalizing machine text with
  | zero => cases enough
  | succ steps ih =>
      have untaken : text ++ String.ofList [] = text := String.append_empty
      by_cases ended : count ≤ text.toList.count '\n'
      · refine ⟨[], machine, ?_, Takes.refl source machine, .inl (by rwa [untaken])⟩
        rw [readLines?, if_pos ended, untaken]
        rfl
      · rcases readCount_takes machine source blockSize with ⟨between, read, takes⟩
        rw [run_readLines ended read]
        split
        · next empty =>
            have nothing : (machine.remaining source).take blockSize = [] := by
              rw [← String.toList_ofList (l := (machine.remaining source).take blockSize),
                String.isEmpty_iff.mp empty]
              rfl
            rw [nothing] at takes
            refine ⟨[], between, by rw [untaken], takes, .inr ?_⟩
            have none := (List.take_eq_nil_iff.mp nothing).resolve_left (by decide)
            exact takes.remaining.trans none
        · next filled =>
            have some : (machine.remaining source).take blockSize ≠ [] := by
              intro nothing
              rw [nothing] at filled
              exact filled rfl
            have fewer : (between.remaining source).length < steps := by
              have size := congrArg List.length takes.remaining
              rw [List.length_append] at size
              have positive := List.length_pos_iff.mpr some
              omega
            rcases ih fewer (text ++ String.ofList ((machine.remaining source).take blockSize)) with
              ⟨taken, after, readMore, takesMore, stop⟩
            rw [String.append_assoc, ← String.ofList_append] at readMore stop
            exact ⟨_, after, readMore, takes.trans takesMore, stop⟩

/-- The lines that `head` looks for are the first ones of all that is left, though not all of it is
read. -/
theorem readLines_first (source count : Nat) {steps : Nat} {machine : Machine}
    (enough : (machine.remaining source).length < steps) :
    ∃ text after, (readLines? (some (.source source)) count steps "").run machine = (text, after) ∧
      Takes source text.toList machine after ∧
      (fullLines text).take count =
        (fullLines (String.ofList (machine.remaining source))).take count := by
  rcases readLines_takes source count enough "" with ⟨taken, after, read, takes, stop⟩
  rw [String.empty_append] at read stop
  refine ⟨_, after, read, by rwa [String.toList_ofList], ?_⟩
  rw [← takes.remaining]
  rcases stop with ended | nothing
  · rw [String.toList_ofList] at ended
    exact (take_fullLines_append ended _).symm
  · rw [nothing, List.append_nil]

/-! ### From the input to the observer -/

theorem launch_turns {name path : String} {program : Program} {body : String → String}
    (installed : Installed name path fun _ _ => program) (turns : Turns program body)
    (input : List UInt8) :
    ∃ observation, launch [name] (some input) .never = .ok observation ∧
      observation.received .stdout = bytesOf (body (ofBytes input)) ∧
      observation.received .stderr = [] ∧ observation.exit = .code 0 ∧
      observation.closed = true := by
  have stands : (firstInvocation (encode name) [] path true).Between 0 (sinkOf .stdout) :=
    ⟨rfl, rfl, rfl⟩
  rcases turns stands (initial (ofBytes input)) with ⟨between, after, ran, takes, puts⟩
  have text : (initial (ofBytes input)).remaining 0 = (ofBytes input).toList := by
    simp [initial, remaining]
  have silent : between.emissions = [] := by
    rw [takes.unchanged]
    rfl
  rw [text, String.ofList_toList] at puts
  rcases installed.launch_printed (List.forall_mem_nil _) (some input) ran silent puts rfl rfl with
    ⟨observation, launched, out, rest⟩
  rw [String.ofList_toList] at out
  exact ⟨observation, launched, out, rest⟩

theorem installed_cat : Installed "cat" "/usr/bin/cat" fun _ _ => cat where
  filled := by decide +kernel
  clean := by decide +kernel
  plain := by decide +kernel
  found := by decide +kernel
  known launch shell := by
    have last : lastStep "/usr/bin/cat" = "cat" := by decide +kernel
    rw [last]
    rfl

theorem installed_tac : Installed "tac" "/usr/bin/tac" fun _ _ => tac where
  filled := by decide +kernel
  clean := by decide +kernel
  plain := by decide +kernel
  found := by decide +kernel
  known launch shell := by
    have last : lastStep "/usr/bin/tac" = "tac" := by decide +kernel
    rw [last]
    rfl

/-- What is fed to `cat` is received. -/
theorem launch_cat (input : List UInt8) :
    ∃ observation, launch ["cat"] (some input) .never = .ok observation ∧
      observation.received .stdout = input ∧ observation.received .stderr = [] ∧
      observation.exit = .code 0 ∧ observation.closed = true := by
  rcases launch_turns installed_cat turns_cat input with ⟨observation, launched, out, rest⟩
  exact ⟨observation, launched, out.trans (bytesOf_ofBytes input), rest⟩

/-- The lines of a text in reverse. -/
def reversed (text : String) : String :=
  String.join (fullLines text).reverse

theorem reversed_reversed {text : String} (whole : text.toList.getLast?.all (· = '\n') = true) :
    reversed (reversed text) = text := by
  have ended : ∀ line ∈ (fullLines text).reverse, IsEnded line := fun line member =>
    isEnded_of_mem whole line (List.mem_reverse.mp member)
  rw [reversed, reversed, fullLines_join ended, List.reverse_reverse, join_fullLines]

theorem turns_tac : Turns tac reversed :=
  turns_filter ⟨"", "", []⟩ fun _ text => String.join (fullLines text).reverse

theorem launch_tac (input : List UInt8) :
    ∃ observation, launch ["tac"] (some input) .never = .ok observation ∧
      observation.received .stdout = bytesOf (reversed (ofBytes input)) ∧
      observation.received .stderr = [] ∧ observation.exit = .code 0 ∧
      observation.closed = true :=
  launch_turns installed_tac turns_tac input

end EntryTree.Command
