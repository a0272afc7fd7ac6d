import EntryTree.Proofs.Command.Encoding
import EntryTree.Proofs.Command.Expanding
import EntryTree.Proofs.Command.Running
import EntryTree.Proofs.Command.Scripts

/-!
# What a script with texts in quotes prints

A shell that is launched to print texts prints the texts, one behind the other, whatever is in
them, if the script has them in quotes. The way from the script to whoever launched the shell goes
through all that a simple command goes through: the script is read, the words are expanded, the
command is found and run with its redirections, the shell ends, and its writing is received.
-/

namespace EntryTree.Command

open Shell

/-! ### The format -/

section Format

variable {output : String} {text : String} {texts : List String} {used : Bool}

theorem text_default (text : String) : Field.text {} text = text := by
  have missing : 0 - text.length = 0 := Nat.zero_sub _
  simp only [Field.text, Field.pad, missing, Bool.false_eq_true, if_false]
  exact String.empty_append

theorem printOnce_text :
    printOnce .shell 3 ⟨⟨output, [], 0, false⟩, texts, used⟩ ['%', 's'] =
      ⟨⟨output ++ texts.head?.getD "", [], 0, false⟩, texts.tail, true⟩ := by
  have run : printOnce .shell 3 ⟨⟨output, [], 0, false⟩, texts, used⟩ ['%', 's'] =
      ⟨⟨output ++ Field.text {} (texts.head?.getD ""), [], 0, false⟩, texts.tail, true⟩ := rfl
  rw [run, text_default]

theorem printAll_texts {rounds : Nat} (enough : texts.length < rounds) :
    (printAll .shell ['%', 's'] rounds ⟨⟨output, [], 0, false⟩, texts, used⟩).printed =
      ⟨output ++ String.join texts, [], 0, false⟩ := by
  induction rounds generalizing output texts used with
  | zero => contradiction
  | succ rounds ih =>
      have once := @printOnce_text output texts false
      rw [printAll]
      simp only [List.length_cons, List.length_nil, once]
      cases texts with
      | nil => simp
      | cons text texts =>
          cases texts with
          | nil => simp
          | cons second texts =>
              have further := @ih (output ++ text) (second :: texts) true
                (Nat.lt_of_succ_lt_succ enough)
              simpa [String.append_assoc] using further

theorem printFormat_texts : printFormat .shell "%s" texts = ⟨String.join texts, [], 0, false⟩ := by
  have format : "%s".toList = ['%', 's'] := rfl
  rw [printFormat, format, printAll_texts (Nat.lt_succ_self texts.length)]
  simp

end Format

/-! ### The command -/

/-- What a shell prints goes to where its standard output leads. -/
def printing (shell : Shell) (sink : Nat) (text : String) : Shell :=
  { shell with machine := ((Machine.emit sink text).run shell.machine).2 }

section Printf

variable {shell : Shell} {sink : Nat}

theorem does_say (leads : shell.channels.lookup 1 = some (.sink sink)) (text : String) :
    Does (Builtin.say text) shell () (printing shell sink text) := by
  rw [Builtin.say]
  split
  · rw [write, bind_assoc]
    refine Does.get_bind ?_
    rw [leads]
    rfl
  · next filled =>
      have empty : text.isEmpty = true := by simpa using filled
      have nothing : ((Machine.emit sink text).run shell.machine).2 = shell.machine := by
        show (if text.isEmpty then shell.machine else _) = shell.machine
        rw [if_pos empty]
      rw [printing, nothing]
      rfl

theorem does_printf (leads : shell.channels.lookup 1 = some (.sink sink)) (level : Level)
    (mode : Mode) (texts : List String) :
    Does (Builtin.printf level mode ("%s" :: texts)) shell 0
      (printing shell sink (String.join texts)) := by
  have options : Does (Builtin.options "" "" ("%s" :: texts)) shell ([], "%s" :: texts) shell := rfl
  refine options.bind ?_
  simp only [printFormat_texts]
  exact (does_say leads _).bind rfl

/-- What the shell is like behind a command that printed. -/
def printed (shell : Shell) (sink : Nat) (text : String) : Shell :=
  { printing shell sink text with status := 0 }

theorem does_runBuiltin (leads : shell.channels.lookup 1 = some (.sink sink))
    (whole : shell.broken = false) (level : Level) (mode : Mode) (texts : List String) :
    Does (runBuiltin level mode Builtin.printf ⟨.builtin Builtin.printf, "printf",
      "%s" :: texts, false⟩) shell () (printed shell sink (String.join texts)) := by
  let name := "printf"
  let speaker := s!"{name}: "
  have body : Does (do
      let status ← Builtin.printf level mode ("%s" :: texts)
      if (← get).broken then
        complain s!"{name}: I/O error"
        modify fun shell => { shell with broken := false }
        setStatus (status ||| 1)
      else setStatus status) { shell with speaker } ()
        { printed shell sink (String.join texts) with speaker } := by
    let speaking : Shell := { shell with speaker }
    have leads : speaking.channels.lookup 1 = some (.sink sink) := leads
    refine (does_printf leads level mode texts).bind (Does.get_bind ?_)
    have sound : (printing speaking sink (String.join texts)).broken = false := whole
    rw [sound, if_neg Bool.false_ne_true]
    rfl
  rw [runBuiltin]
  exact (Does.speaking body rfl).attempt.bind rfl

theorem callOf_printf (functions : shell.functions = []) (arguments : List String) :
    shell.callOf ("printf" :: arguments) =
      ⟨.builtin Builtin.printf, "printf", arguments, false⟩ := by
  rw [callOf, functions]
  rfl

theorem does_commandFields {entries : List (Word × List Char)}
    (functions : shell.functions = []) (level : Level)
    (tells : ∀ entry ∈ entries, Tells entry.1 entry.2 ∧ Begins entry.1) (given : List String) :
    Does (commandFields level ("printf" :: given) (entries.map Prod.fst)) shell
      ("printf" :: given ++ entries.map fun entry => String.ofList entry.2) shell := by
  induction entries generalizing given with
  | nil =>
      rw [List.map_nil, List.map_nil, List.append_nil]
      rfl
  | cons entry entries ih =>
      rw [List.forall_mem_cons] at tells
      have field : Does (fieldsOf level entry.1) shell [String.ofList entry.2] shell :=
        tells.1.1.run_fieldsOf tells.1.2 level shell
      have further := ih tells.2 (given ++ [String.ofList entry.2])
      rw [List.map_cons, List.map_cons, commandFields]
      refine Does.get_bind ?_
      have plain : Builtin.assigningNames.contains "printf" = false := by decide +kernel
      simp only [callOf_printf functions, plain, Bool.and_false, Bool.false_eq_true, if_false]
      refine field.bind ?_
      simpa using further

/-- The words of a command that prints. -/
theorem does_allWords (functions : shell.functions = []) (level : Level) {name : Word}
    (tellsName : Tells name "printf".toList) (beginsName : Begins name)
    {entries : List (Word × List Char)}
    (tells : ∀ entry ∈ entries, Tells entry.1 entry.2 ∧ Begins entry.1) :
    Does (commandFields level [] (name :: entries.map Prod.fst)) shell
      ("printf" :: entries.map fun entry => String.ofList entry.2) shell := by
  have field : Does (fieldsOf level name) shell ["printf"] shell := by
    have first := tellsName.run_fieldsOf beginsName level shell
    rwa [String.ofList_toList] at first
  rw [commandFields]
  refine Does.get_bind ?_
  simp only [callOf, Bool.false_and, Bool.false_eq_true, if_false]
  exact field.bind (does_commandFields functions level tells [])

theorem deliveries_emit (sink : Nat) (text : String) (machine : Machine) :
    ((Machine.emit sink text).run machine).2.deliveries = machine.deliveries := by
  show (if text.isEmpty then machine else _).deliveries = machine.deliveries
  split <;> rfl

/-- Printing texts, as one command of a calm shell. -/
theorem does_printingCommand (calm : Calm shell)
    (leads : shell.channels.lookup 1 = some (.sink sink)) (level : Level) (mode : Mode) (line : Nat)
    {name format : Word} (tellsName : Tells name "printf".toList) (beginsName : Begins name)
    {entries : List (Word × List Char)}
    (tells : ∀ entry ∈ (format, "%s".toList) :: entries, Tells entry.1 entry.2 ∧ Begins entry.1) :
    ∃ budget, Does (runCommand level mode
        (.simple line [] (name :: format :: entries.map Prod.fst) [])) shell ()
      (printed { shell with line, inner := none, machine := { shell.machine with budget } } sink
        (String.join (entries.map fun entry => String.ofList entry.2))) := by
  rcases does_countCommand calm.patient with ⟨budget, counts⟩
  let begun : Shell :=
    { shell with line, inner := none, machine := { shell.machine with budget } }
  let texts := entries.map fun entry => String.ofList entry.2
  have functions : begun.functions = [] := calm.functions
  have expands : Does (commandFields level [] (name :: format :: entries.map Prod.fst)) begun
      ("printf" :: "%s" :: texts) begun := by
    have words := does_allWords functions level tellsName beginsName tells
    rwa [List.map_cons, List.map_cons, String.ofList_toList] at words
  have leads : begun.channels.lookup 1 = some (.sink sink) := leads
  have simple := does_runSimple counts rfl expands calm.options (callOf_printf functions _)
    (does_runBuiltin leads calm.whole level mode texts) rfl
  refine ⟨budget, does_runCommand calm simple ?_ calm.options⟩
  show ((Machine.emit sink (String.join texts)).run begun.machine).2.deliveries = []
  rw [deliveries_emit]
  exact calm.deliveries

end Printf

/-! ### From the script to the observer -/

/-- The script that prints texts, which it has in quotes. -/
def printScript (texts : List String) : String :=
  "printf %s" ++ String.join (texts.map fun text => " " ++ Builtin.quoted text)

theorem spaced_map (texts : List String) :
    (String.join (texts.map fun text => " " ++ Builtin.quoted text)).toList =
      spaced (texts.map fun text => (Builtin.quoted text).toList) := by
  rw [String.toList_join, List.flatMap_map, spaced, List.flatMap_map]
  refine List.flatMap_congr fun text _ => ?_
  rw [String.toList_append]
  rfl

theorem toList_printScript (texts : List String) :
    (printScript texts).toList =
      "printf".toList ++
        spaced ("%s".toList :: texts.map fun text => (Builtin.quoted text).toList) := by
  have first : "printf %s".toList = "printf".toList ++ ' ' :: "%s".toList := rfl
  rw [printScript, String.toList_append, spaced_map, first, List.append_assoc]
  rfl

theorem exists_quoted_eq (text : String) :
    ∃ more, (Builtin.quoted text).toList = Builtin.apostrophe :: more := by
  rcases exists_cut text.toList with ⟨_, _, _, cut⟩
  rw [Builtin.quoted, String.toList_ofList, cut.quotedWithin_eq]
  exact ⟨_, rfl⟩

theorem written_quoted (text : String) :
    ∃ word, Tells word text.toList ∧ Begins word ∧
      Written (2 * text.length + 3) (Builtin.quoted text).toList word := by
  rcases spells_quoted text with ⟨word, tells, spells⟩
  rcases exists_quoted_eq text with ⟨more, same⟩
  refine ⟨.quotes :: word, .quotes tells, ⟨List.cons_ne_nil _ word, ?_⟩, spells, ?_⟩
  · rintro characters ⟨⟩
  · exact ⟨Builtin.apostrophe, more, same, by decide +kernel⟩

/-- The words of texts in quotes. -/
theorem exists_words {texts : List String} {bound : Nat}
    (short : ∀ text ∈ texts, text.length ≤ bound) :
    ∃ entries : List (String × Word), entries.map Prod.fst = texts ∧ ∀ entry ∈ entries,
      Tells entry.2 entry.1.toList ∧ Begins entry.2 ∧
        Written (2 * bound + 3) (Builtin.quoted entry.1).toList entry.2 := by
  induction texts with
  | nil => exact ⟨[], rfl, List.forall_mem_nil _⟩
  | cons text texts ih =>
      rw [List.forall_mem_cons] at short
      rcases ih short.2 with ⟨entries, same, words⟩
      rcases written_quoted text with ⟨word, tells, begins, written⟩
      have high : 2 * text.length + 3 ≤ 2 * bound + 3 := by omega
      refine ⟨(text, word) :: entries, congrArg (text :: ·) same, ?_⟩
      refine List.forall_mem_cons.mpr ⟨⟨tells, begins, ?_⟩, words⟩
      exact ⟨written.spells.mono high, written.starts⟩

theorem length_le_printScript {texts : List String} {text : String} (member : text ∈ texts) :
    text.length ≤ (printScript texts).length := by
  have quotes : text.length ≤ (Builtin.quoted text).toList.length := by
    rw [Builtin.quoted, String.toList_ofList, ← String.length_toList]
    exact length_le_quotedWithin (Nat.lt_succ_self _)
  have inside : (' ' :: (Builtin.quoted text).toList).Sublist
      (spaced (texts.map fun text => (Builtin.quoted text).toList)) := by
    rw [spaced, List.flatMap_map, List.flatMap]
    exact List.sublist_flatten_of_mem (List.mem_map_of_mem member)
  rw [← String.length_toList (s := printScript texts), printScript, String.toList_append,
    spaced_map, List.length_append]
  have shorter := inside.length_le
  rw [List.length_cons] at shorter
  omega

theorem written_plain {height : Nat} {text : List Char}
    (plain : ∀ c ∈ text, Readers.isPlain c = true) (high : text.length < height)
    (starts : ∃ c more, text = c :: more ∧ Readers.startsWord c = true) :
    Written height text (Readers.plainWord text) :=
  ⟨(Spells.plain plain).mono high, starts⟩

theorem isPlain_printf : ∀ c ∈ "printf".toList, Readers.isPlain c = true := by
  have plain : "printf".toList.all Readers.isPlain = true := by decide +kernel
  exact List.all_eq_true.mp plain

theorem isPlain_format : ∀ c ∈ "%s".toList, Readers.isPlain c = true := by
  have plain : "%s".toList.all Readers.isPlain = true := by decide +kernel
  exact List.all_eq_true.mp plain

theorem readScript_printScript (texts : List String) :
    ∃ (line : Nat) (entries : List (String × Word)), entries.map Prod.fst = texts ∧
      (∀ entry ∈ entries, Tells entry.2 entry.1.toList ∧ Begins entry.2) ∧
      readScript (printScript texts) 1 =
        ([⟨.simple line [] (Readers.plainWord "printf".toList :: Readers.plainWord "%s".toList ::
          entries.map Prod.snd) [], true⟩], none) := by
  have short : ∀ text ∈ texts, text.length ≤ (printScript texts).length :=
    fun text member => length_le_printScript member
  rcases exists_words short with ⟨entries, same, words⟩
  let height := 2 * (printScript texts).length + 3
  let given := ("%s".toList, Readers.plainWord "%s".toList) ::
    entries.map fun entry => ((Builtin.quoted entry.1).toList, entry.2)
  have long : 9 ≤ (printScript texts).length := by
    have front : "printf %s".length = 9 := by decide +kernel
    rw [printScript, String.length_append, front]
    exact Nat.le_add_right 9 _
  have name : Written height "printf".toList (Readers.plainWord "printf".toList) := by
    refine written_plain isPlain_printf ?_ ⟨'p', "rintf".toList, rfl, by decide +kernel⟩
    show 6 < height
    omega
  have format : Written height "%s".toList (Readers.plainWord "%s".toList) := by
    refine written_plain isPlain_format ?_ ⟨'%', ['s'], rfl, by decide +kernel⟩
    show 2 < height
    omega
  have written : ∀ entry ∈ given, Written height entry.1 entry.2 := by
    refine List.forall_mem_cons.mpr ⟨format, List.forall_mem_map.mpr ?_⟩
    intro entry member
    dsimp only
    exact (words entry member).2.2
  have whole : (printScript texts).toList = "printf".toList ++ spaced (given.map Prod.fst) := by
    rw [toList_printScript, ← same]
    simp only [given, List.map_cons, List.map_map, Function.comp_def]
  have named : Readers.IsName (Readers.plainWord "printf".toList) :=
    Readers.isName_plainWord (by decide +kernel) (by decide)
  rcases readScript_words named name written whole (by omega) 1 with ⟨line, read⟩
  have others : given.map Prod.snd =
      Readers.plainWord "%s".toList :: entries.map Prod.snd := by
    rw [List.map_cons, List.map_map]
    rfl
  rw [others] at read
  refine ⟨line, entries, same, fun entry member => ?_, read⟩
  exact ⟨(words entry member).1, (words entry member).2.1⟩

theorem encode_printScript (texts : List String) :
    encode (printScript texts) = printScript (texts.map encode) := by
  have name : encode "printf %s" = "printf %s" := by decide +kernel
  have space : encode " " = " " := by decide +kernel
  simp only [printScript, encode_append, encode_join, name, List.map_map, Function.comp_def,
    space, encode_quoted]

theorem not_mem_printScript {texts : List String} (clean : ∀ text ∈ texts, '\x00' ∉ text.toList) :
    '\x00' ∉ (printScript texts).toList := by
  rw [toList_printScript, spaced, List.flatMap_cons, List.flatMap_map]
  simp only [List.mem_append, List.mem_flatMap, List.mem_cons, not_or, not_exists, not_and]
  refine ⟨by decide, ⟨by decide, by decide⟩, fun text inside => ⟨by decide, fun member => ?_⟩⟩
  rw [Builtin.quoted, String.toList_ofList] at member
  rcases mem_quotedWithin member with within | mark | quote
  · exact clean text inside within
  · exact absurd mark (by decide)
  · exact absurd quote (by decide)

theorem begins_plainWord {text : List Char} (filled : text ≠ []) :
    Begins (Readers.plainWord text) := by
  cases text with
  | nil => contradiction
  | cons c text =>
      refine ⟨List.cons_ne_nil _ _, ?_⟩
      rintro characters ⟨⟩

section Launched

variable {texts : List String} {sink : Nat}

/-- The script that prints texts, in a calm shell. -/
theorem does_runText_printScript {shell : Shell} (calm : Calm shell)
    (leads : shell.channels.lookup 1 = some (.sink sink)) (depth : Nat) (mode : Mode)
    (texts : List String) :
    ∃ line budget, Does (runText (levelAt (depth + 1)) (printScript texts) 1 mode) shell ()
      (printed { shell with line, inner := none, machine := { shell.machine with budget } } sink
        (String.join texts)) := by
  rcases readScript_printScript texts with ⟨line, entries, same, words, read⟩
  let given := entries.map fun entry => (entry.2, entry.1.toList)
  have tells : ∀ entry ∈ (Readers.plainWord "%s".toList, "%s".toList) :: given,
      Tells entry.1 entry.2 ∧ Begins entry.1 := by
    refine List.forall_mem_cons.mpr ⟨?_, List.forall_mem_map.mpr words⟩
    exact ⟨.of_plain isPlain_format, begins_plainWord (by decide)⟩
  have name : Tells (Readers.plainWord "printf".toList) "printf".toList :=
    .of_plain isPlain_printf
  have beginsName := begins_plainWord (by decide : "printf".toList ≠ [])
  rcases does_printingCommand calm leads (levelAt depth) mode line name beginsName tells with
    ⟨budget, does⟩
  have words : given.map Prod.fst = entries.map Prod.snd := by
    rw [List.map_map]
    rfl
  have told : (given.map fun entry => String.ofList entry.2) = texts := by
    rw [← same, List.map_map]
    refine List.map_congr_left fun entry _ => ?_
    exact String.ofList_toList
  rw [words, told] at does
  exact ⟨line, budget, does_runText read does⟩

theorem run_program_printScript {invocation : Invocation} {machine : Machine} (depth : Nat)
    (given : invocation.arguments = ["-c", printScript texts])
    (leads : invocation.channels.lookup 1 = some (.sink sink)) (quiet : machine.deliveries = [])
    (patient : machine.budget ≠ 0) :
    ∃ budget shells left, (Shell.program (levelAt (depth + 1)) invocation).run machine =
      (.exited 0, { ((Machine.emit sink (String.join texts)).run
        { machine with budget, shells }).2 with shells := left }) := by
  let begun := ofInvocation invocation invocation.name [] []
    { machine with shells := invocation.process :: machine.shells }
  have calm : Calm begun := ⟨rfl, rfl, quiet, patient, rfl⟩
  rcases does_runText_printScript calm leads depth ⟨false, false⟩ texts with ⟨line, budget, does⟩
  have starts : ∃ rest, (printScript texts).toList = 'p' :: rest := by
    rw [toList_printScript]
    exact ⟨_, rfl⟩
  rcases starts with ⟨rest, starts⟩
  rw [run_program _ _ given starts (by decide)]
  have ran : (runShell (levelAt (depth + 1)) (ofInvocation invocation invocation.name [] []) _).run
      machine = _ := run_runShell rfl does rfl
  exact ⟨budget, invocation.process :: machine.shells, _, ran⟩

/-- A shell that is launched to print texts prints the texts, one behind the other. -/
theorem launch_prints (clean : ∀ text ∈ texts, '\x00' ∉ text.toList) :
    ∃ observation, launch ["sh", "-c", printScript texts] none .never = .ok observation ∧
      observation.received .stdout = (String.join texts).toUTF8.toList ∧
      observation.received .stderr = [] ∧ observation.exit = .code 0 ∧
      observation.closed = true := by
  let given := ["-c", printScript texts]
  let invocation := firstInvocation (encode "sh") (given.map encode) "/usr/bin/sh" false
  have encoded : invocation.arguments = ["-c", printScript (texts.map encode)] := by
    have option : encode "-c" = "-c" := by decide +kernel
    show ["-c", printScript texts].map encode = _
    rw [List.map_cons, List.map_singleton, option, encode_printScript]
  have cleanGiven : ∀ argument ∈ given, '\x00' ∉ (encode argument).toList := by
    have single : charactersFor '\x00' = ['\x00'] := by decide +kernel
    simp only [mem_encode_iff single]
    refine List.forall_mem_cons.mpr ⟨by decide, List.forall_mem_singleton.mpr ?_⟩
    exact not_mem_printScript clean
  have leads : invocation.channels.lookup 1 = some (.sink (sinkOf .stdout)) := rfl
  have quiet : (Machine.initial "").deliveries = [] := rfl
  rcases run_program_printScript 3998 encoded leads quiet (by decide) with
    ⟨budget, shells, left, ran⟩
  have puts := Machine.Puts.emit { Machine.initial "" with budget, shells } (sinkOf .stdout)
    (String.join (texts.map encode))
  rcases installed_sh.launch_printed cleanGiven none ran rfl puts rfl rfl with
    ⟨observation, launched, out, rest⟩
  rw [String.ofList_toList, ← encode_join, bytesOf_encode] at out
  exact ⟨observation, launched, out, rest⟩

end Launched
end EntryTree.Command
