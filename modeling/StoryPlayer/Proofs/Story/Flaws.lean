import StoryPlayer.Proofs.Story.Reading

/-!
# The first flaw of a document

A document is refused for its first flaw, the first command line that the grammar does not allow.
What is wrong with that line decides the cause and the place of the fault: the name is missing or
unknown, the argument is missing, or the line goes on where it should end.
-/

namespace StoryPlayer

/-- The first command line of a document that the grammar does not allow, with the lines around
it. -/
structure Flaw (source : Text) where
  before : List Text
  line : Text
  after : List Text
  split_eq : Text.split '\n' source = before ++ line :: after
  before_allowed : ∀ l ∈ before, isCommandLine l → ∃ e, CommandLine l e
  isCommandLine_line : isCommandLine line
  not_allowed : ¬ ∃ e, CommandLine line e

private theorem allowed_or_exists_first (lines : List Text) :
    (∀ l ∈ lines, isCommandLine l → ∃ e, CommandLine l e) ∨
      ∃ before line after, lines = before ++ line :: after ∧
        (∀ l ∈ before, isCommandLine l → ∃ e, CommandLine l e) ∧ isCommandLine line ∧
          ¬ ∃ e, CommandLine line e := by
  induction lines with
  | nil =>
    left
    intro l hl
    cases hl
  | cons first lines ih =>
    by_cases hfirst : isCommandLine first → ∃ e, CommandLine first e
    · rcases ih with hall | ⟨before, line, after, rfl, hbefore, hline⟩
      · left
        intro l hl
        rcases List.mem_cons.mp hl with rfl | hl
        · exact hfirst
        · exact hall l hl
      · right
        refine ⟨first :: before, line, after, rfl, ?_, hline⟩
        intro l hl
        rcases List.mem_cons.mp hl with rfl | hl
        · exact hfirst
        · exact hbefore l hl
    · right
      refine ⟨[], first, lines, rfl, ?_, ?_⟩
      · intro l hl
        cases hl
      · simpa only [Classical.not_imp] using hfirst

namespace Flaw

variable {source : Text}

/-- The offset of the flaw's plus sign. -/
def start (flaw : Flaw source) : Nat := Text.extent flaw.before

private theorem newline_notMem (flaw : Flaw source) : '\n' ∉ flaw.line := by
  apply Text.notMem_of_mem_split (t := source)
  rw [flaw.split_eq]
  simp

theorem exists_fault (flaw : Flaw source) :
    ∃ fault, commandAt flaw.start flaw.line.tail = .error fault := by
  have htail : '\n' ∉ flaw.line.tail := fun h => flaw.newline_notMem (List.mem_of_mem_tail h)
  cases hat : commandAt flaw.start flaw.line.tail with
  | ok e =>
    have he := (commandAt_eq_ok_iff htail).mp hat
    rw [← eq_cons_of_isCommandLine flaw.isCommandLine_line] at he
    exact absurd ⟨e, he⟩ flaw.not_allowed
  | error fault => exact ⟨fault, rfl⟩

/-- A document with a flaw is refused for it. -/
theorem parse_eq (flaw : Flaw source) {fault : Fault}
    (h : commandAt flaw.start flaw.line.tail = .error fault) : Story.parse source = .error fault :=
  parse_eq_commandAt flaw.split_eq flaw.before_allowed flaw.isCommandLine_line h

end Flaw

/-- A document that is refused has a flaw. -/
private theorem nonempty_flaw {source : Text} {fault : Fault}
    (h : Story.parse source = .error fault) : Nonempty (Flaw source) := by
  rcases allowed_or_exists_first (Text.split '\n' source) with
    hall | ⟨before, line, after, hsplit, hbefore, hcommand, hline⟩
  · obtain ⟨story, hstory⟩ :=
      exists_readBlocks_eq_ok (fun _ => Text.notMem_of_mem_split) hall 0
    rw [parse_eq_readBlocks, hstory] at h
    cases h
  · exact ⟨⟨before, line, after, hsplit, hbefore, hcommand, hline⟩⟩

theorem exists_flaw {source : Text} {fault : Fault} (h : Story.parse source = .error fault) :
    ∃ flaw : Flaw source, commandAt flaw.start flaw.line.tail = .error fault := by
  obtain ⟨flaw⟩ := nonempty_flaw h
  obtain ⟨fault', hat⟩ := flaw.exists_fault
  obtain rfl : fault = fault' := by
    rw [flaw.parse_eq hat] at h
    exact (Except.error.inj h).symm
  exact ⟨flaw, hat⟩

/-- The fault of a document lies on its first flaw. -/
theorem exists_flaw_within {source : Text} {fault : Fault} (h : Story.parse source = .error fault) :
    ∃ flaw : Flaw source, fault.Within flaw.start (flaw.start + flaw.line.length) := by
  obtain ⟨flaw, hat⟩ := exists_flaw h
  have hwithin := commandAt_fault hat
  rw [Nat.add_assoc, Nat.add_comm 1, length_tail_of_isCommandLine flaw.isCommandLine_line]
    at hwithin
  exact ⟨flaw, hwithin⟩

/-- The parts of a command line: the longest name after the plus sign, the blanks after the name,
and the rest. -/
structure LineParts (line name blanks rest : Text) : Prop where
  line_eq : line = '+' :: (name ++ (blanks ++ rest))
  name_capital : ∀ c ∈ name, isCapital c
  name_longest : ∀ c ∈ (blanks ++ rest).head?, isCapital c = false
  blanks_inline : ∀ c ∈ blanks, isInline c
  blanks_longest : ∀ c ∈ rest.head?, isInline c = false

/-- Every command line has its parts. -/
private theorem lineParts_of_isCommandLine {line : Text} (h : isCommandLine line) :
    LineParts line (line.tail.takeWhile isCapital)
      ((line.tail.dropWhile isCapital).takeWhile isInline)
      ((line.tail.dropWhile isCapital).dropWhile isInline) := by
  refine ⟨?_, ?_, ?_, ?_, ?_⟩
  · rw [List.takeWhile_append_dropWhile, List.takeWhile_append_dropWhile]
    exact eq_cons_of_isCommandLine h
  · intro c hc
    exact List.mem_takeWhile_imp hc
  · rw [List.takeWhile_append_dropWhile]
    exact head?_dropWhile_false _ _
  · intro c hc
    exact List.mem_takeWhile_imp hc
  · exact head?_dropWhile_false _ _

namespace LineParts

variable {line name blanks rest : Text} {start : Nat}

private theorem takeWhile_tail (h : LineParts line name blanks rest) :
    line.tail.takeWhile isCapital = name := by
  rw [h.line_eq, List.tail_cons, takeWhile_append_eq_left h.name_capital h.name_longest]

private theorem dropWhile_tail (h : LineParts line name blanks rest) :
    (line.tail.dropWhile isCapital).dropWhile isInline = rest := by
  rw [h.line_eq, List.tail_cons, dropWhile_append_eq_right h.name_capital h.name_longest,
    dropWhile_append_eq_right h.blanks_inline h.blanks_longest]

private theorem length_line (h : LineParts line name blanks rest) :
    line.length = 1 + name.length + blanks.length + rest.length := by
  rw [h.line_eq]
  simp only [List.length_cons, List.length_append]
  omega

private theorem length_tail (h : LineParts line name blanks rest) :
    start + 1 + line.tail.length = start + line.length := by
  rw [h.line_eq, List.tail_cons, List.length_cons]
  omega

private theorem newline_notMem_rest (h : LineParts line name blanks rest) (hline : '\n' ∉ line) :
    '\n' ∉ rest := by
  intro hmem
  apply hline
  rw [h.line_eq]
  simp [hmem]

private theorem commandAt_of_noName (h : LineParts line [] blanks rest) :
    commandAt start line.tail = .error ⟨.expected .command, (start + 1 : Nat)⟩ := by
  unfold commandAt
  rw [h.takeWhile_tail]
  rfl

private theorem commandAt_of_none (h : LineParts line name blanks rest) (hne : name ≠ [])
    (hrest : readArgument? rest = none) :
    commandAt start line.tail = .error ⟨.expected .argument, (start + line.length : Nat)⟩ := by
  unfold commandAt
  rw [h.takeWhile_tail, h.dropWhile_tail, hrest, h.length_tail]
  dsimp only
  rw [if_neg (by simpa using hne)]

private theorem commandAt_of_some {label : Option Text} {excess : Text}
    (h : LineParts line name blanks rest) (hne : name ≠ [])
    (hrest : readArgument? rest = some (label, excess)) :
    commandAt start line.tail = judge start (start + line.length) name label excess := by
  unfold commandAt
  rw [h.takeWhile_tail, h.dropWhile_tail, hrest, h.length_tail]
  dsimp only
  rw [if_neg (by simpa using hne)]

end LineParts

/-- The fault of a command line that starts at an offset and that the grammar does not allow, when
it has no name or the name of a command. -/
inductive LineFault (start : Nat) : Text → Fault → Prop where
  | noName {line blanks rest : Text} (h : LineParts line [] blanks rest) :
      LineFault start line ⟨.expected .command, (start + 1 : Nat)⟩
  | emptyArgument {line blanks after : Text} {command : Command}
      (h : LineParts line command.name blanks (':' :: after)) (hafter : ∀ c ∈ after, isInline c) :
      LineFault start line ⟨.expected .argument, (start + line.length : Nat)⟩
  | missingArgument {line blanks rest : Text} (h : LineParts line Command.input.name blanks rest)
      (hrest : rest.head? ≠ some ':') :
      LineFault start line ⟨.missingArgument "INPUT".toList, start⟩
  | noColon {line blanks rest : Text} {command : Command} (hcommand : command ≠ .input)
      (h : LineParts line command.name blanks rest) (hrest : rest.head? ≠ some ':')
      (hne : rest ≠ []) :
      LineFault start line
        ⟨.expected .argument, (start + 1 + command.name.length + blanks.length : Nat)⟩
  | excess {line blanks between token after excess : Text} {command : Command}
      (h : LineParts line command.name blanks (':' :: (between ++ (token ++ (after ++ excess)))))
      (hbetween : ∀ c ∈ between, isInline c) (htoken : token ≠ [])
      (hword : ∀ c ∈ token, isInline c = false) (hend : ∀ c ∈ (after ++ excess).head?, isInline c)
      (hafter : ∀ c ∈ after, isInline c) (hexcess : ∀ c ∈ excess.head?, isInline c = false)
      (hne : excess ≠ []) :
      LineFault start line
        ⟨.expected .event, (start + 1 + command.name.length + blanks.length + 1 + between.length +
          token.length + after.length : Nat)⟩

private theorem judge_of_unknown {start stop : Nat} {name excess : Text} {label : Option Text}
    (hname : ∀ command : Command, command.name ≠ name) :
    judge start stop name label excess = .error ⟨.unknownCommand name, start⟩ := by
  unfold judge
  cases hof : Command.ofName? name with
  | none => rfl
  | some command => exact absurd (Command.name_of_ofName? hof) (hname command)

private theorem judge_input_none (start stop : Nat) (excess : Text) :
    judge start stop Command.input.name none excess =
      .error ⟨.missingArgument Command.input.name, start⟩ := by
  unfold judge
  rw [Command.ofName?_name]
  rfl

private theorem judge_of_excess {start stop : Nat} {command : Command} {label : Option Text}
    {e : Event} (he : command.event? label = some e) {excess : Text} (hne : excess ≠ []) :
    judge start stop command.name label excess =
      .error ⟨.expected (if label.isNone then .argument else .event),
        (stop - excess.length : Nat)⟩ := by
  unfold judge
  rw [Command.ofName?_name]
  dsimp only
  rw [he]
  dsimp only
  rw [if_neg (by simpa using hne)]

private theorem Command.exists_event?_none {command : Command} (h : command ≠ .input) :
    ∃ e, command.event? none = some e := by
  cases command with
  | pause => exact ⟨_, rfl⟩
  | clear => exact ⟨_, rfl⟩
  | input => exact absurd rfl h

private theorem Command.exists_event?_some (command : Command) (label : Text) :
    ∃ e, command.event? (some label) = some e := by
  cases command <;> exact ⟨_, rfl⟩

theorem LineFault.commandAt_eq {start : Nat} {line : Text} {fault : Fault}
    (h : LineFault start line fault) (hline : '\n' ∉ line) :
    commandAt start line.tail = .error fault := by
  cases h with
  | noName h => exact h.commandAt_of_noName
  | @emptyArgument _ _ command h hafter =>
    have hrest := (ArgumentParts.empty hafter).readArgument?_eq (h.newline_notMem_rest hline)
    exact h.commandAt_of_none command.ne_nil_name hrest
  | missingArgument h hcolon =>
    have hrest := (ArgumentParts.absent hcolon).readArgument?_eq (h.newline_notMem_rest hline)
    rw [h.commandAt_of_some Command.input.ne_nil_name hrest, judge_input_none]
    rfl
  | @noColon blanks rest command hcommand h hcolon hne =>
    have hrest := (ArgumentParts.absent hcolon).readArgument?_eq (h.newline_notMem_rest hline)
    obtain ⟨e, he⟩ := Command.exists_event?_none hcommand
    have hlength := h.length_line
    rw [h.commandAt_of_some command.ne_nil_name hrest, judge_of_excess he hne]
    simp only [Option.isNone_none, if_true, Except.error.injEq, Fault.mk.injEq, true_and]
    omega
  | @excess blanks between token after excess command h hbetween htoken hword hend hafter hexcess
      hne =>
    have hrest := (ArgumentParts.present hbetween htoken hword hend hafter hexcess).readArgument?_eq
      (h.newline_notMem_rest hline)
    obtain ⟨e, he⟩ := command.exists_event?_some token
    have hlength := h.length_line
    simp only [List.length_cons, List.length_append] at hlength
    rw [h.commandAt_of_some command.ne_nil_name hrest, judge_of_excess he hne]
    simp only [Option.isNone_some, Bool.false_eq_true, if_false, Except.error.injEq,
      Fault.mk.injEq, true_and]
    omega

/-- A line without a name, or with the name of a command, that the grammar does not allow has one
of these faults. -/
theorem LineParts.exists_lineFault {line name blanks rest : Text}
    (h : LineParts line name blanks rest) (hline : '\n' ∉ line)
    (hname : name = [] ∨ ∃ command : Command, command.name = name) {start : Nat}
    (hill : ∀ e, commandAt start line.tail ≠ .ok e) : ∃ fault, LineFault start line fault := by
  rcases hname with rfl | ⟨command, rfl⟩
  · exact ⟨_, .noName h⟩
  -- With nothing in excess the line would be allowed, so in both cases that are left there is some.
  have hnamed := command.ne_nil_name
  have hparts := argumentParts_readArgument? (h.newline_notMem_rest hline)
  generalize hread : readArgument? rest = r at hparts
  cases hparts with
  | empty hblanks => exact ⟨_, .emptyArgument h hblanks⟩
  | absent hcolon =>
    by_cases hinput : command = .input
    · subst hinput
      exact ⟨_, .missingArgument h hcolon⟩
    · obtain ⟨e, he⟩ := Command.exists_event?_none hinput
      have hne : rest ≠ [] := by
        rintro rfl
        apply hill e
        rw [h.commandAt_of_some hnamed hread]
        exact judge_eq_ok_iff.mpr ⟨command, rfl, he, rfl⟩
      exact ⟨_, .noColon hinput h hcolon hne⟩
  | @present _ token _ excess hbetween htoken hword hend hafter hexcess =>
    obtain ⟨e, he⟩ := command.exists_event?_some token
    have hne : excess ≠ [] := by
      rintro rfl
      apply hill e
      rw [h.commandAt_of_some hnamed hread]
      exact judge_eq_ok_iff.mpr ⟨command, rfl, he, rfl⟩
    exact ⟨_, .excess h hbetween htoken hword hend hafter hexcess hne⟩

theorem LineParts.lineFault_iff {line name blanks rest : Text}
    (h : LineParts line name blanks rest) (hline : '\n' ∉ line)
    (hname : name = [] ∨ ∃ command : Command, command.name = name) {start : Nat} {fault : Fault} :
    LineFault start line fault ↔ commandAt start line.tail = .error fault := by
  constructor
  · intro hfault
    exact hfault.commandAt_eq hline
  · intro hat
    have hill : ∀ e, commandAt start line.tail ≠ .ok e := by simp [hat]
    obtain ⟨fault', hfault⟩ := h.exists_lineFault hline hname hill
    obtain rfl : fault' = fault := by
      rw [hfault.commandAt_eq hline] at hat
      exact Except.error.inj hat
    exact hfault

private theorem judge_cause_ne_text {start stop : Nat} {name excess : Text} {label : Option Text}
    {fault : Fault} (h : judge start stop name label excess = .error fault) :
    fault.cause ≠ .expected .text := by
  unfold judge at h
  split at h
  · cases h
    simp
  · split at h
    · cases h
      simp
    · split at h
      · cases h
      · cases h
        cases label <;> simp

private theorem commandAt_cause_ne_text {start : Nat} {line : Text} {fault : Fault}
    (h : commandAt start line = .error fault) : fault.cause ≠ .expected .text := by
  unfold commandAt at h
  dsimp only at h
  split at h
  · cases h
    simp
  · split at h
    · cases h
      simp
    · exact judge_cause_ne_text h

/-- A document that is refused has a flaw, its fault lies there and is never a missing text. A flaw
without a name, or with the name of a command, has the one fault that its line gives it. -/
theorem parse_fault_of_flaw (source : Text) :
    (∀ fault, Story.parse source = .error fault →
        fault.cause ≠ .expected .text ∧
        ∃ flaw : Flaw source, fault.Within flaw.start (flaw.start + flaw.line.length)) ∧
      ∀ (flaw : Flaw source) (name blanks rest : Text), LineParts flaw.line name blanks rest →
        (name = [] ∨ ∃ command : Command, command.name = name) →
        ∃ fault, Story.parse source = .error fault ∧
          ∀ fault', LineFault flaw.start flaw.line fault' ↔ fault' = fault := by
  constructor
  · intro fault h
    obtain ⟨flaw, hat⟩ := exists_flaw h
    exact ⟨commandAt_cause_ne_text hat, exists_flaw_within h⟩
  · intro flaw name blanks rest hparts hname
    obtain ⟨fault, hat⟩ := flaw.exists_fault
    refine ⟨fault, flaw.parse_eq hat, fun fault' => ?_⟩
    rw [hparts.lineFault_iff flaw.newline_notMem hname, hat, Except.error.injEq, eq_comm]

private theorem not_commandLine_of_error {line : Text} {fault : Fault} (hline : '\n' ∉ line)
    (h : commandAt 0 line = .error fault) : ¬ ∃ e, CommandLine ('+' :: line) e := by
  rintro ⟨e, he⟩
  rw [(commandAt_eq_ok_iff hline).mpr he] at h
  cases h

/-- The flaw of a document in which a line goes on behind its argument. -/
def flawBehindArgument : Flaw "Hi\n+PAUSE\n+INPUT : a b\n+".toList where
  before := ["Hi".toList, "+PAUSE".toList]
  line := "+INPUT : a b".toList
  after := ["+".toList]
  split_eq := by decide
  before_allowed := by
    intro l hl hcommand
    simp only [List.mem_cons, List.not_mem_nil, or_false] at hl
    rcases hl with rfl | rfl
    · cases hcommand
    · exact ⟨.pause, (commandAt_eq_ok_iff (by decide)).mp (by decide : commandAt 0 _ = .ok .pause)⟩
  isCommandLine_line := by decide
  not_allowed := not_commandLine_of_error (by decide)
    (by decide : commandAt 0 "INPUT : a b".toList = .error ⟨.expected .event, 11⟩)

theorem parse_fault_of_flawBehindArgument :
    Story.parse "Hi\n+PAUSE\n+INPUT : a b\n+".toList = .error ⟨.expected .event, 21⟩ ∧
      LineParts flawBehindArgument.line "INPUT".toList " ".toList ": a b".toList ∧
      LineFault flawBehindArgument.start flawBehindArgument.line ⟨.expected .event, 21⟩ ∧
      ∃ flaw : Flaw "Hi\n+PAUSE\n+INPUT : a b\n+".toList,
        Fault.Within ⟨.expected .event, 21⟩ flaw.start (flaw.start + flaw.line.length) := by
  have hparts : LineParts flawBehindArgument.line Command.input.name " ".toList ": a b".toList :=
    lineParts_of_isCommandLine flawBehindArgument.isCommandLine_line
  have hname : Command.input.name = [] ∨ ∃ command : Command, command.name = Command.input.name :=
    .inr ⟨.input, rfl⟩
  have hfault := (hparts.lineFault_iff flawBehindArgument.newline_notMem hname).mpr
    (by decide : commandAt flawBehindArgument.start _ = .error ⟨.expected .event, 21⟩)
  obtain ⟨fault, hparse, hiff⟩ :=
    (parse_fault_of_flaw _).2 flawBehindArgument _ _ _ hparts hname
  obtain rfl := (hiff _).mp hfault
  exact ⟨hparse, hparts, hfault, ((parse_fault_of_flaw _).1 _ hparse).2⟩

/-- A flaw with the name of no command: the name is reported, but for a colon with nothing but
blanks behind it, which is reported first. -/
theorem parse_fault_of_unknown_name {source : Text} (flaw : Flaw source) {name blanks rest : Text}
    (hparts : LineParts flaw.line name blanks rest) (hne : name ≠ [])
    (hname : ∀ command : Command, command.name ≠ name) :
    ((∃ after, rest = ':' :: after ∧ ∀ c ∈ after, isInline c) →
        Story.parse source =
          .error ⟨.expected .argument, (flaw.start + flaw.line.length : Nat)⟩) ∧
      ((¬ ∃ after, rest = ':' :: after ∧ ∀ c ∈ after, isInline c) →
        Story.parse source = .error ⟨.unknownCommand name, flaw.start⟩) := by
  have hline := hparts.newline_notMem_rest flaw.newline_notMem
  constructor
  · rintro ⟨after, rfl, hafter⟩
    have hrest := (ArgumentParts.empty hafter).readArgument?_eq hline
    exact flaw.parse_eq (hparts.commandAt_of_none hne hrest)
  · intro hempty
    have hargument := argumentParts_readArgument? hline
    cases hread : readArgument? rest with
    | none =>
      rw [hread] at hargument
      cases hargument with
      | empty hblanks => exact absurd ⟨_, rfl, hblanks⟩ hempty
    | some found =>
      obtain ⟨label, excess⟩ := found
      apply flaw.parse_eq
      rw [hparts.commandAt_of_some hne hread, judge_of_unknown hname]

def Flaw.single {line : Text} {fault : Fault} (hline : '\n' ∉ line)
    (h : commandAt 0 line = .error fault) : Flaw ('+' :: line) where
  before := []
  line := '+' :: line
  after := []
  split_eq := Text.split_of_notMem (by simpa using hline)
  before_allowed := by simp
  isCommandLine_line := rfl
  not_allowed := not_commandLine_of_error hline h

private theorem Command.name_ne_frob (command : Command) : command.name ≠ "FROB".toList := by
  cases command <;> decide

private theorem lineParts_frob_colon : LineParts "+FROB:".toList "FROB".toList [] ":".toList :=
  lineParts_of_isCommandLine rfl

theorem parse_fault_of_unknown_name_of_frob :
    (∃ after, ":".toList = ':' :: after ∧ ∀ c ∈ after, isInline c) ∧
      Story.parse "+FROB:".toList = .error ⟨.expected .argument, 6⟩ ∧
      (¬ ∃ after, ": x y".toList = ':' :: after ∧ ∀ c ∈ after, isInline c) ∧
      Story.parse "+FROB: x y".toList = .error ⟨.unknownCommand "FROB".toList, 0⟩ := by
  have hempty : ∃ after, ":".toList = ':' :: after ∧ ∀ c ∈ after, isInline c :=
    ⟨[], rfl, by simp⟩
  have hgiven : ¬ ∃ after, ": x y".toList = ':' :: after ∧ ∀ c ∈ after, isInline c := by
    rintro ⟨after, hafter, hinline⟩
    obtain rfl := (List.cons.inj hafter).2
    have hx := hinline 'x' (by decide)
    cases hx
  have hcolon : commandAt 0 "FROB:".toList = .error ⟨.expected .argument, 6⟩ := by decide
  have hexcess : commandAt 0 "FROB: x y".toList = .error ⟨.unknownCommand "FROB".toList, 0⟩ := by
    decide
  have hparts : LineParts "+FROB: x y".toList "FROB".toList [] ": x y".toList :=
    lineParts_of_isCommandLine rfl
  refine ⟨hempty, ?_, hgiven, ?_⟩
  · exact (parse_fault_of_unknown_name (.single (by decide) hcolon) lineParts_frob_colon
      (List.cons_ne_nil _ _) Command.name_ne_frob).1 hempty
  · exact (parse_fault_of_unknown_name (.single (by decide) hexcess) hparts
      (List.cons_ne_nil _ _) Command.name_ne_frob).2 hgiven

/-- The name is not always judged before the rest of the line. -/
theorem not_forall_unknown_name :
    ¬ ∀ (source : Text) (flaw : Flaw source) (name blanks rest : Text),
      LineParts flaw.line name blanks rest → name ≠ [] →
      (∀ command : Command, command.name ≠ name) →
      Story.parse source = .error ⟨.unknownCommand name, flaw.start⟩ := by
  intro h
  have hcolon : commandAt 0 "FROB:".toList = .error ⟨.expected .argument, 6⟩ := by decide
  have hparse := h _ (.single (by decide) hcolon) _ _ _ lineParts_frob_colon
    (List.cons_ne_nil _ _) Command.name_ne_frob
  rw [(Flaw.single (by decide) hcolon).parse_eq hcolon] at hparse
  cases hparse

end StoryPlayer
