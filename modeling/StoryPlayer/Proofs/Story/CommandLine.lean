import Mathlib.Data.List.TakeWhile
import StoryPlayer.Story.Reader

/-!
# Command lines

A command is read from its own line: whatever stands on the lines after it changes nothing. What
the rule for commands accepts is the grammar `CommandLine`, and a fault lies on the line itself.
-/

namespace StoryPlayer

/-- The cursor at an offset, before the given rest of its document. -/
def Cursor.facing (p : Nat) (t : Text) : Cursor := ⟨p, t, p + t.length⟩

/-- A text that goes on after the end of a line, if it goes on at all. -/
def EndsLine (rest : Text) : Prop := ∀ c ∈ rest.head?, c = '\n'

theorem endsLine_nil : EndsLine [] := by
  intro c hc
  cases hc

theorem endsLine_newline (t : Text) : EndsLine ('\n' :: t) := by
  intro c hc
  exact (Option.mem_some.mp hc).symm

theorem takeWhile_line {q : Char → Bool} (hq : q '\n' = false) (line : Text) {rest : Text}
    (hrest : EndsLine rest) : (line ++ rest).takeWhile q = line.takeWhile q := by
  induction line with
  | nil =>
    cases rest with
    | nil => rfl
    | cons c rest =>
      obtain rfl := hrest c rfl
      simp [hq]
  | cons c line ih =>
    simp only [List.cons_append, List.takeWhile_cons, ih]

private theorem dropWhile_line {q : Char → Bool} (hq : q '\n' = false) (line : Text) {rest : Text}
    (hrest : EndsLine rest) : (line ++ rest).dropWhile q = line.dropWhile q ++ rest := by
  induction line with
  | nil =>
    cases rest with
    | nil => rfl
    | cons c rest =>
      obtain rfl := hrest c rfl
      simp [hq]
  | cons c line ih =>
    simp only [List.cons_append, List.dropWhile_cons, ih]
    split <;> rfl

private theorem length_takeWhile_add_length_dropWhile (q : Char → Bool) (t : Text) :
    (t.takeWhile q).length + (t.dropWhile q).length = t.length := by
  rw [← List.length_append, List.takeWhile_append_dropWhile]

theorem head?_dropWhile_false (q : Char → Bool) (t : Text) :
    ∀ c ∈ (t.dropWhile q).head?, q c = false := by
  intro c hc
  have h := List.head?_dropWhile_not q t
  rw [Option.mem_def.mp hc] at h
  simpa using h

private theorem not_isGap_of_mem {t : Text} (ht : '\n' ∉ t) {c : Char} (hc : c ∈ t)
    (hinline : isInline c = false) : isGap c = false := by
  have hnewline : c ≠ '\n' := fun h => ht (h ▸ hc)
  simp [isGap, hinline, hnewline]

private theorem dropWhile_isInline_eq_nil {t : Text} (hline : '\n' ∉ t)
    (h : ((t.dropWhile isInline).takeWhile (!isGap ·)) = []) : t.dropWhile isInline = [] := by
  cases ht : t.dropWhile isInline with
  | nil => rfl
  | cons c u =>
    have hinline : isInline c = false := head?_dropWhile_false isInline t c (by simp [ht])
    have hmem : c ∈ t := List.dropWhile_subset _ (ht ▸ List.mem_cons_self)
    simp [ht, not_isGap_of_mem hline hmem hinline] at h

namespace Cursor

theorem facing_advance (p : Nat) (a t : Text) :
    (facing p (a ++ t)).advance a.length = facing (p + a.length) t := by
  simp [facing, advance, Nat.add_assoc]

theorem facing_advance_one (p : Nat) (c : Char) (t : Text) :
    (facing p (c :: t)).advance 1 = facing (p + 1) t :=
  facing_advance p [c] t

theorem peek_facing (p : Nat) (token t : Text) :
    (facing p t).peek token = token.isPrefixOf t := by
  simp [facing, peek]

theorem atTrailer_facing (p : Nat) (t : Text) : (facing p t).atTrailer = t.all isGap := by
  simp [facing, atTrailer]

theorem ofSource_eq_facing (source : Text) {p : Nat} (hp : p ≤ source.length) :
    ofSource source p = facing p (source.drop p) := by
  simp [ofSource, facing, Nat.add_sub_cancel' hp]

end Cursor

open Cursor

namespace Rule

theorem bind_of_ok {α β : Type} {rule : Rule α} {next : α → Rule β} {c c' : Cursor} {a : α}
    (h : rule c = .ok a c') : (rule >>= next) c = next a c' := by
  change EStateM.bind rule next c = _
  rw [EStateM.bind, h]

private theorem bind_of_error {α β : Type} {rule : Rule α} {next : α → Rule β} {c c' : Cursor}
    {fault : Fault} (h : rule c = .error fault c') : (rule >>= next) c = .error fault c' := by
  change EStateM.bind rule next c = _
  rw [EStateM.bind, h]

private theorem run_facing (q : Char → Bool) (p : Nat) (t : Text) :
    run q (facing p t) =
      .ok (t.takeWhile q) (facing (p + (t.takeWhile q).length) (t.dropWhile q)) := by
  have h := facing_advance p (t.takeWhile q) (t.dropWhile q)
  rw [List.takeWhile_append_dropWhile] at h
  rw [← h]
  rfl

theorem skipInline_facing (p : Nat) (t : Text) :
    skipInline (facing p t) =
      .ok () (facing (p + (t.takeWhile isInline).length) (t.dropWhile isInline)) := by
  have h := run_facing isInline p t
  change EStateM.map (Function.const Text ()) (run isInline) (facing p t) = _
  rw [EStateM.map, h]

private theorem atLineEnd_facing (p : Nat) (t : Text) :
    atLineEnd (facing p t) = .ok (t.isEmpty || t.head? == some '\n') (facing p t) := by
  have hstop : ¬ (facing p t).stop < (facing p t).pos := by simp [facing]
  unfold atLineEnd
  rw [bind_of_ok (rfl : (get : Rule Cursor) (facing p t) = .ok (facing p t) (facing p t)),
    if_neg hstop]
  rfl

end Rule

/-- The argument at the start of a text, if there is one, and what follows it. A colon without an
argument gives nothing. -/
def readArgument? (t : Text) : Option (Option Text × Text) :=
  if t.head? = some ':' then
    let t := t.tail.dropWhile isInline
    let token := t.takeWhile (!isGap ·)
    if token.isEmpty then none
    else some (some token, (t.dropWhile (!isGap ·)).dropWhile isInline)
  else some (none, t)

/-- The verdict on a command whose line, from `start` to `stop`, is read but for its last part. -/
def judge (start stop : Nat) (name : Text) (label : Option Text) (excess : Text) :
    Except Fault Event :=
  match Command.ofName? name with
  | none => .error ⟨.unknownCommand name, start⟩
  | some command =>
    match command.event? label with
    | none => .error ⟨.missingArgument name, start⟩
    | some event =>
      if excess.isEmpty then .ok event
      else .error ⟨.expected (if label.isNone then .argument else .event),
        (stop - excess.length : Nat)⟩

/-- The event of a command line that starts at an offset, or its fault. The line is given without
its plus sign. -/
def commandAt (start : Nat) (line : Text) : Except Fault Event :=
  let name := line.takeWhile isCapital
  let stop := start + 1 + line.length
  if name.isEmpty then .error ⟨.expected .command, (start + 1 : Nat)⟩
  else
    match readArgument? ((line.dropWhile isCapital).dropWhile isInline) with
    | none => .error ⟨.expected .argument, stop⟩
    | some (label, excess) => judge start stop name label excess

/-- A result with the given outcome; a success leaves the given cursor. -/
def Leads {α : Type} (result : EStateM.Result Fault Cursor α) (c : Cursor) :
    Except Fault α → Prop
  | .ok a => result = .ok a c
  | .error fault => ∃ c', result = .error fault c'

namespace Rule

theorem finishCommand_facing {start q : Nat} {name : Text} {label : Option Text}
    {excess rest : Text} (hexcess : '\n' ∉ excess) (hrest : EndsLine rest) :
    Leads (finishCommand start name label (facing q (excess ++ rest)))
      (facing (q + excess.length) rest) (judge start (q + excess.length) name label excess) := by
  unfold finishCommand judge
  cases Command.ofName? name with
  | none => exact ⟨_, rfl⟩
  | some command =>
    dsimp only
    cases command.event? label with
    | none => exact ⟨_, rfl⟩
    | some event =>
      dsimp only
      rw [bind_of_ok (atLineEnd_facing q (excess ++ rest))]
      cases excess with
      | nil =>
        have hend : (rest.isEmpty || rest.head? == some '\n') = true := by
          cases rest with
          | nil => rfl
          | cons c rest => simp [hrest c rfl]
        rw [List.nil_append, hend]
        rfl
      | cons c excess =>
        have hc : c ≠ '\n' := fun h => hexcess (by simp [h])
        have hend : ((c :: excess ++ rest).isEmpty || (c :: excess ++ rest).head? == some '\n') =
            false := by simp [hc]
        rw [hend, Nat.add_sub_cancel]
        exact ⟨_, rfl⟩

private theorem optionalArgument_absent {q : Nat} {t rest : Text} (ht : t.head? ≠ some ':')
    (hrest : EndsLine rest) :
    optionalArgument (facing q (t ++ rest)) = .ok none (facing q (t ++ rest)) := by
  have hpeek : (facing q (t ++ rest)).peek [':'] = false := by
    rw [peek_facing]
    cases t with
    | nil =>
      cases rest with
      | nil => rfl
      | cons c rest =>
        obtain rfl := hrest c rfl
        rfl
    | cons c t =>
      have hc : ':' ≠ c := fun h => ht (by rw [h]; rfl)
      simp [List.isPrefixOf, hc]
  unfold optionalArgument
  rw [bind_of_ok (rfl : (get : Rule Cursor) (facing q (t ++ rest)) = .ok _ _), hpeek]
  rfl

private theorem argument_facing (q : Nat) (t : Text) {rest : Text} (hrest : EndsLine rest) :
    let token := (t.dropWhile isInline).takeWhile (!isGap ·)
    let stop := q + 1 + (t.takeWhile isInline).length + token.length
    Leads (argument (facing q (':' :: (t ++ rest))))
      (facing stop ((t.dropWhile isInline).dropWhile (!isGap ·) ++ rest))
      (if token.isEmpty then .error ⟨.expected .argument, stop⟩ else .ok token) := by
  intro token stop
  have hadvance : (modify (·.advance 1) : Rule PUnit) (facing q (':' :: (t ++ rest))) =
      .ok ⟨⟩ (facing (q + 1) (t ++ rest)) := by
    rw [← facing_advance_one q ':' (t ++ rest)]
    rfl
  unfold argument
  rw [bind_of_ok hadvance, bind_of_ok (skipInline_facing _ _), bind_of_ok (run_facing _ _ _)]
  rw [takeWhile_line (by decide) t hrest, dropWhile_line (by decide) t hrest,
    takeWhile_line (by decide) _ hrest, dropWhile_line (by decide) _ hrest]
  split
  · exact ⟨_, rfl⟩
  · rfl

private theorem optionalArgument_colon (q : Nat) (t : Text) {rest : Text} (hrest : EndsLine rest) :
    let token := (t.dropWhile isInline).takeWhile (!isGap ·)
    let beyond := (t.dropWhile isInline).dropWhile (!isGap ·)
    let stop := q + 1 + (t.takeWhile isInline).length + token.length
    Leads (optionalArgument (facing q (':' :: (t ++ rest))))
      (facing (stop + (beyond.takeWhile isInline).length) (beyond.dropWhile isInline ++ rest))
      (if token.isEmpty then .error ⟨.expected .argument, stop⟩ else .ok (some token)) := by
  intro token beyond stop
  have hpeek : (facing q (':' :: (t ++ rest))).peek [':'] = true := by
    simp [peek_facing, List.isPrefixOf]
  have hargument := argument_facing q t hrest
  dsimp only at hargument
  unfold optionalArgument
  rw [bind_of_ok (rfl : (get : Rule Cursor) (facing q (':' :: (t ++ rest))) = .ok _ _), hpeek,
    if_pos rfl]
  split at hargument
  · rename_i htoken
    obtain ⟨c, hargument⟩ := hargument
    rw [if_pos htoken, bind_of_error hargument]
    exact ⟨c, rfl⟩
  · rename_i htoken
    rw [if_neg htoken, bind_of_ok hargument, bind_of_ok (skipInline_facing _ _),
      takeWhile_line (by decide) _ hrest, dropWhile_line (by decide) _ hrest]
    rfl

private theorem optionalArgument_none (q : Nat) {t rest : Text} (ht : '\n' ∉ t)
    (hrest : EndsLine rest) (h : readArgument? t = none) :
    ∃ c, optionalArgument (facing q (t ++ rest)) =
      .error ⟨.expected .argument, (q + t.length : Nat)⟩ c := by
  unfold readArgument? at h
  split at h
  · rename_i hcolon
    obtain ⟨u, rfl⟩ := List.head?_eq_some_iff.mp hcolon
    dsimp only [List.tail_cons] at h
    split at h
    · rename_i htoken
      have hu : '\n' ∉ u := fun h => ht (List.mem_cons_of_mem _ h)
      have hnil := dropWhile_isInline_eq_nil hu (List.isEmpty_iff.mp htoken)
      have hskip := length_takeWhile_add_length_dropWhile isInline u
      have hoption := optionalArgument_colon q u hrest
      dsimp only at hoption
      rw [if_pos htoken] at hoption
      obtain ⟨c, hoption⟩ := hoption
      refine ⟨c, ?_⟩
      rw [List.cons_append, hoption]
      simp only [hnil, List.takeWhile_nil, List.length_nil, List.length_cons] at hskip ⊢
      congr 3
      omega
    · cases h
  · cases h

private theorem optionalArgument_some (q : Nat) {t rest excess : Text} {label : Option Text}
    (ht : '\n' ∉ t) (hrest : EndsLine rest) (h : readArgument? t = some (label, excess)) :
    '\n' ∉ excess ∧ ∃ q', q' + excess.length = q + t.length ∧
      optionalArgument (facing q (t ++ rest)) = .ok label (facing q' (excess ++ rest)) := by
  unfold readArgument? at h
  split at h
  · rename_i hcolon
    obtain ⟨u, rfl⟩ := List.head?_eq_some_iff.mp hcolon
    dsimp only [List.tail_cons] at h
    split at h
    · cases h
    · rename_i htoken
      have hu : '\n' ∉ u := fun h => ht (List.mem_cons_of_mem _ h)
      have hskip := length_takeWhile_add_length_dropWhile isInline u
      have hword := length_takeWhile_add_length_dropWhile (!isGap ·) (u.dropWhile isInline)
      have hlast := length_takeWhile_add_length_dropWhile isInline
        ((u.dropWhile isInline).dropWhile (!isGap ·))
      have hoption := optionalArgument_colon q u hrest
      dsimp only at hoption
      rw [if_neg htoken] at hoption
      cases h
      refine ⟨fun h => hu ?_, _, ?_, hoption⟩
      · exact List.dropWhile_subset _ (List.dropWhile_subset _ (List.dropWhile_subset _ h))
      · rw [List.length_cons]
        omega
  · rename_i hcolon
    cases h
    exact ⟨ht, q, rfl, optionalArgument_absent hcolon hrest⟩

/-- What a command's line holds decides what is read, whatever comes after the line. -/
theorem command_facing (start : Nat) {line rest : Text} (hline : '\n' ∉ line)
    (hrest : EndsLine rest) :
    Leads (command (facing start ('+' :: (line ++ rest))))
      (facing (start + 1 + line.length) rest) (commandAt start line) := by
  change Leads (commandBody start ((facing start ('+' :: (line ++ rest))).advance 1)) _ _
  rw [facing_advance_one]
  unfold commandBody commandAt
  rw [bind_of_ok (run_facing _ _ _), takeWhile_line (by decide) line hrest,
    dropWhile_line (by decide) line hrest]
  dsimp only
  split
  · rename_i hname
    rw [List.isEmpty_iff.mp hname]
    exact ⟨_, rfl⟩
  · -- Name, blanks and argument all end on the line, so the offsets add up to where it ends.
    have hname := length_takeWhile_add_length_dropWhile isCapital line
    have hblank := length_takeWhile_add_length_dropWhile isInline (line.dropWhile isCapital)
    have hafter : '\n' ∉ (line.dropWhile isCapital).dropWhile isInline :=
      fun h => hline (List.dropWhile_subset _ (List.dropWhile_subset _ h))
    rw [bind_of_ok (skipInline_facing _ _), takeWhile_line (by decide) _ hrest,
      dropWhile_line (by decide) _ hrest]
    split
    · rename_i hargument
      obtain ⟨c, hoption⟩ := optionalArgument_none
        (start + 1 + (line.takeWhile isCapital).length +
          ((line.dropWhile isCapital).takeWhile isInline).length) hafter hrest hargument
      refine ⟨c, ?_⟩
      rw [bind_of_error hoption]
      congr 3
      omega
    · rename_i label excess hargument
      obtain ⟨hexcess, q, hq, hoption⟩ := optionalArgument_some
        (start + 1 + (line.takeWhile isCapital).length +
          ((line.dropWhile isCapital).takeWhile isInline).length) hafter hrest hargument
      have hstop : q + excess.length = start + 1 + line.length := by
        rw [hq]
        omega
      rw [bind_of_ok hoption, ← hstop]
      exact finishCommand_facing hexcess hrest

end Rule

/-- What may follow the name on a command line: blanks, or a colon and an argument among blanks. -/
inductive CommandTail : Text → Option Text → Prop where
  | bare {blanks : Text} (hblanks : ∀ c ∈ blanks, isInline c) : CommandTail blanks none
  | labelled {before between token after : Text} (hbefore : ∀ c ∈ before, isInline c)
      (hbetween : ∀ c ∈ between, isInline c) (hne : token ≠ [])
      (htoken : ∀ c ∈ token, ¬ isInline c) (hafter : ∀ c ∈ after, isInline c) :
      CommandTail (before ++ ':' :: (between ++ (token ++ after))) (some token)

inductive CommandLine : Text → Event → Prop where
  | pause {tail : Text} {label : Option Text} (htail : CommandTail tail label) :
      CommandLine ("+PAUSE".toList ++ tail) .pause
  | clear {tail : Text} {label : Option Text} (htail : CommandTail tail label) :
      CommandLine ("+CLEAR".toList ++ tail) .clear
  | input {tail label : Text} (htail : CommandTail tail (some label)) :
      CommandLine ("+INPUT".toList ++ tail) (.input label)

theorem commandLine_iff {line : Text} {e : Event} :
    CommandLine line e ↔ ∃ (command : Command) (tail : Text) (label : Option Text),
      line = '+' :: (command.name ++ tail) ∧ CommandTail tail label ∧
        command.event? label = some e := by
  constructor
  · rintro (htail | htail | htail)
    · exact ⟨.pause, _, _, rfl, htail, rfl⟩
    · exact ⟨.clear, _, _, rfl, htail, rfl⟩
    · exact ⟨.input, _, _, rfl, htail, rfl⟩
  · rintro ⟨command, tail, label, rfl, htail, hevent⟩
    cases command with
    | pause =>
      cases hevent
      exact .pause htail
    | clear =>
      cases hevent
      exact .clear htail
    | input =>
      obtain ⟨l, rfl, rfl⟩ := Option.map_eq_some_iff.mp hevent
      exact .input htail

private theorem takeWhile_eq_nil_of_head {q : Char → Bool} {t : Text}
    (h : ∀ c ∈ t.head?, q c = false) : t.takeWhile q = [] := by
  cases t with
  | nil => rfl
  | cons c t => simp [h c rfl]

private theorem dropWhile_eq_self_of_head {q : Char → Bool} {t : Text}
    (h : ∀ c ∈ t.head?, q c = false) : t.dropWhile q = t := by
  cases t with
  | nil => rfl
  | cons c t => simp [h c rfl]

theorem takeWhile_append_eq_left {q : Char → Bool} {a b : Text} (ha : ∀ c ∈ a, q c)
    (hb : ∀ c ∈ b.head?, q c = false) : (a ++ b).takeWhile q = a := by
  rw [List.takeWhile_append_of_pos ha, takeWhile_eq_nil_of_head hb, List.append_nil]

theorem dropWhile_append_eq_right {q : Char → Bool} {a b : Text} (ha : ∀ c ∈ a, q c)
    (hb : ∀ c ∈ b.head?, q c = false) : (a ++ b).dropWhile q = b := by
  rw [List.dropWhile_append_of_pos ha, dropWhile_eq_self_of_head hb]

private theorem isCapital_of_isInline {c : Char} (h : isInline c) : isCapital c = false := by
  simp only [isInline, Bool.or_eq_true, beq_iff_eq] at h
  rcases h with rfl | rfl <;> decide

theorem isGap_of_isInline {c : Char} (h : isInline c) : isGap c = true := by
  simp [isGap, h]

/-- What can stand where an argument may stand: a colon with nothing but blanks, something else
than a colon, or a colon with an argument and what comes behind it. -/
inductive ArgumentParts : Text → Option (Option Text × Text) → Prop where
  | empty {blanks : Text} (hblanks : ∀ c ∈ blanks, isInline c) : ArgumentParts (':' :: blanks) none
  | absent {t : Text} (ht : t.head? ≠ some ':') : ArgumentParts t (some (none, t))
  | present {between token after excess : Text} (hbetween : ∀ c ∈ between, isInline c)
      (hne : token ≠ []) (htoken : ∀ c ∈ token, isInline c = false)
      (hend : ∀ c ∈ (after ++ excess).head?, isInline c) (hafter : ∀ c ∈ after, isInline c)
      (hexcess : ∀ c ∈ excess.head?, isInline c = false) :
      ArgumentParts (':' :: (between ++ (token ++ (after ++ excess)))) (some (some token, excess))

theorem argumentParts_readArgument? {t : Text} (ht : '\n' ∉ t) :
    ArgumentParts t (readArgument? t) := by
  unfold readArgument?
  by_cases hcolon : t.head? = some ':'
  · obtain ⟨u, rfl⟩ := List.head?_eq_some_iff.mp hcolon
    have hu : '\n' ∉ u := fun h => ht (List.mem_cons_of_mem _ h)
    rw [if_pos hcolon]
    dsimp only [List.tail_cons]
    by_cases htoken : ((u.dropWhile isInline).takeWhile (!isGap ·)).isEmpty
    · rw [if_pos htoken]
      apply ArgumentParts.empty
      exact List.dropWhile_eq_nil_iff.mp (dropWhile_isInline_eq_nil hu (List.isEmpty_iff.mp htoken))
    · rw [if_neg htoken]
      have hsplit : u = u.takeWhile isInline ++ ((u.dropWhile isInline).takeWhile (!isGap ·) ++
          (((u.dropWhile isInline).dropWhile (!isGap ·)).takeWhile isInline ++
            ((u.dropWhile isInline).dropWhile (!isGap ·)).dropWhile isInline)) := by
        simp only [List.takeWhile_append_dropWhile]
      conv => arg 1; rw [hsplit]
      refine .present (fun c => List.mem_takeWhile_imp) (mt List.isEmpty_iff.mpr htoken) ?_ ?_
        (fun c => List.mem_takeWhile_imp) (head?_dropWhile_false _ _)
      · intro c hc
        have hgap := List.mem_takeWhile_imp hc
        by_contra hinline
        simp [isGap_of_isInline (by simpa using hinline)] at hgap
      · -- Only a gap ends the token, and on a line without a newline every gap is a blank.
        rw [List.takeWhile_append_dropWhile]
        intro c hc
        have hgap := head?_dropWhile_false _ _ c hc
        have hmem : c ∈ u :=
          List.dropWhile_subset _ (List.dropWhile_subset _ (List.mem_of_mem_head? hc))
        by_contra hinline
        simp [not_isGap_of_mem hu hmem (by simpa using hinline)] at hgap
  · rw [if_neg hcolon]
    exact .absent hcolon

theorem ArgumentParts.readArgument?_eq {t : Text} {r : Option (Option Text × Text)}
    (h : ArgumentParts t r) (ht : '\n' ∉ t) : readArgument? t = r := by
  cases h with
  | @empty blanks hblanks =>
    unfold readArgument?
    rw [if_pos (List.head?_cons ..)]
    dsimp only [List.tail_cons]
    rw [List.dropWhile_eq_nil_iff.mpr hblanks]
    rfl
  | absent hcolon =>
    unfold readArgument?
    rw [if_neg hcolon]
  | @present between token after excess hbetween hne htoken hend hafter hexcess =>
    have hstart : ∀ c ∈ (token ++ (after ++ excess)).head?, isInline c = false := by
      intro c hc
      obtain ⟨a, token, rfl⟩ := List.exists_cons_of_ne_nil hne
      obtain rfl : a = c := by simpa using hc
      exact htoken a List.mem_cons_self
    have hword : ∀ c ∈ token, (!isGap c) = true := by
      intro c hc
      simp [not_isGap_of_mem ht (by simp [hc]) (htoken c hc)]
    have hstop : ∀ c ∈ (after ++ excess).head?, (!isGap c) = false := by
      intro c hc
      simp [isGap_of_isInline (hend c hc)]
    unfold readArgument?
    rw [if_pos (List.head?_cons ..)]
    dsimp only [List.tail_cons]
    rw [dropWhile_append_eq_right hbetween hstart, takeWhile_append_eq_left hword hstop,
      dropWhile_append_eq_right hword hstop, dropWhile_append_eq_right hafter hexcess,
      if_neg (by simpa using hne)]

namespace CommandTail

/-- The name before a tail is as long as it can be. -/
private theorem isCapital_head {tail : Text} {label : Option Text} (h : CommandTail tail label) :
    ∀ c ∈ tail.head?, isCapital c = false := by
  intro c hc
  cases h with
  | bare hblanks => exact isCapital_of_isInline (hblanks c (List.mem_of_mem_head? hc))
  | @labelled before between token after hbefore =>
    cases before with
    | nil =>
      obtain rfl : ':' = c := by simpa using hc
      decide
    | cons b before =>
      obtain rfl : b = c := by simpa using hc
      exact isCapital_of_isInline (hbefore b List.mem_cons_self)

theorem readArgument?_eq {tail : Text} {label : Option Text} (h : CommandTail tail label)
    (hline : '\n' ∉ tail) : readArgument? (tail.dropWhile isInline) = some (label, []) := by
  cases h with
  | bare hblanks =>
    rw [List.dropWhile_eq_nil_iff.mpr hblanks]
    rfl
  | @labelled before between token after hbefore hbetween hne htoken hafter =>
    have hparts : ArgumentParts (':' :: (between ++ (token ++ (after ++ [])))) _ :=
      .present hbetween hne (fun c hc => by simpa using htoken c hc)
        (fun c hc => hafter c (by simpa using List.mem_of_mem_head? hc)) hafter (by simp)
    rw [List.append_nil] at hparts
    rw [dropWhile_append_eq_right hbefore (by simp; decide)]
    exact hparts.readArgument?_eq fun h => hline (List.mem_append_right _ h)

/-- A tail of which nothing is left. -/
private theorem of_readArgument? {tail : Text} {label : Option Text} (hline : '\n' ∉ tail)
    (h : readArgument? (tail.dropWhile isInline) = some (label, [])) : CommandTail tail label := by
  have hblanks : ∀ c ∈ tail.takeWhile isInline, isInline c := fun c => List.mem_takeWhile_imp
  have htail := List.takeWhile_append_dropWhile (p := isInline) (l := tail)
  have hparts := argumentParts_readArgument? fun hmem => hline (List.dropWhile_subset isInline hmem)
  rw [h] at hparts
  generalize tail.dropWhile isInline = rest at hparts htail
  cases hparts with
  | absent =>
    rw [← htail, List.append_nil]
    exact .bare hblanks
  | present hbetween hne htoken _ hafter =>
    rw [← htail, List.append_nil]
    exact .labelled hblanks hbetween hne (fun c hc => by simp [htoken c hc]) hafter

end CommandTail

theorem readArgument?_suffix {t excess : Text} {label : Option Text}
    (h : readArgument? t = some (label, excess)) : excess <:+ t := by
  unfold readArgument? at h
  split at h
  · dsimp only at h
    split at h
    · cases h
    · cases h
      exact (List.dropWhile_suffix _).trans <| (List.dropWhile_suffix _).trans <|
        (List.dropWhile_suffix _).trans (List.tail_suffix t)
  · cases h
    exact List.suffix_refl t

theorem Command.ofName?_name (command : Command) : Command.ofName? command.name = some command := by
  cases command <;> decide

theorem Command.name_of_ofName? {name : Text} {command : Command}
    (h : Command.ofName? name = some command) : command.name = name := by
  have := List.find?_some h
  simpa using this

private theorem Command.isCapital_name (command : Command) : ∀ c ∈ command.name, isCapital c := by
  have hall : command.name.all isCapital := by cases command <;> decide
  exact List.all_eq_true.mp hall

theorem Command.ne_nil_name (command : Command) : command.name ≠ [] := by
  cases command <;> decide

theorem judge_eq_ok_iff {start stop : Nat} {name excess : Text} {label : Option Text} {e : Event} :
    judge start stop name label excess = .ok e ↔
      ∃ command : Command, command.name = name ∧ command.event? label = some e ∧ excess = [] := by
  constructor
  · intro h
    unfold judge at h
    split at h
    · cases h
    · rename_i command hname
      split at h
      · cases h
      · rename_i event hevent
        split at h
        · rename_i hexcess
          cases h
          exact ⟨command, Command.name_of_ofName? hname, hevent, List.isEmpty_iff.mp hexcess⟩
        · cases h
  · rintro ⟨command, rfl, hevent, rfl⟩
    simp [judge, Command.ofName?_name, hevent]

/-- The command lines are exactly the lines of the grammar. -/
theorem commandAt_eq_ok_iff {start : Nat} {line : Text} {e : Event} (hline : '\n' ∉ line) :
    commandAt start line = .ok e ↔ CommandLine ('+' :: line) e := by
  rw [commandLine_iff]
  constructor
  · intro h
    unfold commandAt at h
    dsimp only at h
    split at h
    · cases h
    · split at h
      · cases h
      · rename_i label excess hargument
        obtain ⟨command, hname, hevent, rfl⟩ := judge_eq_ok_iff.mp h
        have htail : '\n' ∉ line.dropWhile isCapital := fun h => hline (List.dropWhile_subset _ h)
        refine ⟨command, line.dropWhile isCapital, label, ?_, .of_readArgument? htail hargument,
          hevent⟩
        rw [hname, List.takeWhile_append_dropWhile]
  · rintro ⟨command, tail, label, hline', htail, hevent⟩
    obtain rfl : line = command.name ++ tail := (List.cons.inj hline').2
    have htail' : '\n' ∉ tail := fun h => hline (List.mem_append_right _ h)
    unfold commandAt
    rw [takeWhile_append_eq_left command.isCapital_name htail.isCapital_head,
      dropWhile_append_eq_right command.isCapital_name htail.isCapital_head,
      htail.readArgument?_eq htail']
    simpa [command.ne_nil_name] using judge_eq_ok_iff.mpr ⟨command, rfl, hevent, rfl⟩

/-- A fault that lies on the text from one offset to another. -/
def Fault.Within (fault : Fault) (start stop : Nat) : Prop :=
  fault.cause ≠ .pastEnd ∧ start ≤ fault.position ∧ fault.position ≤ stop

private theorem judge_fault {start stop : Nat} {name excess : Text} {label : Option Text}
    {fault : Fault} (hexcess : start + excess.length ≤ stop)
    (h : judge start stop name label excess = .error fault) : fault.Within start stop := by
  unfold judge at h
  split at h
  · cases h
    exact ⟨by simp, by simp, by simp; omega⟩
  · split at h
    · cases h
      exact ⟨by simp, by simp, by simp; omega⟩
    · split at h
      · cases h
      · cases h
        refine ⟨by simp, ?_, ?_⟩ <;> simp only <;> omega

/-- The fault of a command line lies on the line, from its plus sign to its end. -/
theorem commandAt_fault {start : Nat} {line : Text} {fault : Fault}
    (h : commandAt start line = .error fault) : fault.Within start (start + 1 + line.length) := by
  unfold commandAt at h
  dsimp only at h
  split at h
  · cases h
    refine ⟨by simp, ?_, ?_⟩ <;> simp only <;> omega
  · split at h
    · cases h
      refine ⟨by simp, ?_, ?_⟩ <;> simp only <;> omega
    · rename_i label excess hargument
      have hexcess : excess.length ≤ line.length :=
        ((readArgument?_suffix hargument).trans <| (List.dropWhile_suffix _).trans
          (List.dropWhile_suffix _)).length_le
      exact judge_fault (by omega) h

end StoryPlayer
