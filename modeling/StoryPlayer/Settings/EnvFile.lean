import StoryPlayer.Text.Basic
import StoryPlayer.Text.Blank

/-!
# Environment files

An environment file binds names to values, one statement after the other. A value is plain, and
then ends with its line, or quoted, and then may span lines. A statement that cannot be read is
skipped up to the end of the line where reading stopped.
-/

namespace StoryPlayer

/-- What a statement of an environment file says. -/
inductive Statement where
  /-- Blank lines or a comment. -/
  | nothing
  /-- A name with its value, or a name without an equals sign. -/
  | binding (name : Text) (value : Option Text)
  | malformed
deriving Repr, DecidableEq

namespace EnvFile

/-- Line ends of all kinds as line feeds, without the byte order mark at the start. -/
def normalize (content : Text) : Text :=
  Text.lineFeeds (match content with
    | '\uFEFF' :: rest => rest
    | content => content)

def skipBlanks (t : Text) : Text := t.dropWhile isInlineBlank

/-- Drops the word `export` if blanks follow it. -/
def skipExport (t : Text) : Text :=
  if "export".toList.isPrefixOf t then
    let rest := t.drop 6
    if rest.head?.any isInlineBlank then skipBlanks rest else t
  else t

/-- A name: a quoted one is not empty, a plain one holds no equals sign, number sign or blank. -/
def readName? (t : Text) : Option (Text × Text) :=
  match t with
  | '\'' :: rest =>
    let name := rest.takeWhile (· != '\'')
    match rest.dropWhile (· != '\'') with
    | _ :: after => if name.isEmpty then none else some (name, after)
    | [] => none
  | _ =>
    let inName (c : Char) : Bool := !(c == '=' || c == '#' || isBlank c)
    let name := t.takeWhile inName
    if name.isEmpty then none else some (name, t.dropWhile inName)

/-- The text up to the closing quote mark, and what comes after it. A backslash shields the
character after it, and stays. -/
def untilQuote? (mark : Char) : Text → Option (Text × Text)
  | [] => none
  | ['\\'] => none
  | '\\' :: c :: rest =>
    (untilQuote? mark rest).map fun (value, after) => ('\\' :: c :: value, after)
  | c :: rest =>
    if c = mark then some ([], rest)
    else (untilQuote? mark rest).map fun (value, after) => (c :: value, after)

/-- What a backslash and a character stand for between single quotes. -/
def singleEscape? (c : Char) : Option Char :=
  if c = '\\' ∨ c = '\'' then some c else none

/-- What a backslash and a character stand for between double quotes. -/
def doubleEscape? : Char → Option Char
  | '\\' => some '\\'
  | '\'' => some '\''
  | '"' => some '"'
  | 'a' => some '\x07'
  | 'b' => some '\x08'
  | 'f' => some '\x0c'
  | 'n' => some '\n'
  | 'r' => some '\r'
  | 't' => some '\t'
  | 'v' => some '\x0b'
  | _ => none

/-- Replaces the escapes; a backslash before any other character stays. -/
def unescape (escape? : Char → Option Char) : Text → Text
  | [] => []
  | [c] => [c]
  | c :: d :: rest =>
    if c = '\\' then
      match escape? d with
      | some e => e :: unescape escape? rest
      | none => c :: unescape escape? (d :: rest)
    else c :: unescape escape? (d :: rest)

/-- Cuts a plain value where a number sign follows a blank. -/
def cutComment : Text → Text
  | [] => []
  | [c] => [c]
  | c :: d :: rest => if isBlank c && d == '#' then [c] else c :: cutComment (d :: rest)

def readPlain (t : Text) : Text × Text :=
  ((cutComment (t.takeWhile (!isLineEnd ·))).trimEnd isBlank, t.dropWhile (!isLineEnd ·))

/-- The value after an equals sign and the blanks after that. -/
def readValue? (afterBlanks : Bool) (t : Text) : Option (Text × Text) :=
  match t with
  | '\'' :: rest => (untilQuote? '\'' rest).map fun (value, after) =>
      (unescape singleEscape? value, after)
  | '"' :: rest => (untilQuote? '"' rest).map fun (value, after) =>
      (unescape doubleEscape? value, after)
  | '#' :: _ => if afterBlanks then some ([], t) else some (readPlain t)
  | _ => some (readPlain t)

/-- Drops a comment and the blanks before it. -/
def skipComment (t : Text) : Text :=
  match skipBlanks t with
  | '#' :: rest => rest.dropWhile (!isLineEnd ·)
  | _ => t

/-- Drops the blanks before a line end and the line end, if one is there. -/
def skipLineEnd? (t : Text) : Option Text :=
  match skipBlanks t with
  | [] => some []
  | c :: rest => if isLineEnd c then some rest else none

/-- Drops the rest of the line. -/
def skipLine (t : Text) : Text := (t.dropWhile (!isLineEnd ·)).drop 1

/-- What follows a name: the value and the rest, or the place where reading stopped. -/
def readAssignment (t : Text) : Except Text (Option Text × Text) :=
  match t with
  | '=' :: rest =>
    let value := skipBlanks rest
    match readValue? (rest.head?.any isInlineBlank) value with
    | some (value, after) => .ok (some value, after)
    | none => .error value
  | _ => .ok (none, t)

/-- The end of a statement. -/
def finishStatement (statement : Statement) (t : Text) : Statement × Text :=
  let after := skipComment t
  match skipLineEnd? after with
  | some rest => (statement, rest)
  | none => (.malformed, skipLine after)

/-- One statement and the rest of the file. -/
def readStatement (t : Text) : Statement × Text :=
  match t.dropWhile isBlank with
  | [] => (.nothing, [])
  | start =>
    let t := skipExport start
    if t.head? = some '#' then finishStatement .nothing t
    else match readName? t with
      | none => (.malformed, skipLine t)
      | some (name, after) =>
        match readAssignment (skipBlanks after) with
        | .error stop => (.malformed, skipLine stop)
        | .ok (value, after) => finishStatement (.binding name value) after

theorem length_dropWhile_le (p : Char → Bool) (t : Text) : (t.dropWhile p).length ≤ t.length :=
  (List.dropWhile_suffix p).length_le

theorem length_skipExport_le (t : Text) : (skipExport t).length ≤ t.length := by
  rw [skipExport]
  split
  · dsimp only
    split
    · have := length_dropWhile_le isInlineBlank (t.drop 6)
      simp only [skipBlanks, List.length_drop] at this ⊢
      omega
    · exact Nat.le_refl _
  · exact Nat.le_refl _

theorem length_lt_of_takeWhile {p : Char → Bool} {t : Text} (h : (t.takeWhile p).isEmpty = false) :
    (t.dropWhile p).length < t.length := by
  have hsum := congrArg List.length (List.takeWhile_append_dropWhile (p := p) (l := t))
  have hpos : 0 < (t.takeWhile p).length := by
    rw [List.length_pos_iff]
    intro hnil
    simp [hnil] at h
  rw [List.length_append] at hsum
  omega

theorem readName?_shorter {t name after : Text} (h : readName? t = some (name, after)) :
    after.length < t.length := by
  rw [readName?.eq_def] at h
  split at h
  · rename_i rest
    split at h
    · rename_i c left hleft
      dsimp only at h
      split at h
      · cases h
      · cases h
        have := length_dropWhile_le (· != '\'') rest
        rw [hleft] at this
        simp only [List.length_cons] at this ⊢
        omega
    · cases h
  · dsimp only at h
    split at h
    · cases h
    · rename_i hname
      cases h
      exact length_lt_of_takeWhile (by simpa using hname)

theorem untilQuote?_shorter {mark : Char} {t value after : Text}
    (h : untilQuote? mark t = some (value, after)) : after.length < t.length := by
  fun_induction untilQuote? mark t generalizing value with
  | case1 => cases h
  | case2 => cases h
  | case3 c rest ih =>
    obtain ⟨⟨inner, left⟩, hrest, heq⟩ := Option.map_eq_some_iff.1 h
    cases heq
    have := ih hrest
    simp only [List.length_cons]
    omega
  | case4 rest =>
    cases h
    simp
  | case5 c rest _ _ _ ih =>
    obtain ⟨⟨inner, left⟩, hrest, heq⟩ := Option.map_eq_some_iff.1 h
    cases heq
    have := ih hrest
    simp only [List.length_cons]
    omega

theorem readValue?_le {afterBlanks : Bool} {t value after : Text}
    (h : readValue? afterBlanks t = some (value, after)) : after.length ≤ t.length := by
  have hplain := length_dropWhile_le (!isLineEnd ·) t
  rw [readValue?.eq_def] at h
  split at h
  · obtain ⟨⟨inner, left⟩, hrest, heq⟩ := Option.map_eq_some_iff.1 h
    cases heq
    have := untilQuote?_shorter hrest
    simp only [List.length_cons]
    omega
  · obtain ⟨⟨inner, left⟩, hrest, heq⟩ := Option.map_eq_some_iff.1 h
    cases heq
    have := untilQuote?_shorter hrest
    simp only [List.length_cons]
    omega
  · split at h
    · cases h
      exact Nat.le_refl _
    · cases h
      exact hplain
  · cases h
    exact hplain

theorem readAssignment_le (t : Text) :
    (∀ value after, readAssignment t = .ok (value, after) → after.length ≤ t.length) ∧
      ∀ stop, readAssignment t = .error stop → stop.length ≤ t.length := by
  rw [readAssignment.eq_def]
  split
  · rename_i rest
    have hblanks := length_dropWhile_le isInlineBlank rest
    dsimp only
    split
    · rename_i inner after hvalue
      have hle := readValue?_le hvalue
      refine ⟨fun value left h => ?_, fun stop h => nomatch h⟩
      cases h
      simp only [skipBlanks, List.length_cons] at hle ⊢
      omega
    · refine ⟨fun value left h => (nomatch h), fun stop h => ?_⟩
      cases h
      simp only [skipBlanks, List.length_cons]
      omega
  · refine ⟨fun value left h => ?_, fun stop h => nomatch h⟩
    cases h
    exact Nat.le_refl _

theorem length_skipComment_le (t : Text) : (skipComment t).length ≤ t.length := by
  have hblanks := length_dropWhile_le isInlineBlank t
  rw [skipComment]
  split
  · rename_i rest h
    have hrest := length_dropWhile_le (!isLineEnd ·) rest
    rw [skipBlanks] at h
    rw [h, List.length_cons] at hblanks
    omega
  · exact Nat.le_refl _

theorem skipComment_shorter {t : Text} (h : t.head? = some '#') :
    (skipComment t).length < t.length := by
  obtain ⟨c, rest, rfl⟩ := List.exists_cons_of_ne_nil (l := t) (by rintro rfl; simp at h)
  have hc : c = '#' := by simpa using h
  subst hc
  have hblank : isInlineBlank '#' = false := by decide
  have hrest := length_dropWhile_le (!isLineEnd ·) rest
  simp only [skipComment, skipBlanks, List.dropWhile_cons, hblank, Bool.false_eq_true, ite_false,
    List.length_cons]
  omega

theorem skipLineEnd?_le {t rest : Text} (h : skipLineEnd? t = some rest) :
    rest.length ≤ t.length := by
  have hblanks := length_dropWhile_le isInlineBlank t
  rw [skipLineEnd?] at h
  split at h
  · cases h
    exact Nat.zero_le _
  · rename_i c left hleft
    rw [skipBlanks] at hleft
    split at h
    · cases h
      rw [hleft, List.length_cons] at hblanks
      omega
    · cases h

theorem length_skipLine_le (t : Text) : (skipLine t).length ≤ t.length - 1 := by
  have := length_dropWhile_le (!isLineEnd ·) t
  simp only [skipLine, List.length_drop]
  omega

theorem finishStatement_le (statement : Statement) (t : Text) :
    (finishStatement statement t).2.length ≤ (skipComment t).length := by
  rw [finishStatement]
  split
  · rename_i rest h
    exact skipLineEnd?_le h
  · exact Nat.le_trans (length_skipLine_le _) (Nat.sub_le _ _)

/-- Each statement uses something up. -/
theorem readStatement_shorter {t : Text} (ht : t ≠ []) :
    (readStatement t).2.length < t.length := by
  have hpos := List.length_pos_iff.2 ht
  have hstart := length_dropWhile_le isBlank t
  rw [readStatement]
  split
  · exact hpos
  · rename_i hne
    have hstartPos : 0 < (t.dropWhile isBlank).length := List.length_pos_iff.2 hne
    have hexport := length_skipExport_le (t.dropWhile isBlank)
    generalize skipExport (t.dropWhile isBlank) = u at hexport
    dsimp only
    split
    · rename_i hhash
      have := finishStatement_le .nothing u
      have := skipComment_shorter hhash
      omega
    · split
      · have := length_skipLine_le u
        dsimp only
        omega
      · rename_i name after hname
        have hafter := readName?_shorter hname
        have hblanks := length_dropWhile_le isInlineBlank after
        obtain ⟨hok, herror⟩ := readAssignment_le (skipBlanks after)
        rw [skipBlanks] at hok herror
        rw [skipBlanks]
        split
        · rename_i stop hstop
          have := herror stop hstop
          have := length_skipLine_le stop
          dsimp only
          omega
        · rename_i value left hleft
          have := hok value left hleft
          have := finishStatement_le (.binding name value) left
          have := length_skipComment_le left
          omega

/-- The statements of a file, each with the line where the blanks before it begin. -/
def statements (line : Nat) : Text → List (Nat × Statement)
  | [] => []
  | c :: t =>
    let read := readStatement (c :: t)
    (line, read.1) :: statements (line + ((c :: t).count '\n' - read.2.count '\n')) read.2
termination_by t => t.length
decreasing_by exact readStatement_shorter (List.cons_ne_nil _ _)

/-- The statements of a file with the given content. -/
def parse (content : Text) : List (Nat × Statement) := statements 1 (normalize content)

end EnvFile
end StoryPlayer
