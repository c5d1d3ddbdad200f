import StoryPlayer.Text.Basic
import StoryPlayer.Text.Blank

/-!
# Filling lines

Chunks are put on lines as long as they fit. Only a chunk that is longer than a whole line is cut,
at the room that is left or after the last hyphen within it. Blank chunks at the ends of lines are
dropped, but for the first line, which may start with one.
-/

namespace StoryPlayer

/-- A line holds at least one character. -/
abbrev Width := { n : Nat // 0 < n }

/-- Nothing but blanks. -/
def allBlank (chunk : Text) : Bool := chunk.all isBlank

/-- The chunks that fit into the room, and the others. -/
def takeFitting (room : Nat) : List Text → List Text × List Text
  | [] => ([], [])
  | chunk :: chunks =>
    if chunk.length ≤ room then
      let (taken, left) := takeFitting (room - chunk.length) chunks
      (chunk :: taken, left)
    else ([], chunk :: chunks)

/-- Where to cut a chunk that is longer than the room: after the last hyphen in the room if
something other than hyphens stands before it, and otherwise where the room ends. -/
def cutPoint (room : Nat) (chunk : Text) : Nat :=
  let hyphenated := ((chunk.take room).reverse.dropWhile (· != '-')).reverse
  if hyphenated.dropLast.any (· != '-') then hyphenated.length else room

/-- Puts the start of an overlong chunk on the line that holds `taken`. -/
def cutOverlong (width : Nat) (taken left : List Text) : List Text × List Text :=
  match left with
  | chunk :: chunks =>
    if width < chunk.length then
      let cut := cutPoint (width - taken.flatten.length) chunk
      (taken ++ [chunk.take cut], chunk.drop cut :: chunks)
    else (taken, left)
  | [] => (taken, left)

/-- A line loses its last chunk if that is blank. -/
def dropBlankEnd (line : List Text) : List Text :=
  if line.getLast?.any allBlank then line.dropLast else line

/-- Any line but the first loses its first chunk if that is blank. -/
def dropBlankStart (first : Bool) : List Text → List Text
  | [] => []
  | chunk :: chunks => if !first && allBlank chunk then chunks else chunk :: chunks

/-- The chunks of the next line, and those that are left. -/
def nextLine (width : Nat) (first : Bool) (chunks : List Text) : List Text × List Text :=
  let (taken, left) := takeFitting width (dropBlankStart first chunks)
  let (line, left) := cutOverlong width taken left
  (dropBlankEnd line, left)

/-- What is still to be put on lines: each chunk counts one and its characters. -/
def chunkWeight : List Text → Nat
  | [] => 0
  | chunk :: chunks => chunk.length + 1 + chunkWeight chunks

theorem takeFitting_weight (room : Nat) (chunks : List Text) :
    chunkWeight (takeFitting room chunks).2 + (takeFitting room chunks).1.length ≤
      chunkWeight chunks := by
  induction chunks generalizing room with
  | nil => simp [takeFitting, chunkWeight]
  | cons chunk chunks ih =>
    rw [takeFitting]
    split
    · have := ih (room - chunk.length)
      simp only [chunkWeight, List.length_cons] at this ⊢
      omega
    · simp

theorem takeFitting_append (room : Nat) (chunks : List Text) :
    (takeFitting room chunks).1 ++ (takeFitting room chunks).2 = chunks := by
  induction chunks generalizing room with
  | nil => rfl
  | cons chunk chunks ih =>
    rw [takeFitting]
    split
    · simp [ih (room - chunk.length)]
    · rfl

theorem cutPoint_pos {room : Nat} (hroom : 0 < room) (chunk : Text) : 0 < cutPoint room chunk := by
  rw [cutPoint]
  split
  · rename_i h
    rw [List.length_pos_iff]
    intro hnil
    rw [hnil] at h
    simp at h
  · exact hroom

theorem cutOverlong_weight {width : Nat} (hwidth : 0 < width) (taken left : List Text) :
    chunkWeight (cutOverlong width taken left).2 ≤ chunkWeight left ∧
      (taken = [] → (∀ chunk ∈ left.head?, width < chunk.length) → left ≠ [] →
        chunkWeight (cutOverlong width taken left).2 < chunkWeight left) := by
  cases left with
  | nil => simp [cutOverlong]
  | cons chunk chunks =>
    rw [cutOverlong]
    split
    · rename_i hlong
      simp only [chunkWeight, List.length_drop]
      constructor
      · omega
      · rintro rfl - -
        have := cutPoint_pos hwidth chunk
        simp only [List.flatten_nil, List.length_nil, Nat.sub_zero]
        omega
    · rename_i hlong
      refine ⟨Nat.le_refl _, fun _ h _ => ?_⟩
      exact absurd (h chunk rfl) hlong

theorem takeFitting_fst_eq_nil {room : Nat} {chunks : List Text}
    (h : (takeFitting room chunks).1 = []) : ∀ chunk ∈ chunks.head?, room < chunk.length := by
  cases chunks with
  | nil => simp
  | cons chunk chunks =>
    rw [takeFitting] at h
    split at h
    · simp at h
    · rename_i hlong
      simpa using hlong

/-- Each line uses something up. -/
theorem nextLine_weight {width : Nat} (hwidth : 0 < width) (first : Bool) {chunks : List Text}
    (h : chunks ≠ []) : chunkWeight (nextLine width first chunks).2 < chunkWeight chunks := by
  obtain ⟨chunk, more, rfl⟩ := List.exists_cons_of_ne_nil h
  have hstart : dropBlankStart first (chunk :: more) = more ∨
      dropBlankStart first (chunk :: more) = chunk :: more := by
    rw [dropBlankStart]
    split <;> simp
  simp only [nextLine]
  rcases hstart with hs | hs <;> rw [hs]
  · have hcut := (cutOverlong_weight hwidth (takeFitting width more).1 (takeFitting width more).2).1
    have hfit := takeFitting_weight width more
    have : chunkWeight more < chunkWeight (chunk :: more) := by
      rw [chunkWeight]
      omega
    omega
  · obtain ⟨hle, hlt⟩ := cutOverlong_weight hwidth (takeFitting width (chunk :: more)).1
      (takeFitting width (chunk :: more)).2
    have hfit := takeFitting_weight width (chunk :: more)
    match htaken : (takeFitting width (chunk :: more)).1 with
    | [] =>
      have happ := takeFitting_append width (chunk :: more)
      rw [htaken, List.nil_append] at happ
      have hlong := takeFitting_fst_eq_nil htaken
      have := hlt htaken (by rw [happ]; exact hlong) (by rw [happ]; simp)
      rw [htaken] at this
      omega
    | t :: ts =>
      rw [htaken] at hfit hle
      simp only [List.length_cons] at hfit
      omega

/-- The lines that the chunks fill; `first` tells whether no line is made yet. -/
def fillLines (width : Width) (first : Bool) : List Text → List Text
  | [] => []
  | chunk :: chunks =>
    let filled := nextLine width.1 first (chunk :: chunks)
    if filled.1.isEmpty then fillLines width first filled.2
    else filled.1.flatten :: fillLines width false filled.2
termination_by chunks => chunkWeight chunks
decreasing_by all_goals exact nextLine_weight width.2 first (List.cons_ne_nil _ _)

end StoryPlayer
