import StoryPlayer.Text.Basic

/-!
# References in values

A value may refer to a variable by its name in braces after a dollar sign, with a default after a
colon and a hyphen.
-/

namespace StoryPlayer

structure Reference where
  name : Text
  fallback : Option Text
deriving Repr, DecidableEq

/-- The reference at the start of the text, and what comes after it. -/
def readReference? : Text → Option (Reference × Text)
  | '$' :: '\x7b' :: t =>
    let inName (c : Char) : Bool := c != '\x7d' && c != ':'
    let name := t.takeWhile inName
    match t.dropWhile inName with
    | '\x7d' :: rest => some (⟨name, none⟩, rest)
    | ':' :: '-' :: t =>
      let fallback := t.takeWhile (· != '\x7d')
      match t.dropWhile (· != '\x7d') with
      | _ :: rest => some (⟨name, some fallback⟩, rest)
      | [] => none
    | _ => none
  | _ => none

theorem readReference?_shorter {t rest : Text} {reference : Reference}
    (h : readReference? t = some (reference, rest)) : rest.length < t.length := by
  rw [readReference?.eq_def] at h
  split at h
  · rename_i u
    have hname := (List.dropWhile_suffix (fun c => c != '\x7d' && c != ':') (l := u)).length_le
    dsimp only at h
    split at h
    · rename_i left hleft
      cases h
      rw [hleft] at hname
      simp only [List.length_cons] at hname ⊢
      omega
    · rename_i v hv
      have hfallback := (List.dropWhile_suffix (fun c => c != '\x7d') (l := v)).length_le
      rw [hv] at hname
      split at h
      · rename_i c left hleft
        cases h
        rw [hleft] at hfallback
        simp only [List.length_cons] at hname hfallback ⊢
        omega
      · cases h
    · cases h
  · cases h

/-- The text with each reference replaced by its value. -/
def interpolate (value : Reference → Text) : Text → Text
  | [] => []
  | c :: t =>
    match _h : readReference? (c :: t) with
    | some (reference, rest) => value reference ++ interpolate value rest
    | none => c :: interpolate value t
termination_by t => t.length
decreasing_by
  · exact readReference?_shorter _h
  · simp

/-- The references in a text. -/
def references : Text → List Reference
  | [] => []
  | c :: t =>
    match _h : readReference? (c :: t) with
    | some (reference, rest) => reference :: references rest
    | none => references t
termination_by t => t.length
decreasing_by
  · exact readReference?_shorter _h
  · simp

end StoryPlayer
