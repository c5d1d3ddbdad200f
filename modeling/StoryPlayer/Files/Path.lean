import StoryPlayer.Text.Basic

/-!
# Paths

A path is a root and the names on the way from it. Slashes in a row count as one, and names that
are a single dot mean nothing. Two dots stay, since what they mean depends on the files.
-/

namespace StoryPlayer

/-- A path starts at the working directory, at the root, or at what two slashes stand for. -/
inductive PathRoot where
  | relative
  | root
  | doubleRoot
deriving Repr, DecidableEq

def PathRoot.text : PathRoot → Text
  | relative => []
  | root => ['/']
  | doubleRoot => ['/', '/']

structure Path where
  root : PathRoot
  names : List Text
deriving Repr, DecidableEq

namespace Path

/-- Two slashes at the start are a root of their own, one or more than two are the root. -/
def rootOf (t : Text) : PathRoot :=
  match (t.takeWhile (· == '/')).length with
  | 0 => .relative
  | 2 => .doubleRoot
  | _ => .root

def parse (t : Text) : Path :=
  ⟨rootOf t, (t.split '/').filter fun name => !name.isEmpty && name != ['.']⟩

def render (path : Path) : Text :=
  if path.root = .relative ∧ path.names = [] then ['.']
  else path.root.text ++ Text.join '/' path.names

/-- Follows a second path from the place of the first. -/
def append (path next : Path) : Path :=
  if next.root = .relative then ⟨path.root, path.names ++ next.names⟩ else next

/-- Takes two dots as one step back, as long as there is a name to step back over. -/
def collapse (path : Path) : Path :=
  ⟨path.root, (path.names.foldl stepBack []).reverse⟩
where
  stepBack (back : List Text) (name : Text) : List Text :=
    if name = ['.', '.'] then
      match back with
      | [] => if path.root = .relative then [name] else []
      | last :: rest => if last = ['.', '.'] then name :: back else rest
    else name :: back

end Path
end StoryPlayer
