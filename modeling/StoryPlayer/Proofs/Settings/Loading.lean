import StoryPlayer.Proofs.OrderedMap
import StoryPlayer.Settings.Load

/-!
# What an environment file adds

A file adds variables to an environment and changes none that is set. The values of a file depend on
the environment, by their references, but the names that it gives values to do not. So all of them
are set after the file is loaded, and loading it again finds nothing to do.
-/

namespace StoryPlayer

open OrderedMap

namespace Environment

/-- Sets a variable for an entry with a value, unless it is set. -/
def add (env : Environment) (entry : Text × Option Text) : Environment :=
  match entry.2 with
  | none => env
  | some value => if env.contains entry.1 then env else env.insert entry.1 value

private theorem add_of_contains {env : Environment} {entry : Text × Option Text}
    (h : env.contains entry.1) : env.add entry = env := by
  obtain ⟨name, _ | value⟩ := entry
  · rfl
  · exact if_pos h

private theorem add_of_new {env : Environment} {name : Text} (h : env.contains name = false)
    (value : Text) : env.add (name, some value) = env.insert name value :=
  if_neg (by simp [h])

theorem extend_eq_foldl {env extended : Environment} {entries : List (Text × Option Text)}
    (h : env.extend entries = .ok extended) : extended = entries.foldl add env := by
  induction entries generalizing env with
  | nil =>
    cases h
    rfl
  | cons entry entries ih =>
    obtain ⟨name, value⟩ := entry
    rw [List.foldl_cons]
    cases value with
    | none => exact ih h
    | some value =>
      rw [extend] at h
      by_cases hname : env.contains name
      · rw [if_pos hname] at h
        rw [add_of_contains hname]
        exact ih h
      · rw [if_neg hname] at h
        rw [add_of_new (by simpa using hname)]
        cases hset : env.set name value with
        | error error =>
          rw [hset] at h
          cases h
        | ok env' =>
          have henv : env' = env.insert name value := by
            unfold set at hset
            split at hset
            · cases hset
            · split at hset
              · cases hset
              · cases hset
                rfl
          rw [hset, henv] at h
          exact ih h

/-- An environment in which every entry with a value is set has nothing to gain. -/
private theorem extend_of_contains {env : Environment} {entries : List (Text × Option Text)}
    (h : ∀ entry ∈ entries, entry.2.isSome → env.contains entry.1) :
    env.extend entries = .ok env := by
  induction entries with
  | nil => rfl
  | cons entry entries ih =>
    obtain ⟨name, value⟩ := entry
    have ih := ih fun entry hentry => h entry (List.mem_cons_of_mem _ hentry)
    cases value with
    | none => exact ih
    | some value =>
      have hname := h (name, some value) List.mem_cons_self rfl
      rw [extend, if_pos hname]
      exact ih

private theorem prefix_add (env : Environment) (entry : Text × Option Text) :
    env.entries <+: (env.add entry).entries := by
  obtain ⟨name, _ | value⟩ := entry
  · exact List.prefix_rfl
  · by_cases hname : env.contains name
    · exact ⟨[], by rw [List.append_nil, add_of_contains hname]⟩
    · rw [add_of_new (by simpa using hname), entries_insert_of_new (by simpa using hname)]
      exact List.prefix_append _ _

theorem prefix_foldl_add (env : Environment) (entries : List (Text × Option Text)) :
    env.entries <+: (entries.foldl add env).entries := by
  induction entries generalizing env with
  | nil => exact List.prefix_rfl
  | cons entry entries ih => exact (env.prefix_add entry).trans (ih _)

private theorem contains_of_extends {env more : Environment} (h : env.entries <+: more.entries)
    {name : Text} (hname : env.contains name) : more.contains name := by
  rw [contains_iff] at hname ⊢
  exact (h.map Prod.fst).subset hname

private theorem contains_add {env : Environment} {entry : Text × Option Text} (h : entry.2.isSome) :
    (env.add entry).contains entry.1 := by
  obtain ⟨name, _ | value⟩ := entry
  · cases h
  · by_cases hname : env.contains name
    · rw [add_of_contains hname]
      exact hname
    · rw [add_of_new (by simpa using hname), contains_iff, keys,
        entries_insert_of_new (by simpa using hname)]
      simp

/-- Every entry with a value is set in the end. -/
private theorem contains_foldl_add (env : Environment) {entries : List (Text × Option Text)}
    {entry : Text × Option Text} (hentry : entry ∈ entries) (h : entry.2.isSome) :
    (entries.foldl add env).contains entry.1 := by
  induction entries generalizing env with
  | nil => cases hentry
  | cons first entries ih =>
    rcases List.mem_cons.mp hentry with rfl | hentry
    · exact contains_of_extends (prefix_foldl_add _ entries) (contains_add h)
    · exact ih (env.add first) hentry

private theorem find?_add_of_ne (env : Environment) {entry : Text × Option Text} {name : Text}
    (h : name ≠ entry.1) : (env.add entry).find? name = env.find? name := by
  obtain ⟨other, _ | value⟩ := entry
  · rfl
  · by_cases hother : env.contains other
    · rw [add_of_contains hother]
    · rw [add_of_new (by simpa using hother), find?_insert_of_ne env value h]

private theorem find?_add_self {env : Environment} {name : Text} (h : env.find? name = none)
    (value : Option Text) : (env.add (name, value)).find? name = value := by
  cases value with
  | none => exact h
  | some value =>
    rw [add_of_new (contains_eq_false_iff.mpr (find?_eq_none_iff.mp h)), find?_insert_self]

theorem find?_of_extends {env more : Environment} (h : env.entries <+: more.entries)
    {name value : Text} (hname : env.find? name = some value) : more.find? name = some value := by
  obtain ⟨rest, hrest⟩ := h
  rw [OrderedMap.find?] at hname ⊢
  obtain ⟨entry, hentry, rfl⟩ := Option.map_eq_some_iff.mp hname
  rw [← hrest, List.find?_append, hentry]
  rfl

private theorem find?_foldl_add_of_notMem (env : Environment) {entries : List (Text × Option Text)}
    {name : Text} (h : name ∉ entries.map (·.1)) :
    (entries.foldl add env).find? name = env.find? name := by
  induction entries generalizing env with
  | nil => rfl
  | cons entry entries ih =>
    rw [List.map_cons, List.mem_cons, not_or] at h
    rw [List.foldl_cons, ih _ h.2, find?_add_of_ne env h.1]

/-- A variable that is not set gets the value that the bindings have for it, if any. -/
theorem find?_foldl_add {env : Environment} {bound : Bindings} (hbound : bound.keys.Nodup)
    {name : Text} (hname : env.find? name = none) :
    (bound.entries.foldl add env).find? name = (bound.find? name).join := by
  obtain ⟨entries⟩ := bound
  dsimp only [keys] at hbound
  induction entries generalizing env with
  | nil => exact hname
  | cons entry entries ih =>
    obtain ⟨other, value⟩ := entry
    obtain ⟨hother, hrest⟩ := List.nodup_cons.mp hbound
    rw [List.foldl_cons, find?_cons]
    by_cases h : other = name
    · subst other
      rw [find?_foldl_add_of_notMem _ hother, find?_add_self hname, if_pos rfl, Option.join_some]
    · rw [if_neg h]
      exact ih ((find?_add_of_ne env (Ne.symm h)).trans hname) hrest

end Environment

namespace Bindings

private theorem nodup_keys_foldl_bind (env : Environment) (bound : Bindings) (h : bound.keys.Nodup)
    (statements : List (Nat × Statement)) :
    (statements.foldl (fun bound statement => bound.bind env statement.2) bound).keys.Nodup := by
  induction statements generalizing bound with
  | nil => exact h
  | cons statement statements ih =>
    rw [List.foldl_cons]
    apply ih
    cases statement.2 with
    | nothing => exact h
    | malformed => exact h
    | binding name value => exact nodup_keys_insert h _ _

theorem nodup_keys_ofStatements (env : Environment) (statements : List (Nat × Statement)) :
    (ofStatements env statements).keys.Nodup :=
  nodup_keys_foldl_bind env OrderedMap.empty List.nodup_nil statements

/-- The names that are bound, each with whether it has a value. -/
def shape (bound : Bindings) : List (Text × Bool) :=
  bound.entries.map fun entry => (entry.1, entry.2.isSome)

private theorem shape_insert (bound : Bindings) (name : Text) (value : Option Text) :
    shape (bound.insert name value) = insertEntry name value.isSome bound.shape :=
  map_insertEntry Option.isSome name value bound.entries

private theorem shape_bind {env env' : Environment} {bound bound' : Bindings}
    (h : bound.shape = bound'.shape) (statement : Statement) :
    (bound.bind env statement).shape = (bound'.bind env' statement).shape := by
  cases statement with
  | nothing => exact h
  | malformed => exact h
  | binding name value =>
    rw [bind, bind, shape_insert, shape_insert, Option.isSome_map, Option.isSome_map, h]

/-- Which names get a value does not depend on the environment. -/
theorem shape_foldl_bind (env env' : Environment) {bound bound' : Bindings}
    (h : bound.shape = bound'.shape) (statements : List (Nat × Statement)) :
    (statements.foldl (fun bound statement => bound.bind env statement.2) bound).shape =
      (statements.foldl (fun bound statement => bound.bind env' statement.2) bound').shape := by
  induction statements generalizing bound bound' with
  | nil => exact h
  | cons statement statements ih => exact ih (shape_bind h statement.2)

private theorem exists_entry_ofStatements {env : Environment} (env' : Environment)
    {statements : List (Nat × Statement)} {entry : Text × Option Text}
    (hentry : entry ∈ (ofStatements env statements).entries) (hvalue : entry.2.isSome) :
    ∃ entry' ∈ (ofStatements env' statements).entries, entry'.1 = entry.1 ∧ entry'.2.isSome := by
  have hshape : (entry.1, true) ∈ (ofStatements env statements).shape :=
    List.mem_map.mpr ⟨entry, hentry, by rw [hvalue]⟩
  rw [ofStatements, shape_foldl_bind env env' rfl] at hshape
  obtain ⟨entry', hentry', heq⟩ := List.mem_map.mp hshape
  obtain ⟨hname, hsome⟩ := Prod.mk.inj heq
  exact ⟨entry', hentry', hname, hsome⟩

end Bindings

theorem Environment.load_eq_ok {env : Environment} {statements : List (Nat × Statement)}
    {loaded : Loaded} (h : env.load statements = .ok loaded) :
    loaded.env = (Bindings.ofStatements env statements).entries.foldl Environment.add env := by
  rw [load] at h
  cases hextend : env.extend (Bindings.ofStatements env statements).entries with
  | error error =>
    rw [hextend] at h
    cases h
  | ok extended =>
    rw [hextend] at h
    cases h
    exact extend_eq_foldl hextend

/-- Statements that have been loaded find nothing to do. -/
theorem Environment.load_again {env : Environment} {statements : List (Nat × Statement)}
    {loaded : Loaded} (h : env.load statements = .ok loaded) :
    ∃ again, loaded.env.load statements = .ok again ∧ again.env = loaded.env := by
  have hset : ∀ entry ∈ (Bindings.ofStatements loaded.env statements).entries, entry.2.isSome →
      loaded.env.contains entry.1 := by
    intro entry hentry hvalue
    obtain ⟨first, hfirst, hname, hsome⟩ :=
      Bindings.exists_entry_ofStatements env hentry hvalue
    rw [load_eq_ok h, ← hname]
    exact contains_foldl_add env hfirst hsome
  refine ⟨⟨!(Bindings.ofStatements loaded.env statements).entries.isEmpty, loaded.env⟩, ?_, rfl⟩
  rw [load, extend_of_contains hset]
  rfl

private theorem EnvSource.statements_of_disabled {env : Environment} (h : env.loadingDisabled)
    (source : EnvSource) : source.statements env = [] := by
  cases source with
  | file content => exact if_pos h
  | absent => rfl
  | directory => rfl

private theorem EnvSource.statements_of_enabled {env env' : Environment}
    (h : env.loadingDisabled = false) (h' : env'.loadingDisabled = false) (source : EnvSource) :
    source.statements env = source.statements env' := by
  cases source with
  | file content => rw [statements, statements, h, h']
  | absent => rfl
  | directory => rfl

/-- An environment file that is loaded leaves all variables as they are and in their places. It sets
those that were not set and to which it binds a value at last, and no others; and loading it once
more changes nothing. -/
theorem load_adds_once {env : Environment} {source : EnvSource} {loaded : Loaded}
    (h : env.load (source.statements env) = .ok loaded) :
    env.entries <+: loaded.env.entries ∧
    (∀ name value, env.find? name = some value → loaded.env.find? name = some value) ∧
    (∀ name, env.find? name = none → loaded.env.find? name =
      ((Bindings.ofStatements env (source.statements env)).find? name).join) ∧
    ∃ again, loaded.env.load (source.statements loaded.env) = .ok again ∧
      again.env = loaded.env := by
  have hloaded := Environment.load_eq_ok h
  have hextends : env.entries <+: loaded.env.entries := by
    rw [hloaded]
    exact Environment.prefix_foldl_add env _
  refine ⟨hextends, fun name value => Environment.find?_of_extends hextends, ?_, ?_⟩
  · intro name hname
    rw [hloaded]
    exact Environment.find?_foldl_add (Bindings.nodup_keys_ofStatements env _) hname
  · by_cases hdisabled : loaded.env.loadingDisabled
    · -- The file itself may have turned loading off.
      rw [EnvSource.statements_of_disabled hdisabled]
      exact ⟨_, rfl, rfl⟩
    · by_cases hbefore : env.loadingDisabled
      · rw [EnvSource.statements_of_disabled hbefore] at hloaded
        rw [hloaded] at hdisabled
        exact absurd hbefore hdisabled
      · rw [Bool.not_eq_true] at hdisabled hbefore
        rw [EnvSource.statements_of_enabled hdisabled hbefore]
        exact Environment.load_again h

/-- Binds a variable that is set, one name twice with references to itself, and a name that has no
value at last. -/
def knottyFile : EnvSource :=
  .file <| "A=2\nexport B=$\x7bA\x7d$\x7bHOME\x7d\nC=3\n".toList ++
    "B='$\x7bB\x7dx' # again\nC\nD=\"$\x7bN:-w\x7d\"".toList

def smallEnvironment : Environment :=
  ⟨[("HOME".toList, "/h".toList), ("A".toList, "1".toList)]⟩

theorem load_adds_once_of_knottyFile :
    ∃ loaded, smallEnvironment.load (knottyFile.statements smallEnvironment) = .ok loaded ∧
      loaded.env.find? "A".toList = some "1".toList ∧
      loaded.env.find? "B".toList = some "1/hx".toList ∧ loaded.env.find? "C".toList = none ∧
      ∃ again, loaded.env.load (knottyFile.statements loaded.env) = .ok again ∧
        again.env = loaded.env := by
  have hsome : (smallEnvironment.load (knottyFile.statements smallEnvironment)).toBool := by
    decide +kernel
  cases h : smallEnvironment.load (knottyFile.statements smallEnvironment) with
  | error error =>
    rw [h] at hsome
    cases hsome
  | ok loaded =>
    obtain ⟨-, hkept, hnew, hagain⟩ := load_adds_once h
    refine ⟨loaded, rfl, hkept _ _ (by decide), ?_, ?_, hagain⟩
    · rw [hnew _ (by decide)]
      decide +kernel
    · rw [hnew _ (by decide)]
      decide +kernel

end StoryPlayer
