import StoryPlayer.Playback.View

/-!
# Views from loose fields

A view can be made from loose values, each of which may be missing or of the wrong kind. All
fields are checked, and every fault is reported, in the order of the fields. A view can also be
written out as compact JSON.
-/

namespace StoryPlayer

/-- A loose value. Lists hold texts and things that are none. -/
inductive FieldValue where
  | null
  | text (t : Text)
  | list (items : List (Option Text))
  | other
deriving Repr, DecidableEq

/-- The values for the fields of a view, as far as they are given. -/
structure ViewFields where
  mode : Option FieldValue := none
  phase : Option FieldValue := none
  inputBuffer : Option FieldValue := none
  outputLog : Option FieldValue := none
  revealing : Option FieldValue := none
deriving Repr, DecidableEq

inductive FieldErrorKind where
  | missing
  | notAMode
  | notAPhase
  | notText
  | notAList
  | frozen
deriving Repr, DecidableEq

namespace FieldErrorKind

def name : FieldErrorKind → String
  | missing => "missing"
  | notAMode | notAPhase => "enum"
  | notText => "string_type"
  | notAList => "tuple_type"
  | frozen => "frozen_instance"

/-- Words as a list in a sentence, with an `or` before the last. -/
def alternatives : List String → String
  | [] => ""
  | [word] => word
  | [word, last] => word ++ " or " ++ last
  | word :: words => word ++ ", " ++ alternatives words

def message : FieldErrorKind → String
  | missing => "Field required"
  | notAMode => "Input should be " ++ alternatives (Mode.all.map fun m => "'" ++ m.name ++ "'")
  | notAPhase => "Input should be " ++ alternatives (Phase.all.map fun p => "'" ++ p.name ++ "'")
  | notText => "Input should be a valid string"
  | notAList => "Input should be a valid tuple"
  | frozen => "Instance is frozen"

end FieldErrorKind

/-- A fault of a field, or of one entry of a field. -/
structure FieldError where
  kind : FieldErrorKind
  field : Text
  entry : Option Nat := none
deriving Repr, DecidableEq

namespace ViewFields

/-- A name out of a fixed choice. -/
def readName {α : Type} (field : String) (kind : FieldErrorKind) (ofName? : Text → Option α) :
    Option FieldValue → Except (List FieldError) α
  | none => .error [⟨.missing, field.toList, none⟩]
  | some (.text name) =>
    match ofName? name with
    | some value => .ok value
    | none => .error [⟨kind, field.toList, none⟩]
  | some _ => .error [⟨kind, field.toList, none⟩]

def readText (field : String) : Option FieldValue → Except (List FieldError) Text
  | none => .ok []
  | some (.text t) => .ok t
  | some _ => .error [⟨.notText, field.toList, none⟩]

def readOptionalText (field : String) : Option FieldValue → Except (List FieldError) (Option Text)
  | none | some .null => .ok none
  | some (.text t) => .ok (some t)
  | some _ => .error [⟨.notText, field.toList, none⟩]

/-- The faults of the entries that are no texts. -/
def entryErrors (field : String) (items : List (Option Text)) : List FieldError :=
  items.zipIdx.filterMap fun (item, i) =>
    if item.isNone then some ⟨.notText, field.toList, some i⟩ else none

def readTexts (field : String) : Option FieldValue → Except (List FieldError) (List Text)
  | none => .ok []
  | some (.list items) =>
    match entryErrors field items with
    | [] => .ok (items.filterMap id)
    | errors => .error errors
  | some _ => .error [⟨.notAList, field.toList, none⟩]

def errorsOf {α : Type} : Except (List FieldError) α → List FieldError
  | .ok _ => []
  | .error errors => errors

/-- The view that the fields make, or all their faults. -/
def toView (fields : ViewFields) : Except (List FieldError) View :=
  let mode := readName "mode" .notAMode Mode.ofName? fields.mode
  let phase := readName "phase" .notAPhase Phase.ofName? fields.phase
  let inputBuffer := readText "input_buffer" fields.inputBuffer
  let outputLog := readTexts "output_log" fields.outputLog
  let revealing := readOptionalText "revealing" fields.revealing
  match mode, phase, inputBuffer, outputLog, revealing with
  | .ok mode, .ok phase, .ok inputBuffer, .ok outputLog, .ok revealing =>
    .ok ⟨mode, phase, inputBuffer, outputLog, revealing⟩
  | _, _, _, _, _ =>
    .error (errorsOf mode ++ errorsOf phase ++ errorsOf inputBuffer ++ errorsOf outputLog ++
      errorsOf revealing)

end ViewFields

/-- Sets a field of a view, which is refused. A name that starts with an underscore is no field;
setting it changes nothing. -/
def View.assign (view : View) (field : Text) : Except FieldError View :=
  if field.head? = some '_' then .ok view else .error ⟨.frozen, field, none⟩

/-- One character of a JSON string. -/
def jsonChar (c : Char) : Text :=
  if c = '"' ∨ c = '\\' then ['\\', c]
  else if c = '\x08' then ['\\', 'b']
  else if c = '\t' then ['\\', 't']
  else if c = '\n' then ['\\', 'n']
  else if c = '\x0c' then ['\\', 'f']
  else if c = '\r' then ['\\', 'r']
  else if c.toNat < 0x20 then '\\' :: 'u' :: hexDigits 4 c.toNat
  else [c]

def jsonText (t : Text) : Text := '"' :: t.flatMap jsonChar ++ ['"']

/-- The view as compact JSON. -/
def View.json (view : View) : Text :=
  let field (name : String) (value : Text) : Text := jsonText name.toList ++ ':' :: value
  '\x7b' :: Text.join ','
    [field "mode" (jsonText view.mode.name.toList),
     field "phase" (jsonText view.phase.name.toList),
     field "input_buffer" (jsonText view.inputBuffer),
     field "output_log" ('[' :: Text.join ',' (view.outputLog.map jsonText) ++ [']']),
     field "revealing" (match view.revealing with
       | some t => jsonText t
       | none => "null".toList)] ++ ['\x7d']

end StoryPlayer
