import QueryDesk.Json.Syntax
import QueryDesk.Text.Quoted

/-!
# Reading trees into types

A `Reader` takes a syntax tree to a value of a type, from left to right; the first fault it meets
decides.  A fault is either a break of JSON's grammar or a value that does not fit, with the path
that leads to it.

Values nest: a reader is given the number of arrays and objects that may still be opened, and one
more opening is a break of the grammar.  A value that is passed over counts for nothing.

A record is read from an object, whose unknown members are passed over, or from an array of its
fields in order.
-/

namespace QueryDesk.Json

open QueryDesk.Text

/-! ## Faults -/

/-- What a reader found in place of what it wanted. -/
inductive Found where
  | null
  | bool (value : Bool)
  | number (value : Number)
  | string (value : String)
  | sequence
  | map
deriving DecidableEq, Repr

/-- Why a well-formed value does not fit. -/
inductive Cause where
  | wrongType (found : Found) (expected : String)
  | missingField (name : String)
  | duplicateField (name : String)
  | unknownField (name : String) (fields : List String)
  | unknownVariant (name : String) (variants : List String)
  | tooShort (length : Nat) (record : String) (size : Nat)
  | refused (reason : String)
deriving DecidableEq, Repr

/-- A step from a value to one inside it. -/
inductive Step where
  | index (i : Nat)
  | key (name : String)
deriving DecidableEq, Repr

/-- Why a text cannot be read. -/
inductive Fault where
  | malformed
  | unfit (path : List Step) (cause : Cause)
deriving DecidableEq, Repr

/-- The wording of what was found. -/
def Found.message : Found → String
  | .null => "null"
  | .bool b => s!"boolean `{b}`"
  | .number (.integer i) => s!"integer `{String.ofList (integerText i)}`"
  | .number (.real x) => s!"floating point `{(Number.real x).text}`"
  | .string s => "string " ++ quoted s
  | .sequence => "sequence"
  | .map => "map"

/-- A list of names, one of which is wanted. -/
def alternatives (names : List String) : String :=
  match names.map fun n => s!"`{n}`" with
  | [a] => a
  | [a, b] => s!"{a} or {b}"
  | all => "one of " ++ ", ".intercalate all

/-- The number of elements of a record, in words. -/
def elements (n : Nat) : String :=
  if n = 1 then "1 element" else s!"{n} elements"

/-- The wording of a cause. -/
def Cause.message : Cause → String
  | .wrongType found expected => s!"invalid type: {found.message}, expected {expected}"
  | .missingField name => s!"missing field `{name}`"
  | .duplicateField name => s!"duplicate field `{name}`"
  | .unknownField name fields => s!"unknown field `{name}`, expected {alternatives fields}"
  | .unknownVariant name variants =>
    s!"unknown variant `{name}`, expected {alternatives variants}"
  | .tooShort length record size =>
    s!"invalid length {length}, expected struct {record} with {elements size}"
  | .refused reason => reason

/-- The wording of a fault; a break of the grammar is not described further. -/
def Fault.message : Fault → String
  | .malformed => "syntax error"
  | .unfit _ cause => cause.message

/-- The text of a path: keys after dots, positions in brackets. -/
def pathText : List Step → String
  | [] => ""
  | .index i :: rest => s!"[{i}]" ++ pathTail rest
  | .key k :: rest => k ++ pathTail rest
where
  /-- The steps after the first one. -/
  pathTail : List Step → String
    | [] => ""
    | .index i :: rest => s!"[{i}]" ++ pathTail rest
    | .key k :: rest => "." ++ k ++ pathTail rest

/-- Puts a step in front of the path of a fault. -/
def Fault.within (step : Step) : Fault → Fault
  | .malformed => .malformed
  | .unfit path cause => .unfit (step :: path) cause

/-- A value that does not fit, at the place where the reader stands. -/
def unfit {α : Type} (cause : Cause) : Except Fault α :=
  .error (.unfit [] cause)

/-- Puts a step in front of the path of a failure. -/
def inside {α : Type} (step : Step) : Except Fault α → Except Fault α
  | .ok a => .ok a
  | .error fault => .error (fault.within step)

/-! ## Readers of simple values -/

/-- A reader: the number of openings left, and the tree to read. -/
abbrev Reader (α : Type) := Nat → Tree → Except Fault α

/-- The failure of a reader that wants something else than the tree. -/
def mismatch {α : Type} (expected : String) : Tree → Except Fault α
  | .null => unfit (.wrongType .null expected)
  | .bool b => unfit (.wrongType (.bool b) expected)
  | .numeral x => match x.value? with
    | some n => unfit (.wrongType (.number n) expected)
    | none => .error .malformed
  | .string (some s) => unfit (.wrongType (.string s) expected)
  | .string none => .error .malformed
  | .array _ _ => unfit (.wrongType .sequence expected)
  | .object _ _ => unfit (.wrongType .map expected)
  | .broken => .error .malformed

namespace Reader

variable {α β σ : Type}

/-- Reads a string that messages call by a name of its own. -/
def textAs (expected : String) : Reader String
  | _, .string (some s) => .ok s
  | _, t => mismatch expected t

/-- Reads a string. -/
def text : Reader String := textAs "a string"

/-- Reads a boolean. -/
def bool : Reader Bool
  | _, .bool b => .ok b
  | _, t => mismatch "a boolean" t

/-- Reads `null` as nothing, anything else by the reader. -/
def option (read : Reader α) : Reader (Option α)
  | _, .null => .ok none
  | budget, t => (read budget t).map some

/-- Reads a value and converts it; a failing conversion is reported at the value. -/
def convert (read : Reader α) (f : α → Except String β) : Reader β := fun budget t =>
  match read budget t with
  | .error fault => .error fault
  | .ok a => match f a with
    | .ok b => .ok b
    | .error reason => unfit (.refused reason)

/-- The value with one of the names. -/
def variant (variants : List (String × α)) (name : String) : Except Fault α :=
  match variants.lookup name with
  | some a => .ok a
  | none => unfit (.unknownVariant name (variants.map (·.1)))

/-- Reads one of several named values: its name, or an object with the name as its only key and
    `null` as the value. -/
def oneOf (variants : List (String × α)) : Reader α
  | _, .string (some s) => variant variants s
  | 0, _ => .error .malformed
  | _ + 1, .object ((some s, value) :: rest) closed =>
    match variant variants s with
    | .error fault => .error fault
    | .ok a => match value with
      | .null => if rest.isEmpty && closed then .ok a else .error .malformed
      | other => inside (.key s) (mismatch "unit" other)
  | _ + 1, _ => .error .malformed

/-! ## Lists -/

/-- Reads the items of an array from a position on. -/
def items (read : Tree → Except Fault α) : Nat → List Tree → Except Fault (List α)
  | _, [] => .ok []
  | i, t :: rest =>
    match inside (.index i) (read t) with
    | .error fault => .error fault
    | .ok a => (items read (i + 1) rest).map (a :: ·)

/-- Reads an array. -/
def list (read : Reader α) : Reader (List α)
  | budget, .array ts closed =>
    match budget with
    | 0 => .error .malformed
    | budget + 1 =>
      match items (read budget) 0 ts with
      | .error fault => .error fault
      | .ok as => if closed then .ok as else .error .malformed
  | _, t => mismatch "a sequence" t

/-! ## Records -/

/-- Whether a field may be absent: never, only as a member of an object, or also as an element of
    an array. -/
inductive Presence where
  | needed
  | optional
  | defaulted
deriving DecidableEq, Repr

/-- A field of a record of type `σ`: its name, whether it may be absent, and how its value is read
    and put into the record. -/
structure Field (σ : Type) where
  name : String
  presence : Presence
  put : Reader (σ → σ)

/-- A field whose value is put into the record by a function. -/
def Field.of (presence : Presence) (name : String) (read : Reader α) (set : α → σ → σ) :
    Field σ :=
  ⟨name, presence, fun budget t => (read budget t).map set⟩

/-- A field that must be present. -/
def Field.needed (name : String) (read : Reader α) (set : α → σ → σ) : Field σ :=
  .of .needed name read set

/-- A field that keeps its default when an object does not have it. -/
def Field.optional (name : String) (read : Reader α) (set : α → σ → σ) : Field σ :=
  .of .optional name read set

/-- A field that keeps its default when absent. -/
def Field.defaulted (name : String) (read : Reader α) (set : α → σ → σ) : Field σ :=
  .of .defaulted name read set

/-- What a record is: its name in messages, its fields in order, the record with every default, and
    whether members of other names are refused. -/
structure Shape (σ : Type) where
  name : String
  fields : List (Field σ)
  initial : σ
  strict : Bool := false

/-- Reads the members of an object in order; `seen` names the fields read so far. -/
def members (shape : Shape σ) (budget : Nat) :
    List (Option String × Tree) → List String → σ → Except Fault (List String × σ)
  | [], seen, record => .ok (seen, record)
  | (none, _) :: _, _, _ => .error .malformed
  | (some key, value) :: rest, seen, record =>
    match shape.fields.find? (·.name == key) with
    | some field =>
      if seen.contains key then unfit (.duplicateField key)
      else match inside (.key key) (field.put budget value) with
        | .error fault => .error fault
        | .ok set => members shape budget rest (key :: seen) (set record)
    | none =>
      if shape.strict then unfit (.unknownField key (shape.fields.map (·.name)))
      else if value.intact then members shape budget rest seen record
      else .error .malformed

/-- The first field that must be present and was not seen. -/
def missing? (shape : Shape σ) (seen : List String) : Option String :=
  (shape.fields.find? fun f => f.presence == .needed && !seen.contains f.name).map (·.name)

/-- Reads the fields of a record in order from the items of an array. -/
def positions (shape : Shape σ) (budget : Nat) (closed : Bool) :
    Nat → List (Field σ) → List Tree → σ → Except Fault σ
  | _, [], [], record => if closed then .ok record else .error .malformed
  | _, [], _ :: _, _ => .error .malformed
  | i, field :: fields, [], record =>
    if !closed then .error .malformed
    else if field.presence != .defaulted then unfit (.tooShort i shape.name shape.fields.length)
    else positions shape budget closed (i + 1) fields [] record
  | i, field :: fields, t :: rest, record =>
    match inside (.index i) (field.put budget t) with
    | .error fault => .error fault
    | .ok set => positions shape budget closed (i + 1) fields rest (set record)

/-- Reads a record. -/
def record (shape : Shape σ) : Reader σ
  | budget, .object ms closed =>
    match budget with
    | 0 => .error .malformed
    | budget + 1 =>
      match members shape budget ms [] shape.initial with
      | .error fault => .error fault
      | .ok (seen, r) =>
        if !closed then .error .malformed
        else match missing? shape seen with
          | some name => unfit (.missingField name)
          | none => .ok r
  | budget, .array ts closed =>
    match budget with
    | 0 => .error .malformed
    | budget + 1 => positions shape budget closed 0 shape.fields ts shape.initial
  | _, t => mismatch s!"struct {shape.name}" t

end Reader

/-! ## Whole values and whole texts -/

/-- Replaces the value of a key in place, or adds the key at the end. -/
def putMember (key : String) (value : Value) : List (String × Value) → List (String × Value)
  | [] => [(key, value)]
  | (k, v) :: rest => if k = key then (k, value) :: rest else (k, v) :: putMember key value rest

namespace Tree

mutual

/-- The value of a tree.  A key that occurs again replaces the value of the first one. -/
def value? : Nat → Tree → Option Value
  | _, .null => some .null
  | _, .bool b => some (.bool b)
  | _, .numeral x => x.value?.map .number
  | _, .string s => s.map .string
  | 0, .array _ _ => none
  | budget + 1, .array ts closed =>
    if closed then (itemValues? budget ts).map .array else none
  | 0, .object _ _ => none
  | budget + 1, .object ms closed =>
    if closed then (memberValues? budget ms []).map .object else none
  | _, .broken => none

/-- The values of an array's items. -/
def itemValues? : Nat → List Tree → Option (List Value)
  | _, [] => some []
  | budget, t :: rest => do
    let v ← t.value? budget
    let vs ← itemValues? budget rest
    return v :: vs

/-- The members of an object, after those read so far. -/
def memberValues? :
    Nat → List (Option String × Tree) → List (String × Value) → Option (List (String × Value))
  | _, [], done => some done
  | _, (none, _) :: _, _ => none
  | budget, (some key, t) :: rest, done => do
    let v ← t.value? budget
    memberValues? budget rest (putMember key v done)

end

end Tree

/-- Reads a value of any kind. -/
def Reader.value : Reader Value := fun budget t =>
  match t.value? budget with
  | some v => .ok v
  | none => .error .malformed

/-- The number of arrays and objects that a text may open one inside the other. -/
def maxNesting : Nat := 127

/-- Reads a whole document: the value, and nothing after it. -/
def Reader.run {α : Type} (read : Reader α) (document : Document) : Except Fault α :=
  match read maxNesting document.root with
  | .error fault => .error fault
  | .ok a => if document.ended then .ok a else .error .malformed

/-- Reads a whole text. -/
def Reader.parse {α : Type} (read : Reader α) (s : String) : Except Fault α :=
  read.run (Document.parse (symbols s))

/-- The value of a whole text. -/
def Value.parse (s : String) : Except Fault Value :=
  Reader.value.parse s

end QueryDesk.Json
