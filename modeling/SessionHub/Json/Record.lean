import SessionHub.Json.Printer
import SessionHub.Json.Reader

/-!
# Records with named columns

The messages that nodes exchange are records of texts and integers. A `Schema` names the columns of
one in their order; a `Row` is a record's cells in that order. Written, a row is an object with the
columns in order. Read, it may come as an object in any order, with further members that are passed
over, or as an array of the cells; a column may occur once and none may be missing.

A record may also carry a tag that says which of several it is. Then the tag has to be found before
the columns are known, so the whole object is read first and the columns are taken out of it
afterwards; a refusal in that second pass has no place in the text.
-/

namespace SessionHub.Json

/-- The two types of column. An integer has 64 bits and a sign. -/
inductive Column where
  | text | integer
  deriving Repr, DecidableEq

/-- The content of a column. -/
inductive Cell where
  | text (value : String)
  | integer (value : Int)
  deriving Repr, DecidableEq, Inhabited

/-- The columns of a record, and what a reader calls such a record. -/
structure Schema where
  title : String
  columns : List (String × Column)

/-- Whether a cell belongs into a column. -/
def Column.admits : Column → Cell → Bool
  | .text, .text _ => true
  | .integer, .integer n => -(twoTo 63 : Int) ≤ n && n < (twoTo 63 : Int)
  | _, _ => false

/-- What a reader calls the content of a column. -/
def Column.expected : Column → String
  | .text => "a string"
  | .integer => "i64"

/-- `1 element`, `2 elements`, … -/
def elements (n : Nat) : String := if n = 1 then "1 element" else s!"{n} elements"

/-- What a reader asks for when an array has the wrong length. -/
def Schema.wanted (schema : Schema) : String :=
  s!"{schema.title} with {elements schema.columns.length}"

/-! ## Writing -/

/-- The document of a cell. -/
def Cell.toJson : Cell → Json
  | .text s => .str s
  | .integer n => .num (.int n)

/-- The object that a row is written as. -/
def Schema.toJson (schema : Schema) (row : List Cell) : Json :=
  .obj ((schema.columns.zip row).map fun (column, cell) => (column.1, cell.toJson))

/-! ## Reading from a text -/

/-- The refusal of the next value by a reader that asked for something else. A scalar is read
first, for its own faults come before that of being the wrong one; a bracket is not entered. -/
def refusal (expected : String) (s : List Char) : Failure :=
  let wrong (found : Found) (rest : List Char) : Failure :=
    .here (.shape (.invalidType found expected)) rest
  match s with
  | '[' :: _ => wrong .sequence s
  | '\x7b' :: _ => wrong .map s
  | _ =>
    match readScalar s with
    | .ok (document, rest) => wrong document.found rest
    | .error f => f

/-- A text. -/
def readText (expected : String) (s : List Char) : Read String :=
  match skipBlanks s with
  | '"' :: rest => readString rest
  | rest => .error (refusal expected rest)

/-- An integer of 64 bits with a sign, from a number. -/
def integerOf (expected : String) : Number → Except Mismatch Int
  | .int n =>
    if n < twoTo 63 then .ok n else .error (.invalidValue (.number (.int n)) expected)
  | .double bits => .error (.invalidType (.number (.double bits)) expected)

/-- The content of a column. -/
def Column.read (column : Column) (s : List Char) : Read Cell :=
  match column with
  | .text => (readText column.expected s).map fun (t, rest) => (.text t, rest)
  | .integer =>
    let take (negative : Bool) (s : List Char) : Read Cell :=
      match readNumber negative s with
      | .error f => .error f
      | .ok (n, rest) =>
        match integerOf column.expected n with
        | .ok n => .ok (.integer n, rest)
        | .error m => .error (.here (.shape m) rest)
    match skipBlanks s with
    | '-' :: rest => take true rest
    | c :: rest =>
      if (Text.digit? c).isSome then take false (c :: rest)
      else .error (refusal column.expected (c :: rest))
    | [] => .error (refusal column.expected [])

/-- Where a reader stands that gave up inside an object: behind the brace, if it comes next. -/
def pastObject (s : List Char) : List Char :=
  match skipBlanks s with
  | '\x7d' :: rest => rest
  | rest => rest

/-- Where a reader stands that gave up inside an array: behind the bracket, if it comes next. -/
def pastList (s : List Char) : List Char :=
  match skipBlanks s with
  | ']' :: rest => rest
  | ',' :: rest => skipBlanks rest
  | rest => rest

/-- The cells taken so far, by column name. -/
abbrev Taken := List (String × Cell)

/-- A complete row in the order of the columns, or the first column that is missing. -/
def rowOf (taken : Taken) : List (String × Column) → Except Mismatch (List Cell)
  | [] => .ok []
  | (name, _) :: rest =>
    match taken.lookup name with
    | none => .error (.missingField name)
    | some cell => (rowOf taken rest).map (cell :: ·)

/-- The members of an object, up to its closing brace. -/
def Schema.readMembers (schema : Schema) :
    (fuel : Nat) → (first : Bool) → Taken → List Char → Read (List Cell)
  | 0, _, _, s => .error (.here .tooDeep s)
  | fuel + 1, first, taken, s =>
    match nextName first s with
    | .error f => .error f
    | .ok none =>
      match rowOf taken schema.columns with
      | .error m => .error (.here (.shape m) (pastObject s))
      | .ok row => .ok (row, s)
    | .ok (some (name, rest)) =>
      match schema.columns.lookup name with
      | none =>
        match (readColon rest).bind skipValue with
        | .error f => .error f
        | .ok rest => schema.readMembers fuel false taken rest
      | some column =>
        if (taken.lookup name).isSome then
          .error (.here (.shape (.duplicateField name)) (pastObject rest))
        else
          match (readColon rest).bind column.read with
          | .error f => .error f
          | .ok (cell, rest) => schema.readMembers fuel false ((name, cell) :: taken) rest

/-- The items of an array, one to each column. -/
def Schema.readItems (schema : Schema) :
    (index : Nat) → List (String × Column) → List Char → Read (List Cell)
  | _, [], s => .ok ([], s)
  | index, (_, column) :: more, s =>
    match nextItem (index == 0) s with
    | .error f => .error f
    | .ok none => .error (.here (.shape (.invalidLength index schema.wanted)) (pastList s))
    | .ok (some rest) =>
      match column.read rest with
      | .error f => .error f
      | .ok (cell, rest) =>
        match schema.readItems (index + 1) more rest with
        | .error f => .error f
        | .ok (cells, rest) => .ok (cell :: cells, rest)

/-- A row, as an object or as an array. -/
def Schema.readRow (schema : Schema) (s : List Char) : Read (List Cell) :=
  match skipBlanks s with
  | '[' :: rest =>
    match schema.readItems 0 schema.columns rest with
    | .error f => .error f
    | .ok (row, rest) => (closeList rest).map (row, ·)
  | '\x7b' :: rest =>
    match schema.readMembers (rest.length + 1) true [] rest with
    | .error f => .error f
    | .ok (row, rest) => (closeObject rest).map (row, ·)
  | rest => .error (refusal schema.title rest)

/-- A row that is the whole text. -/
def Schema.read (schema : Schema) (text : String) : Except Failure (List Cell) :=
  match schema.readRow text.toList with
  | .error f => .error f
  | .ok (row, rest) => (readEnd rest).map fun _ => row

/-! ## Records with a tag -/

/-- What a tagged record holds beside its tag. -/
inductive Untagged where
  | members (all : List (String × Json))
  | items (all : List Json)
  deriving Repr

/-- The tag of a record, which has to be the known one. -/
def readTag (known : String) (s : List Char) : Except Failure (List Char) :=
  match readText "variant identifier" s with
  | .error f => .error f
  | .ok (name, rest) =>
    if name = known then .ok rest
    else .error (.here (.shape (.unknownVariant name known)) rest)

/-- The members of a tagged object, up to its closing brace: the tag is checked where it stands,
the others are kept. -/
def readTaggedMembers (tag known : String) :
    (fuel : Nat) → (first tagged : Bool) → List Char → Read (List (String × Json))
  | 0, _, _, s => .error (.here .tooDeep s)
  | fuel + 1, first, tagged, s =>
    match nextName first s with
    | .error f => .error f
    | .ok none =>
      if tagged then .ok ([], s)
      else .error (.here (.shape (.missingField tag)) (pastObject s))
    | .ok (some (name, rest)) =>
      if name = tag then
        if tagged then .error (.here (.shape (.duplicateField tag)) (pastObject rest))
        else
          match (readColon rest).bind (readTag known) with
          | .error f => .error f
          | .ok rest => readTaggedMembers tag known fuel false true rest
      else
        match (readColon rest).bind fun rest => readValue (fuelFor rest) (depthLimit - 1) rest with
        | .error f => .error f
        | .ok (value, rest) =>
          match readTaggedMembers tag known fuel false tagged rest with
          | .error f => .error f
          | .ok (members, rest) => .ok ((name, value) :: members, rest)

/-- A tagged record with the one known tag: an object that holds the tag, or an array that starts
with it. -/
def readTagged (tag known title : String) (s : List Char) : Read Untagged :=
  match skipBlanks s with
  | '[' :: rest =>
    match nextItem true rest with
    | .error f => .error f
    | .ok none => .error (.here (.shape (.missingField tag)) (pastList rest))
    | .ok (some rest) =>
      match readTag known rest with
      | .error f => .error f
      | .ok rest =>
        match Json.readItems (fuelFor rest) (depthLimit - 1) false rest with
        | .error f => .error f
        | .ok (items, rest) => (closeList rest).map (.items items, ·)
  | '\x7b' :: rest =>
    match readTaggedMembers tag known (rest.length + 1) true false rest with
    | .error f => .error f
    | .ok (members, rest) => (closeObject rest).map (.members members, ·)
  | rest => .error (refusal title rest)

/-- A cell out of a document. -/
def Column.ofJson (column : Column) (document : Json) : Except Mismatch Cell :=
  match column, document with
  | .text, .str s => .ok (.text s)
  | .integer, .num n => (integerOf column.expected n).map .integer
  | _, other => .error (.invalidType other.found column.expected)

/-- The cells of the columns among some members. -/
def Schema.takeMembers (schema : Schema) (taken : Taken) :
    List (String × Json) → Except Mismatch (List Cell)
  | [] => rowOf taken schema.columns
  | (name, value) :: rest =>
    match schema.columns.lookup name with
    | none => schema.takeMembers taken rest
    | some column =>
      if (taken.lookup name).isSome then .error (.duplicateField name)
      else
        match column.ofJson value with
        | .error m => .error m
        | .ok cell => schema.takeMembers ((name, cell) :: taken) rest

/-- The cells of the columns, one item each. -/
def Schema.takeItems (schema : Schema) :
    (index : Nat) → List (String × Column) → List Json → Except Mismatch (List Cell)
  | index, [], rest =>
    if rest.isEmpty then .ok []
    else .error (.invalidLength (index + rest.length) s!"{elements index} in sequence")
  | index, _ :: _, [] => .error (.invalidLength index schema.wanted)
  | index, (_, column) :: more, item :: rest =>
    match column.ofJson item with
    | .error m => .error m
    | .ok cell => (schema.takeItems (index + 1) more rest).map (cell :: ·)

/-- The row of a tagged record. -/
def Schema.ofUntagged (schema : Schema) (content : Untagged) : Except Failure (List Cell) :=
  let row := match content with
    | .members all => schema.takeMembers [] all
    | .items all => schema.takeItems 0 schema.columns all
  row.mapError fun m => { cause := .shape m }

end SessionHub.Json
