import SessionHub.Json.Lexeme

/-!
# Reading a document

A text is read from left to right and refused at the first thing that is wrong. Arrays and objects
may nest 127 deep; beyond that a text is refused, whatever it holds. What nobody asked for is
passed over without that limit and with less scrutiny: only its grammar counts.

The separators are read by functions of their own (`nextItem`, `nextName`, `readColon`,
`closeList`, `closeObject`), which the readers of records share.
-/

namespace SessionHub.Json

/-! ## Separators -/

/-- What stands before the next item: `none` when the closing bracket is ahead. -/
def nextItem (first : Bool) (s : List Char) : Except Failure (Option (List Char)) :=
  match skipBlanks s with
  | [] => .error (.here .endInList [])
  | ']' :: _ => .ok none
  | c :: rest =>
    if first then .ok (some (c :: rest))
    else if c = ',' then
      match skipBlanks rest with
      | [] => .error (.here .endInValue [])
      | ']' :: rest => .error (.ahead .trailingComma (']' :: rest))
      | rest => .ok (some rest)
    else .error (.ahead .expectedListEnd (c :: rest))

/-- The name of the next member: `none` when the closing brace is ahead. -/
def nextName (first : Bool) (s : List Char) : Except Failure (Option (String × List Char)) :=
  let name (s : List Char) : Except Failure (Option (String × List Char)) :=
    match s with
    | [] => .error (.here .endInValue [])
    | '"' :: rest => (readString rest).map some
    | '\x7d' :: rest => .error (.ahead .trailingComma ('\x7d' :: rest))
    | rest => .error (.ahead .keyNotString rest)
  match skipBlanks s with
  | [] => .error (.here .endInObject [])
  | '\x7d' :: _ => .ok none
  | c :: rest =>
    if first then name (c :: rest)
    else if c = ',' then name (skipBlanks rest)
    else .error (.ahead .expectedObjectEnd (c :: rest))

/-- The colon behind a name. -/
def readColon (s : List Char) : Except Failure (List Char) :=
  match skipBlanks s with
  | [] => .error (.here .endInObject [])
  | ':' :: rest => .ok rest
  | rest => .error (.ahead .expectedColon rest)

/-- The bracket that closes an array. -/
def closeList (s : List Char) : Except Failure (List Char) :=
  match skipBlanks s with
  | [] => .error (.here .endInList [])
  | ']' :: rest => .ok rest
  | ',' :: rest =>
    match skipBlanks rest with
    | ']' :: rest => .error (.ahead .trailingComma (']' :: rest))
    | rest => .error (.ahead .trailingCharacters rest)
  | rest => .error (.ahead .trailingCharacters rest)

/-- The brace that closes an object. -/
def closeObject (s : List Char) : Except Failure (List Char) :=
  match skipBlanks s with
  | [] => .error (.here .endInObject [])
  | '\x7d' :: rest => .ok rest
  | ',' :: rest => .error (.ahead .trailingComma (',' :: rest))
  | rest => .error (.ahead .trailingCharacters rest)

/-- Nothing but blanks may follow a document. -/
def readEnd (s : List Char) : Except Failure Unit :=
  match skipBlanks s with
  | [] => .ok ()
  | rest => .error (.ahead .trailingCharacters rest)

/-! ## Documents -/

/-- How deep a document may nest, and one. -/
def depthLimit : Nat := 128

/-- A scalar, if the next word is one. -/
def readScalar (s : List Char) : Read Json :=
  match s with
  | [] => .error (.ahead .endInValue [])
  | 'n' :: rest => (readWord ['u', 'l', 'l'] rest).map (.null, ·)
  | 't' :: rest => (readWord ['r', 'u', 'e'] rest).map (.bool true, ·)
  | 'f' :: rest => (readWord ['a', 'l', 's', 'e'] rest).map (.bool false, ·)
  | '"' :: rest => (readString rest).map fun (t, rest) => (.str t, rest)
  | '-' :: rest => (readNumber true rest).map fun (n, rest) => (.num n, rest)
  | c :: rest =>
    if (Text.digit? c).isSome then (readNumber false (c :: rest)).map fun (n, rest) => (.num n, rest)
    else .error (.ahead .expectedValue (c :: rest))

mutual

/-- A document, of which `depth` levels of brackets are left. -/
def readValue : (fuel depth : Nat) → List Char → Read Json
  | 0, _, s => .error (.here .tooDeep s)
  | fuel + 1, depth, s =>
    match skipBlanks s with
    | '[' :: rest =>
      if depth ≤ 1 then .error (.ahead .tooDeep ('[' :: rest))
      else
        match readItems fuel (depth - 1) true rest with
        | .ok (items, rest) => (closeList rest).map (.arr items, ·)
        | .error f => .error f
    | '\x7b' :: rest =>
      if depth ≤ 1 then .error (.ahead .tooDeep ('\x7b' :: rest))
      else
        match readMembers fuel (depth - 1) true rest with
        | .ok (members, rest) => (closeObject rest).map (.obj members, ·)
        | .error f => .error f
    | rest => readScalar rest

/-- The items of an array up to its closing bracket. -/
def readItems : (fuel depth : Nat) → (first : Bool) → List Char → Read (List Json)
  | 0, _, _, s => .error (.here .tooDeep s)
  | fuel + 1, depth, first, s =>
    match nextItem first s with
    | .error f => .error f
    | .ok none => .ok ([], s)
    | .ok (some rest) =>
      match readValue fuel depth rest with
      | .error f => .error f
      | .ok (item, rest) =>
        match readItems fuel depth false rest with
        | .error f => .error f
        | .ok (items, rest) => .ok (item :: items, rest)

/-- The members of an object up to its closing brace. -/
def readMembers : (fuel depth : Nat) → (first : Bool) → List Char → Read (List (String × Json))
  | 0, _, _, s => .error (.here .tooDeep s)
  | fuel + 1, depth, first, s =>
    match nextName first s with
    | .error f => .error f
    | .ok none => .ok ([], s)
    | .ok (some (name, rest)) =>
      match readColon rest with
      | .error f => .error f
      | .ok rest =>
        match readValue fuel depth rest with
        | .error f => .error f
        | .ok (value, rest) =>
          match readMembers fuel depth false rest with
          | .error f => .error f
          | .ok (members, rest) => .ok ((name, value) :: members, rest)

end

/-- Fuel that no text of this length uses up: every call takes a character or is followed by one
that does. -/
def fuelFor (s : List Char) : Nat := 2 * s.length + 2

/-- A document that is the whole text. -/
def read (text : String) : Except Failure Json :=
  let s := text.toList
  match readValue (fuelFor s) depthLimit s with
  | .error f => .error f
  | .ok (document, rest) => (readEnd rest).map fun _ => document

/-! ## Passing over what nobody asked for -/

/-- A bracket that is open around what is being passed over. -/
inductive Bracket where
  | list | object
  deriving Repr, DecidableEq

/-- Passes over a name and its colon. -/
def skipName (s : List Char) : Except Failure (List Char) :=
  match skipBlanks s with
  | [] => .error (.here .endInObject [])
  | '"' :: rest => (skipString rest).bind readColon
  | rest => .error (.ahead .keyNotString rest)

/-- What the brackets around demand once a value is complete, or once a bracket has just been
opened (`fresh`): the brackets still open and what is unread, at the start of the next value, or
`none` when the outermost value is complete. -/
def afterValue : (fuel : Nat) → (fresh : Bool) → List Bracket → List Char →
    Except Failure (Option (List Bracket) × List Char)
  | _, _, [], s => .ok (none, s)
  | 0, _, _, s => .error (.here .tooDeep s)
  | fuel + 1, fresh, bracket :: outer, s =>
    let begin_ (rest : List Char) : Except Failure (Option (List Bracket) × List Char) :=
      match bracket with
      | .list => .ok (some (bracket :: outer), rest)
      | .object => (skipName rest).map (some (bracket :: outer), ·)
    match bracket, skipBlanks s with
    | .list, [] => .error (.here .endInList [])
    | .object, [] => .error (.here .endInObject [])
    | .list, ']' :: rest => afterValue fuel false outer rest
    | .object, '\x7d' :: rest => afterValue fuel false outer rest
    | .list, c :: rest =>
      if fresh then begin_ (c :: rest)
      else if c = ',' then begin_ rest
      else .error (.ahead .expectedListEnd (c :: rest))
    | .object, c :: rest =>
      if fresh then begin_ (c :: rest)
      else if c = ',' then begin_ rest
      else .error (.ahead .expectedObjectEnd (c :: rest))

/-- Passes over one scalar, or opens a bracket. -/
def skipWord (s : List Char) : Except Failure (Option Bracket × List Char) :=
  match skipBlanks s with
  | [] => .error (.ahead .endInValue [])
  | 'n' :: rest => (readWord ['u', 'l', 'l'] rest).map (none, ·)
  | 't' :: rest => (readWord ['r', 'u', 'e'] rest).map (none, ·)
  | 'f' :: rest => (readWord ['a', 'l', 's', 'e'] rest).map (none, ·)
  | '-' :: rest => (skipNumber rest).map (none, ·)
  | '"' :: rest => (skipString rest).map (none, ·)
  | '[' :: rest => .ok (some .list, rest)
  | '\x7b' :: rest => .ok (some .object, rest)
  | c :: rest =>
    if (Text.digit? c).isSome then (skipNumber (c :: rest)).map (none, ·)
    else .error (.ahead .expectedValue (c :: rest))

/-- Passes over a value inside the brackets that are open. -/
def skipValueWith : (fuel : Nat) → List Bracket → List Char → Except Failure (List Char)
  | 0, _, s => .error (.here .tooDeep s)
  | fuel + 1, around, s =>
    match skipWord s with
    | .error f => .error f
    | .ok (opened, rest) =>
      let around := opened.toList ++ around
      match afterValue (around.length + rest.length + 1) opened.isSome around rest with
      | .error f => .error f
      | .ok (none, rest) => .ok rest
      | .ok (some around, rest) => skipValueWith fuel around rest

/-- Passes over a value. -/
def skipValue (s : List Char) : Except Failure (List Char) := skipValueWith (s.length + 1) [] s

end SessionHub.Json
