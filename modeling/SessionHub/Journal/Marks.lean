import SessionHub.Names
import SessionHub.Text.Digits

/-!
# Sessions by their place

A fresh name says nothing to a reader. What he remembers is which session it was: the first one that
opened, the second. A **mark** names a session so: `@1` is the first whose opening was noted. Texts
are read with marks in place of names and written with names in place of marks. A fresh name whose
session has not opened is shown as `@?`, and a mark of no session stays as it is.
-/

namespace SessionHub.Marks

/-- What every fresh name ends with. -/
def freshEnd : List Char := (freshText 0).toList.drop 13

/-- How many characters a fresh name has. -/
def freshLength : Nat := (freshText 0).toList.length

/-- The fresh name at the beginning of a text. -/
def nameAt? (cs : List Char) : Option SessionId :=
  let name := cs.take freshLength
  let isCount := (name.take 13).all fun c => c = '-' || (Text.hexDigit? c).isSome
  if isCount && name.drop 13 = freshEnd then some ⟨String.ofList name⟩ else none

/-- The mark of a session. -/
def markOf (opened : List SessionId) (id : SessionId) : String :=
  match opened.idxOf? id with
  | some place => s!"@{place + 1}"
  | none => "@?"

/-- The characters of a text with marks in place of fresh names, after `skip` more that belong to a
name. -/
def hideFrom (opened : List SessionId) : (skip : Nat) → List Char → List Char
  | _, [] => []
  | skip + 1, _ :: rest => hideFrom opened skip rest
  | 0, c :: rest =>
    match nameAt? (c :: rest) with
    | some id => (markOf opened id).toList ++ hideFrom opened (freshLength - 1) rest
    | none => c :: hideFrom opened 0 rest

/-- A text with marks in place of fresh names. -/
def hide (opened : List SessionId) (text : String) : String :=
  String.ofList (hideFrom opened 0 text.toList)

/-- The session that a place stands for. -/
def atPlace? (opened : List SessionId) (digits : List Char) : Option SessionId :=
  match Text.unsigned? (twoTo 32) (String.ofList digits) with
  | some (place + 1) => opened[place]?
  | _ => none

/-- The characters of a text with names in place of marks, after `skip` more that belong to a
mark. -/
def showFrom (opened : List SessionId) : (skip : Nat) → List Char → List Char
  | _, [] => []
  | skip + 1, _ :: rest => showFrom opened skip rest
  | 0, c :: rest =>
    let digits := rest.takeWhile Char.isDigit
    match if c = '@' then atPlace? opened digits else none with
    | some id => id.text.toList ++ showFrom opened digits.length rest
    | none => c :: showFrom opened 0 rest

/-- A text with names in place of marks. -/
def reveal (opened : List SessionId) (text : String) : String :=
  String.ofList (showFrom opened 0 text.toList)

end SessionHub.Marks
