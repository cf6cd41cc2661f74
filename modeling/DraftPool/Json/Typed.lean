import DraftPool.Json.Reader

/-
Reading a list of records of a known type straight from text, stopping at the first fault.
-/

namespace DraftPool.Json

/-- Where reading a typed text first went wrong. -/
inductive TypedFault where
  | malformed
  | mistyped
  deriving DecidableEq, Repr

/-- The type of a field of a record. -/
inductive FieldType where
  | int (lo hi : Int)
  | string
  | bool
  deriving DecidableEq, Repr

/-- Lifts a fault of the text. -/
def textFault {α : Type} : Except ReadError α → Except TypedFault α
  | .ok a => .ok a
  | .error _ => .error .malformed

/-- The fault for a value of the wrong type starting at `c`: the value is read as far as it
takes to tell its type, and a fault in that part of the text comes first. -/
def wrongType (c : Char) (rest : List Char) : TypedFault :=
  let afterReading {α : Type} (r : Except ReadError α) : TypedFault :=
    match r with
    | .ok _ => .mistyped
    | .error _ => .malformed
  if c = 'n' then afterReading (readWord ['u', 'l', 'l'] rest)
  else if c = 't' then afterReading (readWord ['r', 'u', 'e'] rest)
  else if c = 'f' then afterReading (readWord ['a', 'l', 's', 'e'] rest)
  else if c = '-' || c.isDigit then afterReading (readNumber (c :: rest))
  else if c = '"' then afterReading (readString rest)
  else if c = '[' || c = '{' then .mistyped
  else .malformed

/-- Reads a field's value after any blanks. -/
def readField (ty : FieldType) (cs : List Char) : Except TypedFault (Json × List Char) :=
  match skipBlank cs, ty with
  | [], _ => .error .malformed
  | c :: rest, .int lo hi =>
    if c = '-' || c.isDigit then
      match readNumber (c :: rest) with
      | .ok (.int n, after) => if lo ≤ n ∧ n ≤ hi then .ok (.number (.int n), after) else .error .mistyped
      | .ok (.float _, _) => .error .mistyped
      | .error _ => .error .malformed
    else .error (wrongType c rest)
  | c :: rest, .string =>
    if c = '"' then textFault ((readString rest).map fun (s, after) => (.string s, after))
    else .error (wrongType c rest)
  | c :: rest, .bool =>
    if c = 't' then textFault ((readWord ['r', 'u', 'e'] rest).map fun after => (.bool true, after))
    else if c = 'f' then
      textFault ((readWord ['a', 'l', 's', 'e'] rest).map fun after => (.bool false, after))
    else .error (wrongType c rest)

/-- The text at the next element of a sequence, or none at its closing bracket, which is left
unread. `first` holds before the first element. -/
def nextElement (first : Bool) (cs : List Char) : Except TypedFault (Option (List Char)) :=
  match skipBlank cs with
  | ']' :: _ => .ok none
  | [] => .error .malformed
  | ',' :: after =>
    if first then .error .malformed
    else
      match skipBlank after with
      | ']' :: _ => .error .malformed
      | [] => .error .malformed
      | more => .ok (some more)
  | more => if first then .ok (some more) else .error .malformed

/-- Reads the fields of a record written as an array, then its closing bracket. -/
def readFieldSeq (first : Bool) : List (String × FieldType) → List Char →
    Except TypedFault (List Json × List Char)
  | [], cs =>
    match skipBlank cs with
    | ']' :: after => .ok ([], after)
    | _ => .error .malformed
  | (_, ty) :: rest, cs =>
    match nextElement first cs with
    | .error e => .error e
    | .ok none => .error .mistyped
    | .ok (some here) =>
      match readField ty here with
      | .error e => .error e
      | .ok (v, after) =>
        match readFieldSeq false rest after with
        | .ok (vs, more) => .ok (v :: vs, more)
        | .error e => .error e

/-- The text at the next key of an object after its opening quote, or none at its closing brace,
which is left unread. -/
def nextKey (first : Bool) (cs : List Char) : Except TypedFault (Option (List Char)) :=
  match skipBlank cs with
  | '}' :: _ => .ok none
  | [] => .error .malformed
  | ',' :: after =>
    if first then .error .malformed
    else
      match skipBlank after with
      | '"' :: more => .ok (some more)
      | _ => .error .malformed
  | '"' :: more => if first then .ok (some more) else .error .malformed
  | _ => .error .malformed

/-- Reads the members of a record written as an object, up to its closing brace, which is left
unread; `found` holds the fields read so far by name. -/
def readMembers (fields : List (String × FieldType)) :
    Nat → Bool → List (String × Json) → List Char →
      Except TypedFault (List (String × Json) × List Char)
  | 0, _, _, _ => .error .malformed
  | fuel + 1, first, found, cs =>
    match nextKey first cs with
    | .error e => .error e
    | .ok none => .ok (found, cs)
    | .ok (some here) =>
      match readString here with
      | .error _ => .error .malformed
      | .ok (key, afterKey) =>
        let colon : Except TypedFault (List Char) :=
          match skipBlank afterKey with
          | ':' :: after => .ok after
          | _ => .error .malformed
        match fields.find? (·.1 == key) with
        | some (_, ty) =>
          if found.any (·.1 == key) then .error .mistyped
          else
            match colon with
            | .error e => .error e
            | .ok afterColon =>
              match readField ty afterColon with
              | .error e => .error e
              | .ok (v, after) => readMembers fields fuel false (found ++ [(key, v)]) after
        | none =>
          match colon with
          | .error e => .error e
          | .ok afterColon =>
            match skipValue (afterColon.length + 1) afterColon with
            | .error _ => .error .malformed
            | .ok after => readMembers fields fuel false found after

/-- Reads one record after any blanks, as its fields' values in order. -/
def readRecord (fields : List (String × FieldType)) (cs : List Char) :
    Except TypedFault (List Json × List Char) :=
  match skipBlank cs with
  | [] => .error .malformed
  | '[' :: rest => readFieldSeq true fields rest
  | '{' :: rest =>
    match readMembers fields (rest.length + 1) true [] rest with
    | .error e => .error e
    | .ok (found, after) =>
      match fields.mapM fun (name, _) => (found.find? (·.1 == name)).map (·.2) with
      | none => .error .mistyped
      | some values =>
        match skipBlank after with
        | '}' :: more => .ok (values, more)
        | _ => .error .malformed
  | c :: rest => .error (wrongType c rest)

/-- Reads the records of a list after its opening bracket, up to its closing bracket. -/
def readRecordItems (fields : List (String × FieldType)) :
    Nat → Bool → List Char → Except TypedFault (List (List Json) × List Char)
  | 0, _, _ => .error .malformed
  | fuel + 1, first, cs =>
    match nextElement first cs with
    | .error e => .error e
    | .ok none =>
      match skipBlank cs with
      | ']' :: after => .ok ([], after)
      | _ => .error .malformed
    | .ok (some here) =>
      match readRecord fields here with
      | .error e => .error e
      | .ok (r, after) =>
        match readRecordItems fields fuel false after with
        | .ok (rs, more) => .ok (r :: rs, more)
        | .error e => .error e

/-- Reads a text as a list of records, each as its fields' values in order. -/
def readRecordList (fields : List (String × FieldType)) (text : String) :
    Except TypedFault (List (List Json)) :=
  let cs := text.toList
  match skipBlank cs with
  | [] => .error .malformed
  | '[' :: rest => (readRecordItems fields (rest.length + 1) true rest).map (·.1)
  | c :: rest => .error (wrongType c rest)

end DraftPool.Json
