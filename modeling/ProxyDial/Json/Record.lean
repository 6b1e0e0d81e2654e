import ProxyDial.Json.Skip
import ProxyDial.Text.Quoted

set_option autoImplicit false

/-! Records as JSON texts. A record is read field by field into its type: from an object, where
fields stand in any order and unknown members are skipped, or from a list, where they stand in the
order of the type. -/

namespace ProxyDial.Json
open Text

/-- The words for a value, as a misplaced one. -/
def Number.described : Number → String
  | .natural value => "integer `" ++ toString value ++ "`"
  | .negative distance => "integer `-" ++ toString distance ++ "`"
  | .fraction value => "floating point `" ++ Decimal.textOfFloat value ++ "`"

def misplaced (found expected : String) : Problem :=
  .told ("invalid type: " ++ found ++ ", expected " ++ expected)

/-- The stop at a value that is not what its place asks for. `text` starts with the value. -/
def mismatch (expected : String) (text : List Char) : Stop :=
  let told (found : String) (rest : List Char) : Stop := .after (misplaced found expected) rest
  let word (letters found : String) (rest : List Char) : Stop :=
    match readWord letters.toList rest with
    | .ok rest => told found rest
    | .error stop => stop
  let number (positive : Bool) (rest : List Char) : Stop :=
    match readNumber positive rest with
    | .ok (number, rest) => told number.described rest
    | .error stop => stop
  match text with
  | 'n' :: rest => word "ull" "null" rest
  | 't' :: rest => word "rue" "boolean `true`" rest
  | 'f' :: rest => word "alse" "boolean `false`" rest
  | '-' :: rest => number false rest
  | '"' :: rest =>
      match readString rest with
      | .ok (found, rest) => told ("string " ++ quoted found) rest
      | .error stop => stop
  | '[' :: _ => told "sequence" text
  | '\x7b' :: _ => told "map" text
  | c :: rest =>
      if isDigit c then number true (c :: rest) else .here .expectedValue text
  | [] => .here .expectedValue text

/-- A string. -/
def readText (text : List Char) : Except Stop (String × List Char) :=
  match skipSpace text with
  | [] => .error (.here .endInValue [])
  | '"' :: rest => readString rest
  | other => .error (mismatch "a string" other)

/-- A truth value. -/
def readFlag (text : List Char) : Except Stop (Bool × List Char) :=
  match skipSpace text with
  | [] => .error (.here .endInValue [])
  | 't' :: rest => (readWord "rue".toList rest).map fun rest => (true, rest)
  | 'f' :: rest => (readWord "alse".toList rest).map fun rest => (false, rest)
  | other => .error (mismatch "a boolean" other)

/-- A natural number below `2 ^ 64`. -/
def readNatural (text : List Char) : Except Stop (Nat × List Char) :=
  let fit (number : Number) (rest : List Char) : Except Stop (Nat × List Char) :=
    match number with
    | .natural value => .ok (value, rest)
    | .negative _ =>
        .error (.after (.told ("invalid value: " ++ number.described ++ ", expected u64")) rest)
    | .fraction _ => .error (.after (misplaced number.described "u64") rest)
  match skipSpace text with
  | [] => .error (.here .endInValue [])
  | '-' :: rest => do
      let (number, rest) ← readNumber false rest
      fit number rest
  | c :: rest =>
      if isDigit c then do
        let (number, rest) ← readNumber true (c :: rest)
        fit number rest
      else .error (mismatch "u64" (c :: rest))

/-- A value that may be missing: `null` says that it is. -/
def readOptional {α : Type} (read : List Char → Except Stop (α × List Char)) (text : List Char) :
    Except Stop (Option α × List Char) :=
  match skipSpace text with
  | 'n' :: rest => (readWord "ull".toList rest).map fun rest => (none, rest)
  | other => (read other).map fun found => (some found.1, found.2)

/-- One field of a record: its name, and how its value gets into the record. -/
structure Field (σ : Type) where
  name : String
  read : List Char → Except Stop ((σ → σ) × List Char)

/-- A field with the reader of its values and the place for them. -/
def Field.of {σ α : Type} (name : String) (read : List Char → Except Stop (α × List Char))
    (store : α → σ → σ) : Field σ :=
  ⟨name, fun text => (read text).map fun found => (store found.1, found.2)⟩

/-- A type of records. Fields of a record that leaves them out keep the values of `empty`, unless
all fields are required. -/
structure RecordType (σ : Type) where
  name : String
  fields : List (Field σ)
  empty : σ
  allRequired : Bool

namespace RecordType

variable {σ : Type} (type : RecordType σ)

def described : String := "struct " ++ type.name

/-- The text where the next key starts, behind its quote; nothing at the end of the object. -/
def nextKey? (isFirst : Bool) (text : List Char) : Except Stop (Option (List Char)) :=
  match skipSpace text with
  | [] => .error (.here .endInObject [])
  | '\x7d' :: _ => .ok none
  | ',' :: rest =>
      if isFirst then .error (.here .keyNotString (',' :: rest))
      else match skipSpace rest with
        | '"' :: rest => .ok (some rest)
        | '\x7d' :: rest => .error (.here .trailingComma ('\x7d' :: rest))
        | [] => .error (.here .endInValue [])
        | other => .error (.here .keyNotString other)
  | other =>
      if !isFirst then .error (.here .expectedCommaInObject other)
      else match other with
        | '"' :: rest => .ok (some rest)
        | _ => .error (.here .keyNotString other)

def readColon (text : List Char) : Except Stop (List Char) :=
  match skipSpace text with
  | ':' :: rest => .ok rest
  | [] => .error (.here .endInObject [])
  | other => .error (.here .expectedColon other)

/-- The members of an object up to its end. A field must not come twice. Every member takes at least
one character, so `room` steps are enough for a text of `room` characters. -/
def readMembers : (room : Nat) → (seen : List String) → σ → List Char →
    Except Stop (σ × List Char)
  | 0, _, _, text => .error (.here .endInObject text)
  | room + 1, seen, record, text => do
      match ← nextKey? seen.isEmpty text with
      | none =>
          match type.fields.find? fun field => type.allRequired && field.name ∉ seen with
          | some field =>
              .error (.floating (.told ("missing field `" ++ field.name ++ "`")) (skipSpace text))
          | none => return (record, skipSpace text)
      | some keyText =>
          let (key, text) ← readString keyText
          match type.fields.find? (·.name = key) with
          | none =>
              let text ← skipValue (← readColon text)
              readMembers room ("" :: seen) record text
          | some field =>
              if key ∈ seen then
                .error (.floating (.told ("duplicate field `" ++ key ++ "`")) text)
              else
                let (store, text) ← field.read (← readColon text)
                readMembers room (key :: seen) (store record) text

/-- The text where the next entry of a list starts; nothing at the end of the list. -/
def nextEntry? (isFirst : Bool) (text : List Char) : Except Stop (Option (List Char)) :=
  match skipSpace text with
  | [] => .error (.here .endInList [])
  | ']' :: _ => .ok none
  | c :: rest =>
      if isFirst then .ok (some (c :: rest))
      else if c ≠ ',' then .error (.here .expectedCommaInList (c :: rest))
      else match skipSpace rest with
        | [] => .error (.here .endInValue [])
        | ']' :: rest => .error (.here .trailingComma (']' :: rest))
        | other => .ok (some other)

/-- The entries of a list, one for each of the fields, from the `count`th on. -/
def readEntries (count : Nat) : List (Field σ) → σ → List Char →
    Except Stop (σ × List Char)
  | [], record, text => .ok (record, text)
  | field :: fields, record, text => do
      match ← nextEntry? (count = 0) text with
      | some entry =>
          let (store, text) ← field.read entry
          readEntries (count + 1) fields (store record) text
      | none =>
          if type.allRequired then
            .error (.floating
              (.told ("invalid length " ++ toString count ++ ", expected " ++ type.described ++
                " with " ++ toString type.fields.length ++ " elements"))
              (skipSpace text))
          else readEntries (count + 1) fields record text

/-- The text behind the end of an object. -/
def endObject (text : List Char) : Except Stop (List Char) :=
  match skipSpace text with
  | '\x7d' :: rest => .ok rest
  | ',' :: rest => .error (.here .trailingComma (',' :: rest))
  | [] => .error (.here .endInObject [])
  | other => .error (.here .trailingText other)

/-- The text behind the end of a list. -/
def endList (text : List Char) : Except Stop (List Char) :=
  match skipSpace text with
  | ']' :: rest => .ok rest
  | ',' :: rest =>
      match skipSpace rest with
      | ']' :: rest => .error (.here .trailingComma (']' :: rest))
      | other => .error (.here .trailingText other)
  | [] => .error (.here .endInList [])
  | other => .error (.here .trailingText other)

/-- What is unread once the end of an object has been looked for. -/
def behindObject (text : List Char) : List Char :=
  match skipSpace text with
  | '\x7d' :: rest => rest
  | other => other

/-- What is unread once the end of a list has been looked for. -/
def behindList (text : List Char) : List Char :=
  match skipSpace text with
  | ']' :: rest => rest
  | ',' :: rest => skipSpace rest
  | other => other

/-- The record and the text behind its closing bracket. The bracket is looked for also when the
record is unfit, and the place of the stop is where that has led. -/
def closeWith (close : List Char → Except Stop (List Char)) (behind : List Char → List Char)
    (found : Except Stop (σ × List Char)) : Except Stop (σ × List Char) :=
  match found with
  | .ok (record, text) => (close text).map fun rest => (record, rest)
  | .error (.placed problem count) => .error (.placed problem count)
  | .error (.floating problem text) => .error (.after problem (behind text))

/-- The record at the start of a text. -/
def read (text : List Char) : Except Stop (σ × List Char) :=
  match skipSpace text with
  | [] => .error (.here .endInValue [])
  | '[' :: rest => closeWith endList behindList (type.readEntries 0 type.fields type.empty rest)
  | '\x7b' :: rest =>
      closeWith endObject behindObject (type.readMembers (rest.length + 1) [] type.empty rest)
  | other => .error (mismatch type.described other)

/-- The record that the whole text writes, or the words for what is wrong with it. -/
def ofText (text : String) : Except String σ :=
  let chars := text.toList
  match type.read chars with
  | .error stop => .error (stop.message chars)
  | .ok (record, rest) =>
      match skipSpace rest with
      | [] => .ok record
      | other => .error (Stop.message chars (.here .trailingText other))

end RecordType

end ProxyDial.Json
