import ProxyDial.Text.Quoted

set_option autoImplicit false

/-! How diagnostics show structured values: a name with labelled or unlabelled parts, optional
values, and sequences. -/

namespace ProxyDial.Text

def commas (parts : List String) : String := ", ".intercalate parts

def labelled (fields : List (String × String)) : List String :=
  fields.map fun field => field.1 ++ ": " ++ field.2

/-- A name and its labelled parts. -/
def record (name : String) (fields : List (String × String)) : String :=
  name ++ " \x7b " ++ commas (labelled fields) ++ " \x7d"

/-- The same for a value that has more parts than are shown. -/
def openRecord (name : String) (fields : List (String × String)) : String :=
  name ++ " \x7b " ++ commas (labelled fields ++ [".."]) ++ " \x7d"

/-- A name and its unlabelled parts. -/
def tagged (name : String) (parts : List String) : String := name ++ "(" ++ commas parts ++ ")"

def optional : Option String → String
  | none => "None"
  | some text => tagged "Some" [text]

def sequence (parts : List String) : String := "[" ++ commas parts ++ "]"

/-- What stands in the place of a secret. -/
def redacted : String := quoted "<redacted>"

end ProxyDial.Text
