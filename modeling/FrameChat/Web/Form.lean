import FrameChat.Text.Decimal
import FrameChat.Text.Percent

/-!
# Form fields

Queries and form bodies are sequences of fields.  Fields that nobody asks for
are passed over; a field that is asked for may be given once.  Fields are
checked as they are met, and a required one that was not met is reported last.
-/

namespace FrameChat.Web

/-- Why fields cannot be read. -/
inductive FormFault where
  | missing (name : String)
  | duplicate (name : String)
  | number (refusal : Text.Decimal.Refusal)
  deriving DecidableEq, Repr

/-- How the fault is worded. -/
def FormFault.message : FormFault → String
  | .missing name => "missing field `" ++ name ++ "`"
  | .duplicate name => "duplicate field `" ++ name ++ "`"
  | .number refusal => refusal.message

/-- Names and values. -/
abbrev Fields := List (String × String)

/-- What a field may hold. -/
inductive FieldKind where
  | text
  /-- a count below `2 ^ 32` -/
  | count
  deriving DecidableEq, Repr

/-- A field that is asked for. -/
structure FieldSpec where
  name : String
  kind : FieldKind
  deriving DecidableEq, Repr

/-- Counts in fields lie below this bound. -/
def countBound : Nat := UInt32.size

namespace Form

/-- Split at the first equals sign; without one the value is empty. -/
def splitField (field : List Char) : String × String :=
  (Text.Percent.fieldValue (String.ofList (field.takeWhile (· ≠ '='))),
    Text.Percent.fieldValue (String.ofList ((field.dropWhile (· ≠ '=')).drop 1)))

/-- The fields of a query or a form body. -/
def fields (raw : String) : Fields :=
  ((raw.splitOn "&").filter fun field => !field.isEmpty).map fun field => splitField field.toList

/-- Check the value of a field. -/
def check (kind : FieldKind) (value : String) : Except FormFault Unit :=
  match kind with
  | .text => .ok ()
  | .count =>
      match Text.Decimal.readCount 10 countBound value with
      | .ok _ => .ok ()
      | .error refusal => .error (.number refusal)

/-- Collect the fields that are asked for, after those already met. -/
def collect (specs : List FieldSpec) (met : Fields) : Fields → Except FormFault Fields
  | [] => .ok met
  | (name, value) :: rest =>
      match specs.find? fun spec => spec.name = name with
      | none => collect specs met rest
      | some spec =>
          if (met.lookup name).isSome then .error (.duplicate name)
          else
            match check spec.kind value with
            | .error fault => .error fault
            | .ok () => collect specs (met ++ [(name, value)]) rest

/-- Read the fields that are asked for. -/
def read (specs : List FieldSpec) (required : List String) (raw : String) :
    Except FormFault Fields := do
  let met ← collect specs [] (fields raw)
  match required.find? fun name => (met.lookup name).isNone with
  | some name => throw (.missing name)
  | none => return met

/-- The number in a field, zero if the field was not given. -/
def count (fields : Fields) (name : String) : Nat :=
  match (fields.lookup name).map (Text.Decimal.readCount 10 countBound) with
  | some (.ok value) => value
  | _ => 0

end Form

end FrameChat.Web
