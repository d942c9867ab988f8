import Listing.Json.Decoding

/-!
# Errors

Three things can go wrong with a listing: the configuration, what the client sends,
and the store.  An error has a code for programs, a message for people and the
status with which a server answers.
-/

namespace Listing

/-- What is wrong with the configuration. -/
inductive ConfigError where
  /-- No store has been registered. -/
  | notInitialized
  /-- The text is no configuration. -/
  | unparsable (file : Option String) (message : String)
  | invalidValue (field value message : String)
  | inaccessible (message : String)
  deriving DecidableEq, Repr

/-- What is wrong with one field of a request. -/
structure FieldError where
  field : String
  message : String
  deriving DecidableEq, Repr

/-- What is wrong with a request. -/
inductive RequestError where
  | invalidParameter (parameter value message : String)
  | invalidFields (errors : List FieldError)
  | invalidJson (message : String)
  deriving DecidableEq, Repr

/-- What went wrong in the store. -/
inductive StorageError where
  | queryFailed (message : String)
  | undecodable (table message : String)
  deriving DecidableEq, Repr

/-- An error. -/
inductive Error where
  | config (e : ConfigError)
  | request (e : RequestError)
  | storage (e : StorageError)
  deriving DecidableEq, Repr

namespace ConfigError

/-- The wording. -/
def message : ConfigError → String
  | notInitialized => "Filter factory is not initialized with an execution engine"
  | unparsable (some file) text => s!"Failed to parse config file '{file}': {text}"
  | unparsable none text => s!"Failed to parse config: {text}"
  | invalidValue field value text => s!"Invalid value '{value}' for field '{field}': {text}"
  | inaccessible text => s!"IO error: {text}"

/-- The code. -/
def code : ConfigError → String
  | notInitialized => "NOT_INITIALIZED"
  | _ => "CONFIG_ERROR"

end ConfigError

namespace RequestError

/-- The wording. -/
def message : RequestError → String
  | invalidParameter parameter value text =>
    s!"Invalid value '{value}' for parameter '{parameter}': {text}"
  | invalidFields errors =>
    "Validation errors: " ++ ", ".intercalate (errors.map fun e => e.field ++ ": " ++ e.message)
  | invalidJson text => s!"Invalid JSON: {text}"

/-- The code. -/
def code : RequestError → String
  | invalidParameter _ _ _ => "INVALID_PARAMETER"
  | _ => "VALIDATION_ERROR"

/-- What a program may want to know besides the message. -/
def details? : RequestError → Option Doc
  | invalidParameter parameter value _ =>
    some (.ofMembers [("parameter", .string parameter), ("value", .string value)])
  | invalidFields errors =>
    some (.ofMembers [("fields", .ofList (errors.map fun e =>
      .ofMembers [("field", .string e.field), ("message", .string e.message)]))])
  | invalidJson _ => none

/-- The errors of fields in the order of their names; errors of one field keep theirs. -/
def ofFields (errors : List FieldError) : RequestError :=
  invalidFields (errors.mergeSort fun a b => a.field ≤ b.field)

end RequestError

/-- The wording. -/
def StorageError.message : StorageError → String
  | queryFailed text => s!"Query failed: {text}"
  | undecodable table text => s!"Failed to decode record from '{table}': {text}"

namespace Error

/-- The wording. -/
def message : Error → String
  | config e => e.message
  | request e => e.message
  | storage e => e.message

/-- The code. -/
def code : Error → String
  | config e => e.code
  | request e => e.code
  | storage _ => "STORAGE_ERROR"

/-- The status of the answer: a bad request is the client's fault, the rest the server's. -/
def status : Error → Nat
  | request _ => 400
  | config _ | storage _ => 500

/-- What a program may want to know besides the message. -/
def details? : Error → Option Doc
  | request e => e.details?
  | _ => none

/-- The document of an error. -/
def toDoc (e : Error) : Doc :=
  .ofMembers ([("code", .string e.code), ("message", .string e.message)] ++
    match e.details? with
    | some d => [("details", d)]
    | none => [])

/-- The error of a text that is not the JSON it should be. -/
def ofFault (fault : Fault) : Error := request (.invalidJson fault.message)

end Error

/-! ## Failures of a store -/

/-- How a store reports that it failed: with messages, each the cause of the one before, or
with an error of its own. -/
inductive Failure where
  | messages (outermost : String) (causes : List String)
  | error (e : Error)
  deriving DecidableEq, Repr

/-- A failure as an error: an error stays what it is, and messages are joined. -/
def Failure.toError : Failure → Error
  | messages outermost causes => .storage (.queryFailed (": ".intercalate (outermost :: causes)))
  | error e => e

end Listing
