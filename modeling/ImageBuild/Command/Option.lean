/-!
# Options on a command line

An option has a long name, may have a short one, and is a flag or takes a
value. The value follows as an argument of its own or after an equals sign; the
short name may touch it.
-/
namespace ImageBuild.Command

inductive Arity where
  | flag
  | single
  | repeated
  deriving DecidableEq, Repr

structure OptionSpec where
  name : String
  short : Option Char
  arity : Arity
  /-- The values that may be given. -/
  accepts : String → Bool

/-- An option that was given; a flag has an empty value. -/
structure Given where
  name : String
  value : String
  deriving DecidableEq, Repr

/-- Why the arguments cannot be used. -/
inductive UsageError where
  | unknown (argument : String)
  | missingValue (option : String)
  | unexpectedValue (option : String)
  | invalidValue (option value : String)
  | repeated (option : String)
  | missingOption (option : String)
  | missingCommand
  deriving DecidableEq, Repr

def UsageError.message : UsageError → String
  | .unknown argument => "unexpected argument '" ++ argument ++ "'"
  | .missingValue option => "option '--" ++ option ++ "' needs a value"
  | .unexpectedValue option => "option '--" ++ option ++ "' takes no value"
  | .invalidValue option value => "invalid value '" ++ value ++ "' for option '--" ++ option ++ "'"
  | .repeated option => "option '--" ++ option ++ "' is given more than once"
  | .missingOption option => "option '--" ++ option ++ "' is required"
  | .missingCommand => "a command is required"

namespace OptionSpec

def flag (name : String) (short : Option Char) : OptionSpec := ⟨name, short, .flag, fun _ => true⟩

def text (name : String) : OptionSpec := ⟨name, none, .single, fun _ => true⟩

def texts (name : String) : OptionSpec := ⟨name, none, .repeated, fun _ => true⟩

/-- The path of a file, which is not empty. -/
def path (name : String) : OptionSpec := ⟨name, none, .single, fun s => !s.isEmpty⟩

/-- Add an option to those given before. -/
def give (spec : OptionSpec) (given : List Given) (value : String) :
    Except UsageError (List Given) :=
  if spec.arity ≠ .repeated ∧ given.any (·.name == spec.name) then .error (.repeated spec.name)
  else if spec.accepts value then .ok (given ++ [⟨spec.name, value⟩])
  else .error (.invalidValue spec.name value)

end OptionSpec

/-- Whether an argument is an option and not a value. A hyphen alone is a value. -/
def isOption (argument : String) : Bool :=
  match argument.toList with
  | '-' :: _ :: _ => true
  | _ => false

/-- An argument as an option: its name, long or short, and the text that is
attached to it. -/
inductive Attached where
  | long (name : String) (value : Option String)
  | short (name : Char) (rest : String)
  deriving DecidableEq, Repr

/-- What an argument that is an option says. -/
def attached (argument : String) : Attached :=
  match argument.toList with
  | '-' :: '-' :: cs =>
    let name := String.ofList (cs.takeWhile (· != '='))
    match cs.dropWhile (· != '=') with
    | _ :: value => .long name (some (String.ofList value))
    | [] => .long name none
  | '-' :: c :: cs => .short c (String.ofList cs)
  | cs => .long (String.ofList cs) none

/-- The value that touches a short name. -/
def touchingValue (rest : String) : Option String :=
  match rest.toList with
  | [] => none
  | '=' :: cs => some (String.ofList cs)
  | cs => some (String.ofList cs)

/-- What is left of an argument once an option has been found in it. -/
inductive Remainder where
  | none
  | value (text : String)
  /-- More short flags. -/
  | flags (argument : String)
  deriving DecidableEq, Repr

/-- The option that an argument is, and what is left of the argument. -/
def findOption (specs : List OptionSpec) (argument : String) :
    Except UsageError (OptionSpec × Remainder) :=
  match attached argument with
  | .long name value =>
    match specs.find? (·.name == name), value with
    | Option.none, _ => .error (.unknown argument)
    | some spec, Option.none => .ok (spec, .none)
    | some spec, some v =>
      if spec.arity = .flag then .error (.unexpectedValue name) else .ok (spec, .value v)
  | .short c rest =>
    match specs.find? (·.short == some c) with
    | Option.none => .error (.unknown argument)
    | some spec =>
      if spec.arity = .flag then
        .ok (spec, if rest.isEmpty then .none else .flags ("-" ++ rest))
      else .ok (spec, ((touchingValue rest).map Remainder.value).getD .none)

/-- The options in front of the first argument that is none, and the arguments
from that one on. An option in `stops` ends the list at once. -/
def readOptions (specs : List OptionSpec) (stops : List String) :
    Nat → List Given → List String → Except UsageError (List Given × List String)
  | 0, given, args => .ok (given, args)
  | _ + 1, given, [] => .ok (given, [])
  | fuel + 1, given, a :: args =>
    if a = "--" then
      match args with
      | [] => .ok (given, [])
      | b :: _ => .error (.unknown b)
    else if !isOption a then .ok (given, a :: args)
    else do
      let (spec, remainder) ← findOption specs a
      match spec.arity, remainder with
      | .flag, .flags more =>
        let given ← spec.give given ""
        if stops.contains spec.name then .ok (given, [])
        else readOptions specs stops fuel given (more :: args)
      | .flag, _ =>
        let given ← spec.give given ""
        if stops.contains spec.name then .ok (given, [])
        else readOptions specs stops fuel given args
      | _, .value v => readOptions specs stops fuel (← spec.give given v) args
      | _, _ =>
        match args with
        | [] => .error (.missingValue spec.name)
        | v :: rest =>
          if isOption v then .error (.missingValue spec.name)
          else readOptions specs stops fuel (← spec.give given v) rest

/-- How many steps reading a list of arguments may take. -/
def optionSteps (args : List String) : Nat := args.foldr (fun a n => a.length + 1 + n) 1

end ImageBuild.Command
