import Folio.Files.Path

/-!
# Arguments

A command line is a sequence of flags, options with a value, and plain arguments; a dash starts one-letter
names and two dashes start long ones. Each name may be given once. After two dashes alone all that follows
is plain.
-/

namespace Folio.Command

inductive UsageError where
  | unknownArgument
  | missingRequiredArgument
  | invalidSubcommand
  | missingSubcommand
  | invalidValue
  | tooManyValues
  | argumentConflict
  | nothingGiven
deriving DecidableEq, Inhabited

inductive Outcome where
  | usage (error : UsageError)
  | help (topic : Option String)
  | version
deriving DecidableEq, Inhabited

structure Named where
  id : String
  short : Option Char
  long : String
  takesValue : Bool := false
deriving DecidableEq, Inhabited

structure Spec where
  named : List Named := []
  /-- The plain arguments in order, and whether each may be empty. -/
  plain : List (String × Bool) := []
  subcommands : List String := []
  hasVersion : Bool := false
  topic : Option String := none

structure Matches where
  values : List (String × Text) := []
  /-- A value that is still to be checked, or an option that waits for one. -/
  pending : Option (String × Option Text) := none
  count : Nat := 0
deriving DecidableEq, Inhabited

namespace Matches

def has (found : Matches) (id : String) : Bool := (found.values.lookup id).isSome

def get? (found : Matches) (id : String) : Option Text := found.values.lookup id

def isWaiting (found : Matches) : Bool :=
  match found.pending with
  | some (_, none) => true
  | _ => false

def enter (found : Matches) (id : String) (value : Text) : Except Outcome Matches :=
  if found.has id then .error (.usage .argumentConflict)
  else .ok { found with values := found.values ++ [(id, value)], pending := none }

def mayBeEmpty (spec : Spec) (id : String) : Bool := spec.plain.any fun p => p.1 = id && p.2

def resolve (spec : Spec) (found : Matches) : Except Outcome Matches :=
  match found.pending with
  | none => .ok found
  | some (_, none) => .error (.usage .invalidValue)
  | some (id, some value) => do
    let entered ← found.enter id value
    if value = [] && !mayBeEmpty spec id then .error (.usage .invalidValue) else .ok entered

end Matches

def readFlag (spec : Spec) (found : Matches) (flag : Named) : Except Outcome Matches := do
  let found ← found.resolve spec
  if flag.id = "help" then .error (.help spec.topic)
  else if flag.id = "version" then .error .version
  else found.enter flag.id []

def readAttached (spec : Spec) (found : Matches) (option : Named) (value : Text) :
    Except Outcome Matches := do
  let found ← found.resolve spec
  Matches.resolve spec { found with pending := some (option.id, some value) }

def readOption (spec : Spec) (found : Matches) (option : Named) : Except Outcome Matches := do
  return { ← found.resolve spec with pending := some (option.id, none) }

def Spec.allNamed (spec : Spec) : List Named :=
  spec.named ++ [⟨"help", some 'h', "help", false⟩] ++
    (if spec.hasVersion then [⟨"version", some 'V', "version", false⟩] else [])

def readLong (spec : Spec) (found : Matches) (t : Text) : Except Outcome Matches :=
  let (name, value) := match Text.cut? ['='] t with
    | some (name, value) => (name, some value)
    | none => (t, none)
  match spec.allNamed.find? fun named => named.long.toList = name with
  | none => .error (.usage .unknownArgument)
  | some named =>
    match named.takesValue, value with
    | true, some value => readAttached spec found named value
    | true, none => readOption spec found named
    | false, some _ => .error (.usage .tooManyValues)
    | false, none => readFlag spec found named

/-- Reads one-letter names, after their dash. The first one that takes a value takes the rest as it. -/
def readShort (spec : Spec) (found : Matches) : Text → Except Outcome Matches
  | [] => .ok found
  | c :: t =>
    match spec.allNamed.find? fun named => named.short = some c with
    | none => .error (.usage .unknownArgument)
    | some named =>
      if named.takesValue then
        match t with
        | [] => readOption spec found named
        | '=' :: value => readAttached spec found named value
        | value => readAttached spec found named value
      else do readShort spec (← readFlag spec found named) t

/-- Reads a plain argument; `escaped` says that it follows two dashes alone. -/
def readPlain (spec : Spec) (found : Matches) (escaped : Bool) (arg : Text) :
    Except Outcome Matches :=
  match spec.plain[found.count]? with
  | some (id, _) => do
    let found ← found.resolve spec
    return { found with pending := some (id, some arg), count := found.count + 1 }
  | none =>
    if spec.subcommands = [] || (escaped && String.ofList arg ∈ spec.subcommands) then
      .error (.usage .unknownArgument)
    else .error (.usage .invalidSubcommand)

def readArguments (spec : Spec) (found : Matches) (escaped : Bool) :
    List Text → Except Outcome (Matches × Option (String × List Text))
  | [] => .ok (found, none)
  | arg :: args =>
    if escaped then do readArguments spec (← readPlain spec found true arg) true args
    else if !found.isWaiting && String.ofList arg ∈ spec.subcommands then
      .ok (found, some (String.ofList arg, args))
    else
      match arg with
      | ['-', '-'] => readArguments spec found true args
      | '-' :: '-' :: t => do readArguments spec (← readLong spec found t) false args
      | '-' :: c :: t => do readArguments spec (← readShort spec found (c :: t)) false args
      | value =>
        match found.pending with
        | some (id, none) =>
          readArguments spec { found with pending := some (id, some value) } false args
        | _ => do readArguments spec (← readPlain spec found false value) false args

end Folio.Command
