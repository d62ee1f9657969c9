/-!
# Reading a command line

All settings are options of the form `--name value` or `--name=value`, and each of them may be set
by a variable of the environment instead. There are no other arguments, and two flags that ask for
help and for the version.

The arguments are read from left to right. The value of an option that stands in an argument of its
own is looked at only when the option is *settled*: before the next option or flag that is known,
and at the end. So an argument that is not known is reported before a wrong value directly in front
of it, and a wrong value before a flag that follows.
-/

namespace FleetAgent.CommandLine

/-- Why a command line does not give settings, of which the last two are what was asked for. -/
inductive UsageError where
  /-- A setting without a default is not given. -/
  | missingArgument
  /-- An argument is not known. -/
  | unknownArgument
  /-- A value is missing, or is none of those allowed. -/
  | invalidValue
  /-- A value is not of the right form. -/
  | malformedValue
  /-- An option is given twice. -/
  | conflict
  /-- A flag is given a value. -/
  | tooManyValues
  /-- Help is asked for. -/
  | helpRequested
  /-- The version is asked for. -/
  | versionRequested
deriving Repr, DecidableEq

/-- A setting that is given by an option or a variable, whose value must pass `check`. -/
structure Setting where
  /-- The name of the option, without the dashes. -/
  name : String
  /-- The name of the variable. -/
  environmentName : String
  /-- The value if none is given. -/
  default? : Option String
  /-- What is wrong with a value. -/
  check : String → Option UsageError

/-- What has been read of the arguments so far. -/
structure State where
  /-- The options that are settled, with their values. -/
  settled : List (String × String)
  /-- An option that is not settled, with its value if that has been read. -/
  pending : Option (Setting × Option String)

/-- An argument, as far as it shows by itself what it is. -/
inductive Argument where
  /-- Two dashes alone: no option follows. -/
  | escape
  /-- A name behind two dashes, and what stands behind the first equals sign. -/
  | long (name : List Char) (value : Option String)
  /-- Letters behind one dash. -/
  | short (letters : List Char)
  /-- Anything else. -/
  | plain

/-- The form of the argument `s`, by its leading dashes. -/
def Argument.ofString (s : String) : Argument :=
  match s.toList with
  | ['-', '-'] => .escape
  | '-' :: '-' :: r =>
    let name := r.takeWhile (· != '=')
    .long name (match r.drop name.length with
      | [] => none
      | _ :: v => some (String.ofList v))
  | ['-'] => .plain
  | '-' :: r => .short r
  | _ => .plain

/-- Takes the value of an option. An option that is settled cannot be given again, and that is
reported before a wrong value. -/
def State.take (st : State) (setting : Setting) (value : String) : Except UsageError State :=
  if st.settled.any (·.1 == setting.name) then .error .conflict
  else match setting.check value with
    | some e => .error e
    | none => .ok { st with settled := st.settled ++ [(setting.name, value)] }

/-- Settles the option that is not settled, if there is one. -/
def State.settle (st : State) : Except UsageError State :=
  match st.pending with
  | none => .ok st
  | some (_, none) => .error .invalidValue
  | some (setting, some value) => { st with pending := none }.take setting value

/-- What the letters behind one dash ask for: the first of them counts, and settles first what
stands before it. -/
def readShort (st : State) : List Char → Except UsageError State
  | 'h' :: _ => do
    let _ ← st.settle
    throw .helpRequested
  | 'V' :: _ => do
    let _ ← st.settle
    throw .versionRequested
  | _ => .error .unknownArgument

/-- Reads an option or a flag by its name, with the value behind an equals sign if there is one. -/
def readLong (settings : List Setting) (st : State) (name : String) (value : Option String) :
    Except UsageError State :=
  match settings.find? (·.name == name) with
  | some setting => do
    let st ← st.settle
    match value with
    | some v => st.take setting v
    | none => return { st with pending := some (setting, none) }
  | none =>
    if name = "help" ∨ name = "version" then
      match value with
      | some _ => .error .tooManyValues
      | none => do
        let _ ← st.settle
        throw (if name = "help" then .helpRequested else .versionRequested)
    else .error .unknownArgument

/-- Reads the arguments from the state `st` on, from left to right, up to the first error. -/
def readFrom (settings : List Setting) (st : State) : List String → Except UsageError State
  | [] => st.settle
  | s :: r =>
    match Argument.ofString s, st.pending with
    | .escape, _ => if r.isEmpty then st.settle else .error .unknownArgument
    | .long name value, _ => do
      let st ← readLong settings st (String.ofList name) value
      readFrom settings st r
    | .short letters, _ => do
      let st ← readShort st letters
      readFrom settings st r
    | .plain, some (setting, none) =>
      readFrom settings { st with pending := some (setting, some s) } r
    | .plain, _ => .error .unknownArgument

/-- The value of a setting: from its option, else from its variable, else the default. The default
is not checked. -/
def valueOf (settled environment : List (String × String)) (setting : Setting) :
    Except UsageError (Option String) :=
  match settled.lookup setting.name with
  | some v => .ok (some v)
  | none =>
    match environment.lookup setting.environmentName with
    | none => .ok setting.default?
    | some v =>
      match setting.check v with
      | some e => .error e
      | none => .ok (some v)

/-- The values of all settings that have one, by name. Variables are looked at in the order of the
settings, and only for settings without an option. -/
def read (settings : List Setting) (environment : List (String × String)) (args : List String) :
    Except UsageError (List (String × String)) := do
  let st ← readFrom settings ⟨[], none⟩ args
  let values ← settings.mapM fun setting => do
    return (setting.name, ← valueOf st.settled environment setting)
  return values.filterMap fun (name, v) => v.map (name, ·)

end FleetAgent.CommandLine
