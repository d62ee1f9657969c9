import FleetAgent.Agent.StartError
import FleetAgent.Config
import FleetAgent.Log
import FleetAgent.Version
/-!
# How the program ends

The program ends with a number and, if it has failed, with a line that says why: the causes of the
failure, from the outermost to the innermost. A cause whose text holds that of its own cause says it
twice.
-/

namespace FleetAgent

/-- How the program ends, as far as it shows outside. -/
inductive ProgramEnding where
  /-- It has done what it was asked to do. -/
  | finished
  /-- It has shown its version. -/
  | version
  /-- It has shown how it is used. -/
  | help
  /-- It was not used as it should be. -/
  | usage
  /-- It has failed, for causes of which each one follows from the next. -/
  | failed (causes : List String)
deriving Repr, DecidableEq

namespace ProgramEnding

/-- The number that the program ends with. -/
def exitCode : ProgramEnding → UInt32
  | .finished | .version | .help => 0
  | .failed _ => 1
  | .usage => 2

/-- What the program shows, if its wording is its own. -/
def shown? : ProgramEnding → Option String
  | .version => some (programName ++ " " ++ FleetAgent.version)
  | _ => none

/-- What the program says about its failure. -/
def complaint? : ProgramEnding → Option String
  | .failed causes => some ("Error: " ++ String.intercalate ": " causes)
  | _ => none

end ProgramEnding

/-! ### Causes -/

/-- The words of the operating system for a fault. -/
def IoFault.message : IoFault → String
  | .notFound => "No such file or directory (os error 2)"
  | .notADirectory => "Not a directory (os error 20)"
  | .isADirectory => "Is a directory (os error 21)"
  | .alreadyExists => "File exists (os error 17)"
  | .invalidPath => "file name contained an unexpected NUL byte"
  | .nameTooLong => "File name too long (os error 36)"

/-- Whether a byte can be the first one of a value. -/
def startsValue (b : UInt8) : Bool :=
  ("ntf-0123456789\"[\x7b".toList.map fun c => UInt8.ofNat c.toNat).contains b

/-- The place behind some bytes: how many lines there are, and how many bytes in the last one. -/
def placeAfter (bytes : List UInt8) : Nat × Nat :=
  bytes.foldl (fun (line, column) (b : UInt8) =>
    if b = 10 then (line + 1, 0) else (line, column + 1)) (1, 0)

/-- What a reader of JSON says about the bytes of a file that is no value from its first byte on;
none if the fault is further behind. -/
def openingFault? (contents : List UInt8) : Option String :=
  let blanks := contents.takeWhile fun b => [9, 10, 13, 32].contains b
  match contents.drop blanks.length with
  | [] => none
  | b :: _ =>
    if startsValue b then none
    else
      let (line, column) := placeAfter (blanks ++ [b])
      some ("expected value at line " ++ toString line ++ " column " ++ toString column)

/-- The causes of a failure to load or save an identity, the outermost first. `contents` is what the
file holds. -/
def IdentityError.causes (contents : List UInt8) : IdentityError → List String
  | .io path fault =>
    ["identity I/O error at " ++ Text.quote path ++ ": " ++ fault.message, fault.message]
  | .corrupt path e =>
    let detail := ((openingFault? contents) <|> e.message?).getD "unreadable"
    ["identity file " ++ Text.quote path ++ " is corrupt: " ++ detail, detail]
  | e => e.message?.toList

/-- The causes of a failure to start. `contents` is what the file of the identity holds. -/
def StartError.causes (contents : List UInt8) : StartError → List String
  | .identity e => e.causes contents
  | .confDir path fault =>
    ["failed to create configuration directory " ++ Text.quote path ++ ": " ++ fault.message,
      fault.message]
  | e => e.message?.toList

namespace ProgramEnding

/-- How the program ends if its settings are refused. Help and the version are asked for in the same
way as settings, but are no failure. -/
def ofConfigError : Config.ConfigError → ProgramEnding
  | .usage .helpRequested => .help
  | .usage .versionRequested => .version
  | .usage _ => .usage
  | .project e => .failed ["invalid project: " ++ e.message, e.message]
  | e => .failed [e.message?.getD ""]

/-- How the program ends if the agent does not start. A shutdown is no failure. -/
def ofStartError (contents : List UInt8) : StartError → ProgramEnding
  | .canceled => .finished
  | e => .failed ("failed to start agent" :: e.causes contents)

end ProgramEnding

/-! ### What the program says about itself -/

namespace Program

/-- How a setting is given. -/
def settingUsage (s : CommandLine.Setting) : String :=
  "  --" ++ s.name ++ " <" ++ s.name ++ ">  [env: " ++ s.environmentName ++ "]" ++
    match s.default? with
    | some value => " [default: " ++ value ++ "]"
    | none => ""

/-- How the program is used. -/
def usage : String :=
  String.intercalate "\n" (("Usage: " ++ programName ++ " [OPTIONS] --project <project>") ::
    Config.settings.map settingUsage)

/-- The event for the shutdown signal. -/
def signalEvent : LogEvent := ⟨.info, "Received shutdown signal", []⟩

/-- The event for a shutdown before the agent has started. -/
def earlyShutdownEvent : LogEvent :=
  ⟨.info, "Shutdown requested before registration completed", []⟩

/-- The event for tasks that were aborted, if there are any. -/
def abortedEvent? (aborted : List String) : Option LogEvent :=
  if aborted.isEmpty then none
  else some ⟨.info, "Some tasks were aborted during shutdown",
    [("aborted", .text (Text.quoteList aborted))]⟩

end Program

end FleetAgent
