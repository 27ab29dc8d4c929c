import NtpQuery.Binary64.Reading
import NtpQuery.Client
import NtpQuery.CommandLine.Arguments

/-!
# Command line options

The program is called with options, the name of a command and the options and
the host of that command. Numbers may be written as people write them; each is
checked as soon as its option is read. An option that is given without a value
is not refused here: it fails where its value is needed.
-/

namespace NtpQuery.CommandLine

inductive OptionId where
  | help
  | timeout
  | retries
  | port
  | logDir
  | verbose
  deriving DecidableEq, Repr

/-- What an option holds. -/
inductive Setting (α : Type) where
  /-- The option was not given. -/
  | standard
  /-- It was given without a value. -/
  | empty
  | value (a : α)
  deriving DecidableEq, Repr, Inhabited

namespace Setting

variable {α : Type}

/-- The setting for a text that is read as a value, or for none. -/
def ofText? (read : String → Except Stop α) : Option String → Except Stop (Setting α)
  | none => .ok .empty
  | some text => (read text).map .value

/-- The value, if the option was given at all. An option without its value fails. -/
def value? : Setting α → Except Failure (Option α)
  | .standard => .ok none
  | .empty => .error .badType
  | .value a => .ok (some a)

end Setting

structure Options where
  /-- Total timeout in seconds. -/
  timeout : Setting Binary64 := .standard
  retries : Setting Int := .standard
  port : Setting Int := .standard
  /-- Where an event log is written. -/
  logDir : Option String := none
  verbose : Bool := false
  kind : QueryKind := .status
  host : String := ""
  deriving DecidableEq, Repr

/-- The arguments of a command. -/
def commandGrammar (command : String) : Grammar OptionId where
  program := "ntpq " ++ command
  flags := [⟨["-h", "--help"], .help, false⟩]
  positional := "host"
  extent := .oneArgument

/-- The arguments of the program. -/
def programGrammar : Grammar OptionId where
  program := "ntpq"
  flags :=
    [⟨["-h", "--help"], .help, false⟩, ⟨["--timeout"], .timeout, true⟩,
     ⟨["--retries"], .retries, true⟩, ⟨["--port"], .port, true⟩,
     ⟨["--log-dir"], .logDir, true⟩, ⟨["-v", "--verbose"], .verbose, false⟩]
  positional := "command"
  extent := .toTheEnd

def invalidValue {α : Type} (title typeName value : String) : Except Stop α :=
  programGrammar.argumentError title
    ("invalid " ++ typeName ++ " value: " ++ Text.quoted value)

def readRetries (title value : String) : Except Stop Int :=
  match Text.Numeral.read? value.toList with
  | none => invalidValue title "_non_negative_int" value
  | some n =>
    if n < 0 then
      programGrammar.argumentError title ("expected a non-negative integer, got " ++ value)
    else .ok n

def readPort (title value : String) : Except Stop Int :=
  match Text.Numeral.read? value.toList with
  | none => invalidValue title "_port" value
  | some n =>
    if n < 1 ∨ 65535 < n then
      programGrammar.argumentError title ("expected a port in 1..65535, got " ++ value)
    else .ok n

/-- A timeout in seconds. What is not a number is not positive either, but it is
no reason to refuse it here. -/
def readTimeout (title value : String) : Except Stop Binary64 :=
  match Binary64.read? value.toList with
  | none => invalidValue title "_positive_seconds" value
  | some x =>
    match x.compareInt? 0 with
    | some .lt | some .eq =>
      programGrammar.argumentError title
        ("expected a positive number of seconds, got " ++ value)
    | _ => .ok x

/-- The host of a command. -/
def readHost (host : String) : Grammar.Action OptionId → Except Stop String
  | .flag .. => .error .help
  | .positional arguments => .ok ((arguments.erase "--").headD host)

/-- What was read so far, and what the command left over. -/
structure Reading where
  options : Options := {}
  leftovers : List String := []

def commandNames : List String := [QueryKind.time.name, QueryKind.status.name]

def readCommand (reading : Reading) (arguments : List String) : Except Stop Reading :=
  match arguments with
  | [] => .ok reading
  | command :: rest =>
    match QueryKind.ofName? command with
    | none =>
      programGrammar.argumentError "command"
        ("invalid choice: " ++ Text.quoted command ++ " (choose from " ++
          ", ".intercalate (commandNames.map Text.quoted) ++ ")")
    | some kind =>
      ((commandGrammar command).read readHost "" rest).map fun (host, leftovers) =>
        { options := { reading.options with kind, host }, leftovers }

def readOption (reading : Reading) : Grammar.Action OptionId → Except Stop Reading
  | .positional arguments => readCommand reading arguments
  | .flag flag value =>
    let options := reading.options
    match flag.id with
    | .help => .error .help
    | .verbose => .ok { reading with options := { options with verbose := true } }
    | .logDir => .ok { reading with options := { options with logDir := value } }
    | .timeout =>
      (Setting.ofText? (readTimeout flag.title) value).map fun timeout =>
        { reading with options := { options with timeout } }
    | .retries =>
      (Setting.ofText? (readRetries flag.title) value).map fun retries =>
        { reading with options := { options with retries } }
    | .port =>
      (Setting.ofText? (readPort flag.title) value).map fun port =>
        { reading with options := { options with port } }

/-- The options of an argument list. Arguments that nothing takes are refused. -/
def Options.read (arguments : List String) : Except Stop Options :=
  match programGrammar.read readOption {} arguments with
  | .error stop => .error stop
  | .ok (reading, leftovers) =>
    match leftovers ++ reading.leftovers with
    | [] => .ok reading.options
    | unknown =>
      .error (.refused programGrammar.program
        ("unrecognized arguments: " ++ " ".intercalate unknown))

/-- The timeout in whole milliseconds, at least one. -/
def Options.timeoutMs (options : Options) : Except Failure (Option Int) :=
  match options.timeout.value? with
  | .error failure => .error failure
  | .ok none => .ok none
  | .ok (some seconds) =>
    let ms := seconds.mul (.ofInt 1000)
    match ms.truncate? with
    | some n => .ok (some (max 1 n))
    | none => .error (if ms.isNaN then .badValue else .overflow)

/-- The query that the options ask for. -/
def Options.request (options : Options) (timeoutMs : Option Int) : Except Failure Request :=
  match options.retries.value?, options.port.value? with
  | .error failure, _ => .error failure
  | .ok _, .error failure => .error failure
  | .ok retries, .ok port =>
    .ok { host := options.host, port := port.getD standardPort, retries, timeoutMs }

end NtpQuery.CommandLine
