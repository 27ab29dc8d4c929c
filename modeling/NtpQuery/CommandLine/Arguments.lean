import NtpQuery.Text.DecimalDigit
import NtpQuery.Text.Quoted
import NtpQuery.Text.Split

/-!
# Reading argument lists

A program's arguments are flags and one positional. A flag has a long name, a
short one or both. A long name may be cut as long as it stays unambiguous, a
value follows its flag as the next argument or behind an equals sign, and
short flags without values may be run together, also behind an equals sign.
Behind `--` nothing is a flag, and `--` is no value either: a flag that has it
for a value is given without one.

Before any argument is acted on, all of them are told apart: an ambiguous name
is refused wherever it stands. The arguments are then taken from left to
right, so the first mistake is the one reported. A negative number is no flag
and neither is an unknown name with a blank in it. What nothing takes is left
over, in order.
-/

namespace NtpQuery.CommandLine

/-- Why reading ended early. -/
inductive Stop where
  | help
  /-- A program refuses its arguments. -/
  | refused (program message : String)
  deriving DecidableEq, Repr

structure Flag (ι : Type) where
  names : List String
  id : ι
  takesValue : Bool := false
  deriving Repr

/-- The flag as messages show it. -/
def Flag.title {ι : Type} (flag : Flag ι) : String := "/".intercalate flag.names

/-- What an argument is. A flag may have text attached to its name. -/
inductive Role (ι : Type) where
  | separator
  | plain
  | unknown
  | flag (flag : Flag ι) (name : List Char) (attached : Option (List Char))

structure Token (ι : Type) where
  text : String
  role : Role ι

namespace Token

variable {ι : Type}

def isFlag (token : Token ι) : Bool :=
  match token.role with
  | .unknown | .flag .. => true
  | _ => false

def isSeparator (token : Token ι) : Bool :=
  match token.role with
  | .separator => true
  | _ => false

def isPlain (token : Token ι) : Bool :=
  match token.role with
  | .plain => true
  | _ => false

end Token

/-- Where the positional of a program ends. -/
inductive Extent where
  | oneArgument
  /-- It takes all that follows, flags included. -/
  | toTheEnd
  deriving DecidableEq, Repr

structure Grammar (ι : Type) where
  program : String
  flags : List (Flag ι)
  positional : String
  extent : Extent

namespace Grammar

variable {ι : Type} (grammar : Grammar ι)

/-- All names with their flags, in the order of declaration. -/
def names : List (List Char × Flag ι) :=
  grammar.flags.flatMap fun flag => flag.names.map fun name => (name.toList, flag)

def find? (name : List Char) : Option (Flag ι) :=
  (grammar.names.find? fun entry => entry.1 = name).map (·.2)

/-- A text before its first equals sign and, if there is one, behind it. -/
def splitEquals (text : List Char) : List Char × Option (List Char) :=
  match text.dropWhile (· ≠ '=') with
  | [] => (text, none)
  | _ :: value => (text.takeWhile (· ≠ '='), some value)

/-- The flags that an argument may mean that is no full name. A long name is cut
at its end; a short one may have its value directly behind it. -/
def candidates (text : List Char) : List (List Char × Flag ι × Option (List Char)) :=
  match text with
  | '-' :: '-' :: _ =>
    let (start, value) := splitEquals text
    (grammar.names.filter fun (name, _) => start.isPrefixOf name).map fun (name, flag) =>
      (name, flag, value)
  | _ =>
    grammar.names.filterMap fun (name, flag) =>
      if name = text.take 2 then some (name, flag, some (text.drop 2))
      else if text.isPrefixOf name then some (name, flag, none)
      else none

/-- A minus sign with digits, or with digits around or behind a point. A line
feed at the end is overlooked. -/
def isNegativeNumber (text : List Char) : Bool :=
  match text with
  | '-' :: rest =>
    let rest := if rest.getLast? = some '\n' then rest.dropLast else rest
    match Text.split '.' rest with
    | [whole] => !whole.isEmpty && whole.all Text.isDecimalDigit
    | [whole, fraction] =>
      whole.all Text.isDecimalDigit && !fraction.isEmpty && fraction.all Text.isDecimalDigit
    | _ => false
  | _ => false

/-- The role of an argument in front of any separator. -/
def roleOf (argument : String) : Except Stop (Role ι) :=
  let text := argument.toList
  if text.head? ≠ some '-' then .ok .plain
  else
    match grammar.find? text with
    | some flag => .ok (.flag flag text none)
    | none =>
      if text.length = 1 then .ok .plain
      else
        let (name, value) := splitEquals text
        match value, grammar.find? name with
        | some value, some flag => .ok (.flag flag name (some value))
        | _, _ =>
          match grammar.candidates text with
          | [(name, flag, attached)] => .ok (.flag flag name attached)
          | [] =>
            if isNegativeNumber text || ' ' ∈ text then .ok .plain else .ok .unknown
          | several =>
            let matching := ", ".intercalate (several.map fun (name, _) => String.ofList name)
            .error (.refused grammar.program
              ("ambiguous option: " ++ argument ++ " could match " ++ matching))

/-- Tells all arguments apart. -/
def tokens : List String → Except Stop (List (Token ι))
  | [] => .ok []
  | argument :: rest =>
    if argument = "--" then .ok (⟨argument, .separator⟩ :: rest.map (⟨·, .plain⟩))
    else
      match grammar.roleOf argument with
      | .error stop => .error stop
      | .ok role => (tokens rest).map (⟨argument, role⟩ :: ·)

/-- What the reader acts on. The value of a flag is none for a flag that takes
none or is given without one. -/
inductive Action (ι : Type) where
  | flag (flag : Flag ι) (value : Option String)
  | positional (arguments : List String)

def argumentError {α : Type} (title message : String) : Except Stop α :=
  .error (.refused grammar.program ("argument " ++ title ++ ": " ++ message))

/-- A text as the value of a flag. -/
def valueOf (text : String) : Option String :=
  if text = "--" then none else some text

/-- What one argument with a flag amounts to. -/
structure Cluster (ι : Type) where
  /-- The flags that are complete, newest first. -/
  completeRev : List (Action ι) := []
  /-- A flag that waits for the next argument. -/
  open? : Option (Flag ι) := none

/-- A flag without attached text. -/
def bare (flag : Flag ι) (completeRev : List (Action ι)) : Cluster ι :=
  if flag.takesValue then { completeRev, open? := some flag }
  else { completeRev := .flag flag none :: completeRev }

def ignoredValue {α : Type} (flag : Flag ι) (value : List Char) : Except Stop α :=
  grammar.argumentError flag.title
    ("ignored explicit argument " ++ Text.quoted (String.ofList value))

/-- A flag with text attached: its value or, behind a `short` flag without one,
further short flags. Text that is neither is refused whole. -/
def cluster (flag : Flag ι) (short : Bool) (completeRev : List (Action ι)) :
    (attached : List Char) → Except Stop (Cluster ι)
  | [] =>
    if flag.takesValue then .ok { completeRev := .flag flag (some "") :: completeRev }
    else grammar.ignoredValue flag []
  | c :: rest =>
    if flag.takesValue then
      .ok { completeRev := .flag flag (valueOf (String.ofList (c :: rest))) :: completeRev }
    else
      match if short then grammar.find? ['-', c] else none, rest with
      | none, _ => grammar.ignoredValue flag (c :: rest)
      | some next, [] => .ok (bare next (.flag flag none :: completeRev))
      | some next, other :: more =>
        cluster next true (.flag flag none :: completeRev) (other :: more)
termination_by attached => attached.length

def isShort (name : List Char) : Bool := name[1]? ≠ some '-'

/-- What a flag argument amounts to. -/
def clusterOf (flag : Flag ι) (name : List Char) (attached : Option (List Char)) :
    Except Stop (Cluster ι) :=
  match attached with
  | none => .ok (bare flag [])
  | some text => grammar.cluster flag (isShort name) [] text

/-- How many arguments the positional takes at the start of the tokens. -/
def positionalSize? (tokens : List (Token ι)) : Option Nat :=
  let behind := tokens.dropWhile Token.isSeparator
  match behind with
  | [] => none
  | first :: rest =>
    if first.isPlain then
      match grammar.extent with
      | .toTheEnd => some tokens.length
      | .oneArgument =>
        some (tokens.length - behind.length + 1 + (rest.takeWhile Token.isSeparator).length)
    else none

/-- The progress of a reader whose actions build a state. -/
structure Progress (σ : Type) where
  state : σ
  positionalTaken : Bool := false
  /-- Arguments that nothing took, newest first. -/
  leftoversRev : List String := []

namespace Progress

variable {σ : Type}

def leave (progress : Progress σ) (arguments : List String) : Progress σ :=
  { progress with leftoversRev := arguments.reverse ++ progress.leftoversRev }

end Progress

section Reading

variable {σ : Type} (act : σ → Action ι → Except Stop σ)

def perform (progress : Progress σ) : List (Action ι) → Except Stop (Progress σ)
  | [] => .ok progress
  | action :: rest =>
    match act progress.state action with
    | .error stop => .error stop
    | .ok state => perform { progress with state } rest

/-- Takes the positional, if it is still awaited and the tokens start with it. -/
def takePositional (progress : Progress σ) (tokens : List (Token ι)) :
    Except Stop (Option (Progress σ × Nat)) :=
  match if progress.positionalTaken then none else grammar.positionalSize? tokens with
  | none => .ok none
  | some size =>
    let arguments := (tokens.take size).map (·.text)
    match act progress.state (.positional arguments) with
    | .error stop => .error stop
    | .ok state => .ok (some ({ progress with state, positionalTaken := true }, size))

/-- Takes the flag of an argument; the result says how many further arguments it took. -/
def takeFlag (progress : Progress σ) (token : Token ι) (rest : List (Token ι)) :
    Except Stop (Progress σ × Nat) :=
  match token.role with
  | .flag flag name attached =>
    match grammar.clusterOf flag name attached with
    | .error stop => .error stop
    | .ok found =>
      let finished := found.completeRev.reverse
      match found.open?, rest with
      | none, _ => (perform act progress finished).map (·, 0)
      | some flag, next :: _ =>
        if next.isPlain then
          (perform act progress (finished ++ [.flag flag (valueOf next.text)])).map (·, 1)
        else grammar.argumentError flag.title "expected one argument"
      | some flag, [] => grammar.argumentError flag.title "expected one argument"
  | _ => .ok (progress.leave [token.text], 0)

/-- Reads tokens from left to right. The fuel is at least their number. -/
def scan : (fuel : Nat) → Progress σ → List (Token ι) → Except Stop (Progress σ)
  | 0, progress, _ => .ok progress
  | fuel + 1, progress, tokens =>
    if !tokens.any Token.isFlag then
      match grammar.takePositional act progress tokens with
      | .error stop => .error stop
      | .ok (some (progress, size)) => .ok (progress.leave ((tokens.drop size).map (·.text)))
      | .ok none => .ok (progress.leave (tokens.map (·.text)))
    else
      let leading := tokens.takeWhile fun token => !token.isFlag
      let taken :=
        if leading.isEmpty then .ok none else grammar.takePositional act progress tokens
      match taken with
      | .error stop => .error stop
      | .ok (some (progress, size)) => scan fuel progress (tokens.drop size)
      | .ok none =>
        match tokens.drop leading.length with
        | [] => .ok progress
        | token :: rest =>
          match grammar.takeFlag act (progress.leave (leading.map (·.text))) token rest with
          | .error stop => .error stop
          | .ok (progress, further) => scan fuel progress (rest.drop further)

/-- Reads an argument list. The positional is required. The result is the state
and the arguments that nothing took. -/
def read (start : σ) (arguments : List String) : Except Stop (σ × List String) :=
  match grammar.tokens arguments with
  | .error stop => .error stop
  | .ok tokens =>
    match grammar.scan act (tokens.length + 1) { state := start } tokens with
    | .error stop => .error stop
    | .ok progress =>
      if progress.positionalTaken then .ok (progress.state, progress.leftoversRev.reverse)
      else
        .error (.refused grammar.program
          ("the following arguments are required: " ++ grammar.positional))

end Reading

end Grammar

end NtpQuery.CommandLine
