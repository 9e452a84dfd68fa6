import StructFill.Path

/-! # Command-line arguments

  **Options.** An option is written with two hyphens and its name, or with one
  hyphen and a letter; letters can be written together. A value is written in
  the next argument, behind an equals sign, or right behind the letter.

  **Order of complaints.** Arguments are read from left to right and the first
  complaint counts. The value of an option is looked at only when the next
  option is recognised or the arguments end, so an unknown option is
  complained about before a bad value in front of it.
-/

namespace StructFill.CommandLine

/-- The options. -/
inductive Switch where
  | input
  | output
  | config
  /-- How the names of the functions begin. -/
  | functionStart
  | noFormat
  | stdout
  | verbose
  | help
  | version
deriving DecidableEq

namespace Switch

/-- The option with a long name. -/
def ofLong? : String → Option Switch
  | "input" => some .input
  | "output" => some .output
  | "config" => some .config
  | "prefix" => some .functionStart
  | "no-format" => some .noFormat
  | "stdout" => some .stdout
  | "verbose" => some .verbose
  | "help" => some .help
  | "version" => some .version
  | _ => none

/-- The option with a letter. -/
def ofLetter? : Char → Option Switch
  | 'i' => some .input
  | 'o' => some .output
  | 'c' => some .config
  | 'v' => some .verbose
  | 'h' => some .help
  | 'V' => some .version
  | _ => none

/-- The option has a value. -/
def takesValue : Switch → Bool
  | .input | .output | .config | .functionStart => true
  | _ => false

/-- The value of the option is a path, which must not be empty. -/
def isPath : Switch → Bool
  | .input | .output | .config => true
  | _ => false

end Switch

/-- Why the arguments do not lead to a run. -/
inductive Refusal where
  /-- The help text is asked for. -/
  | help
  /-- The version is asked for. -/
  | version
  | unknownArgument
  /-- An option is given twice. -/
  | conflict
  /-- A value is attached to an option that has none. -/
  | tooManyValues
  /-- A value is missing or empty. -/
  | invalidValue
  /-- There is no input. -/
  | missingArgument
deriving DecidableEq

/-- What has been read so far. -/
structure Reading where
  /-- The options with a value, latest first. -/
  values : List (Switch × String) := []
  noFormat : Bool := false
  stdout : Bool := false
  verbose : Nat := 0
  /-- The latest option with a value, and the value if it has come. -/
  pending : Option (Switch × Option String) := none

/-- The arguments of a run. -/
structure Arguments where
  input : Path
  output : Option Path
  config : Option Path
  functionStart : Option String
  noFormat : Bool
  stdout : Bool
  /-- How often more messages were asked for. -/
  verbose : Nat
deriving DecidableEq

namespace Reading

/-- The largest count of a repeated option. -/
def countLimit : Nat := 255

/-- Sets the value of an option. -/
def setValue (r : Reading) (s : Switch) (v : String) : Except Refusal Reading :=
  if (r.values.lookup s).isSome then .error .conflict
  else if s.isPath ∧ v = "" then .error .invalidValue
  else .ok { r with values := (s, v) :: r.values }

/-- Settles the pending option. -/
def settle (r : Reading) : Except Refusal Reading :=
  match r.pending with
  | none => .ok r
  | some (_, none) => .error .invalidValue
  | some (s, some v) => { r with pending := none }.setValue s v

/-- Takes note of an option without a value. -/
def flag (r : Reading) (s : Switch) : Except Refusal Reading := do
  let r ← r.settle
  match s with
  | .noFormat => if r.noFormat then .error .conflict else .ok { r with noFormat := true }
  | .stdout => if r.stdout then .error .conflict else .ok { r with stdout := true }
  | .verbose => .ok { r with verbose := min countLimit (r.verbose + 1) }
  | .help => .error .help
  | .version => .error .version
  | _ => .ok r

/-- Takes note of an option with a value, which may follow. -/
def option (r : Reading) (s : Switch) (attached : Option String) : Except Refusal Reading := do
  let r ← r.settle
  match attached with
  | some v => r.setValue s v
  | none => .ok { r with pending := some (s, none) }

/-- Reads an argument with two hyphens, of which the rest is given. -/
def long (r : Reading) (rest : List Char) : Except Refusal Reading :=
  let name := rest.takeWhile (· != '=')
  let attached : Option String :=
    match rest.dropWhile (· != '=') with
    | _ :: v => some (String.ofList v)
    | [] => none
  match Switch.ofLong? (String.ofList name) with
  | none => .error .unknownArgument
  | some s =>
    if s.takesValue then r.option s attached
    else if attached.isSome then .error .tooManyValues
    else r.flag s

/-- Reads the letters behind one hyphen. -/
def letters (r : Reading) : List Char → Except Refusal Reading
  | [] => .ok r
  | c :: rest =>
    match Switch.ofLetter? c with
    | none => .error .unknownArgument
    | some s =>
      if s.takesValue then
        match rest with
        | [] => r.option s none
        | '=' :: v => r.option s (some (String.ofList v))
        | v => r.option s (some (String.ofList v))
      else do
        let r ← r.flag s
        r.letters rest

/-- Reads an argument that is no option. -/
def plain (r : Reading) (arg : String) : Except Refusal Reading :=
  match r.pending with
  | some (s, none) => .ok { r with pending := some (s, some arg) }
  | _ => .error .unknownArgument

/-- Reads all arguments. Behind two bare hyphens no argument is known. -/
def all (r : Reading) : List String → Except Refusal Reading
  | [] => r.settle
  | arg :: args =>
    match arg.toList with
    | ['-', '-'] =>
      match args with
      | [] => r.settle
      | _ :: _ => .error .unknownArgument
    | '-' :: '-' :: rest => do
      let r ← r.long rest
      r.all args
    | '-' :: c :: rest => do
      let r ← r.letters (c :: rest)
      r.all args
    | _ => do
      let r ← r.plain arg
      r.all args

end Reading

namespace Arguments

/-- The arguments of a run; `file` is the input that the environment names, which counts
when no argument does. -/
def read (args : List String) (file : Option String) : Except Refusal Arguments := do
  let r ← Reading.all {} args
  let input ←
    match r.values.lookup .input, file with
    | some v, _ => .ok v
    | none, some v => if v = "" then .error .invalidValue else .ok v
    | none, none => .error .missingArgument
  .ok {
    input := ⟨input⟩
    output := (r.values.lookup .output).map Path.mk
    config := (r.values.lookup .config).map Path.mk
    functionStart := r.values.lookup .functionStart
    noFormat := r.noFormat
    stdout := r.stdout
    verbose := r.verbose }

/-- The input without the quotes that may be left around it. -/
def inputPath (a : Arguments) : Path := a.input.unquoted

/-- The output without the quotes that may be left around it. -/
def outputPath (a : Arguments) : Option Path := a.output.map Path.unquoted

end Arguments

/-- The least level of the messages that are shown. -/
def messageLevel : Nat → String
  | 0 => "warn"
  | 1 => "info"
  | 2 => "debug"
  | _ => "trace"

end StructFill.CommandLine
