import StructFill.Program.Script
import StructFill.Program.Starter
import StructFill.Program.Tool

/-! # A small shell

  The programs of a tree without foreign ones: the tools of the system run by
  themselves, and a script runs when its first line names the tool for scripts.
  A program is started in a directory, which has to be there.
-/

namespace StructFill.Program

namespace Script

/-! ## Words -/

/-- What a running script knows besides its state. -/
structure Context where
  environment : Environment
  arguments : List String

def Value.text (cx : Context) (status : Nat) : Value → String
  | .variable name =>
    if name = "PWD" then cx.environment.disk.workingDirectory.text
    else (cx.environment.settings.lookup name).getD ""
  | .all | .each => String.intercalate " " cx.arguments
  | .argument 0 => ""
  | .argument (i + 1) => cx.arguments[i]?.getD ""
  | .count => toString cx.arguments.length
  | .status => toString status

/-- The characters of a word, and whether a blank among them separates fields. -/
def chars (cx : Context) (status : Nat) (w : Word) : List (Char × Bool) :=
  w.flatMap fun p =>
    match p with
    | .char c => [(c, false)]
    | .star => [('*', false)]
    | .value v quoted => (v.text cx status).toList.map (·, !quoted)

def isLoose : Piece → Bool
  | .value _ quoted => !quoted
  | _ => false

/-- The word as one text. -/
def text (cx : Context) (status : Nat) (w : Word) : String :=
  String.ofList ((chars cx status w).map (·.1))

def isSeparator (c : Char) : Bool := c == ' ' || c == '\t' || c == '\n'

/-- The pieces between the blanks that separate fields. -/
def splitFields : List (Char × Bool) → List (List Char)
  | [] => [[]]
  | (c, loose) :: rest =>
    match splitFields rest with
    | [] => [[c]]
    | f :: fs => if loose && isSeparator c then [] :: f :: fs else (c :: f) :: fs

/-- The fields that a word becomes. -/
def fields (cx : Context) (status : Nat) (w : Word) : List String :=
  match w with
  | [.value .each _] => cx.arguments
  | _ =>
    if w.any isLoose then
      ((splitFields (chars cx status w)).filter (· != [])).map String.ofList
    else [text cx status w]

/-- A pattern with `none` for any text. -/
def pattern (cx : Context) (status : Nat) (w : Word) : List (Option Char) :=
  w.flatMap fun p =>
    match p with
    | .char c => [some c]
    | .star => [none]
    | .value v _ => (v.text cx status).toList.map some

def fits : List (Option Char) → List Char → Bool
  | [], cs => cs.isEmpty
  | none :: ps, cs => (List.range (cs.length + 1)).any fun n => fits ps (cs.drop n)
  | some c :: ps, cs =>
    match cs with
    | d :: rest => c == d && fits ps rest
    | [] => false

/-! ## Commands -/

/-- The state of a running script. -/
structure State where
  input : List UInt8
  outcome : Outcome := {}
  ended : Bool := false

/-- Where the two channels of a command go in the end. -/
def destinations (ts : List (Channel × Target)) : Option Channel × Option Channel :=
  ts.foldl (fun (o, e) (c, t) =>
    let place : Option Channel :=
      match t with
      | .nowhere => none
      | .channel .output => o
      | .channel .errors => e
    match c with
    | .output => (place, e)
    | .errors => (o, place)) (some .output, some .errors)

/-- Bytes that go to a channel. -/
def sent (bs : List UInt8) (place : Option Channel) : Outcome :=
  match place with
  | some .output => { output := bs }
  | some .errors => { errors := bs }
  | none => {}

/-- An outcome whose channels go where they are sent. -/
def redirected (ts : List (Channel × Target)) (o : Outcome) : Outcome :=
  let (out, err) := destinations ts
  { (sent o.output out).andThen (sent o.errors err) with status := o.status }

/-- The command is part of every script. -/
def builtin? (name : String) (arguments : List String) : Option Outcome :=
  if name = ":" then some {}
  else if ["echo", "printf", "true", "false"].contains name then Tool.run? name arguments []
  else none

/-- Runs a tool that a name leads to. -/
def external (cx : Context) (name : String) (arguments : List String) (input : List UInt8) :
    Outcome :=
  match (cx.environment.find? name).map cx.environment.disk.get with
  | some (.ok (.tool tool)) =>
    (Tool.run? tool arguments input).getD (.complaint ("sh: " ++ name ++ ": cannot run") 126)
  | some _ => .complaint ("sh: " ++ name ++ ": cannot run") 126
  | none => .complaint ("sh: " ++ name ++ ": not found") 127

/-- The status with which a script is told to end. -/
def exitStatus (arguments : List String) (status : Nat) : Nat :=
  match arguments with
  | n :: _ => (n.toNat?.getD 2) % 256
  | [] => status

/-- Runs the fields of a simple command. -/
def runFields (cx : Context) (ts : List (Channel × Target)) (s : State) : List String → State
  | [] => { s with outcome := { s.outcome with status := 0 } }
  | "exit" :: arguments =>
    let status := exitStatus arguments s.outcome.status
    { s with outcome := { s.outcome with status := status }, ended := true }
  | "exec" :: name :: arguments =>
    let o := external cx name arguments s.input
    { s with outcome := s.outcome.andThen (redirected ts o), ended := true, input := [] }
  | name :: arguments =>
    match builtin? name arguments with
    | some o => { s with outcome := s.outcome.andThen (redirected ts o) }
    | none =>
      let o := external cx name arguments s.input
      { s with outcome := s.outcome.andThen (redirected ts o), input := [] }

def Condition.holds (status : Nat) : Condition → Bool
  | .always => true
  | .afterSuccess => status == 0
  | .afterFailure => status != 0

mutual

def Command.run (cx : Context) : Command → State → State
  | .simple ws ts, s => runFields cx ts s (ws.flatMap (fields cx s.outcome.status))
  | .choice subject bs, s => bs.run cx (text cx s.outcome.status subject).toList s

def Branches.run (cx : Context) (subject : List Char) : Branches → State → State
  | .none, s => { s with outcome := { s.outcome with status := 0 } }
  | .more ps body rest, s =>
    if ps.any fun w => fits (pattern cx s.outcome.status w) subject then
      body.run cx { s with outcome := { s.outcome with status := 0 } }
    else rest.run cx subject s

def run (cx : Context) : Script → State → State
  | .nothing, s => s
  | .next condition command rest, s =>
    if s.ended then s
    else if condition.holds s.outcome.status then rest.run cx (command.run cx s)
    else rest.run cx s

end

/-- The outcome of a script that is read from a text. -/
def outcome (cx : Context) (cs : List Char) (input : List UInt8) : Outcome :=
  match ofText? cs with
  | some script => (script.run cx { input := input }).outcome
  | none => .complaint "sh: Syntax error" 2

end Script

/-! ## Starting -/

/-- The path behind the two signs that begin a script, and the lines below them. -/
def interpreter? (text : String) : Option (Path × List Char) :=
  match text.toList with
  | '#' :: '!' :: cs =>
    let line := cs.takeWhile (· != '\n')
    let path := (line.dropWhile (· == ' ')).takeWhile (· != ' ')
    some (⟨String.ofList path⟩, cs.drop line.length)
  | _ => none

namespace Shell

/-- The outcome of the program at a path that is run in a directory. -/
def outcome (e : Environment) (program : Path) (arguments : List String) (directory : Path)
    (input : List UInt8) : Except Files.Failure Outcome := do
  let (place, entry) ← e.disk.locate directory
  match entry with
  | some .directory => pure ()
  | some _ => throw .notDirectory
  | none => throw .notFound
  let there : Environment := { e with disk := { e.disk with cwd := place } }
  match ← e.disk.get program with
  | .tool name =>
    match Tool.run? name arguments input with
    | some o => pure o
    | none => throw .notProgram
  | .file (.text s) _ =>
    match interpreter? s with
    | none => throw .notProgram
    | some (path, body) =>
      match ← e.disk.get path with
      | .tool name =>
        if name = Tool.shell then pure (Script.outcome ⟨there, arguments⟩ body input)
        else throw .notProgram
      | _ => throw .notProgram
  | .file (.binary _) _ => throw .notProgram
  | .directory => throw .isDirectory

/-- Starts the program at a path. All of its input is read, and every program ends. -/
def start (e : Environment) (program : Path) (arguments : List String) (directory : Path)
    (input : List UInt8) : Except String Started :=
  match outcome e program arguments directory input with
  | .ok o => .ok ⟨none, .ok o⟩
  | .error failure => .error failure.message

end Shell

/-- Where no other programs are known, they are those of the shell. -/
instance : Starter := ⟨Shell.start⟩

end StructFill.Program
