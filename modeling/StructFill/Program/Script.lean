import StructFill.Text

/-! # Scripts

  A script is a list of commands. A command is a list of words with changes to
  where its output goes, or a choice between scripts by the shape of a word.

  **Words** consist of characters and values that are only known when the
  script runs. Quotes keep a value in one piece, and keep a star from standing
  for any text.

  **Reading** happens in two steps: marks are cut out of the text, and
  commands are built from the marks. Whatever is not described here makes the
  text unreadable.
-/

namespace StructFill.Program

/-- A value that is known when a script runs. -/
inductive Script.Value where
  | variable (name : String)
  /-- All arguments, in one text. -/
  | all
  /-- All arguments, each for itself. -/
  | each
  /-- The argument with a number. -/
  | argument (n : Nat)
  /-- How many arguments there are. -/
  | count
  /-- The status of the last command. -/
  | status
deriving DecidableEq

/-- A piece of a word. -/
inductive Script.Piece where
  | char (c : Char)
  /-- A star that stands for any text. -/
  | star
  | value (v : Script.Value) (quoted : Bool)
deriving DecidableEq

/-- The character that a piece is. -/
def Script.Piece.char? : Script.Piece → Option Char
  | .char c => some c
  | _ => none

abbrev Script.Word := List Script.Piece

/-- A channel of a command. -/
inductive Script.Channel where
  | output
  | errors
deriving DecidableEq

/-- Where a channel goes. -/
inductive Script.Target where
  | nowhere
  /-- Where another channel goes. -/
  | channel (c : Script.Channel)
deriving DecidableEq

/-- Under which status of the command before it a command is run. -/
inductive Script.Condition where
  | always
  | afterSuccess
  | afterFailure
deriving DecidableEq

mutual

inductive Script.Command where
  | simple (words : List Script.Word) (targets : List (Script.Channel × Script.Target))
  /-- The first branch with a pattern that the word fits is run. -/
  | choice (subject : Script.Word) (branches : Script.Branches)

inductive Script.Branches where
  | none
  | more (patterns : List Script.Word) (body : Script) (rest : Script.Branches)

inductive Script where
  | nothing
  | next (condition : Script.Condition) (command : Script.Command) (rest : Script)

end

namespace Script

/-! ## Marks -/

/-- A mark of the text. -/
inductive Mark where
  | word (w : Word) (bare : Bool)
  | lineEnd
  | semicolon
  | branchEnd
  | both
  | either
  | bar
  | opening
  | closing
  | target (c : Channel) (t : Target)
deriving DecidableEq

def isNameChar (c : Char) : Bool := c.isAlphanum || c == '_'

/-- The value behind a dollar sign, and how many characters name it. -/
def value? : List Char → Option (Value × Nat)
  | '*' :: _ => some (.all, 1)
  | '@' :: _ => some (.each, 1)
  | '#' :: _ => some (.count, 1)
  | '?' :: _ => some (.status, 1)
  | '\x7b' :: rest =>
    let name := rest.takeWhile isNameChar
    if name = [] ∨ (rest.drop name.length).head? ≠ some '\x7d' then none
    else some (.variable (String.ofList name), name.length + 2)
  | c :: rest =>
    if c.isDigit then some (.argument (c.toNat - 48), 1)
    else if isNameChar c then
      let name := c :: rest.takeWhile isNameChar
      some (.variable (String.ofList name), name.length)
    else none
  | [] => none

/-- Characters that end a bare word. -/
def endsWord (c : Char) : Bool := " \t\n;&|<>()".toList.contains c

/-- In which quotes a character stands. -/
inductive Quotes where
  | none
  | single
  | double
deriving DecidableEq

/-- Reads a word of which `w` has been read, latest piece first; `bare` says that nothing in
it was quoted. -/
def word? : Nat → Quotes → Word → Bool → List Char → Option (Word × Bool × List Char)
  | 0, _, _, _, _ => none
  | n + 1, .single, w, bare, cs =>
    match cs with
    | [] => none
    | '\'' :: rest => word? n .none w bare rest
    | c :: rest => word? n .single (.char c :: w) bare rest
  | n + 1, .double, w, bare, cs =>
    match cs with
    | [] => none
    | '"' :: rest => word? n .none w bare rest
    | '\x60' :: _ => none
    | '\\' :: c :: rest =>
      if c = '\n' then word? n .double w bare rest
      else if "\\\"$\x60".toList.contains c then word? n .double (.char c :: w) bare rest
      else word? n .double (.char c :: .char '\\' :: w) bare rest
    | '$' :: rest =>
      match value? rest with
      | some (v, length) => word? n .double (.value v true :: w) bare (rest.drop length)
      | none => word? n .double (.char '$' :: w) bare rest
    | c :: rest => word? n .double (.char c :: w) bare rest
  | n + 1, .none, w, bare, cs =>
    match cs with
    | [] => some (w.reverse, bare, [])
    | '\'' :: rest => word? n .single w false rest
    | '"' :: rest => word? n .double w false rest
    | '\x60' :: _ => none
    | '\\' :: '\n' :: rest => word? n .none w bare rest
    | '\\' :: c :: rest => word? n .none (.char c :: w) false rest
    | '$' :: rest =>
      match value? rest with
      | some (v, length) => word? n .none (.value v false :: w) false (rest.drop length)
      | none => word? n .none (.char '$' :: w) bare rest
    | '*' :: rest => word? n .none (.star :: w) false rest
    | c :: rest =>
      if endsWord c then some (w.reverse, bare, cs) else word? n .none (.char c :: w) bare rest

/-- The target behind a `>` sign. -/
def target? (cs : List Char) : Option (Target × List Char) :=
  match cs with
  | '&' :: '1' :: rest => some (.channel .output, rest)
  | '&' :: '2' :: rest => some (.channel .errors, rest)
  | _ =>
    match word? (cs.length + 1) .none [] true (cs.dropWhile (· == ' ')) with
    | some (w, _, rest) =>
      if w = "/dev/null".toList.map Piece.char then some (.nowhere, rest) else none
    | none => none

/-- The marks of a text. -/
def marks? : Nat → List Char → Option (List Mark)
  | 0, _ => none
  | n + 1, cs =>
    match cs with
    | [] => some []
    | ' ' :: rest | '\t' :: rest => marks? n rest
    | '\\' :: '\n' :: rest => marks? n rest
    | '\n' :: rest => (marks? n rest).map (.lineEnd :: ·)
    | '#' :: rest => marks? n (rest.dropWhile (· != '\n'))
    | ';' :: ';' :: rest => (marks? n rest).map (.branchEnd :: ·)
    | ';' :: rest => (marks? n rest).map (.semicolon :: ·)
    | '&' :: '&' :: rest => (marks? n rest).map (.both :: ·)
    | '|' :: '|' :: rest => (marks? n rest).map (.either :: ·)
    | '|' :: rest => (marks? n rest).map (.bar :: ·)
    | '(' :: rest => (marks? n rest).map (.opening :: ·)
    | ')' :: rest => (marks? n rest).map (.closing :: ·)
    | '1' :: '>' :: rest | '>' :: rest => do
      let (t, rest) ← target? rest
      (marks? n rest).map (.target .output t :: ·)
    | '2' :: '>' :: rest => do
      let (t, rest) ← target? rest
      (marks? n rest).map (.target .errors t :: ·)
    | '<' :: _ | '&' :: _ => none
    | _ => do
      let (w, bare, rest) ← word? (cs.length + 1) .none [] true cs
      (marks? n rest).map (.word w bare :: ·)

/-! ## Commands -/

/-- The text of a bare word. -/
def Mark.bareText? : Mark → Option String
  | .word w true =>
    (w.mapM Piece.char?).map String.ofList
  | _ => none

/-- Words that begin or end a part of a script. -/
def isReserved (m : Mark) : Bool :=
  match m.bareText? with
  | some s =>
    ["case", "esac", "if", "then", "else", "elif", "fi", "for", "while", "until", "do", "done",
      "\x7b", "\x7d", "!"].contains s
  | none => false

def isLineEnd (m : Mark) : Bool := m == .lineEnd

/-- The words and targets of a simple command. -/
def simple : List Mark → List Word × List (Channel × Target) × List Mark
  | .word w _ :: rest =>
    let (ws, ts, r) := simple rest
    (w :: ws, ts, r)
  | .target c t :: rest =>
    let (ws, ts, r) := simple rest
    (ws, (c, t) :: ts, r)
  | ms => ([], [], ms)

/-- The patterns of a branch up to the closing parenthesis. -/
def patterns? : List Mark → Option (List Word × List Mark)
  | .word w _ :: .closing :: rest => some ([w], rest)
  | .word w _ :: .bar :: rest => (patterns? rest).map fun (ws, r) => (w :: ws, r)
  | _ => none

mutual

/-- The commands up to the end of a branch or of the text. -/
def script? : Nat → List Mark → Option (Script × List Mark)
  | 0, _ => none
  | n + 1, ms =>
    match ms with
    | [] => some (.nothing, [])
    | .lineEnd :: rest => script? n rest
    | .branchEnd :: _ => some (.nothing, ms)
    | m :: _ => if m.bareText? = some "esac" then some (.nothing, ms) else conditional? n .always ms

/-- A command under a condition, and those behind it. -/
def conditional? : Nat → Condition → List Mark → Option (Script × List Mark)
  | 0, _, _ => none
  | n + 1, condition, ms => do
    let (command, rest) ← command? n ms
    let (others, rest) ←
      match rest with
      | .both :: rest => conditional? n .afterSuccess (rest.dropWhile isLineEnd)
      | .either :: rest => conditional? n .afterFailure (rest.dropWhile isLineEnd)
      | .semicolon :: rest => script? n rest
      | .lineEnd :: rest => script? n rest
      | .branchEnd :: _ | [] => some (.nothing, rest)
      | _ => none
    some (.next condition command others, rest)

/-- One command. -/
def command? : Nat → List Mark → Option (Command × List Mark)
  | 0, _ => none
  | n + 1, ms =>
    match ms with
    | [] => none
    | m :: rest =>
      if m.bareText? = some "case" then
        match rest with
        | .word subject _ :: rest =>
          match rest.dropWhile isLineEnd with
          | m' :: rest =>
            if m'.bareText? = some "in" then
              (branches? n rest).map fun (bs, r) => (.choice subject bs, r)
            else none
          | [] => none
        | _ => none
      else if isReserved m then none
      else
        match simple ms with
        | ([], [], _) => none
        | (ws, ts, r) => some (.simple ws ts, r)

/-- The branches of a choice and the word that ends it. -/
def branches? : Nat → List Mark → Option (Branches × List Mark)
  | 0, _ => none
  | n + 1, ms =>
    match ms with
    | [] => none
    | .lineEnd :: rest => branches? n rest
    | m :: rest =>
      if m.bareText? = some "esac" then some (.none, rest)
      else do
        let (ps, rest) ← patterns? (if m = .opening then rest else ms)
        let (body, rest) ← script? n rest
        let rest :=
          match rest with
          | .branchEnd :: rest => rest
          | _ => rest
        let (others, rest) ← branches? n rest
        some (.more ps body others, rest)

end

/-- The script that a text is. -/
def ofText? (cs : List Char) : Option Script := do
  let ms ← marks? (cs.length + 1) cs
  let (s, rest) ← script? (3 * ms.length + 3) ms
  if rest = [] then some s else none

end Script
end StructFill.Program
