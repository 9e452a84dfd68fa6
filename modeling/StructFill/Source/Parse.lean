import StructFill.Source.Token

/-! # Parsing tokens

  A parser takes tokens from the front of a list and may fail. Alternatives
  backtrack: when the first one fails the second one starts where the first
  one started.

  **Ends of lines.** A construct that may be followed by a terminator ends at
  a line break, even where its next token could continue it. Parsers of such
  constructs take a flag `tail`, which is set when they stand at the tail of
  something that a terminator may follow.
-/

namespace StructFill.Source

/-- A parser of `α`. -/
abbrev Parse (α : Type) := StateT (List Token) Option α

namespace Parse

/-! ## Single tokens -/

/-- The next token, which stays. -/
def peek : Parse (Option Token) := fun ts => some (ts.head?, ts)

/-- Takes the next token. -/
def next : Parse Token := fun ts =>
  match ts with
  | [] => none
  | t :: rest => some (t, rest)

/-- A property of the next token; false at the end. -/
def at? (p : Token → Bool) : Parse Bool := fun ts => some (ts.head?.any p, ts)

def isMark (s : String) (t : Token) : Bool := t.kind == .mark && t.spelling == s

def isWord (s : String) (t : Token) : Bool := t.kind == .name && t.spelling == s

def atMark (s : String) : Parse Bool := at? (isMark s)

def atWord (s : String) : Parse Bool := at? (isWord s)

/-- Takes the next token if it has a property, and says whether it did. -/
def take? (p : Token → Bool) : Parse Bool := fun ts =>
  match ts with
  | [] => some (false, [])
  | t :: rest => if p t then some (true, rest) else some (false, ts)

def takeMark (s : String) : Parse Bool := take? (isMark s)

def takeWord (s : String) : Parse Bool := take? (isWord s)

/-- Takes the next token if it is one of several marks. -/
def takeOneMark (ss : List String) : Parse Bool :=
  take? fun t => t.kind == .mark && ss.contains t.spelling

/-- Takes the next token if it is one of several words. -/
def takeOneWord (ss : List String) : Parse Bool :=
  take? fun t => t.kind == .name && ss.contains t.spelling

/-- Takes the next token, which has to have a property. -/
def expect (p : Token → Bool) : Parse Token := fun ts =>
  match ts with
  | [] => none
  | t :: rest => if p t then some (t, rest) else none

def mark (s : String) : Parse Unit := discard (expect (isMark s))

def word (s : String) : Parse Unit := discard (expect (isWord s))

/-- Takes a name. -/
def ident : Parse String := (·.spelling) <$> expect (·.kind == .name)

/-- Takes a name that is not one of the given words. -/
def identExcept (words : List String) : Parse String :=
  (·.spelling) <$> expect fun t => t.kind == .name && !words.contains t.spelling

/-- Takes a text in quotes, with its quotes. -/
def quoted : Parse String := (·.spelling) <$> expect (·.kind == .string)

/-- Fails unless a condition holds. -/
def require (b : Bool) : Parse Unit := if b then pure () else failure

/-! ## Ends of lines -/

/-- A line break or the end of the text comes next. -/
def atBreak : Parse Bool := fun ts =>
  match ts with
  | [] => some (true, [])
  | t :: _ => some (t.fresh, ts)

/-- The construct ends here because of a line break. -/
def stops (tail : Bool) : Parse Bool := if tail then atBreak else pure false

/-- A mark comes next and continues the construct. -/
def continues (tail : Bool) (s : String) : Parse Bool := do
  if ← stops tail then pure false else atMark s

/-- The end of a declaration or statement: a semicolon, a null character, a line break or the end
of the text. -/
def terminator : Parse Unit := do
  if ← atBreak then pure ()
  else if ← takeMark "\x00" then pure ()
  else mark ";"

/-! ## Stretches of tokens -/

/-- The result of a parser with the text of the tokens that it took. -/
def spanned {α : Type} (p : Parse α) : Parse (α × String) := fun ts =>
  (p ts).map fun (a, rest) =>
    ((a, Token.sourceText (ts.take (ts.length - rest.length))), rest)

/-- Runs a loop that takes at least one token in each round, with as many rounds as there
are tokens. -/
def rounds {α : Type} (loop : Nat → Parse α) : Parse α := fun ts => loop (ts.length + 1) ts

/-! ## Lists -/

/-- Elements between commas up to a closing mark; a comma may stand before the mark. -/
def commaListWithin {α : Type} (p : Parse α) (close : String) : Nat → Parse (List α)
  | 0 => failure
  | n + 1 => do
    if ← takeMark close then pure []
    else
      let a ← p
      if ← takeMark "," then
        let as ← commaListWithin p close n
        pure (a :: as)
      else
        mark close
        pure [a]

/-- Elements between commas up to a closing mark; a comma may stand before the mark. -/
def commaList {α : Type} (p : Parse α) (close : String) : Parse (List α) :=
  rounds (commaListWithin p close)

/-- At least one element, with commas between them. -/
def commaSeparatedWithin {α : Type} (p : Parse α) (tail : Bool) : Nat → Parse (List α)
  | 0 => failure
  | n + 1 => do
    let a ← p
    if ← continues tail "," then
      mark ","
      let as ← commaSeparatedWithin p tail n
      pure (a :: as)
    else pure [a]

/-- At least one element, with commas between them. -/
def commaSeparated {α : Type} (p : Parse α) (tail : Bool) : Parse (List α) :=
  rounds (commaSeparatedWithin p tail)

/-- Elements with a terminator after each, up to a closing mark; the last terminator may be
left out. -/
def linesWithin {α : Type} (p : Parse α) (close : String) : Nat → Parse (List α)
  | 0 => failure
  | n + 1 => do
    if ← takeMark close then pure []
    else
      let a ← p
      if ← takeMark close then pure [a]
      else
        terminator
        let as ← linesWithin p close n
        pure (a :: as)

/-- Elements with a terminator after each, up to a closing mark; the last terminator may be
left out. -/
def lines {α : Type} (p : Parse α) (close : String) : Parse (List α) :=
  rounds (linesWithin p close)

/-- Elements with a terminator after each, up to a closing mark. -/
def groupWithin {α : Type} (p : Parse α) (close : String) : Nat → Parse (List α)
  | 0 => failure
  | n + 1 => do
    if ← takeMark close then pure []
    else
      let a ← p
      terminator
      let as ← groupWithin p close n
      pure (a :: as)

/-- Elements with a terminator after each, up to a closing mark. -/
def group {α : Type} (p : Parse α) (close : String) : Parse (List α) :=
  rounds (groupWithin p close)

/-- Names with commas between them, as long as a name follows each comma. -/
def nameRunWithin (words : List String) (tail : Bool) : Nat → Parse (List String)
  | 0 => failure
  | n + 1 => do
    let a ← identExcept words
    if ← continues tail "," then
      (do mark ","
          let as ← nameRunWithin words tail n
          pure (a :: as))
        <|> pure [a]
    else pure [a]

/-- Names with commas between them, as long as a name follows each comma. -/
def nameRun (words : List String) (tail : Bool) : Parse (List String) :=
  rounds (nameRunWithin words tail)

end Parse
end StructFill.Source
