import StructFill.Files.Tree
import StructFill.Program.Outcome
import StructFill.Text

/-! # Tools of the system

  The few tools that scripts may count on wherever the library runs: writing
  texts, copying the input, arranging its lines, and replacing a word in every
  line. A tool is a function from arguments and input to an outcome.
-/

namespace StructFill.Program.Tool

/-! ## Writing texts -/

def isOctal (c : Char) : Bool := '0' ≤ c && c ≤ '7'

/-- The byte that octal digits give. -/
def octalByte (cs : List Char) : UInt8 :=
  UInt8.ofNat (cs.foldl (fun n c => 8 * n + (c.toNat - 48)) 0)

/-- The octal digits at the front, at most `n` of them. -/
def octalDigits (n : Nat) (cs : List Char) : List Char := (cs.take n).takeWhile isOctal

/-- The byte of an escape with a letter. -/
def letterEscape? : Char → Option UInt8
  | '\\' => some 92
  | 'a' => some 7
  | 'b' => some 8
  | 'f' => some 12
  | 'n' => some 10
  | 'r' => some 13
  | 't' => some 9
  | 'v' => some 11
  | _ => none

def charBytes (c : Char) : List UInt8 := Bytes.ofText (String.singleton c)

/-- The bytes of a text in which escapes stand for bytes. `skip` characters have been read;
each `%s` takes the next of the words. -/
def formatted : Nat → List Char → List String → List UInt8
  | _, [], _ => []
  | skip + 1, _ :: rest, words => formatted skip rest words
  | 0, '\\' :: rest, words =>
    match octalDigits 3 rest, rest with
    | [], c :: _ =>
      match letterEscape? c with
      | some b => b :: formatted 1 rest words
      | none => 92 :: formatted 0 rest words
    | [], [] => [92]
    | ds, _ => octalByte ds :: formatted ds.length rest words
  | 0, '%' :: rest, words =>
    match rest with
    | 's' :: _ => Bytes.ofText (words.head?.getD "") ++ formatted 1 rest (words.drop 1)
    | '%' :: _ => 37 :: formatted 1 rest words
    | _ => 37 :: formatted 0 rest words
  | 0, c :: rest, words => charBytes c ++ formatted 0 rest words

/-- The bytes of a text in which escapes with a letter stand for bytes. -/
def unescaped : List Char → List UInt8
  | [] => []
  | '\\' :: c :: rest =>
    match letterEscape? c with
    | some b => b :: unescaped rest
    | none => 92 :: (charBytes c ++ unescaped rest)
  | c :: rest => charBytes c ++ unescaped rest

def echo (words : List String) : Outcome :=
  let (words, newline) : List String × List UInt8 :=
    match words with
    | "-n" :: rest => (rest, [])
    | _ => (words, [10])
  { output := unescaped (String.intercalate " " words).toList ++ newline }

def printf : List String → Outcome
  | [] => .complaint "printf: missing format" 2
  | format :: words => { output := formatted 0 format.toList words }

/-! ## Replacing words -/

/-- A word to be replaced. -/
structure Replacement where
  word : List UInt8
  value : List UInt8
  /-- Whether every occurrence in a line is replaced, or only the first. -/
  everywhere : Bool

/-- Replaces in bytes of which `skip` have been replaced already; `done` says that this line
has had its replacement. -/
def Replacement.applyFrom (r : Replacement) : Nat → Bool → List UInt8 → List UInt8
  | _, _, [] => []
  | skip + 1, done, _ :: rest => r.applyFrom skip done rest
  | 0, done, b :: rest =>
    if (r.everywhere || !done) && r.word.isPrefixOf (b :: rest) then
      r.value ++ r.applyFrom (r.word.length - 1) true rest
    else b :: r.applyFrom 0 (done && b != 10) rest

def Replacement.apply (r : Replacement) (bs : List UInt8) : List UInt8 := r.applyFrom 0 false bs

/-- Characters that do not stand for themselves in a word or a value. -/
def isSpecial (c : Char) : Bool := "\\.*[^$&\n".toList.contains c

/-- The replacement that a command such as `s/word/value/g` describes. -/
def replacement? (command : String) : Option Replacement :=
  match command.toList with
  | 's' :: mark :: rest =>
    match Text.splitOn (· == mark) rest with
    | [word, value, flags] =>
      if word = [] ∨ word.any isSpecial ∨ value.any isSpecial then none
      else if flags = [] ∨ flags = ['g'] then
        some ⟨Bytes.ofText (String.ofList word), Bytes.ofText (String.ofList value), flags = ['g']⟩
      else none
    | _ => none
  | _ => none

def sed (arguments : List String) (input : List UInt8) : Outcome :=
  match (arguments.filter (· != "-e")).mapM replacement? with
  | some rs => { output := rs.foldl (fun bs r => r.apply bs) input }
  | none => .complaint "sed: unknown command" 1

/-! ## Arranging lines -/

def lineFeed : UInt8 := 10

/-- The lines of an input, without what ends them. -/
def lines : List UInt8 → List (List UInt8)
  | [] => []
  | b :: rest =>
    if b = lineFeed then [] :: lines rest
    else
      match lines rest with
      | [] => [[b]]
      | l :: ls => (b :: l) :: ls

/-- Lines as an output, each with its end. -/
def unlines (ls : List (List UInt8)) : List UInt8 := ls.flatMap (· ++ [lineFeed])

/-- The order of lines by their bytes. -/
def lineLe : List UInt8 → List UInt8 → Bool
  | [], _ => true
  | _ :: _, [] => false
  | a :: as, b :: bs => a < b || (a == b && lineLe as bs)

/-- The lines without those that are equal to the line before them. -/
def withoutRepeats : List (List UInt8) → List (List UInt8)
  | a :: b :: rest => if a = b then withoutRepeats (b :: rest) else a :: withoutRepeats (b :: rest)
  | ls => ls

/-! ## All tools -/

/-- Runs a tool by its name. -/
def run? (name : String) (arguments : List String) (input : List UInt8) : Option Outcome :=
  match name with
  | "cat" => some { output := input }
  | "sort" => some { output := unlines ((lines input).mergeSort lineLe) }
  | "uniq" => some { output := unlines (withoutRepeats (lines input)) }
  | "echo" => some (echo arguments)
  | "printf" => some (printf arguments)
  | "sed" => some (sed arguments input)
  | "true" => some {}
  | "false" => some { status := 1 }
  | _ => none

/-- The name of the tool that runs scripts. -/
def shell : String := "sh"

def names : List String := [shell, "cat", "sort", "uniq", "echo", "printf", "sed", "true", "false"]

/-- The directories in which the tools are. -/
def directories : List Files.Key := [["bin"], ["usr", "bin"]]

/-- The tree with the tools at their places. -/
def install (t : Files.Tree) : Files.Tree :=
  directories.foldl (fun t k =>
    names.foldl (fun t name => t.plant (k ++ [name]) (.tool name)) t) t

end StructFill.Program.Tool
