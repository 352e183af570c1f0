import OlapClient.Command.Basic

namespace OlapClient.Arguments

/-!
# Command lines

* `Choice` — an option that a command line may have.
* `Grammar` — the options, operands and commands that may follow a command.
* `Scan` — reading a command line word by word.
* `read` — the command of a command line with its options, or why there is none.

The options that apply to every command may stand before or after the command; what stands
furthest to the right of several commands counts.
-/

/-- An option of a command line. One without a value is a flag. -/
structure Choice where
  name : String
  letter : Option Char := none
  takesValue : Bool := false
  repeatable : Bool := false
  accepts : String → Bool := fun _ => true

/-- What may follow a command: options, a number of operands, and further commands, one of which
has to follow if there are any. -/
inductive Grammar where
  | command (choices : List Choice) (required most : Nat) (next : List (String × Grammar))

namespace Grammar

/-- The options. -/
def choices : Grammar → List Choice
  | .command choices _ _ _ => choices

/-- The least number of operands. -/
def required : Grammar → Nat
  | .command _ required _ _ => required

/-- The greatest number of operands. -/
def most : Grammar → Nat
  | .command _ _ most _ => most

/-- The further commands. -/
def next : Grammar → List (String × Grammar)
  | .command _ _ _ next => next

end Grammar

/-! ### The program's grammar -/

/-- A restriction written as `KEY=VALUE`. The key is trimmed and must not be blank. -/
def restriction? (s : String) : Option (String × String) :=
  let cs := s.toList
  match cs.dropWhile (· != '=') with
  | _ :: value =>
    (nonBlank? (String.ofList (cs.takeWhile (· != '=')))).map (·, String.ofList value)
  | [] => none

/-- A number of repetitions, below two to the power of 32. -/
def repetitions? (s : String) : Option Nat :=
  ((Decimal.integer? s.toList).filter fun n => 0 ≤ n && n < 4294967296).map Int.toNat

/-- The options that may stand anywhere. -/
def everywhere : List Choice :=
  [{ name := "verbose", letter := some 'v' },
    { name := "json" },
    { name := "connect", letter := some 'c', takesValue := true },
    { name := "profile", letter := some 'p', takesValue := true },
    { name := "log-file", takesValue := true, accepts := fun s => s ≠ "" },
    { name := "help", letter := some 'h' },
    { name := "version", letter := some 'V' }]

/-- A command without further commands. -/
def plain (choices : List Choice) (required most : Nat) : Grammar :=
  .command (choices ++ everywhere) required most []

/-- The commands on profiles. -/
def profileGrammar : Grammar :=
  .command everywhere 0 0
    [("list", plain [] 0 0), ("show", plain [] 0 1), ("set", plain [{ name := "default" }] 2 2),
      ("remove", plain [] 1 1), ("path", plain [] 0 0)]

/-- All commands. -/
def grammar : Grammar :=
  .command everywhere 0 0
    [("query", plain [{
        name := "repeat", takesValue := true, accepts := fun s => (repetitions? s).isSome }] 0 1),
      ("discover", plain [{
        name := "restrict", letter := some 'r', takesValue := true, repeatable := true
        accepts := fun s => (restriction? s).isSome }] 1 1),
      ("parse-connect", plain [] 0 1),
      ("profiles", profileGrammar)]

/-! ### Reading -/

/-- Why a command line yields no command to run. -/
inductive Stop where
  /-- A question for help. -/
  | help
  /-- A question for the version of the program or of the command that the words name. -/
  | version (words : List String)
  /-- A command line that is not understood. -/
  | usage
deriving DecidableEq, Repr

/-- What has been read of a command line: the commands so far; the options before the latest command
and those after it; its operands. -/
structure Scan where
  grammar : Grammar
  words : List String := []
  outer : List (String × String) := []
  here : List (String × String) := []
  operands : List String := []
  /-- An option whose value has to follow. -/
  pending : Option Choice := none
  /-- Whether all that follows is operands. -/
  operandsOnly : Bool := false
  /-- Whether all that follows are commands that help is wanted for. -/
  helping : Bool := false

namespace Scan

/-- Go on to a further command. -/
def enter (s : Scan) (word : String) (g : Grammar) : Scan :=
  { s with grammar := g, words := s.words ++ [word], outer := s.outer ++ s.here, here := [] }

/-- Take the value of an option, or a flag with an empty one. -/
def take (s : Scan) (c : Choice) (value : String) : Except Stop Scan :=
  if !c.accepts value then .error .usage
  else if !c.repeatable && s.here.any (·.1 == c.name) then .error .usage
  else .ok { s with here := s.here ++ [(c.name, value)], pending := none }

/-- Take a flag. Questions are answered at once. -/
def takeFlag (s : Scan) (c : Choice) : Except Stop Scan :=
  if c.name = "help" then .error .help
  else if c.name = "version" then .error (.version s.words)
  else s.take c ""

/-- Take an operand. -/
def takeOperand (s : Scan) (word : String) : Except Stop Scan :=
  if s.operands.length < s.grammar.most then .ok { s with operands := s.operands ++ [word] }
  else .error .usage

/-- Take an option by its name, which its value may follow after an equals sign. -/
def takeNamed (s : Scan) (cs : List Char) : Except Stop Scan :=
  let name := String.ofList (cs.takeWhile (· != '='))
  match s.grammar.choices.find? (·.name == name), cs.dropWhile (· != '=') with
  | none, _ => .error .usage
  | some c, [] => if c.takesValue then .ok { s with pending := some c } else s.takeFlag c
  | some c, _ :: value => if c.takesValue then s.take c (String.ofList value) else .error .usage

/-- A value without the equals sign it may begin with. -/
def withoutEquals : List Char → List Char
  | '=' :: rest => rest
  | cs => cs

/-- Take options by their letters; what follows the letter of one with a value is its value. -/
def takeLetters (s : Scan) : List Char → Except Stop Scan
  | [] => .ok s
  | letter :: rest =>
    match s.grammar.choices.find? (·.letter == some letter) with
    | none => .error .usage
    | some c =>
      if c.takesValue then
        if rest = [] then .ok { s with pending := some c }
        else s.take c (String.ofList (withoutEquals rest))
      else
        match s.takeFlag c with
        | .error e => .error e
        | .ok s' => s'.takeLetters rest

/-- Take a word where neither a value nor only operands are expected. -/
def takeWord (s : Scan) (word : String) : Except Stop Scan :=
  match s.grammar.next.lookup word with
  | some g => .ok (s.enter word g)
  | none =>
    if word = "help" ∧ s.grammar.next.length ≠ 0 then .ok { s with helping := true }
    else
      match word.toList with
      | ['-', '-'] => .ok { s with operandsOnly := true }
      | '-' :: '-' :: cs => s.takeNamed cs
      | '-' :: c :: cs => s.takeLetters (c :: cs)
      | _ => s.takeOperand word

/-- Whether a word looks like an option. -/
def isOption (word : String) : Bool :=
  match word.toList with
  | '-' :: _ :: _ => true
  | _ => false

/-- Take the next word. -/
def step (s : Scan) (word : String) : Except Stop Scan :=
  if s.helping then
    match s.grammar.next.lookup word with
    | some g => .ok (s.enter word g)
    | none =>
      if word = "help" ∧ s.grammar.next.length ≠ 0 then .ok (s.enter word (plain [] 0 0))
      else .error .usage
  else
    match s.pending with
    | some c => if isOption word then .error .usage else s.take c word
    | none => if s.operandsOnly then s.takeOperand word else s.takeWord word

/-- The verdict at the end of the command line. -/
def finish (s : Scan) : Except Stop Scan :=
  if s.helping then .error .help
  else if s.pending.isSome ∨ s.operands.length < s.grammar.required ∨ s.grammar.next.length ≠ 0
  then .error .usage
  else .ok s

/-- The values of an option, from left to right. -/
def values (s : Scan) (name : String) : List String :=
  ((s.outer ++ s.here).filter (·.1 == name)).map (·.2)

/-- Whether a flag is there. -/
def has (s : Scan) (name : String) : Bool :=
  (s.values name).length != 0

/-- The options, of which two may be given by the environment instead. -/
def options (s : Scan) (connect profile : Option String) : Options where
  verbose := s.has "verbose"
  json := s.has "json"
  connect := (s.values "connect").getLast? <|> connect
  profile := (s.values "profile").getLast? <|> profile
  logFile := (s.values "log-file").getLast?

/-- The command. -/
def command (s : Scan) : Option Command :=
  match s.words, s.operands with
  | ["query"], operands =>
    some (.query operands.head? ((((s.values "repeat").getLast?).bind repetitions?).getD 1))
  | ["discover"], [type] =>
    some (.discover type ((s.values "restrict").filterMap restriction?))
  | ["parse-connect"], operands => some (.inspect operands.head?)
  | ["profiles", "list"], [] => some (.profiles .list)
  | ["profiles", "show"], operands => some (.profiles (.display operands.head?))
  | ["profiles", "set"], [name, text] => some (.profiles (.save name text (s.has "default")))
  | ["profiles", "remove"], [name] => some (.profiles (.remove name))
  | ["profiles", "path"], [] => some (.profiles .path)
  | _, _ => none

end Scan

/-- Read a command line. The environment may name a connect string and a profile. -/
def read (words : List String) (connect profile : Option String) :
    Except Stop (Options × Command) := do
  let s ← words.foldlM Scan.step { grammar := grammar }
  let s ← s.finish
  match s.command with
  | some command => return (s.options connect profile, command)
  | none => throw .usage

end OlapClient.Arguments
