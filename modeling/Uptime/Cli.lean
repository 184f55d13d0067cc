import Uptime.Text.Integer
/-!
The command line of the checker: `check MONITOR_ID URL [--attempt N]` checks an address
directly, `schedule SCHEDULE_ID` checks a configured schedule. Reading a command line
either yields a command or ends the program: with code 0 after asking for help
(`-h`, `--help`), with code 2 for anything it cannot read.

Arguments are read the usual way for such command lines. An argument starting with `-`
names an option, also by a unique prefix of a long option, and may carry its value after
`=`; one that looks like a negative number or holds a space is a plain word, and `--`
makes every later argument a plain word. Words fill the expected arguments in order;
options may stand between them. Help ends reading as soon as it is met; a value that
is not a whole number ends it as soon as it is met; missing arguments, unknown options
and words left over end it after everything has been read.
-/
namespace Uptime.Cli

open Uptime.Text

/-- What the command line asks for. -/
inductive Command where
  | check (monitorId url : String) (attempt : Int)
  | schedule (scheduleId : String)
deriving DecidableEq, Repr

/-- How reading a command line ends: with a command, or by leaving with an exit
code. -/
inductive Reading where
  | command (c : Command)
  | leave (code : Nat)
deriving DecidableEq, Repr

/-- One argument as a parser sees it. -/
inductive Arg where
  /-- a plain word -/
  | word (s : String)
  /-- a known option; `attached` is a value written in the same argument, `chained`
  says the option is one letter after a single dash, so that letters in its value are
  read as more such options -/
  | option (name : String) (attached : Option String) (chained : Bool)
  /-- an argument that looks like an option but names none -/
  | stray (s : String)
deriving DecidableEq, Repr

def helpOptions : List String := ["-h", "--help"]

/-- Whether an argument looks like a negative number: `-` and digits, with at most one
point before the last digits, and perhaps a line break at the very end. -/
def looksNegative (s : String) : Bool :=
  let cs := s.toList
  let cs := if cs.getLast? = some '\n' then cs.dropLast else cs
  match cs with
  | '-' :: rest =>
    let isD := fun c => (decimalValue? c).isSome
    let whole := rest.takeWhile isD
    match rest.drop whole.length with
    | [] => !whole.isEmpty
    | '.' :: frac => !frac.isEmpty && frac.all isD
    | _ => false
  | _ => false

/-- The options an argument may abbreviate, each with the value it carries. -/
def prefixMatches (known : List String) (arg : String) : List Arg :=
  if arg.startsWith "--" then
    let (name, value) := match arg.splitOn "=" with
      | n :: rest@(_ :: _) => (n, some ("=".intercalate rest))
      | _ => (arg, none)
    (known.filter (·.startsWith name)).map fun o => .option o value false
  else
    let short := String.ofList (arg.toList.take 2)
    let rest := String.ofList (arg.toList.drop 2)
    known.filterMap fun o =>
      if o = short then some (.option o (some rest) true)
      else if o.startsWith arg then some (.option o none false)
      else none

/-- How a parser that knows the options `known` reads one argument; an argument that
abbreviates several options cannot be read. -/
def classify (known : List String) (arg : String) : Option Arg :=
  if arg.isEmpty || !arg.startsWith "-" then some (.word arg)
  else if known.contains arg then some (.option arg none false)
  else if arg.length = 1 then some (.word arg)
  else
    let byEquals := match arg.splitOn "=" with
      | n :: rest@(_ :: _) =>
        if known.contains n then
          some (Arg.option n (some ("=".intercalate rest)) (n.length = 2 && !n.startsWith "--"))
        else none
      | _ => none
    match byEquals with
    | some a => some a
    | none =>
      match prefixMatches known arg with
      | [a] => some a
      | _ :: _ :: _ => none
      | [] =>
        if looksNegative arg || arg.toList.contains ' ' then some (.word arg)
        else some (.stray arg)

/-- Read all arguments with the options `known`: after `--` every argument is a word
and `--` itself is dropped; none when an argument cannot be read. -/
def classifyAll (known : List String) : List String → Option (List Arg)
  | [] => some []
  | "--" :: rest => some (rest.map .word)
  | a :: rest => do
    let x ← classify known a
    let xs ← classifyAll known rest
    pure (x :: xs)

/-- What a parser of a command expects: its arguments in order, and the options that
take a value, each with the test its values must pass. -/
structure Parser where
  expected : List String
  valued : List (String × (String → Bool))

def Parser.known (p : Parser) : List String :=
  helpOptions ++ p.valued.map Prod.fst

/-- What reading arguments gives: values by name and arguments left over, or an exit
code. -/
abbrev Found := Except Nat (List (String × String) × List String)

/-- How a help option ends reading: with code 0, unless it carries a value other than
more help letters. -/
def helpExit (attached : Option String) (chained : Bool) : Nat :=
  match attached with
  | none => 0
  | some a => if chained && !a.isEmpty && a.all (· = 'h') then 0 else 2

/-- Read classified arguments against a parser, with the expected arguments not yet
filled in `pending`. -/
def consume (p : Parser) (args : List Arg) (pending : List String)
    (values : List (String × String)) (extras : List String) : Found :=
  match args with
  | [] => if pending.isEmpty then .ok (values, extras) else .error 2
  | .stray s :: rest => consume p rest pending values (extras ++ [s])
  | .option name attached chained :: rest =>
    if helpOptions.contains name then .error (helpExit attached chained)
    else
      let accepts := ((p.valued.lookup name).getD fun _ => true)
      match attached with
      | some v =>
        if accepts v then consume p rest pending (values ++ [(name, v)]) extras else .error 2
      | none =>
        match rest with
        | .word v :: rest' =>
          if accepts v then consume p rest' pending (values ++ [(name, v)]) extras else .error 2
        | _ => .error 2
  | .word w :: rest =>
    match pending with
    | n :: pending' => consume p rest pending' (values ++ [(n, w)]) extras
    | [] => consume p rest [] values (extras ++ [w])
termination_by args.length

def Parser.read (p : Parser) (args : List String) : Found :=
  match classifyAll p.known args with
  | none => .error 2
  | some xs => consume p xs p.expected [] []

def checkParser : Parser :=
  ⟨["monitor_id", "url"], [("--attempt", fun v => (integerOfText? v).isSome)]⟩

def scheduleParser : Parser := ⟨["schedule_id"], []⟩

def valueOf (values : List (String × String)) (name : String) : Option String :=
  ((values.filter (·.1 = name)).getLast?).map Prod.snd

def commandOf (name : String) (values : List (String × String)) : Command :=
  if name = "check" then
    .check ((valueOf values "monitor_id").getD "") ((valueOf values "url").getD "")
      (((valueOf values "--attempt").bind integerOfText?).getD 1)
  else .schedule ((valueOf values "schedule_id").getD "")

/-- The parser of a subcommand, if there is one by that name. -/
def subcommand? : String → Option Parser
  | "check" => some checkParser
  | "schedule" => some scheduleParser
  | _ => none

/-- Read the arguments before the subcommand, with the stray ones found so far. -/
def readTop : List Arg → List String → List String → Reading
  | [], _, _ => .leave 2
  | .stray s :: rest, extras, raw => readTop rest (extras ++ [s]) (raw.drop 1)
  | .option _ attached chained :: _, _, _ => .leave (helpExit attached chained)
  | .word name :: _, extras, raw =>
    match subcommand? name with
    | none => .leave 2
    | some p =>
      match p.read (raw.drop 1) with
      | .error code => .leave code
      | .ok (values, more) =>
        if extras.isEmpty && more.isEmpty then .command (commandOf name values) else .leave 2

def read (argv : List String) : Reading :=
  let top := argv.map fun a =>
    if a = "--" then Arg.word a else (classify helpOptions a).getD (.stray a)
  readTop top [] argv

end Uptime.Cli
