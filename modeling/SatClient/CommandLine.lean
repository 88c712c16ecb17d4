import SatClient.Decimal.Reading
import SatClient.Text.Quoted
/-!
Reading the command line. Long options may be shortened to any beginning that fits one of them; an
argument that begins with a minus is the value of an option only if it looks like a number or holds
a space. What no option takes is collected and refused at the end.
-/

namespace SatClient.CommandLine

open SatClient.Decimal

inductive Flag
  | help
  | config
  | executable
  | timeout
  | verbose
  | stats
  | dimacsOnly
  deriving DecidableEq, Repr

structure Declaration where
  flag : Flag
  spellings : List String
  takesValue : Bool := false
  deriving DecidableEq, Repr

namespace Declaration

def shown (d : Declaration) : String :=
  String.intercalate "/" d.spellings

end Declaration

def helpDeclaration : Declaration := { flag := .help, spellings := ["-h", "--help"] }

def programOptions : List Declaration := [helpDeclaration]

def demoOptions : List Declaration :=
  [helpDeclaration,
   { flag := .config, spellings := ["--config"], takesValue := true },
   { flag := .executable, spellings := ["--executable"], takesValue := true },
   { flag := .timeout, spellings := ["--timeout"], takesValue := true },
   { flag := .verbose, spellings := ["--verbose"] },
   { flag := .stats, spellings := ["--stats"] },
   { flag := .dimacsOnly, spellings := ["--dimacs-only"] }]

inductive Misuse
  | commandMissing
  | unknownCommand (name : String)
  | unrecognized (arguments : List String)
  | ambiguous (argument : String) (matching : List String)
  | valueMissing (option : Declaration)
  | valueUnexpected (option : Declaration) (value : String)
  | notNumber (option : Declaration) (text : String)
  deriving DecidableEq, Repr

namespace Misuse

def message : Misuse → String
  | commandMissing => "the following arguments are required: command"
  | unknownCommand name =>
    "argument command: invalid choice: " ++ Text.quoted name ++ " (choose from 'demo')"
  | unrecognized arguments => "unrecognized arguments: " ++ String.intercalate " " arguments
  | ambiguous argument matching =>
    "ambiguous option: " ++ argument ++ " could match " ++ String.intercalate ", " matching
  | valueMissing option => "argument " ++ option.shown ++ ": expected one argument"
  | valueUnexpected option value =>
    "argument " ++ option.shown ++ ": ignored explicit argument " ++ Text.quoted value
  | notNumber option text =>
    "argument " ++ option.shown ++ ": invalid float value: " ++ Text.quoted text

end Misuse

/-- How an argument is taken before the options take their values. -/
inductive Role
  | plain
  | separator
  | unknownOption
  | option (declaration : Declaration) (value : Option String)
  /-- The short option with more letters after it. -/
  | cluster (letters : List Char)
  deriving DecidableEq, Repr

def splitValue (argument : String) : String × Option String :=
  let cs := argument.toList
  let name := String.ofList (cs.takeWhile (· ≠ '='))
  match cs.dropWhile (· ≠ '=') with
  | [] => (name, none)
  | _ :: value => (name, some (String.ofList value))

def separator : String := "--"

def spelled? (options : List Declaration) (name : String) : Option Declaration :=
  options.find? fun option => option.spellings.contains name

def completions (options : List Declaration) (name : String) : List (Declaration × String) :=
  options.flatMap fun option =>
    (option.spellings.filter fun spelling => name.toList.isPrefixOf spelling.toList).map
      fun spelling => (option, spelling)

/-- A minus, digits and at most one point that has digits after it; a line feed may follow. -/
def looksNegative (cs : List Char) : Bool :=
  let body := if cs.getLast? = some '\n' then cs.dropLast else cs
  match body with
  | '-' :: digits =>
    match digits.dropWhile Text.isDigit with
    | [] => !digits.isEmpty
    | '.' :: fraction => !fraction.isEmpty && fraction.all Text.isDigit
    | _ => false
  | _ => false

def unmatchedRole (cs : List Char) : Role :=
  if looksNegative cs || cs.contains ' ' then .plain else .unknownOption

def abbreviatedRole (options : List Declaration) (argument : String) : Except Misuse Role :=
  match argument.toList with
  | '-' :: '-' :: _ =>
    let (name, value) := splitValue argument
    match completions options name with
    | [] => .ok (unmatchedRole argument.toList)
    | [(option, _)] => .ok (.option option value)
    | several => .error (.ambiguous argument (several.map Prod.snd))
  | '-' :: c :: letters =>
    match spelled? options (String.ofList ['-', c]) with
    | some _ => .ok (.cluster letters)
    | none => .ok (unmatchedRole argument.toList)
  | _ => .ok .plain

/-- The role of a spelling with an equals sign and a value; after a short spelling the value is read
as more letters. -/
def valuedRole (option : Declaration) (name value : String) : Role :=
  if name.toList.length = 2 && value ≠ "" then .cluster value.toList
  else .option option (some value)

def role (options : List Declaration) (argument : String) : Except Misuse Role :=
  match argument.toList with
  | '-' :: _ :: _ =>
    match spelled? options argument with
    | some option => .ok (.option option none)
    | none =>
      match splitValue argument with
      | (name, some value) =>
        match spelled? options name with
        | some option => .ok (valuedRole option name value)
        | none => abbreviatedRole options argument
      | (_, none) => abbreviatedRole options argument
  | _ => .ok .plain

/-- The roles of all arguments; everything after `--` is plain. -/
def roles (options : List Declaration) : List String → Except Misuse (List (String × Role))
  | [] => .ok []
  | argument :: rest =>
    if argument = separator then
      .ok ((argument, .separator) :: rest.map fun argument => (argument, .plain))
    else
      match role options argument with
      | .error misuse => .error misuse
      | .ok role =>
        match roles options rest with
        | .error misuse => .error misuse
        | .ok others => .ok ((argument, role) :: others)

/-- A limit as an option gives it; one given as `--timeout=--` has no value. -/
inductive LimitOption
  | absent
  | empty
  | seconds (x : Binary64)
  deriving DecidableEq, Repr

structure DemoOptions where
  config : Option String := none
  executable : Option String := none
  timeout : LimitOption := .absent
  verbose : Bool := false
  stats : Bool := false
  dimacsOnly : Bool := false
  deriving DecidableEq, Repr

namespace DemoOptions

def assign (o : DemoOptions) (option : Declaration) (value : String) :
    Except Misuse DemoOptions :=
  match option.flag with
  | .config => .ok { o with config := some value }
  | .executable => .ok { o with executable := some value }
  | .timeout =>
    match number? value.toList with
    | some x => .ok { o with timeout := .seconds x }
    | none => .error (.notNumber option value)
  | _ => .ok o

def clear (o : DemoOptions) : Flag → DemoOptions
  | .config => { o with config := none }
  | .executable => { o with executable := none }
  | .timeout => { o with timeout := .empty }
  | _ => o

/-- Sets an option to what follows its equals sign, where `--` stands for no value. -/
def assignAttached (o : DemoOptions) (option : Declaration) (value : String) :
    Except Misuse DemoOptions :=
  if value = separator then .ok (o.clear option.flag) else o.assign option value

def switchOn (o : DemoOptions) : Flag → DemoOptions
  | .verbose => { o with verbose := true }
  | .stats => { o with stats := true }
  | .dimacsOnly => { o with dimacsOnly := true }
  | _ => o

end DemoOptions

inductive Request
  | help
  | demo (options : DemoOptions)
  deriving DecidableEq, Repr

/-- The letters after `-h` may only repeat it; what follows them is a value, and it takes none. -/
def helpCluster (letters : List Char) : Except Misuse Request :=
  match letters.dropWhile (· = 'h') with
  | [] => .ok .help
  | value => .error (.valueUnexpected helpDeclaration (String.ofList value))

def helpRequest : Option String → Except Misuse Request
  | none => .ok .help
  | some value => .error (.valueUnexpected helpDeclaration value)

/-- Reads the arguments of the demonstration from left to right; `extras` holds what no option
took. -/
def demoRequest (extras : List String) (o : DemoOptions) :
    List (String × Role) → Except Misuse (Request × List String)
  | [] => .ok (.demo o, extras)
  | (argument, .plain) :: rest => demoRequest (extras ++ [argument]) o rest
  | (argument, .separator) :: rest => demoRequest (extras ++ [argument]) o rest
  | (argument, .unknownOption) :: rest => demoRequest (extras ++ [argument]) o rest
  | (_, .cluster letters) :: _ => (helpCluster letters).map fun request => (request, [])
  | (_, .option option (some value)) :: rest =>
    if option.takesValue then
      match o.assignAttached option value with
      | .error misuse => .error misuse
      | .ok o => demoRequest extras o rest
    else .error (.valueUnexpected option value)
  | (_, .option option none) :: rest =>
    if option.flag = .help then .ok (.help, [])
    else if option.takesValue then
      match rest with
      | (value, .plain) :: rest =>
        match o.assign option value with
        | .error misuse => .error misuse
        | .ok o => demoRequest extras o rest
      | _ => .error (.valueMissing option)
    else demoRequest extras (o.switchOn option.flag) rest

structure Refusal where
  inDemo : Bool
  misuse : Misuse
  deriving DecidableEq, Repr

namespace Refusal

def program : String := "satbridge"

def message (r : Refusal) : String :=
  program ++ (if r.inDemo then " demo" else "") ++ ": error: " ++ r.misuse.message

end Refusal

def demoArguments (arguments : List String) : Except Refusal (Request × List String) :=
  match roles demoOptions arguments with
  | .error misuse => .error ⟨true, misuse⟩
  | .ok roles => (demoRequest [] {} roles).mapError fun misuse => ⟨true, misuse⟩

def command (extras : List String) : List String → Except Refusal Request
  | [] => .error ⟨false, .commandMissing⟩
  | name :: arguments =>
    if name = "demo" then
      match demoArguments arguments with
      | .error refusal => .error refusal
      | .ok (.help, _) => .ok .help
      | .ok (request, more) =>
        if (extras ++ more).isEmpty then .ok request
        else .error ⟨false, .unrecognized (extras ++ more)⟩
    else .error ⟨false, .unknownCommand name⟩

def programRequest (extras : List String) : List (String × Role) → Except Refusal Request
  | [] => command extras []
  | [(_, .separator)] => command extras []
  | (argument, .plain) :: rest => command extras (argument :: rest.map Prod.fst)
  | (argument, .separator) :: rest => command extras (argument :: rest.map Prod.fst)
  | (argument, .unknownOption) :: rest => programRequest (extras ++ [argument]) rest
  | (_, .cluster letters) :: _ => (helpCluster letters).mapError fun misuse => ⟨false, misuse⟩
  | (_, .option _ value) :: _ => (helpRequest value).mapError fun misuse => ⟨false, misuse⟩

def parse (arguments : List String) : Except Refusal Request :=
  match roles programOptions arguments with
  | .error misuse => .error ⟨false, misuse⟩
  | .ok roles => programRequest [] roles

end SatClient.CommandLine
