import RuleEngine.CommandLine.Spec
import RuleEngine.Text.Similarity

/-!
# Reading a command line

Arguments are read one level at a time, the top level up to a command's name, then the command's.
What was read last is taken in, and only then checked, when the next option, argument or the end
is reached; a global option given at both levels takes the command's value.
-/

set_option autoImplicit false

namespace RuleEngine

namespace CommandLine

/-- A mistake in the arguments: message, tips, usage line, and whether the report points to
`--help`. -/
structure ArgError where
  message : String
  tips : List String := []
  usage : Option String := none
  helpHint : Bool := true
deriving Repr

def ArgError.render (e : ArgError) : String :=
  "error: " ++ e.message ++
    (if e.tips.isEmpty then "" else "\n" ++ String.join (e.tips.map ("\n  tip: " ++ ·))) ++
    (match e.usage with
      | some u => "\n\nUsage: " ++ u
      | none => "") ++
    (if e.helpHint then "\n\nFor more information, try '--help'.\n" else "\n")

def bestSimilar (v : String) (names : List String) : Option String :=
  (Text.similarNames v names).getLast?

def invalidValue (o : OptionSpec) (bad : String) : ArgError :=
  let choices := if o.choices.isEmpty then "" else "\n  [possible values: " ++ ", ".intercalate o.choices ++ "]"
  let message := if bad.isEmpty then "a value is required for '" ++ o.display ++ "' but none was supplied"
    else "invalid value '" ++ bad ++ "' for '" ++ o.display ++ "'"
  { message := message ++ choices
    tips := (bestSimilar bad o.choices).toList.map fun s => "a similar value exists: '" ++ s ++ "'" }

def missingValue (o : OptionSpec) : ArgError :=
  let choices := if o.choices.isEmpty then "" else "\n  [possible values: " ++ ", ".intercalate o.choices ++ "]"
  { message := "a value is required for '" ++ o.display ++ "' but none was supplied" ++ choices }

/-- What a level has taken in: an option, the argument, or the group, taken in with its first
member. -/
inductive Stored where
  | option (long : String)
  | argument
  | group
deriving DecidableEq, Repr

structure Level where
  bin : String
  options : List OptionSpec
  positional : Option PositionalSpec := none
  commands : List String := []
  usage : String
  grouped : List String := []
  groupsArgument : Bool := false

structure LevelState where
  given : List (OptionSpec × List String) := []
  stored : List Stored := []
  pending : Option (OptionSpec × List String) := none
  awaiting : Option OptionSpec := none
  argument : Option String := none
  argumentPending : Bool := false
  trailing : Bool := false

def LevelState.storedArgs (st : LevelState) : List Stored := st.stored.filter (· != .group)

inductive LevelEnd where
  | failed (e : ArgError)
  | help
  | version
  | helpCommand (names : List String)
  | command (name : String) (rest : List String) (st : LevelState)
  | finished (st : LevelState)

def addGiven (given : List (OptionSpec × List String)) (o : OptionSpec) (vals : List String) :
    List (OptionSpec × List String) :=
  if given.any (·.1.long == o.long) then given.map fun (o', vs) => if o'.long == o.long then (o', vs ++ vals) else (o', vs)
  else given ++ [(o, vals)]

def splitAttached (s : String) : String × Option String :=
  match s.toList.idxOf? '=' with
  | some i => (String.ofList (s.toList.take i), some (String.ofList (s.toList.drop (i + 1))))
  | none => (s, none)

namespace Level

def inGroup (l : Level) : Stored → Bool
  | .option long => l.grouped.contains long
  | .argument => l.groupsArgument
  | .group => false

def store (l : Level) (st : LevelState) (s : Stored) : LevelState :=
  let add (xs : List Stored) (x : Stored) : List Stored := if xs.contains x then xs else xs ++ [x]
  let stored := add st.stored s
  { st with stored := if l.inGroup s then add stored .group else stored }

/-- The group as usage shows it, `<A|--b <B>>`, the argument by its bare name. -/
def groupText (l : Level) : String :=
  let argument := if l.groupsArgument then (l.positional.map (·.name)).toList else []
  let options := l.grouped.filterMap fun long => (l.options.find? (·.long == long)).map (·.display)
  "<" ++ "|".intercalate (argument ++ options) ++ ">"

/-- A usage line naming what was used: options outside the group, the group, the argument, what is
required. -/
def usageNaming (l : Level) (used : List Stored) : String :=
  let withGroup := used.contains .group
  let longs := used.foldl (fun acc s => match s with
    | .option long => if (withGroup && l.grouped.contains long) || acc.contains long then acc else acc ++ [long]
    | _ => acc) []
  let options := longs.filterMap fun long => (l.options.find? (·.long == long)).map (" " ++ ·.display)
  l.bin ++ String.join options ++
    (if withGroup then " " ++ l.groupText else "") ++
    (match l.positional with
      | some a => if withGroup && l.groupsArgument then "" else " <" ++ a.name ++ ">"
      | none => "") ++
    (if l.commands.isEmpty then "" else " <COMMAND>")

def usageWith (l : Level) (used : List Stored) : String :=
  if used.isEmpty then l.usage else l.usageNaming used

/-- Takes in what was read last; an option fails without a value, given twice, or with a value it
does not allow. -/
def settle (l : Level) (st : LevelState) : LevelState × Option ArgError :=
  if st.argumentPending then (l.store { st with argumentPending := false } .argument, none)
  else
  match st.pending with
  | none => (st, none)
  | some (o, vals) =>
    let st := { st with pending := none, awaiting := none }
    let once := o.action == .setValue || o.action == .setFlag
    if o.takesValue && vals.isEmpty then (st, some (missingValue o))
    else if once && st.given.any (·.1.long == o.long) then
      (st, some { message := "the argument '" ++ o.display ++ "' cannot be used multiple times"
                  usage := some l.usage })
    else
      let st := l.store { st with given := addGiven st.given o vals } (.option o.long)
      match vals.find? fun v => !o.choices.isEmpty && !o.choices.contains v with
      | some bad => (st, some (invalidValue o bad))
      | none => (st, none)

/-- An argument that is no option's value and not expected here; after `--` a command name gets a
hint to drop it. -/
def unexpected (l : Level) (trailing : Bool) (a : String) : ArgError :=
  let similar := Text.similarNames a l.commands
  if trailing && l.commands.contains a then
    { message := "unexpected argument '" ++ a ++ "' found"
      tips := ["subcommand '" ++ a ++ "' exists; to use it, remove the '--' before it"]
      usage := some l.usage }
  else if !similar.isEmpty then
    let quoted := ", ".intercalate (similar.map fun s => "'" ++ s ++ "'")
    let tip := if similar.length == 1 then "a similar subcommand exists: " ++ quoted
      else "some similar subcommands exist: " ++ quoted
    { message := "unrecognized subcommand '" ++ a ++ "'"
      tips := [tip]
      usage := some l.usage }
  else if !l.commands.isEmpty then
    { message := "unrecognized subcommand '" ++ a ++ "'", usage := some l.usage }
  else { message := "unexpected argument '" ++ a ++ "' found", usage := some l.usage }

/-- An unknown long option: a similar one of this level or of a later command, or how to pass it as
a value. -/
def unknownLong (l : Level) (p : ProgramSpec) (name : String) (rest : List String) (st : LevelState) :
    ArgError :=
  let message := "unexpected argument '--" ++ name ++ "' found"
  let used := st.storedArgs
  match bestSimilar name (l.options.map (·.long)) with
  | some best =>
    { message := message, tips := ["a similar argument exists: '--" ++ best ++ "'"]
      usage := some (l.usageWith (used ++ [.option best])) }
  | none =>
    let elsewhere := p.allCommands.filterMap fun c =>
      match bestSimilar name ((p.commandOptions c).map (·.long)), rest.idxOf? c.name with
      | some best, some place => some (place, c.name, best)
      | _, _ => none
    let first := elsewhere.foldl (fun acc x => match acc with
      | some y => if x.1 < y.1 then some x else some y
      | none => some x) none
    match first with
    | some (_, c, best) =>
      { message := message, tips := ["'" ++ c ++ " --" ++ best ++ "' exists"], usage := some (l.usageWith used) }
    | none =>
      { message := message
        tips := if l.positional.isSome then ["to pass '--" ++ name ++ "' as a value, use '-- --" ++ name ++ "'"] else []
        usage := some (l.usageWith used) }

/-- Acts on an option given by name; a switch with a value is refused at once. -/
def given (l : Level) (o : OptionSpec) (attached : Option String) (st : LevelState) :
    Except ArgError LevelState ⊕ LevelEnd :=
  if o.takesValue then
    match l.settle st with
    | (_, some e) => .inr (.failed e)
    | (st, none) =>
      match attached with
      | some v =>
        match l.settle { st with pending := some (o, [v]) } with
        | (_, some e) => .inr (.failed e)
        | (st, none) => .inl (.ok st)
      | none => .inl (.ok { st with pending := some (o, []), awaiting := some o })
  else
    match attached with
    | some v =>
      let used := st.stored.filter (· != .argument) ++ [.option o.long]
      let e : ArgError := { message := "unexpected value '" ++ v ++ "' for '" ++ o.display ++ "' found; no more were expected"
                            usage := some (l.usageWith used) }
      .inr (.failed e)
    | none =>
      match l.settle st with
      | (_, some e) => .inr (.failed e)
      | (st, none) =>
        match o.action with
        | .showHelp => .inr .help
        | .showVersion => .inr .version
        | _ =>
          match l.settle { st with pending := some (o, []) } with
          | (_, some e) => .inr (.failed e)
          | (st, none) => .inl (.ok st)

/-- Reads a level's arguments; an option waiting for its value takes the next word that is not an
option. -/
def read (l : Level) (p : ProgramSpec) : List String → LevelState → LevelEnd
  | [], st => .finished st
  | a :: rest, st =>
    if !st.trailing && a == "--" then read l p rest { st with trailing := true }
    else if !st.trailing && a.startsWith "--" then
      let (name, attached) := splitAttached (a.drop 2).copy
      match l.options.find? (·.long == name) with
      | none => .failed (l.unknownLong p name rest (l.settle st).1)
      | some o =>
        match l.given o attached st with
        | .inl (.ok st) => read l p rest st
        | .inl (.error e) => .failed e
        | .inr e => e
    else if !st.trailing && a.startsWith "-" && a.length > 1 then
      let c := (a.toList.drop 1).headD ' '
      match l.options.find? (·.short == some c) with
      | some o =>
        match l.given o none st with
        | .inl (.ok st) => read l p rest st
        | .inl (.error e) => .failed e
        | .inr e => e
      | none =>
        .failed { message := "unexpected argument '-" ++ String.singleton c ++ "' found"
                  tips := if l.positional.isSome then
                    ["to pass '-" ++ String.singleton c ++ "' as a value, use '-- -" ++ String.singleton c ++ "'"] else []
                  usage := some l.usage }
    else if !st.trailing && st.awaiting.isSome then
      read l p rest { st with pending := st.pending.map (fun (o, vs) => (o, vs ++ [a])), awaiting := none }
    else if !st.trailing && l.commands.contains a then
      if a == helpCommand.name then .helpCommand rest else .command a rest st
    else
      match l.positional, st.argument with
      | some _, none =>
        match l.settle st with
        | (_, some e) => .failed e
        | (st, none) => read l p rest { st with argument := some a, argumentPending := true }
      | _, _ => .failed (l.unexpected st.trailing a)

def close (l : Level) (st : LevelState) : Except ArgError LevelState :=
  match l.settle st with
  | (_, some e) => .error e
  | (st, none) => .ok st

end Level

inductive Parsed where
  | help (text : String)
  | failed (text : String)
  | run (command : String) (argument : String) (options : List (OptionSpec × List String))

namespace ProgramSpec

def topLevel (p : ProgramSpec) : Level :=
  { bin := p.name, options := p.topOptions, commands := p.allCommands.map (·.name), usage := p.topUsage
    grouped := p.globals.map (·.long) }

def commandLevel (p : ProgramSpec) (c : CommandSpec) : Level :=
  { bin := p.commandName c, options := p.commandOptions c, positional := c.positional
    usage := p.commandUsage c, grouped := c.options.map (·.long), groupsArgument := c.positional.isSome }

def helpFor (p : ProgramSpec) : List String → Parsed
  | [] => .help p.topHelp
  | name :: rest =>
    match p.command? name with
    | none => .failed ({ message := "unrecognized subcommand '" ++ name ++ "'", usage := some p.topUsage } : ArgError).render
    | some c =>
      match rest with
      | [] => .help (p.commandHelp c)
      | next :: _ =>
        .failed ({ message := "unrecognized subcommand '" ++ next ++ "'", usage := some (p.commandUsage c)
                   helpHint := c.name != helpCommand.name } : ArgError).render

/-- The options given at the top level and at a command's level: the command's value wins. -/
def mergeGiven (top sub : List (OptionSpec × List String)) : List (OptionSpec × List String) :=
  top.filter (fun (o, _) => !sub.any (·.1.long == o.long)) ++ sub

def parse (p : ProgramSpec) (args : List String) : Parsed :=
  let top := p.topLevel
  match top.read p args {} with
  | .failed e => .failed e.render
  | .help => .help p.topHelp
  | .version => .help (p.name ++ " " ++ p.version ++ "\n")
  | .helpCommand names => p.helpFor names
  | .finished st =>
    match top.close st with
    | .error e => .failed e.render
    | .ok st =>
      if st.given.isEmpty then .failed p.topHelp
      else
        .failed ({ message := "'" ++ p.name ++ "' requires a subcommand but one was not provided\n  [subcommands: " ++
                    ", ".intercalate (p.allCommands.map (·.name)) ++ "]"
                   usage := some p.topUsage } : ArgError).render
  | .command name rest st =>
    match p.command? name with
    | none => .failed p.topHelp
    | some c =>
      let level := p.commandLevel c
      match level.read p rest {} with
      | .failed e => .failed e.render
      | .help => .help (p.commandHelp c)
      | .finished sub =>
        match level.close sub with
        | .error e => .failed e.render
        | .ok sub =>
          match sub.argument, c.positional with
          | none, some a =>
            let e : ArgError := { message := "the following required arguments were not provided:\n  <" ++ a.name ++ ">"
                                  usage := some (level.usageNaming (sub.storedArgs ++ [.argument])) }
            .failed e.render
          | _, _ =>
            match top.close st with
            | .error e => .failed e.render
            | .ok st => .run c.name (sub.argument.getD "") (mergeGiven st.given sub.given)
      | _ => .failed (p.commandHelp c)

end ProgramSpec

end CommandLine

end RuleEngine
