import PolicyDesk.CommandLine.Basic

/-!
# Reading a command line

* `Grammar`: the arguments of a command; `Program`: a command with commands below it.
* `Grammar.scan`: goes through the words of a command. A value is looked at when the next argument starts
  or the words end, so that a word that no argument explains is named before a bad value in front of it.
* `Grammar.complete`: what follows the words: values from the environment, and the arguments that are missing.
* `Program.read`: the draft of a program, and the command with its own.
-/

namespace PolicyDesk.CommandLine

variable {Draft : Type}

/-- The arguments of a command: those with names, and those told by their place, in order. -/
structure Grammar (Draft : Type) where
  named : List (Arg Draft)
  placed : List (Arg Draft)

/-- How far a command line has been read. -/
structure Scan (Draft : Type) where
  draft : Draft
  /-- An argument that takes a value, and the value if it has been read. -/
  pending : Option (Arg Draft × Option String)
  /-- The places that are still to be filled. -/
  places : List (Arg Draft)
  /-- Whether two dashes have been read. -/
  onlyValues : Bool

/-- The argument that the next word may be the value of. -/
def Scan.awaiting? (s : Scan Draft) : Option (Arg Draft) :=
  match s.pending with
  | some (a, none) => some a
  | _ => none

/-- Puts the value of the pending argument into the draft. -/
def Scan.resolve (s : Scan Draft) : Except Halt Draft :=
  match s.pending with
  | none => .ok s.draft
  | some (a, none) => .error (.noValue a.label [])
  | some (a, some value) =>
    if a.isSet s.draft then .error (.repeated a.label) else a.put .line value s.draft

/-- Starts an argument, with a value if one is attached to it. -/
def Scan.start (s : Scan Draft) (a : Arg Draft) (attached : Option String) :
    Except Halt (Scan Draft) :=
  match a.takes, attached with
  | .value _ _, none => do
    let d ← s.resolve
    return { s with draft := d, pending := some (a, none) }
  | .value _ _, some value => do
    let d ← s.resolve
    let d ← Scan.resolve { s with draft := d, pending := some (a, some value) }
    return { s with draft := d, pending := none }
  | .nothing put, none => do
    let d ← s.resolve
    if a.isSet d then throw (.repeated a.label)
    return { s with draft := put true d, pending := none }
  | .ends halt, none => do
    let _ ← s.resolve
    throw halt
  | _, some value => .error (.surplusValue value a.label)

/-- What a word does. -/
inductive Step (Draft : Type) where
  /-- The words go on. -/
  | on (scan : Scan Draft)
  /-- The rest belongs to a command. -/
  | command (name : String)

/-- A word that fills a place, or that nothing explains. -/
def Scan.fill (s : Scan Draft) (commands : List String) (w : String) : Except Halt (Step Draft) :=
  match s.places with
  | a :: rest => do
    let d ← s.resolve
    return .on { s with draft := d, pending := some (a, some w), places := rest }
  | [] =>
    if commands.isEmpty || (s.onlyValues && commands.contains w) then .error (.unknown w)
    else .error (.unknownCommand w)

/-- A word that is a value, of the argument before it or of a place. -/
def Scan.take (s : Scan Draft) (commands : List String) (w : String) : Except Halt (Step Draft) :=
  match s.awaiting? with
  | some a => .ok (.on { s with pending := some (a, some w) })
  | none => s.fill commands w

/-- Whether a number behind a dash may be a value here. -/
def Scan.allowsNegative (s : Scan Draft) : Bool :=
  match s.awaiting? with
  | some a =>
    match a.takes with
    | .value negative _ => negative
    | _ => false
  | none => false

/-- Reads a word. -/
def Grammar.step (g : Grammar Draft) (commands : List String) (s : Scan Draft) (w : String) :
    Except Halt (Step Draft) :=
  if s.onlyValues then s.fill commands w
  else if s.awaiting?.isNone && commands.contains w then .ok (.command w)
  else
    match Token.ofWord w with
    | .dashes => .ok (.on { s with onlyValues := true })
    | .long name attached =>
      match g.named.find? (·.long == some name) with
      | some a => (s.start a attached).map .on
      | none => .error (.unknown ("--" ++ name))
    | .short first rest =>
      if s.allowsNegative && isPlainNumber (first :: rest) then s.take commands w
      else
        match g.named.find? (·.short == some first) with
        | some a => (s.start a none).map .on
        | none => .error (.unknown (String.ofList ['-', first]))
    | .word => s.take commands w

/-- Reads words up to the end, or up to the name of a command and the words behind it. -/
def Grammar.scan (g : Grammar Draft) (commands : List String) (s : Scan Draft) :
    List String → Except Halt (Scan Draft × Option (String × List String))
  | [] => .ok (s, none)
  | w :: rest => do
    match ← g.step commands s w with
    | .on s => g.scan commands s rest
    | .command name => return (s, some (name, rest))

/-- The scan before the first word. -/
def Grammar.begin (g : Grammar Draft) (blank : Draft) : Scan Draft := ⟨blank, none, g.placed, false⟩

/-- Puts values from the environment in the place of those that the command line does not give. -/
def addSettings (env : String → Option String) : List (Arg Draft) → Draft → Except Halt Draft
  | [], d => .ok d
  | a :: rest, d =>
    match a.setting.bind env with
    | some value =>
      if a.isSet d then addSettings env rest d
      else (a.put .setting value d).bind (addSettings env rest)
    | none => addSettings env rest d

/-- The draft when the words have ended. -/
def Grammar.settle (g : Grammar Draft) (env : String → Option String) (s : Scan Draft) :
    Except Halt Draft :=
  s.resolve.bind (addSettings env g.named)

/-- The labels of the arguments that have to be given and are not. -/
def Grammar.missing (g : Grammar Draft) (d : Draft) : List String :=
  ((g.named ++ g.placed).filter fun a => a.required && !a.isSet d).map Arg.label

/-- Reads a whole command line without commands. -/
def Grammar.read (g : Grammar Draft) (env : String → Option String) (blank : Draft)
    (words : List String) : Except Halt Draft := do
  let (s, _) ← g.scan [] (g.begin blank) words
  let d ← g.settle env s
  let missing := g.missing d
  if missing.isEmpty then return d else throw (.missing missing)

/-- A program with commands. -/
structure Program (Draft : Type) where
  name : String
  /-- The arguments in front of a command. -/
  grammar : Grammar Draft
  /-- The commands and their arguments. -/
  commands : List (String × Grammar Draft)

namespace Program

/-- The command that tells about the others. -/
def helpName : String := "help"

/-- The names of all commands. -/
def names (p : Program Draft) : List String := p.commands.map Prod.fst ++ [helpName]

/-- What comes of asking for help about a command. -/
def helpOn (p : Program Draft) : List String → Halt
  | [] => .help
  | w :: rest =>
    if !p.names.contains w then .unknownCommand w
    else if w = helpName then p.helpOn rest
    else
      match rest with
      | [] => .help
      | v :: _ => .unknownCommand v

/-- Reads a command line: the draft of the program, and the command with its own draft. The command is
read first. -/
def read (p : Program Draft) (env : String → Option String) (blank : Draft) (words : List String) :
    Except Halt (Draft × String × Draft) := do
  let (s, command) ← p.grammar.scan p.names (p.grammar.begin blank) words
  match command with
  | some (name, rest) =>
    match p.commands.lookup name with
    | some grammar =>
      let inner ← grammar.read env blank rest
      let outer ← p.grammar.settle env s
      return (outer, name, inner)
    | none => throw (p.helpOn rest)
  | none =>
    let outer ← p.grammar.settle env s
    if p.grammar.named.any (·.isSet outer) then throw (.noCommand p.name p.names) else throw .bare

end Program

end PolicyDesk.CommandLine
