import PolicyDesk.Text.Digits
import PolicyDesk.Text.Pieces

/-!
# Command lines

* `Arg`: an argument that a command knows, and what it does to the draft of the settings.
* `Halt`: why a command line is not carried out.
* `Token`: what a word on a command line looks like.
-/

namespace PolicyDesk.CommandLine

/-- Where a value comes from. -/
inductive Source where
  /-- The environment. -/
  | setting
  /-- The command line. -/
  | line
  deriving DecidableEq, Repr

/-- Why a command line is not carried out. -/
inductive Halt where
  /-- Help is asked for. -/
  | help
  /-- The version is asked for. -/
  | version
  /-- Nothing at all is given to a program that needs a command. -/
  | bare
  | unknown (word : String)
  | unknownCommand (word : String)
  /-- A value is attached to an argument that takes none. -/
  | surplusValue (value label : String)
  /-- There are only so many values, unless the list is empty, and none is given. -/
  | noValue (label : String) (choices : List String)
  /-- There are only so many values, and this is none of them. -/
  | notAChoice (value label : String) (choices : List String)
  | badValue (value label reason : String)
  | repeated (label : String)
  | missing (labels : List String)
  | noCommand (program : String) (commands : List String)
  deriving DecidableEq, Repr

/-- The values that may be chosen, on a line of its own. -/
def choicesText (title : String) : List String → String
  | [] => ""
  | cs => "\n  [" ++ title ++ ": " ++ ", ".intercalate cs ++ "]"

/-- The complaint in words. -/
def Halt.message : Halt → String
  | help => ""
  | version => ""
  | bare => ""
  | unknown word => "unexpected argument '" ++ word ++ "' found"
  | unknownCommand word => "unrecognized subcommand '" ++ word ++ "'"
  | surplusValue value label =>
    "unexpected value '" ++ value ++ "' for '" ++ label ++ "' found; no more were expected"
  | noValue label choices =>
    "a value is required for '" ++ label ++ "' but none was supplied" ++
      choicesText "possible values" choices
  | notAChoice value label choices =>
    "invalid value '" ++ value ++ "' for '" ++ label ++ "'" ++ choicesText "possible values" choices
  | badValue value label reason => "invalid value '" ++ value ++ "' for '" ++ label ++ "': " ++ reason
  | repeated label => "the argument '" ++ label ++ "' cannot be used multiple times"
  | missing labels =>
    "the following required arguments were not provided:" ++ String.join (labels.map ("\n  " ++ ·))
  | noCommand program commands =>
    "'" ++ program ++ "' requires a subcommand but one was not provided" ++
      choicesText "subcommands" commands

/-! ## Arguments -/

/-- Puts a value from some source into a draft, or says what is wrong with it. -/
abbrev Put (Draft : Type) := Source → String → Draft → Except String Draft

/-- What an argument takes. -/
inductive Takes (Draft : Type) where
  /-- A value, which may be a negative number or not. -/
  | value (negative : Bool) (put : Put Draft)
  /-- No value; the environment may say `true` or `false`. -/
  | nothing (put : Bool → Draft → Draft)
  /-- It ends everything. -/
  | ends (halt : Halt)

/-- An argument that a command knows. -/
structure Arg (Draft : Type) where
  /-- What complaints call it. -/
  label : String
  /-- The name behind two dashes; absent if the argument is told by its place. -/
  long : Option String
  /-- The letter behind one dash. -/
  short : Option Char
  takes : Takes Draft
  isSet : Draft → Bool
  required : Bool
  /-- What the environment calls it. -/
  setting : Option String

namespace Arg

variable {Draft : Type}

/-- An argument with a name and a value. -/
def option (name placeholder : String) (put : Put Draft) (isSet : Draft → Bool) : Arg Draft :=
  ⟨"--" ++ name ++ " <" ++ placeholder ++ ">", some name, none, .value false put, isSet, false, none⟩

/-- An argument with a name and no value. -/
def flag (name : String) (put : Bool → Draft → Draft) (isSet : Draft → Bool) : Arg Draft :=
  ⟨"--" ++ name, some name, none, .nothing put, isSet, false, none⟩

/-- A value that is told by its place. -/
def place (placeholder : String) (put : Put Draft) (isSet : Draft → Bool) : Arg Draft :=
  ⟨"<" ++ placeholder ++ ">", none, none, .value false put, isSet, true, none⟩

/-- An argument that ends everything. -/
def ending (name : String) (short : Char) (halt : Halt) : Arg Draft :=
  ⟨"--" ++ name, some name, some short, .ends halt, fun _ => false, false, none⟩

/-- Every command can be asked for help. -/
def help : Arg Draft := ending "help" 'h' .help

/-- Puts a value into a draft. -/
def put (a : Arg Draft) (source : Source) (value : String) (d : Draft) : Except Halt Draft :=
  match a.takes with
  | .value _ put => (put source value d).mapError (.badValue value a.label)
  | .nothing put =>
    if value = "true" then .ok (put true d)
    else if value = "false" then .ok (put false d)
    else if value.isEmpty then .error (.noValue a.label ["true", "false"])
    else .error (.notAChoice value a.label ["true", "false"])
  | .ends halt => .error halt

end Arg

/-! ## Words -/

/-- What a word on a command line looks like. -/
inductive Token where
  /-- Two dashes: only values follow. -/
  | dashes
  /-- A name behind two dashes, perhaps with a value behind an equals sign. -/
  | long (name : String) (value : Option String)
  /-- Letters behind one dash. -/
  | short (first : Char) (rest : List Char)
  | word
  deriving DecidableEq, Repr

/-- What a word looks like. -/
def Token.ofWord (w : String) : Token :=
  match w.toList with
  | '-' :: '-' :: [] => dashes
  | '-' :: '-' :: s =>
    let (name, value) := Text.splitFirst (· == '=') s
    long (String.ofList name) (value.map String.ofList)
  | '-' :: c :: rest => short c rest
  | _ => word

/-- Whether the text is digits, perhaps with a point behind or among them, perhaps with an exponent of
digits. -/
def isPlainNumber (s : List Char) : Bool :=
  let (mantissa, exponent) := Text.splitFirst (· == 'e') s
  let (whole, fraction) := Text.splitFirst (· == '.') mantissa
  !whole.isEmpty && whole.all Text.isDigit && (fraction.getD []).all Text.isDigit &&
    exponent.all fun e => !e.isEmpty && e.all Text.isDigit

end PolicyDesk.CommandLine
