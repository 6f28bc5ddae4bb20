/-!
# What a command line asks for

An option begins with a dash and is longer than it. Options of the program stand before the command,
options of a command anywhere after it, and after two dashes alone nothing is an option. A command
line that is not understood asks for nothing.
-/

namespace MarkerLint.CommandLine

/-- What the program is asked to do. -/
inductive Command where
  /-- To audit a path, without certain rules. -/
  | check (path : Option String) (disabled : List String)
  /-- To list the rules. -/
  | rules
  /-- To print the markers in a file. -/
  | markers (file : String)
deriving DecidableEq, Repr

/-- A command, and whether the whole log is shown. -/
structure Invocation where
  verbose : Bool
  command : Command
deriving DecidableEq, Repr

/-- The argument is an option. -/
def isOption (argument : String) : Bool :=
  match argument.toList with
  | '-' :: _ :: _ => true
  | _ => false

/-- The end of the options. -/
def optionEnd : String := "--"

/-- The argument asks for the whole log. -/
def isVerbose (argument : String) : Bool :=
  argument == "--verbose" ||
    match argument.toList with
    | '-' :: letters => !letters.isEmpty && letters.all (· == 'v')
    | _ => false

/-- The options before the command: whether they ask for the whole log, and the other arguments. -/
def programOptions : List String → Option (Bool × List String)
  | [] => some (false, [])
  | argument :: rest =>
      if argument == optionEnd then some (false, rest)
      else if !isOption argument then some (false, argument :: rest)
      else if isVerbose argument then (programOptions rest).map fun (_, others) => (true, others)
      else none

/-- How the option that disables a rule gives its value. -/
inductive OptionForm where
  /-- The value is part of the argument. -/
  | attached (value : String)
  /-- The value is the next argument. -/
  | separate

/-- The option that disables a rule in one of its forms. -/
def disableForm? (argument : String) : Option OptionForm :=
  match argument.toList with
  | '-' :: '-' :: letters =>
      match letters.span (· != '=') with
      | (name, []) => if name == "disable".toList then some .separate else none
      | (name, _ :: value) =>
          if name == "disable".toList then some (.attached (String.ofList value)) else none
  | ['-', 'd'] => some .separate
  | '-' :: 'd' :: value => some (.attached (String.ofList value))
  | _ => none

/-- The arguments of a command: those that are no options, and the values of the option that
disables rules, which not every command knows. -/
def commandArguments (knowsDisable : Bool) : List String → Option (List String × List String)
  | [] => some ([], [])
  | argument :: rest =>
      if argument == optionEnd then some (rest, [])
      else if !isOption argument then
        (commandArguments knowsDisable rest).map fun (others, values) =>
          (argument :: others, values)
      else if !knowsDisable then none
      else
        match disableForm? argument, rest with
        | some (.attached value), rest =>
            (commandArguments knowsDisable rest).map fun (others, values) =>
              (others, value :: values)
        | some .separate, value :: rest =>
            (commandArguments knowsDisable rest).map fun (others, values) =>
              (others, value :: values)
        | some .separate, [] => none
        | none, _ => none

/-- The command of a name with its arguments. -/
def Command.ofArguments? (name : String) (arguments : List String) : Option Command :=
  match name, commandArguments (name == "check") arguments with
  | "check", some ([], disabled) => some (.check none disabled)
  | "check", some ([path], disabled) => some (.check (some path) disabled)
  | "rules", some ([], _) => some .rules
  | "markers", some ([file], _) => some (.markers file)
  | _, _ => none

/-- What a command line asks for. -/
def Invocation.ofArguments? (arguments : List String) : Option Invocation := do
  match ← programOptions arguments with
  | (verbose, name :: rest) => do
      let command ← Command.ofArguments? name rest
      some ⟨verbose, command⟩
  | (_, []) => none

end MarkerLint.CommandLine
