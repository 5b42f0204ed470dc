import Instrument.File.Tree

/-!
What the run of a program leaves: its exit code, its output and the files. Both programs tell how
they are used when they are asked to, or when their arguments make no sense.
-/

namespace Instrument.CommandLine

/-- How a run ends. -/
inductive Ending where
  | exit (code : Nat)
  /-- The program goes on serving clients. -/
  | serving
deriving DecidableEq, Repr

/-- What a run leaves. -/
structure Outcome where
  ending : Ending
  output : String
  /-- The lines of the errors and of the log, which has no times. -/
  errors : List String
  files : FileTree
deriving DecidableEq, Repr

/-- A line of the log about a part of the program. -/
def logLine (level part text : String) : String := level ++ " " ++ part ++ ": " ++ text

/-- Why arguments make no sense. -/
inductive ArgumentFault where
  | missingValue (option : String)
  | unknownOption (option : String)
  | registerSize (text : String)
deriving DecidableEq, Repr

/-- The reason in words. -/
def ArgumentFault.message : ArgumentFault → String
  | missingValue option => "missing value for " ++ option
  | unknownOption option => "unknown option '" ++ option ++ "'"
  | registerSize text => "invalid register size '" ++ text ++ "'"

/-- What arguments ask for. -/
inductive Request (α : Type) where
  | help
  | run (options : α)
deriving DecidableEq, Repr

/-- Lines as output. -/
def lines (text : List String) : String := String.join (text.map (· ++ "\n"))

/-- The outcome of a request that is not to run the program; `usage` tells how it is used. -/
def answer {α : Type} (usage : String) (files : FileTree) (run : α → Outcome) :
    Except ArgumentFault (Request α) → Outcome
  | .ok .help => ⟨.exit 0, usage, [], files⟩
  | .ok (.run options) => run options
  | .error fault => ⟨.exit 2, usage, ["error: " ++ fault.message], files⟩

end Instrument.CommandLine
