/-!
# Configuration

What a draft checks and what it logs.
-/

namespace SqlDraft

/-- The bytes of a statement that a log shows unless told otherwise. -/
def defaultLoggedBytes : Nat := 200

/-- The configuration of a draft. By default rows to insert have to agree in their columns, and
every finished statement is logged. -/
structure Config where
  /-- Refuses rows to insert whose columns differ from those of the first row. -/
  strictRows : Bool
  logStatements : Bool
  /-- The bytes of a statement that the log shows; without a limit it shows all. -/
  loggedBytes : Option Nat
deriving DecidableEq, Repr

namespace Config

/-- The configuration of a draft that is told nothing else. -/
def default : Config := ⟨true, true, some defaultLoggedBytes⟩

instance : Inhabited Config := ⟨default⟩

/-- Refuses rows that disagree with the first one, or lets them through with a warning. -/
def withStrictRows (c : Config) (strict : Bool) : Config := { c with strictRows := strict }

/-- Turns the log on or off. -/
def withLogging (c : Config) (enabled : Bool) : Config := { c with logStatements := enabled }

/-- Cuts a statement in the log to so many bytes. -/
def withLoggedBytes (c : Config) (bytes : Nat) : Config := { c with loggedBytes := some bytes }

/-- Shows every statement in the log as a whole. -/
def withoutLimit (c : Config) : Config := { c with loggedBytes := none }

end Config

end SqlDraft
