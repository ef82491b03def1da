import Stencil.Assembly
import Stencil.Settings.Config

/-!
Exit codes. What a failed command was about decides the code that it ends with.
-/

namespace Stencil.CommandLine

/-- What a failure is about. -/
inductive FailureKind where
  | settings
  | template
  | notFound
  | inputOutput
  | other
deriving DecidableEq, Repr

namespace FailureKind

def exitCode : FailureKind → Nat
  | settings => 1
  | template => 2
  | notFound => 3
  | inputOutput => 4
  | other => 5

def ofFileError (error : FileError) : FailureKind :=
  match error.fault with
  | .notFound => notFound
  | _ => inputOutput

def ofReadError : ReadError → FailureKind
  | .file error => ofFileError error
  | .decoding _ => inputOutput

def ofConversionError : ConversionError → FailureKind
  | .notADirectory _ => notFound
  | .fileName _ | .header _ | .source _ => template
  | .reading error => ofReadError error
  | .pattern _ => other

end FailureKind

/-- The code of a command that went well. -/
def successCode : Nat := 0

/-- The code of a command line that is not understood. -/
def usageCode : Nat := 2

end Stencil.CommandLine
