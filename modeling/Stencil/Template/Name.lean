import Stencil.Path
import Stencil.Text.Case
import Stencil.Text.Quoted

/-!
The name of a template's class: the stem of its file name with the first character in upper case.
-/

namespace Stencil

/-- A file name without a stem names no class; `given` is the name as it was given. -/
structure FileNameError where
  given : String
deriving DecidableEq, Repr

def FileNameError.message (error : FileNameError) : String :=
  s!"The file name is invalid: {Quoted.literal error.given}"

def FileNameError.path (error : FileNameError) : Path := Path.ofString error.given

def upperFirst : List Char → List Char
  | [] => []
  | c :: rest => Character.upper c ++ rest

def uppercaseFirst (text : String) : String :=
  .ofList (upperFirst text.toList)

def className (filename : String) : Except FileNameError String :=
  let stem := (Path.ofString filename).stem
  if stem.isEmpty then .error ⟨filename⟩ else .ok (uppercaseFirst stem)

example : (className "subpages/page1.html").toOption = some "Page1" := by decide +kernel

example : (className "/").toOption = none := by decide +kernel

end Stencil
