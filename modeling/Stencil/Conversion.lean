import Stencil.Assembly

/-!
Conversion of templates into the source of one module: of a document held in memory, of one file,
or of a directory.
-/

namespace Stencil

/-- The source of a module, reported once it stands. -/
def emitScope (scope : Scope) (validate : Bool) : Run ConversionError String := do
  let source ← Run.ofExcept ((emitModule scope validate).mapError .source)
  Run.report (.sourceEmitted scope.typeCount (source.toList.count '\n') validate)
  return source

/-- The tree of scopes with a single class. -/
def Scope.ofTemplate (template : TemplateClass) : Scope := Scope.empty.add template

/-- The class of a document; `filename` only gives it its name. -/
def documentTemplate (document filename : String) (minified : Bool) :
    Run ConversionError TemplateClass := do
  let name ← Run.ofExcept ((className filename).mapError .fileName)
  (compileTemplate document name minified).mapError .header

def convertDocument (document filename : String) (minified validate : Bool) :
    Run ConversionError String := do
  emitScope (.ofTemplate (← documentTemplate document filename minified)) validate

def convertFile (tree : FileTree) (path : Path) (minified validate : Bool) :
    Run ConversionError String := do
  emitScope (.ofTemplate (← assembleFile tree path minified)) validate

def convertDirectory (tree : FileTree) (path : Path) (minified validate : Bool)
    (exclude : List String) : Run ConversionError String := do
  emitScope (← assemble tree path minified exclude) validate

end Stencil
