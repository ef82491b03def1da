/-!
Names that generated source finds bound without binding them, with the text that each of them is
shown as: the functions and classes that the language has everywhere, and what the preamble of a
module binds.
-/

namespace Stencil.Builtin

def functions : List String := [
  "__build_class__", "__import__", "abs", "aiter", "all", "anext", "any", "ascii", "bin",
  "breakpoint", "callable", "chr", "compile", "delattr", "dir", "divmod", "eval", "exec",
  "format", "getattr", "globals", "hasattr", "hash", "hex", "id", "input", "isinstance",
  "issubclass", "iter", "len", "locals", "max", "min", "next", "oct", "open", "ord", "pow",
  "print", "repr", "round", "setattr", "sorted", "sum", "vars"]

def classes : List String := [
  "bool", "bytearray", "bytes", "classmethod", "complex", "dict", "enumerate", "filter", "float",
  "frozenset", "int", "list", "map", "memoryview", "object", "property", "range", "reversed",
  "set", "slice", "staticmethod", "str", "super", "tuple", "type", "zip",
  "ArithmeticError", "AssertionError", "AttributeError", "BaseException", "BaseExceptionGroup",
  "BlockingIOError", "BrokenPipeError", "BufferError", "BytesWarning", "ChildProcessError",
  "ConnectionAbortedError", "ConnectionError", "ConnectionRefusedError", "ConnectionResetError",
  "DeprecationWarning", "EOFError", "EncodingWarning", "Exception", "ExceptionGroup",
  "FileExistsError", "FileNotFoundError", "FloatingPointError", "FutureWarning",
  "GeneratorExit", "ImportError", "ImportWarning", "IndentationError", "IndexError",
  "InterruptedError", "IsADirectoryError", "KeyError", "KeyboardInterrupt", "LookupError",
  "MemoryError", "ModuleNotFoundError", "NameError", "NotADirectoryError",
  "NotImplementedError", "OSError", "OverflowError", "PendingDeprecationWarning",
  "PermissionError", "ProcessLookupError", "RecursionError", "ReferenceError",
  "ResourceWarning", "RuntimeError", "RuntimeWarning", "StopAsyncIteration", "StopIteration",
  "SyntaxError", "SyntaxWarning", "SystemError", "SystemExit", "TabError", "TimeoutError",
  "TypeError", "UnboundLocalError", "UnicodeDecodeError", "UnicodeEncodeError", "UnicodeError",
  "UnicodeTranslateError", "UnicodeWarning", "UserWarning", "ValueError", "Warning",
  "ZeroDivisionError"]

/-- Names with a text of their own. -/
def others : List (String × String) := [
  ("EnvironmentError", "<class 'OSError'>"),
  ("IOError", "<class 'OSError'>"),
  ("Ellipsis", "Ellipsis"),
  ("NotImplemented", "NotImplemented"),
  ("__debug__", "True"),
  ("__doc__", "Generated by typedhtml. Do not edit."),
  ("__loader__", "<class '_frozen_importlib.BuiltinImporter'>"),
  ("__name__", "builtins"),
  ("__package__", ""),
  ("__spec__", "ModuleSpec(name='builtins', " ++
    "loader=<class '_frozen_importlib.BuiltinImporter'>, origin='built-in')"),
  ("annotations", "_Feature((3, 7, 0, 'beta', 1), None, 16777216)"),
  ("exit", "Use exit() or Ctrl-D (i.e. EOF) to exit"),
  ("quit", "Use quit() or Ctrl-D (i.e. EOF) to exit"),
  ("help", "Type help() for interactive help, or help(object) for help about object.")]

/-- Names whose text is that of an installation of the language. The name between angle brackets
stands for it. -/
def ofInstallation : List String := ["__builtins__", "copyright", "credits", "license"]

/-- How the value of a name that is bound everywhere is shown. -/
def text? (name : String) : Option String :=
  if functions.contains name then some s!"<built-in function {name}>"
  else if classes.contains name then some s!"<class '{name}'>"
  else if ofInstallation.contains name then some s!"<{name}>"
  else (others.find? (·.1 == name)).map (·.2)

end Stencil.Builtin
