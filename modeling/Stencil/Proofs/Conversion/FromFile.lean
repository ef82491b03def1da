import Stencil.Conversion
import Stencil.Proofs.ClassSource.Layout
import Stencil.Proofs.Text.Utf8

/-!
Templates in files and templates held in memory. A file gives what its text gives in memory, once
every kind of line end in the text is read as a line feed, as files are read.
-/

namespace Stencil

/-! ## Line ends -/

/-- A text as it is read from a file. -/
def withLineFeeds (text : String) : String := .ofList (unifyLineEnds text.toList)

theorem unifyLineEnds_of_notMem {text : List Char} (noReturn : '\r' ∉ text) :
    unifyLineEnds text = text := by
  induction text with
  | nil => rfl
  | cons c rest induction =>
      rcases not_or.mp (List.mem_cons.not.mp noReturn) with ⟨different, others⟩
      rw [unifyLineEnds, induction others]
      · intro behind same
        exact absurd same.symm different
      · intro same
        exact absurd same.symm different

theorem withLineFeeds_of_notMem {text : String} (noReturn : '\r' ∉ text.toList) :
    withLineFeeds text = text := by
  rw [withLineFeeds, unifyLineEnds_of_notMem noReturn, String.ofList_toList]

/-- A file that holds the bytes of a text is read as that text with line feeds. -/
theorem FileTree.readText_of_encoded {tree : FileTree} {path : Path} {text : String}
    (holds : tree.readBytes path = .ok (Utf8.encode text)) :
    tree.readText path = .ok (withLineFeeds text) := by
  rw [readText, holds]
  simp only [decodeText, Utf8.decode_encode, withLineFeeds]

/-! ## Names of files -/

theorem notMem_of_mem_splitAt {separator : Char} {text piece : List Char}
    (member : piece ∈ splitAt separator text) : separator ∉ piece := by
  induction text generalizing piece with
  | nil =>
      cases List.mem_singleton.mp member
      exact List.not_mem_nil
  | cons first rest induction =>
      rw [splitAt] at member
      split at member
      · rcases List.mem_cons.mp member with rfl | later
        · exact List.not_mem_nil
        · exact induction later
      · rename_i other
        rcases List.exists_cons_of_ne_nil (splitAt_ne_nil separator rest) with ⟨next, others, cut⟩
        rw [cut, extendFirst] at member
        rcases List.mem_cons.mp member with rfl | later
        · have different : separator ≠ first := by simpa using Ne.symm (by simpa using other)
          exact List.not_mem_cons_of_ne_of_not_mem different (induction (by simp [cut]))
        · exact induction (by simp [cut, later])

namespace Path

/-- A name of a path is, read as a path, that name alone. -/
theorem names_ofString_of_mem {filename name : String}
    (member : name ∈ (ofString filename).names) : (ofString name).names = [name] := by
  rcases List.mem_filter.mp member with ⟨listed, kept⟩
  rcases List.mem_map.mp listed with ⟨piece, inPieces, rfl⟩
  have single : splitText '/' (String.ofList piece) = [String.ofList piece] := by
    rw [splitText, String.toList_ofList, splitAt_of_notMem (notMem_of_mem_splitAt inPieces),
      List.map_singleton]
  simp only [ofString, single, List.filter_cons, kept, if_true, List.filter_nil]

theorem name_ofString_name (filename : String) :
    (ofString (ofString filename).name).name = (ofString filename).name := by
  cases last : (ofString filename).names.getLast? with
  | none =>
      have empty : (ofString filename).name = "" := by rw [name, last, Option.getD_none]
      rw [empty]
      decide
  | some lastName =>
      have isName : (ofString filename).name = lastName := by rw [name, last, Option.getD_some]
      rw [isName, name, names_ofString_of_mem (List.mem_of_mem_getLast? last)]
      rfl

end Path

/-- Only the last name of a path names the class. -/
theorem className_name {filename : String} (stem : (Path.ofString filename).stem ≠ "") :
    className (Path.ofString filename).name = className filename := by
  have same : (Path.ofString (Path.ofString filename).name).stem =
      (Path.ofString filename).stem := by
    rw [Path.stem, Path.name_ofString_name, Path.stem]
  have nonempty : (Path.ofString filename).stem.isEmpty = false := by
    simpa [String.isEmpty_iff] using stem
  rw [className, className, same, nonempty]
  rfl

/-! ## Conversions -/

theorem Run.ofExcept_ok_bind {ε α β : Type} (value : α) (next : α → Run ε β) :
    Run.ofExcept (.ok value) >>= next = next value := by
  rw [bind_of_ok rfl]
  simp [Run.ofExcept]

section Conversions

variable {tree : FileTree} {filename text : String}

/-- The class of a template in a file is that of its text. -/
theorem assembleFile_eq (stem : (Path.ofString filename).stem ≠ "")
    (holds : tree.readBytes (.ofString filename) = .ok (Utf8.encode text)) (minified : Bool) :
    assembleFile tree (.ofString filename) minified =
      documentTemplate (withLineFeeds text) filename minified := by
  have named : className filename = .ok (uppercaseFirst (Path.ofString filename).stem) := by
    have nonempty : (Path.ofString filename).stem.isEmpty = false := by
      simpa [String.isEmpty_iff] using stem
    rw [className, nonempty]
    rfl
  rw [assembleFile, compileFile, documentTemplate, className_name stem, named,
    FileTree.readText_of_encoded holds]
  simp only [Except.mapError, Run.ofExcept_ok_bind]

/-- A file converts as its text does once its line ends are line feeds: they come to the same class
and to the same source or error, and report the same events. Without a carriage return in it, that
is the text itself. -/
theorem convertFile_agrees (stem : (Path.ofString filename).stem ≠ "")
    (holds : tree.readBytes (.ofString filename) = .ok (Utf8.encode text))
    (minified validate : Bool) :
    (assembleFile tree (.ofString filename) minified =
        documentTemplate (withLineFeeds text) filename minified ∧
      convertFile tree (.ofString filename) minified validate =
        convertDocument (withLineFeeds text) filename minified validate) ∧
    ('\r' ∉ text.toList →
      convertFile tree (.ofString filename) minified validate =
        convertDocument text filename minified validate) := by
  have converted : convertFile tree (.ofString filename) minified validate =
      convertDocument (withLineFeeds text) filename minified validate := by
    rw [convertFile, convertDocument, assembleFile_eq stem holds]
  refine ⟨⟨assembleFile_eq stem holds minified, converted⟩, fun noReturn => ?_⟩
  rw [converted, withLineFeeds_of_notMem noReturn]

end Conversions

/-- A template whose lines end in a carriage return and a line feed. -/
def returningPage : String := "\x7ba: str\x7d\r\n<p>@a@</p>"

def returningTree : FileTree :=
  ⟨.directory [("t", .directory [("page.html", .file (Utf8.encode returningPage))])], []⟩

theorem convertFile_agrees_returningPage :
    (Path.ofString "t/page.html").stem ≠ "" ∧
      returningTree.readBytes (.ofString "t/page.html") = .ok (Utf8.encode returningPage) ∧
      convertFile returningTree (.ofString "t/page.html") true true =
        convertDocument "\x7ba: str\x7d\n<p>@a@</p>" "t/page.html" true true := by
  have stem : (Path.ofString "t/page.html").stem ≠ "" := by decide
  have holds : returningTree.readBytes (.ofString "t/page.html") =
      .ok (Utf8.encode returningPage) := by
    rfl
  have unified : withLineFeeds returningPage = "\x7ba: str\x7d\n<p>@a@</p>" := by decide +kernel
  have agrees := (convertFile_agrees stem holds true true).1.2
  rw [unified] at agrees
  exact ⟨stem, holds, agrees⟩

/-- In memory the header of that template is not removed, for no line feed follows its brace at
once. -/
theorem convertFile_removesHeader :
    (Path.ofString "t/page.html").stem ≠ "" ∧
      returningTree.readBytes (.ofString "t/page.html") = .ok (Utf8.encode returningPage) ∧
      (assembleFile returningTree (.ofString "t/page.html") true).result.map (·.body) =
        .ok "<p>\x7ba\x7d</p>" ∧
      (documentTemplate returningPage "t/page.html" true).result.map (·.body) =
        .ok "\x7b\x7ba: str\x7d\x7d<p>\x7ba\x7d</p>" ∧
      (convertFile returningTree (.ofString "t/page.html") true true).result ≠
        (convertDocument returningPage "t/page.html" true true).result := by
  decide +kernel

end Stencil
