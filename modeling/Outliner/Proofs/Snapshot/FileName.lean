import Mathlib.Data.List.DropRight
import Outliner.Snapshot.Range

/-!
File names: which part of an address names the file. An address that names a file has a directory, a name
without slashes, and maybe a query or a fragment, in which slashes mean nothing. Main statements: an address
can be divided into these parts in at most one way, and then the name of the file is the part in the middle;
an address that cannot be divided is itself the name. So nothing but the empty address has an empty name.
-/
set_option autoImplicit false

namespace Outliner

/-- An address that names a file, divided into its parts. The tail is the query and the fragment, with their
marks. -/
@[ext]
structure FileAddress where
  directory : String
  name : String
  tail : String
  directoryUnmarked : '?' ∉ directory.toList ∧ '#' ∉ directory.toList
  directoryClosed : directory = "" ∨ directory.toList.getLast? = some '/'
  someName : name ≠ ""
  nameUnmarked : '?' ∉ name.toList ∧ '#' ∉ name.toList
  nameUndivided : '/' ∉ name.toList
  tailMarked : tail = "" ∨ tail.toList.head? = some '?' ∨ tail.toList.head? = some '#'

def FileAddress.text (address : FileAddress) : String :=
  address.directory ++ address.name ++ address.tail

namespace SourceRange

private theorem takeWhile_append_of_head? {p : Char → Bool} {s rest : List Char}
    (all : ∀ c ∈ s, p c = true) (stops : ∀ c ∈ rest.head?, p c = false) :
    (s ++ rest).takeWhile p = s := by
  rw [List.takeWhile_append_of_pos all]
  cases rest with
  | nil => rw [List.takeWhile_nil, List.append_nil]
  | cons c rest =>
    have first : ¬ p c = true := by
      rw [stops c rfl]
      exact Bool.false_ne_true
    rw [List.takeWhile_cons_of_neg first, List.append_nil]

private theorem of_mem_head?_dropWhile {p : Char → Bool} {s : List Char} {c : Char}
    (first : c ∈ (s.dropWhile p).head?) : p c = false := by
  have stops := s.head?_dropWhile_not p
  rwa [Option.mem_def.mp first] at stops

private theorem unmarked_iff {s : List Char} :
    (∀ c ∈ s, (c != '?' && c != '#') = true) ↔ '?' ∉ s ∧ '#' ∉ s := by
  simp only [Bool.and_eq_true, bne_iff_ne, ne_eq, forall₂_and, List.forall_mem_ne']

private theorem pathPart_append {path tail : List Char} (unmarked : '?' ∉ path ∧ '#' ∉ path)
    (marked : tail = [] ∨ tail.head? = some '?' ∨ tail.head? = some '#') :
    pathPart (path ++ tail) = path := by
  refine takeWhile_append_of_head? (unmarked_iff.mpr unmarked) fun c first => ?_
  rcases marked with rfl | query | fragment
  · cases first
  · obtain rfl : '?' = c := Option.some.inj (query.symm.trans first)
    rfl
  · obtain rfl : '#' = c := Option.some.inj (fragment.symm.trans first)
    rfl

private theorem unmarked_pathPart (url : List Char) : '?' ∉ pathPart url ∧ '#' ∉ pathPart url :=
  unmarked_iff.mp (List.all_eq_true.mp List.all_takeWhile)

private theorem exists_eq_pathPart_append (url : List Char) :
    ∃ tail, url = pathPart url ++ tail ∧
      (tail = [] ∨ tail.head? = some '?' ∨ tail.head? = some '#') := by
  refine ⟨url.dropWhile fun c => c != '?' && c != '#', List.takeWhile_append_dropWhile.symm, ?_⟩
  cases first : (url.dropWhile fun c => c != '?' && c != '#').head? with
  | none => exact .inl (List.head?_eq_none_iff.mp first)
  | some c =>
    have mark := of_mem_head?_dropWhile first
    simp only [Bool.and_eq_false_iff, bne_eq_false_iff_eq] at mark
    rcases mark with rfl | rfl
    · exact .inr (.inl rfl)
    · exact .inr (.inr rfl)

private theorem undivided_iff {s : List Char} : (∀ c ∈ s, (c != '/') = true) ↔ '/' ∉ s := by
  simp only [bne_iff_ne, ne_eq, List.forall_mem_ne']

private theorem lastSegment_append {directory name : List Char}
    (closed : directory = [] ∨ directory.getLast? = some '/') (undivided : '/' ∉ name) :
    lastSegment (directory ++ name) = name := by
  have reversed : ∀ c ∈ name.reverse, (c != '/') = true :=
    undivided_iff.mpr (mt List.mem_reverse.mp undivided)
  have stops : ∀ c ∈ directory.reverse.head?, (c != '/') = false := by
    intro c last
    rw [List.head?_reverse] at last
    rcases closed with rfl | slash
    · cases last
    · obtain rfl : '/' = c := Option.some.inj (slash.symm.trans last)
      rfl
  rw [lastSegment, List.reverse_append, takeWhile_append_of_head? reversed stops, List.reverse_reverse]

private theorem undivided_lastSegment (path : List Char) : '/' ∉ lastSegment path :=
  undivided_iff.mp fun _ member => List.mem_rtakeWhile_imp (p := (· != '/')) member

private theorem exists_eq_append_lastSegment (path : List Char) :
    ∃ directory, path = directory ++ lastSegment path ∧
      (directory = [] ∨ directory.getLast? = some '/') := by
  refine ⟨path.rdropWhile (· != '/'), List.rdropWhile_append_rtakeWhile.symm, ?_⟩
  rw [List.rdropWhile, List.getLast?_reverse, List.reverse_eq_nil_iff]
  cases first : (path.reverse.dropWhile (· != '/')).head? with
  | none => exact .inl (List.head?_eq_none_iff.mp first)
  | some c =>
    have slash := of_mem_head?_dropWhile first
    rw [bne_eq_false_iff_eq] at slash
    exact .inr (congrArg some slash)

end SourceRange

namespace FileAddress

open SourceRange

private theorem toList_text (address : FileAddress) :
    address.text.toList = address.directory.toList ++ address.name.toList ++ address.tail.toList := by
  rw [text, String.toList_append, String.toList_append]

private theorem pathPart_text (address : FileAddress) :
    pathPart address.text.toList = address.directory.toList ++ address.name.toList := by
  rw [toList_text]
  refine pathPart_append ?_ (address.tailMarked.imp_left String.toList_eq_nil_iff.mpr)
  simp [address.directoryUnmarked, address.nameUnmarked]

private theorem lastSegment_text (address : FileAddress) :
    lastSegment (pathPart address.text.toList) = address.name.toList := by
  rw [pathPart_text]
  exact lastSegment_append (address.directoryClosed.imp_left String.toList_eq_nil_iff.mpr)
    address.nameUndivided

private theorem text_ne_empty (address : FileAddress) : address.text ≠ "" := by
  intro empty
  have parts := String.append_eq_empty_iff.mp (String.append_eq_empty_iff.mp empty).1
  exact address.someName parts.2

theorem text_injective : Function.Injective text := by
  intro first second same
  -- The path can be read off the text from the left, and the name off the path from the right.
  have names : first.name = second.name := by
    rw [← String.toList_inj, ← first.lastSegment_text, same, second.lastSegment_text]
  have paths : first.directory.toList ++ first.name.toList =
      second.directory.toList ++ second.name.toList := by
    rw [← first.pathPart_text, same, second.pathPart_text]
  have directories : first.directory = second.directory := by
    rw [names] at paths
    exact String.toList_inj.mp (List.append_cancel_right paths)
  have tails : first.tail = second.tail := by
    have whole := congrArg String.toList same
    rw [toList_text, toList_text, paths] at whole
    exact String.toList_inj.mp (List.append_cancel_left whole)
  exact FileAddress.ext directories names tails

/-- An address can be divided exactly if the last segment of its path is not empty. -/
theorem exists_text_eq_iff {url : String} :
    (∃ address : FileAddress, address.text = url) ↔ lastSegment (pathPart url.toList) ≠ [] := by
  constructor
  · rintro ⟨address, rfl⟩
    rw [lastSegment_text, ne_eq, String.toList_eq_nil_iff]
    exact address.someName
  · intro named
    obtain ⟨tail, whole, marked⟩ := exists_eq_pathPart_append url.toList
    obtain ⟨directory, path, closed⟩ := exists_eq_append_lastSegment (pathPart url.toList)
    have unmarked := unmarked_pathPart url.toList
    rw [path] at unmarked
    simp only [List.mem_append, not_or] at unmarked
    refine ⟨{
      directory := String.ofList directory
      name := String.ofList (lastSegment (pathPart url.toList))
      tail := String.ofList tail
      directoryUnmarked := by simpa using ⟨unmarked.1.1, unmarked.2.1⟩
      directoryClosed := by simpa using closed
      someName := by simpa using named
      nameUnmarked := by simpa using ⟨unmarked.1.2, unmarked.2.2⟩
      nameUndivided := by simpa using undivided_lastSegment _
      tailMarked := by simpa using marked }, ?_⟩
    rw [text, ← String.ofList_append, ← path, ← String.ofList_append, ← whole, String.ofList_toList]

end FileAddress

namespace SourceRange

private theorem fileName_of_text {range : SourceRange} {address : FileAddress}
    (divided : address.text = range.fileUrl) : range.fileName = address.name := by
  rw [fileName, ← divided, address.lastSegment_text]
  split
  case h_1 empty => exact absurd (String.toList_eq_nil_iff.mp empty) address.someName
  case h_2 => exact String.ofList_toList

private theorem fileName_of_undivided {range : SourceRange}
    (undivided : ¬ ∃ address : FileAddress, address.text = range.fileUrl) :
    range.fileName = range.fileUrl := by
  rw [FileAddress.exists_text_eq_iff, not_not] at undivided
  rw [fileName, undivided]

/-- An address that names a file can be divided in one way only, and the name of the file is the name in it.
Any other address stands for itself, so the name is empty exactly if the address is. -/
theorem fileName_eq_name_of_divided (range : SourceRange) :
    (range.fileName ≠ "" ↔ range.fileUrl ≠ "") ∧
    (∀ address : FileAddress, address.text = range.fileUrl →
      range.fileName = address.name ∧
        ∀ other : FileAddress, other.text = range.fileUrl → other = address) ∧
    ((¬ ∃ address : FileAddress, address.text = range.fileUrl) → range.fileName = range.fileUrl) := by
  refine ⟨?_, ?_, fileName_of_undivided⟩
  · by_cases named : ∃ address : FileAddress, address.text = range.fileUrl
    · obtain ⟨address, divided⟩ := named
      rw [fileName_of_text divided, ← divided]
      exact iff_of_true address.someName address.text_ne_empty
    · rw [fileName_of_undivided named]
  · intro address divided
    refine ⟨fileName_of_text divided, ?_⟩
    intro other alike
    exact FileAddress.text_injective (alike.trans divided.symm)

def scratchFile : FileAddress where
  directory := "untitled:/scratch/"
  name := "a.src"
  tail := "?from=/b/c.src#/d"
  directoryUnmarked := by decide
  directoryClosed := by decide
  someName := by decide
  nameUnmarked := by decide
  nameUndivided := by decide
  tailMarked := by decide

theorem fileName_scratchFile :
    (scratchFile.text = "untitled:/scratch/a.src?from=/b/c.src#/d" ∧
      fileName ⟨default, default, "untitled:/scratch/a.src?from=/b/c.src#/d"⟩ = "a.src") ∧
    (¬ ∃ address : FileAddress, address.text = "file:///dir/?a.src") ∧
      fileName ⟨default, default, "file:///dir/?a.src"⟩ = "file:///dir/?a.src" := by
  have divided : scratchFile.text = "untitled:/scratch/a.src?from=/b/c.src#/d" := by decide
  have unnamed : ¬ ∃ address : FileAddress, address.text = "file:///dir/?a.src" := by
    rw [FileAddress.exists_text_eq_iff]
    decide
  exact ⟨⟨divided, ((fileName_eq_name_of_divided ⟨default, default, _⟩).2.1 scratchFile divided).1⟩,
    unnamed, (fileName_eq_name_of_divided ⟨default, default, _⟩).2.2 unnamed⟩

end SourceRange

end Outliner
