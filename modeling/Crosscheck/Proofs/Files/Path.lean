import Mathlib
import Crosscheck.Files.Path

/-!
# The parts of paths

The parts of a path are the names in its text that are not empty (`parts_ofText`), and names
are divided at each slash (`properNames_append`). So the parts of a path below a directory are
those of the directory with one name more (`parts_ofText_join`), and slashes at the end of a
path ask for a directory and do nothing else (`parts_ofText_withoutSlashes`).
-/

namespace Crosscheck

/-- A name that a file can be given: not a dot or two, not too long, and without the characters
that end names and paths. -/
structure IsFileName (name : String) : Prop where
  nonempty : name ≠ ""
  noSlash : '/' ∉ name.toList
  noZero : '\x00' ∉ name.toList
  ne_dot : name ≠ "."
  ne_dots : name ≠ ".."
  short : name.utf8ByteSize ≤ 255

namespace Path

section Names

/-- The names in a text that are not empty. -/
def properNames (text : List Char) : List String :=
  ((names text).filter (· != [])).map String.ofList

/-- The last name in a text, which is empty after a slash. -/
def lastName (text : List Char) : List Char := text.rtakeWhile (· != '/')

theorem names_eq_splitOnP (text : List Char) : names text = text.splitOnP (· == '/') := by
  induction text with
  | nil => rfl
  | cons char rest inductionHypothesis =>
      rw [List.splitOnP_cons_eq_if_modifyHead, ← inductionHypothesis]
      by_cases slash : char = '/'
      · simp [names, slash]
      · obtain ⟨name, others, split⟩ :=
          List.exists_cons_of_ne_nil (List.splitOnP_ne_nil (· == '/') rest)
        rw [names.eq_3 _ _ (by simpa using slash), inductionHypothesis, split]
        simp [slash]

theorem names_append (left right : List Char) :
    names (left ++ '/' :: right) = names left ++ names right := by
  simp only [names_eq_splitOnP]
  exact List.splitOnP_append_cons left right (by decide)

theorem names_of_noSlash {text : List Char} (noSlash : '/' ∉ text) : names text = [text] := by
  rw [names_eq_splitOnP]
  refine List.splitOnP_eq_singleton fun char member => ?_
  rw [beq_eq_false_iff_ne]
  rintro rfl
  exact noSlash member

theorem noSlash_lastName (text : List Char) : '/' ∉ lastName text := fun member => by
  simpa using List.mem_rtakeWhile_imp member

theorem getLast?_names (text : List Char) : (names text).getLast? = some (lastName text) := by
  have split : text.rdropWhile (· != '/') ++ lastName text = text :=
    List.rdropWhile_append_rtakeWhile
  rcases List.eq_nil_or_concat (text.rdropWhile (· != '/')) with none | ⟨before, slash, found⟩
  · rw [none, List.nil_append] at split
    rw [names_of_noSlash (split ▸ noSlash_lastName text), List.getLast?_singleton, split]
  · have isSlash : slash = '/' := by
      have stops := List.rdropWhile_last_not (· != '/') text (by simp [found])
      simpa [found] using stops
    subst isSlash
    rw [found, List.concat_eq_append, List.append_assoc, List.singleton_append] at split
    rw [← split, names_append, names_of_noSlash (noSlash_lastName text), List.getLast?_concat,
      split]

theorem lastName_append (left right : List Char) :
    lastName (left ++ '/' :: right) = lastName right := by
  have last := getLast?_names (left ++ '/' :: right)
  rw [names_append, List.getLast?_append, getLast?_names, Option.some_or] at last
  exact (Option.some.inj last).symm

theorem lastName_of_noSlash {text : List Char} (noSlash : '/' ∉ text) : lastName text = text := by
  have last := getLast?_names text
  rw [names_of_noSlash noSlash, List.getLast?_singleton] at last
  exact (Option.some.inj last).symm

/-- Names are divided at each slash. -/
theorem properNames_append (left right : List Char) :
    properNames (left ++ '/' :: right) = properNames left ++ properNames right := by
  simp [properNames, names_append]

theorem properNames_of_noSlash {text : List Char} (noSlash : '/' ∉ text) (nonempty : text ≠ []) :
    properNames text = [String.ofList text] := by
  simp [properNames, names_of_noSlash noSlash, nonempty]

theorem properNames_of_slashes {text : List Char} (slashes : ∀ char ∈ text, char = '/') :
    properNames text = [] := by
  induction text with
  | nil => rfl
  | cons char rest inductionHypothesis =>
      rw [List.forall_mem_cons] at slashes
      obtain ⟨rfl, slashes⟩ := slashes
      exact (properNames_append [] rest).trans (inductionHypothesis slashes)

/-- Slashes at the end of a text hold no further name. -/
theorem properNames_append_of_slashes (text : List Char) {trailing : List Char}
    (slashes : ∀ char ∈ trailing, char = '/') :
    properNames (text ++ trailing) = properNames text := by
  cases trailing with
  | nil => rw [List.append_nil]
  | cons slash rest =>
      rw [List.forall_mem_cons] at slashes
      obtain ⟨rfl, slashes⟩ := slashes
      rw [properNames_append, properNames_of_slashes slashes, List.append_nil]

end Names

/-- The parts of a path are its names, and a dot if it ends in a slash. -/
theorem parts_ofText (text : String) : (ofText text).parts =
    properNames text.toList ++ if lastName text.toList = [] then ["."] else [] := by
  have dot : String.ofList ['.'] = "." := rfl
  simp only [ofText, getLast?_names, properNames, List.map_append]
  by_cases ended : lastName text.toList = [] <;> simp [ended, dot]

theorem lastName_eq_nil_iff {text : List Char} (nonempty : text ≠ []) :
    lastName text = [] ↔ text.getLast? = some '/' := by
  rw [lastName, List.rtakeWhile_eq_nil_iff, List.getLast?_eq_some_getLast nonempty]
  simp [nonempty]

theorem toList_withoutSlashes (text : String) :
    (withoutSlashes text).toList = text.toList.rdropWhile (· == '/') := by
  rw [withoutSlashes, String.toList_ofList, List.rdropWhile]

section Join

variable {directory name : String}

/-- The text of a path below a directory: there is a slash before the name. -/
theorem exists_toList_join (nonempty : directory ≠ "") :
    ∃ before, (directory.toList = before ∧ lastName before ≠ [] ∨
        directory.toList = before ++ ['/']) ∧
      ∀ name, IsFileName name → (join directory name).toList = before ++ '/' :: name.toList := by
  have relative : ∀ name, IsFileName name → name.toList.head? ≠ some '/' := fun name isName first =>
    isName.noSlash (List.mem_of_mem_head? first)
  have listed : directory.toList ≠ [] := by simpa using nonempty
  unfold join
  by_cases ended : directory.toList.getLast? = some '/'
  · obtain ⟨before, split⟩ := List.getLast?_eq_some_iff.mp ended
    refine ⟨before, .inr split, fun name isName => ?_⟩
    simp [relative name isName, nonempty, split]
  · refine ⟨directory.toList, .inl ⟨rfl, ?_⟩, fun name isName => ?_⟩
    · rwa [ne_eq, lastName_eq_nil_iff listed]
    · simp [relative name isName, nonempty, ended]

/-- The path of a name below a directory is that of the directory with the name behind it. -/
theorem parts_ofText_join (nonempty : directory ≠ "") (isName : IsFileName name) :
    ∃ parts, (ofText (join directory name)).parts = parts ++ [name] ∧
      ((ofText directory).parts = parts ∨ (ofText directory).parts = parts ++ ["."]) := by
  obtain ⟨before, isDirectory, joined⟩ := exists_toList_join nonempty
  have listed : name.toList ≠ [] := by simpa using isName.nonempty
  refine ⟨properNames before, ?_, ?_⟩
  · rw [parts_ofText, joined name isName, properNames_append, lastName_append,
      lastName_of_noSlash isName.noSlash, if_neg listed,
      properNames_of_noSlash isName.noSlash listed, String.ofList_toList, List.append_nil]
  · rcases isDirectory with ⟨same, named⟩ | same
    · left
      rw [parts_ofText, same, if_neg named, List.append_nil]
    · right
      have ended : lastName (before ++ ['/']) = [] := lastName_append before []
      have slash : ∀ char ∈ ['/'], char = '/' := fun char member => List.mem_singleton.mp member
      rw [parts_ofText, same, if_pos ended, properNames_append_of_slashes before slash]

theorem isAbsolute_ofText_join (nonempty : directory ≠ "") (isName : IsFileName name) :
    (ofText (join directory name)).isAbsolute = (ofText directory).isAbsolute := by
  obtain ⟨before, isDirectory, joined⟩ := exists_toList_join nonempty
  have first : (join directory name).toList.head? = directory.toList.head? := by
    rcases isDirectory with ⟨same, _⟩ | same <;> rw [joined name isName, same] <;> cases before
    case inl.nil => simp [← String.toList_eq_nil_iff, same] at nonempty
    all_goals rfl
  simp [ofText, first]

/-- No name makes a path empty or brings a zero into it. -/
theorem join_ne_empty (nonempty : directory ≠ "") (isName : IsFileName name) :
    join directory name ≠ "" := by
  obtain ⟨before, _, joined⟩ := exists_toList_join nonempty
  intro empty
  simpa [empty] using joined name isName

theorem zero_notMem_join (clean : '\x00' ∉ directory.toList) (nonempty : directory ≠ "")
    (isName : IsFileName name) : '\x00' ∉ (join directory name).toList := by
  obtain ⟨before, isDirectory, joined⟩ := exists_toList_join nonempty
  have cleanBefore : '\x00' ∉ before := by
    rcases isDirectory with ⟨same, _⟩ | same <;> simp_all
  simp [joined name isName, cleanBefore, isName.noZero]

theorem getLast?_toList_join (nonempty : directory ≠ "") (isName : IsFileName name) :
    (join directory name).toList.getLast? = name.toList.getLast? := by
  obtain ⟨before, _, joined⟩ := exists_toList_join nonempty
  have listed : name.toList ≠ [] := by simpa using isName.nonempty
  rw [joined name isName, List.getLast?_append_of_ne_nil _ (List.cons_ne_nil _ _),
    List.getLast?_cons_of_ne_nil listed]

theorem withoutSlashes_join (nonempty : directory ≠ "") (isName : IsFileName name) :
    withoutSlashes (join directory name) = join directory name := by
  have last : (join directory name).toList.getLast? ≠ some '/' := by
    rw [getLast?_toList_join nonempty isName]
    exact fun ended => isName.noSlash (List.mem_of_getLast? ended)
  rw [← String.toList_inj, toList_withoutSlashes, List.rdropWhile_eq_self_iff]
  intro listed slash
  rw [List.getLast?_eq_some_getLast listed] at last
  exact last (congrArg some (beq_iff_eq.mp slash))

/-- How long paths below a directory are depends on the names alone. -/
theorem exists_utf8ByteSize_join (nonempty : directory ≠ "") : ∃ size, ∀ name, IsFileName name →
    (join directory name).utf8ByteSize = size + name.utf8ByteSize := by
  obtain ⟨before, _, joined⟩ := exists_toList_join nonempty
  refine ⟨(String.ofList (before ++ ['/'])).utf8ByteSize, fun name isName => ?_⟩
  have same : join directory name = String.ofList (before ++ ['/']) ++ name := by
    rw [← String.toList_inj, joined name isName]
    simp
  rw [same, String.utf8ByteSize_append]

end Join

section Slashes

variable {text : String}

theorem exists_toList_withoutSlashes (text : String) :
    ∃ trailing, text.toList = (withoutSlashes text).toList ++ trailing ∧
      ∀ char ∈ trailing, char = '/' := by
  refine ⟨text.toList.rtakeWhile (· == '/'), ?_, fun char member => ?_⟩
  · rw [toList_withoutSlashes]
    exact List.rdropWhile_append_rtakeWhile.symm
  · simpa using List.mem_rtakeWhile_imp member

theorem getLast?_withoutSlashes (text : String) :
    (withoutSlashes text).toList.getLast? ≠ some '/' := by
  intro ended
  rw [toList_withoutSlashes] at ended
  have nonempty : text.toList.rdropWhile (· == '/') ≠ [] := by
    rintro none
    simp [none] at ended
  have stops := List.rdropWhile_last_not (· == '/') text.toList nonempty
  rw [List.getLast?_eq_some_getLast nonempty, Option.some.injEq] at ended
  simp [ended] at stops

/-- Slashes at the end of a path only ask for a directory. -/
theorem parts_ofText_withoutSlashes (named : withoutSlashes text ≠ "") :
    (ofText text).parts = (ofText (withoutSlashes text)).parts ∨
      (ofText text).parts = (ofText (withoutSlashes text)).parts ++ ["."] := by
  obtain ⟨trailing, split, slashes⟩ := exists_toList_withoutSlashes text
  have listed : (withoutSlashes text).toList ≠ [] := by simpa using named
  have continued : lastName (withoutSlashes text).toList ≠ [] := by
    rw [ne_eq, lastName_eq_nil_iff listed]
    exact getLast?_withoutSlashes text
  rw [parts_ofText, parts_ofText, split, properNames_append_of_slashes _ slashes, if_neg continued,
    List.append_nil]
  split_ifs
  · exact .inr rfl
  · exact .inl (List.append_nil _)

/-- The last name of a path is one of its parts. -/
theorem exists_parts_of_withoutSlashes (named : withoutSlashes text ≠ "") {parts : List String}
    {name : String} (split : (ofText (withoutSlashes text)).parts = parts ++ [name]) :
    ∃ more, (ofText text).parts = parts ++ name :: more := by
  rcases parts_ofText_withoutSlashes named with same | same
  · exact ⟨[], by rw [same, split]⟩
  · exact ⟨["."], by rw [same, split, List.append_assoc, List.singleton_append]⟩

theorem isAbsolute_ofText_withoutSlashes (named : withoutSlashes text ≠ "") :
    (ofText (withoutSlashes text)).isAbsolute = (ofText text).isAbsolute := by
  obtain ⟨trailing, split, _⟩ := exists_toList_withoutSlashes text
  have listed : (withoutSlashes text).toList ≠ [] := by simpa using named
  simp [ofText, split, List.head?_append_of_ne_nil _ listed]

theorem withoutIdle_of_empty {list : List (List Char)} (empty : ∀ name ∈ list, name = []) :
    withoutIdle list = [] := by
  cases list with
  | nil => rfl
  | cons first rest =>
      rw [List.forall_mem_cons] at empty
      have none : rest.reverse.dropWhile isIdle = [] := by
        rw [List.dropWhile_eq_nil_iff]
        intro name member
        simp [isIdle, empty.2 name (List.mem_reverse.mp member)]
      simp [withoutIdle, empty.1, none]

/-- Only the root or nothing is above slashes. -/
theorem parentText_of_bare (bare : withoutSlashes text = "") :
    parentText text = "/" ∨ parentText text = "" := by
  obtain ⟨trailing, split, slashes⟩ := exists_toList_withoutSlashes text
  have none : properNames text.toList = [] := by
    rw [split, bare, properNames_append_of_slashes _ slashes]
    rfl
  have empty : ∀ name ∈ names text.toList, name = [] := by simpa [properNames] using none
  have nothing : withoutIdle (withoutIdle (names text.toList)).dropLast = [] := by
    rw [withoutIdle_of_empty empty]
    rfl
  unfold parentText
  rw [nothing]
  dsimp only
  split_ifs
  · exact .inl rfl
  · exact .inr rfl

end Slashes

end Path
end Crosscheck
