import Mathlib
import Crosscheck.CommandLine
import Crosscheck.Proofs.Digest
import Crosscheck.Proofs.Except
import Crosscheck.Proofs.Files.Tree

/-!
# Corpora that are read back

A directory keeps inputs (`Keeps`) if its names are those of the inputs and nothing else, with
a file for each. To write an input keeps one more, or changes nothing if it is kept already
(`Keeps.writeInput`), so what is written into an empty directory keeps exactly what was
written (`Keeps.foldlM_writeInput`). What is kept is read in the order of the names, which is
that of the digests (`Keeps.readPath`). A run writes what its campaign retained and reads what
it is given in this way (`CommandLine.corpus_restored`).
-/

namespace Crosscheck
namespace CorpusDirectory

section Names

theorem utf8ByteSize_hexMd5 (input : List UInt8) : (Digest.hexMd5 input).utf8ByteSize = 32 := by
  rw [Digest.hexMd5, Digest.utf8ByteSize_hex, Digest.length_md5]

/-- All names are of the same size. -/
theorem utf8ByteSize_fileName (input : List UInt8) : (fileName input).utf8ByteSize = 36 := by
  rw [fileName, String.utf8ByteSize_append, utf8ByteSize_hexMd5]
  rfl

/-- An input is kept under a name that a file can be given. -/
theorem isFileName_fileName (input : List UInt8) : IsFileName (fileName input) := by
  have size := utf8ByteSize_fileName input
  have absent : ∀ char ∈ ['/', '\x00'], char ∉ (fileName input).toList := by
    intro char unwanted member
    rw [fileName, String.toList_append, List.mem_append] at member
    rcases member with digit | ending
    · exact Digest.notMem_of_mem_hex digit (List.mem_cons_of_mem _ unwanted)
    · rw [List.mem_pair] at unwanted
      rcases unwanted with rfl | rfl <;> exact absurd ending (by decide)
  refine ⟨?_, absent _ (by decide), absent _ (by decide), ?_, ?_, by omega⟩
  all_goals
    intro same
    rw [same] at size
    exact absurd size (by decide)

theorem not_isHidden_fileName (input : List UInt8) : isHidden (fileName input) = false := by
  have named : (Digest.hexMd5 input).toList ≠ [] := by
    intro none
    have size := utf8ByteSize_hexMd5 input
    rw [String.toList_eq_nil_iff.mp none] at size
    exact absurd size (by decide)
  rw [isHidden, fileName, String.toList_append, List.head?_append_of_ne_nil _ named,
    beq_eq_false_iff_ne]
  intro first
  exact Digest.notMem_of_mem_hex (List.mem_of_mem_head? first) (by decide)

/-- Names are in the order of the digests. -/
theorem fileName_lt_iff (left right : List UInt8) :
    fileName left < fileName right ↔ Digest.md5 left < Digest.md5 right :=
  Digest.hex_append_lt_iff (by rw [Digest.length_md5, Digest.length_md5]) ".sql"

end Names

/-- A directory keeps inputs in the order in which they came, and nothing else is in it. -/
structure Keeps (tree : FileTree) (here : Place) (directory : String) (place : Place)
    (kept : List (List UInt8)) : Prop where
  located : tree.locate here directory = .ok place
  isDirectory : tree.node? place = some .directory
  names : tree.namesIn place = kept.map fileName
  files : ∀ input ∈ kept, tree.node? (place ++ [fileName input]) = some (.file input false)
  once : kept.Nodup

section Writing

variable {tree : FileTree} {here place : Place} {directory : String}
  {kept inputs : List (List UInt8)} {input : List UInt8}

/-- The path of an input in a directory is not too long. -/
def Fits (directory : String) (input : List UInt8) : Prop :=
  (Path.join directory (fileName input)).utf8ByteSize < FileTree.maxOctets

/-- Inputs with the same digest are the same. -/
def Distinct (inputs : List (List UInt8)) : Prop :=
  ∀ first ∈ inputs, ∀ second ∈ inputs, Digest.md5 first = Digest.md5 second → first = second

theorem Distinct.mono {others : List (List UInt8)} (distinct : Distinct inputs)
    (subset : others ⊆ inputs) : Distinct others :=
  fun first memberFirst second memberSecond =>
    distinct first (subset memberFirst) second (subset memberSecond)

/-- Inputs with the same name have the same digest. -/
theorem md5_eq_of_fileName {first second : List UInt8} (same : fileName first = fileName second) :
    Digest.md5 first = Digest.md5 second := by
  have notBefore : ¬Digest.md5 first < Digest.md5 second := by
    rw [← fileName_lt_iff, same]
    exact String.lt_irrefl _
  have notAfter : ¬Digest.md5 second < Digest.md5 first := by
    rw [← fileName_lt_iff, same]
    exact String.lt_irrefl _
  exact Std.Trichotomous.trichotomous _ _ notBefore notAfter

namespace Keeps

theorem nonempty (keeps : Keeps tree here directory place kept) : directory ≠ "" :=
  (FileTree.locate_eq_ok_iff.mp keeps.located).1

/-- The path of a file ends in no slash. -/
theorem unended (keeps : Keeps tree here directory place kept) (input : List UInt8) :
    (Path.join directory (fileName input)).toList.getLast? ≠ some '/' := by
  have isName := isFileName_fileName input
  rw [Path.getLast?_toList_join keeps.nonempty isName]
  exact fun ended => isName.noSlash (List.mem_of_getLast? ended)

/-- What is kept is found under its name. -/
theorem locate_of_mem (keeps : Keeps tree here directory place kept) (member : input ∈ kept)
    (fits : Fits directory input) :
    tree.locate here (Path.join directory (fileName input)) = .ok (place ++ [fileName input]) := by
  refine FileTree.locate_join keeps.located keeps.isDirectory (isFileName_fileName input) fits
    fun text linked => ?_
  rw [keeps.files input member] at linked
  cases linked

/-- To write what is kept changes nothing. -/
theorem writeInput_of_mem (keeps : Keeps tree here directory place kept) (member : input ∈ kept)
    (fits : Fits directory input) : writeInput here directory tree input = .ok tree := by
  have held := keeps.files input member
  have written := FileTree.update_of_file (keeps.unended input) (fun _ => input)
    (keeps.locate_of_mem member fits) held
  rw [FileTree.put_of_node? (by simp) held] at written
  unfold writeInput FileTree.write
  dsimp only
  rw [written]

/-- Nothing is written where the path is too long. -/
theorem writeInput_of_long (keeps : Keeps tree here directory place kept)
    (long : ¬Fits directory input) :
    ∃ failure, writeInput here directory tree input = .error failure := by
  have isName := isFileName_fileName input
  have empty : ¬(Path.join directory (fileName input)).isEmpty = true := by
    simpa using Path.join_ne_empty keeps.nonempty isName
  have clean : '\x00' ∉ directory.toList := (FileTree.locate_eq_ok_iff.mp keeps.located).2.1
  have zero := Path.zero_notMem_join clean keeps.nonempty isName
  have refused : tree.locate here (Path.join directory (fileName input)) = .error .nameTooLong := by
    unfold FileTree.locate
    rw [if_neg empty, if_neg (by simpa using zero), if_pos (Nat.not_lt.mp long)]
  have notWritten : tree.write here (Path.join directory (fileName input)) input =
      .error .nameTooLong := by
    unfold FileTree.write FileTree.update
    rw [if_neg (by simpa using keeps.unended input), refused]
    rfl
  unfold writeInput
  dsimp only
  rw [notWritten]
  exact ⟨_, rfl⟩

/-- Nothing has the name of an input that is not kept. -/
theorem node?_of_notMem (keeps : Keeps tree here directory place kept)
    (distinct : Distinct (input :: kept)) (fresh : input ∉ kept) :
    tree.node? (place ++ [fileName input]) = none := by
  refine FileTree.node?_eq_none_of_notMem fun member => ?_
  rw [keeps.names, List.mem_map] at member
  obtain ⟨other, present, same⟩ := member
  have equal : other = input :=
    distinct other (List.mem_cons_of_mem _ present) input List.mem_cons_self
      (md5_eq_of_fileName same)
  exact fresh (equal ▸ present)

/-- To write another input keeps it behind those before it. -/
theorem writeInput_of_notMem (keeps : Keeps tree here directory place kept)
    (distinct : Distinct (input :: kept)) (fresh : input ∉ kept) (fits : Fits directory input) :
    ∃ after, writeInput here directory tree input = .ok after ∧
      Keeps after here directory place (kept ++ [input]) := by
  have below : place ++ [fileName input] ≠ [] := by simp
  have vacant := keeps.node?_of_notMem distinct fresh
  have located := FileTree.locate_join keeps.located keeps.isDirectory (isFileName_fileName input)
    fits (by simp [vacant])
  have written := FileTree.update_of_vacant (keeps.unended input) (fun _ => input) located vacant
    keeps.isDirectory
  have still : ∀ {spot node}, tree.node? spot = some node →
      (tree.put (place ++ [fileName input]) (.file input false)).node? spot = some node :=
    fun held => FileTree.node?_put_of_vacant below vacant held _
  refine ⟨tree.put (place ++ [fileName input]) (.file input false), ?_, ?_⟩
  · unfold writeInput FileTree.write
    dsimp only
    rw [written]
  constructor
  case located => exact FileTree.locate_put keeps.located below vacant (by simp)
  case isDirectory => exact still keeps.isDirectory
  case names => rw [FileTree.namesIn_put vacant, keeps.names, List.map_append, List.map_singleton]
  case files =>
    intro other member
    rcases List.mem_append.mp member with earlier | last
    · exact still (keeps.files other earlier)
    · rw [List.mem_singleton.mp last, FileTree.node?_put below, if_pos rfl]
  case once => exact keeps.once.append (List.nodup_singleton input) (by simpa using fresh)

/-- To write an input keeps what was kept and the input. -/
theorem writeInput (keeps : Keeps tree here directory place kept)
    (distinct : Distinct (input :: kept)) (fits : Fits directory input) :
    ∃ after later, CorpusDirectory.writeInput here directory tree input = .ok after ∧
      Keeps after here directory place later ∧
      ∀ other, other ∈ later ↔ other ∈ kept ∨ other = input := by
  by_cases member : input ∈ kept
  · refine ⟨tree, kept, keeps.writeInput_of_mem member fits, keeps, fun other => ?_⟩
    exact ⟨.inl, fun either => either.elim id (· ▸ member)⟩
  · obtain ⟨after, written, keepsLater⟩ := keeps.writeInput_of_notMem distinct member fits
    exact ⟨after, kept ++ [input], written, keepsLater, by simp⟩

/-- To write what is kept in any order and any number of times changes nothing. -/
theorem foldlM_of_subset (keeps : Keeps tree here directory place kept)
    (fits : ∀ input ∈ inputs, Fits directory input) (subset : ∀ input ∈ inputs, input ∈ kept) :
    inputs.foldlM (CorpusDirectory.writeInput here directory) tree = .ok tree := by
  induction inputs with
  | nil => rfl
  | cons input rest inductionHypothesis =>
      rw [List.forall_mem_cons] at fits subset
      rw [List.foldlM_cons, keeps.writeInput_of_mem subset.1 fits.1]
      exact inductionHypothesis fits.2 subset.2

/-- To write inputs keeps what was kept and each of them. By induction on the inputs, for
whatever is kept already: an input that comes again is among that. -/
theorem foldlM_writeInput (keeps : Keeps tree here directory place kept)
    (distinct : Distinct (inputs ++ kept)) (fits : ∀ input ∈ inputs, Fits directory input) :
    ∃ after later, inputs.foldlM (CorpusDirectory.writeInput here directory) tree = .ok after ∧
      Keeps after here directory place later ∧
      ∀ other, other ∈ later ↔ other ∈ kept ∨ other ∈ inputs := by
  induction inputs generalizing tree kept with
  | nil => exact ⟨tree, kept, rfl, keeps, by simp⟩
  | cons input rest inductionHypothesis =>
      rw [List.forall_mem_cons] at fits
      have first : Distinct (input :: kept) := distinct.mono
        (List.cons_subset_cons input (List.subset_append_right rest kept))
      obtain ⟨middle, between, written, keepsBetween, isBetween⟩ := keeps.writeInput first fits.1
      have second : Distinct (rest ++ between) := by
        refine distinct.mono fun other member => ?_
        rcases List.mem_append.mp member with pending | present
        · exact List.mem_append_left kept (List.mem_cons_of_mem input pending)
        · rcases (isBetween other).mp present with early | same
          · exact List.mem_append_right (input :: rest) early
          · exact List.mem_append_left kept (same ▸ List.mem_cons_self)
      obtain ⟨after, later, others, keepsLater, isLater⟩ :=
        inductionHypothesis keepsBetween second fits.2
      refine ⟨after, later, ?_, keepsLater, fun other => ?_⟩
      · rw [List.foldlM_cons, written]
        exact others
      · rw [isLater, isBetween, List.mem_cons, or_assoc]

end Keeps
end Writing

section Reading

variable {tree : FileTree} {here place : Place} {directory : String}
  {kept inputs : List (List UInt8)} {input : List UInt8}

/-- Whether the name of an input does not come after that of another one. -/
def byName (first second : List UInt8) : Bool := precedes (fileName first) (fileName second)

theorem byName_iff (first second : List UInt8) :
    byName first second = true ↔ ¬Digest.md5 second < Digest.md5 first := by
  rw [byName, precedes, Bool.not_eq_true', decide_eq_false_iff_not, fileName_lt_iff]

/-- Inputs in the order of their names are in that of their digests. -/
theorem pairwise_mergeSort_byName (distinct : Distinct kept) (once : kept.Nodup) :
    (kept.mergeSort byName).Pairwise fun first second =>
      Digest.md5 first < Digest.md5 second := by
  have sorted : (kept.mergeSort byName).Pairwise fun first second =>
      byName first second = true := by
    refine List.pairwise_mergeSort (fun first second third before after => ?_)
      (fun first second => ?_) kept
    · rw [byName_iff] at before after ⊢
      exact List.le_trans before after
    · rw [Bool.or_eq_true, byName_iff, byName_iff]
      by_cases after : Digest.md5 second < Digest.md5 first
      · exact .inr (List.lt_asymm after)
      · exact .inl after
  have apart : (kept.mergeSort byName).Nodup := (kept.mergeSort_perm byName).nodup_iff.mpr once
  refine (sorted.and apart).imp_of_mem fun {first second} memberFirst memberSecond ordered => ?_
  rw [List.mem_mergeSort] at memberFirst memberSecond
  obtain ⟨ordered, differ⟩ := ordered
  rw [byName_iff] at ordered
  by_contra notBefore
  exact differ (distinct first memberFirst second memberSecond
    (Std.Trichotomous.trichotomous _ _ notBefore ordered))

namespace Keeps

/-- The files of a directory are the inputs that it keeps. -/
theorem files_eq (keeps : Keeps tree here directory place kept)
    (fits : ∀ input ∈ kept, Fits directory input) :
    CorpusDirectory.files tree here directory (tree.namesIn place) =
      (kept.mergeSort byName).map fun input => Path.join directory (fileName input) := by
  have all : ∀ name ∈ kept.map fileName,
      (!isHidden name && tree.hasFile here (Path.join directory name)) = true := by
    intro name member
    obtain ⟨input, present, rfl⟩ := List.mem_map.mp member
    have found := FileTree.find_of_locate (keeps.locate_of_mem present (fits input present))
      (keeps.files input present)
    simp only [not_isHidden_fileName, FileTree.hasFile, found, Bool.not_false, Bool.and_self]
  have sorted : (kept.mergeSort byName).map fileName = (kept.map fileName).mergeSort precedes :=
    List.map_mergeSort fun _ _ _ _ => rfl
  unfold CorpusDirectory.files
  rw [keeps.names, List.filter_eq_self.mpr all, ← sorted, List.map_map]
  rfl

/-- What is kept is read in ascending order of the digests. -/
theorem readPath (keeps : Keeps tree here directory place kept)
    (fits : ∀ input ∈ kept, Fits directory input) :
    CorpusDirectory.readPath tree here directory = .ok (kept.mergeSort byName) := by
  have found := FileTree.find_of_locate keeps.located keeps.isDirectory
  have listed := FileTree.list_of_locate keeps.located keeps.isDirectory
  have read : (kept.mergeSort byName).mapM
      (fun input => readFile tree here (Path.join directory (fileName input))) =
        .ok ((kept.mergeSort byName).map id) := by
    refine mapM_eq_ok fun input member => ?_
    have present := List.mem_mergeSort.mp member
    have octets := FileTree.read_of_locate (keeps.locate_of_mem present (fits input present))
      (keeps.files input present)
    unfold readFile
    rw [octets]
    rfl
  unfold CorpusDirectory.readPath
  simp only [FileTree.hasFile, FileTree.hasDirectory, found, listed, Bool.false_eq_true, if_false,
    if_true, keeps.files_eq fits]
  rw [List.mapM_map, Function.comp_def, read, List.map_id]

end Keeps
end Reading

section Reloading

variable {tree : FileTree} {here : Place} {directory : String} {inputs : List (List UInt8)}

/-- Inputs can be written into a directory, which is empty once it has been created. -/
structure Ready (tree : FileTree) (here : Place) (directory : String)
    (inputs : List (List UInt8)) : Prop where
  vacant : ∃ prepared, tree.createDirectories here directory = .ok prepared ∧
    prepared.list here directory = .ok []
  distinct : Distinct inputs

/-- The distinct ones of some inputs, each once, in ascending order of the digests. -/
structure Restores (loaded inputs : List (List UInt8)) : Prop where
  members : ∀ input, input ∈ loaded ↔ input ∈ inputs
  once : loaded.Nodup
  ascending : loaded.Pairwise fun first second => Digest.md5 first < Digest.md5 second

/-- An empty directory keeps nothing. -/
theorem exists_keeps_of_list (empty : tree.list here directory = .ok []) :
    ∃ place, Keeps tree here directory place [] := by
  obtain ⟨place, located, isDirectory, names⟩ := FileTree.exists_of_list empty
  exact ⟨place, located, isDirectory, names, fun input member => absurd member List.not_mem_nil,
    List.nodup_nil⟩

/-- A directory that is missing in another one is ready, if nothing stands below nothing. -/
theorem Ready.of_missing {place : Place} {name : String}
    (located : tree.locate here directory = .ok place)
    (isDirectory : tree.node? place = some .directory) (isName : IsFileName name)
    (short : (Path.join directory name).utf8ByteSize < FileTree.maxOctets)
    (vacant : tree.node? (place ++ [name]) = none)
    (rooted : ∀ place, tree.node? place = none → tree.namesIn place = [])
    (distinct : Distinct inputs) : Ready tree here (Path.join directory name) inputs := by
  have below : place ++ [name] ≠ [] := by simp
  have nonempty := Path.join_ne_empty (FileTree.locate_eq_ok_iff.mp located).1 isName
  have created := FileTree.createDirectory_join located isDirectory isName short vacant
  have there : (tree.put (place ++ [name]) .directory).node? (place ++ [name]) =
      some .directory := by
    rw [FileTree.node?_put below, if_pos rfl]
  have found := FileTree.locate_join (FileTree.locate_put located below vacant (by simp))
    (FileTree.node?_put_of_vacant below vacant isDirectory .directory) isName short
    (by simp [there])
  refine ⟨⟨_, FileTree.createDirectories_of_created nonempty created, ?_⟩, distinct⟩
  rw [FileTree.list_of_locate found there, FileTree.namesIn_put_self vacant, rooted _ vacant]

/-- The path of some input in a directory is too long. -/
def Overlong (directory : String) (inputs : List (List UInt8)) : Prop :=
  ∃ input ∈ inputs, ¬Fits directory input

theorem fits_of_not_overlong (short : ¬Overlong directory inputs) :
    ∀ input ∈ inputs, Fits directory input := by
  intro input member
  by_contra long
  exact short ⟨input, member, long⟩

theorem fits_iff (nonempty : directory ≠ "") (first second : List UInt8) :
    Fits directory first ↔ Fits directory second := by
  obtain ⟨size, sized⟩ := Path.exists_utf8ByteSize_join nonempty
  rw [Fits, Fits, sized _ (isFileName_fileName first), sized _ (isFileName_fileName second),
    utf8ByteSize_fileName, utf8ByteSize_fileName]

/-- Where paths are too long nothing is written. -/
theorem Ready.refuses (ready : Ready tree here directory inputs)
    (overlong : Overlong directory inputs) :
    ∃ failure, writeAll tree here directory inputs = .error failure := by
  obtain ⟨prepared, created, empty⟩ := ready.vacant
  obtain ⟨place, keeps⟩ := exists_keeps_of_list empty
  obtain ⟨input, member, long⟩ := overlong
  cases inputs with
  | nil => exact absurd member List.not_mem_nil
  | cons first rest =>
      have longFirst : ¬Fits directory first := by rwa [fits_iff keeps.nonempty first input]
      obtain ⟨failure, refused⟩ := keeps.writeInput_of_long longFirst
      refine ⟨failure, ?_⟩
      unfold writeAll
      rw [created]
      dsimp only
      rw [List.foldlM_cons, refused]
      rfl

/-- What is written into an empty directory is read back. -/
theorem Ready.reloads (ready : Ready tree here directory inputs)
    (fits : ∀ input ∈ inputs, Fits directory input) :
    ∃ kept loaded, writeAll tree here directory inputs = .ok kept ∧
      readPath kept here directory = .ok loaded ∧ Restores loaded inputs ∧
      writeAll kept here directory loaded = .ok kept := by
  obtain ⟨prepared, created, empty⟩ := ready.vacant
  obtain ⟨place, keepsNone⟩ := exists_keeps_of_list empty
  have distinct : Distinct (inputs ++ []) := by
    rw [List.append_nil]
    exact ready.distinct
  obtain ⟨after, kept, written, keeps, isKept⟩ := keepsNone.foldlM_writeInput distinct fits
  have same : ∀ input, input ∈ kept ↔ input ∈ inputs := fun input => by simp [isKept]
  have fits : ∀ input ∈ kept, Fits directory input :=
    fun input member => fits input ((same input).mp member)
  have restores : Restores (kept.mergeSort byName) inputs := by
    refine ⟨fun input => List.mem_mergeSort.trans (same input), ?_, ?_⟩
    · exact (kept.mergeSort_perm byName).nodup_iff.mpr keeps.once
    · refine pairwise_mergeSort_byName (ready.distinct.mono fun input member => ?_) keeps.once
      exact (same input).mp member
  refine ⟨after, kept.mergeSort byName, ?_, keeps.readPath fits, restores, ?_⟩
  · simp only [writeAll, created, written]
  · have members : ∀ input ∈ kept.mergeSort byName, input ∈ kept :=
      fun input member => List.mem_mergeSort.mp member
    simp only [writeAll, FileTree.createDirectories_of_locate keeps.located keeps.isDirectory]
    exact keeps.foldlM_of_subset (fun input member => fits input (members input member)) members

/-- What several paths lead to is read in order. -/
theorem readAll_append {first second : List String} {early late : List (List UInt8)}
    (readFirst : readAll tree here first = .ok early)
    (readSecond : readAll tree here second = .ok late) :
    readAll tree here (first ++ second) = .ok (early ++ late) := by
  induction first generalizing early with
  | nil =>
      cases readFirst
      exact readSecond
  | cons path rest inductionHypothesis =>
      rw [readAll] at readFirst
      obtain ⟨found, readPath, readFirst⟩ := exists_of_bind readFirst
      obtain ⟨others, readRest, same⟩ := exists_of_bind readFirst
      cases same
      rw [List.cons_append, readAll, readPath, inductionHypothesis readRest, List.append_assoc]
      rfl

theorem readAll_singleton {path : String} {loaded : List (List UInt8)}
    (read : readPath tree here path = .ok loaded) : readAll tree here [path] = .ok loaded := by
  rw [readAll, read]
  exact congrArg Except.ok (List.append_nil loaded)

end Reloading

end CorpusDirectory

namespace CommandLine

open CorpusDirectory

variable {surroundings : Surroundings} {arguments : Arguments} {config : Config} {tree : FileTree}
  {campaign : SessionCampaign}

/-- The inputs that a campaign retains. -/
def retained (config : Config) (campaign : SessionCampaign) : List (List UInt8) :=
  (campaign.run config.run.maxIterations).2.corpus.entries.toList.map Entry.input

/-- The files when a corpus is written. -/
def settled (surroundings : Surroundings) (arguments : Arguments) (config : Config)
    (tree : FileTree) (campaign : SessionCampaign) : FileTree :=
  settleFiles surroundings arguments tree (campaign.run config.run.maxIterations).2

/-- A run leaves what its corpus makes of the files. -/
theorem conclude_of_writeAll {kept : FileTree} {stats : Stats}
    (ran : (campaign.run config.run.maxIterations).1 = .ok stats)
    (written : writeAll (settled surroundings arguments config tree campaign) surroundings.here
      (corpusPath arguments) (retained config campaign) = .ok kept) :
    (conclude surroundings arguments config tree campaign).tree = kept ∧
      (conclude surroundings arguments config tree campaign).ending = .done := by
  unfold settled retained at written
  unfold conclude
  simp only [ran, written, and_self]

/-- Where paths are too long the corpus is not written. -/
theorem conclude_of_overlong {stats : Stats}
    (ran : (campaign.run config.run.maxIterations).1 = .ok stats)
    (ready : Ready (settled surroundings arguments config tree campaign) surroundings.here
      (corpusPath arguments) (retained config campaign))
    (overlong : Overlong (corpusPath arguments) (retained config campaign)) :
    ∃ failure, (conclude surroundings arguments config tree campaign).ending =
      .failed failure := by
  obtain ⟨failure, refused⟩ := ready.refuses overlong
  unfold settled retained at refused
  unfold conclude
  simp only [ran, refused]
  exact ⟨failure, rfl⟩

/-- A run that unwinds ends with what it unwound with. -/
theorem conclude_of_unwound {payload : Payload}
    (ran : (campaign.run config.run.maxIterations).1 = .error payload) :
    (conclude surroundings arguments config tree campaign).ending = .unwound payload := by
  unfold conclude
  simp only [ran]

/-- The corpus that a run leaves is what another one is given to start from. -/
theorem feeds_of_ready {stats : Stats}
    (ran : (campaign.run config.run.maxIterations).1 = .ok stats)
    (ready : Ready (settled surroundings arguments config tree campaign) surroundings.here
      (corpusPath arguments) (retained config campaign))
    (fits : ∀ input ∈ retained config campaign, Fits (corpusPath arguments) input) :
    (conclude surroundings arguments config tree campaign).ending = .done ∧
      ∃ loaded, Restores loaded (retained config campaign) ∧
        ∀ (next : Surroundings) (again : Arguments) (setting : Config)
          (initial : List (List UInt8)),
          next.tree = (conclude surroundings arguments config tree campaign).tree →
          next.here = surroundings.here → again.seedPaths = [corpusPath arguments] →
          readAll next.tree next.here setting.seedPaths = .ok initial →
          gatherSeeds next again setting = .ok (initial ++ loaded) := by
  obtain ⟨kept, loaded, written, read, restores, _⟩ := ready.reloads fits
  obtain ⟨left, succeeded⟩ := conclude_of_writeAll ran written
  refine ⟨succeeded, loaded, restores, fun next again setting initial sameTree sameHere paths
    readInitial => ?_⟩
  have readLoaded : readAll next.tree next.here again.seedPaths = .ok loaded := by
    rw [sameTree, sameHere, paths, left]
    exact readAll_singleton read
  rw [gatherSeeds, readAll_append readInitial readLoaded]
  rfl

/-- A run fails or comes to its end with a campaign. -/
theorem run_cases (surroundings : Surroundings) (arguments : Arguments) :
    (∃ failure, (run surroundings arguments).ending = .failed failure) ∨
      ∃ config tree campaign,
        run surroundings arguments = conclude surroundings arguments config tree campaign := by
  unfold run
  dsimp only
  split
  · exact .inl ⟨_, rfl⟩
  · split
    · exact .inl ⟨_, rfl⟩
    · split
      · exact .inl ⟨_, rfl⟩
      · exact .inr ⟨_, _, _, rfl⟩

/-- Inputs that are written into an empty directory are read back from it, unless their paths
are too long for the system: the distinct ones, each once, in ascending order of their
digests. To write what was read changes nothing. So what a run retains is given to the next
one that starts from its corpus unless its campaign unwinds, and every run ends in this way
unless it fails. -/
theorem corpus_restored :
    (∀ (tree : FileTree) (here : Place) (directory : String) (inputs : List (List UInt8)),
      Ready tree here directory inputs →
      (Overlong directory inputs ∧
        ∃ failure, writeAll tree here directory inputs = .error failure) ∨
      ∃ kept loaded, writeAll tree here directory inputs = .ok kept ∧
        readAll kept here [directory] = .ok loaded ∧ Restores loaded inputs ∧
        writeAll kept here directory loaded = .ok kept) ∧
    (∀ (surroundings : Surroundings) (arguments : Arguments) (config : Config) (tree : FileTree)
      (campaign : SessionCampaign),
      Ready (settled surroundings arguments config tree campaign) surroundings.here
        (corpusPath arguments) (retained config campaign) →
      (Overlong (corpusPath arguments) (retained config campaign) ∧
        ∃ failure,
          (conclude surroundings arguments config tree campaign).ending = .failed failure) ∨
      (∃ payload, (campaign.run config.run.maxIterations).1 = .error payload ∧
        (conclude surroundings arguments config tree campaign).ending = .unwound payload) ∨
      (conclude surroundings arguments config tree campaign).ending = .done ∧
        ∃ loaded, Restores loaded (retained config campaign) ∧
          ∀ (next : Surroundings) (again : Arguments) (setting : Config)
            (initial : List (List UInt8)),
            next.tree = (conclude surroundings arguments config tree campaign).tree →
            next.here = surroundings.here → again.seedPaths = [corpusPath arguments] →
            readAll next.tree next.here setting.seedPaths = .ok initial →
            gatherSeeds next again setting = .ok (initial ++ loaded)) ∧
    ∀ (surroundings : Surroundings) (arguments : Arguments),
      (∃ failure, (run surroundings arguments).ending = .failed failure) ∨
        ∃ config tree campaign,
          run surroundings arguments = conclude surroundings arguments config tree campaign := by
  refine ⟨fun tree here directory inputs ready => ?_,
    fun surroundings arguments config tree campaign ready => ?_, run_cases⟩
  · by_cases overlong : Overlong directory inputs
    · exact .inl ⟨overlong, ready.refuses overlong⟩
    · obtain ⟨kept, loaded, written, read, restores, again⟩ :=
        ready.reloads (fits_of_not_overlong overlong)
      exact .inr ⟨kept, loaded, written, readAll_singleton read, restores, again⟩
  · cases ran : (campaign.run config.run.maxIterations).1 with
    | error payload => exact .inr (.inl ⟨payload, rfl, conclude_of_unwound ran⟩)
    | ok stats =>
        by_cases overlong : Overlong (corpusPath arguments) (retained config campaign)
        · exact .inl ⟨overlong, conclude_of_overlong ran ready overlong⟩
        · exact .inr (.inr (feeds_of_ready ran ready (fits_of_not_overlong overlong)))

section Repeated

/-- Files with a directory for results that is still empty. -/
def emptyOutput : FileTree := ⟨[(["work"], .directory), (["work", "out"], .directory)]⟩

/-- The same files with a file for findings. -/
def withFindings : FileTree := emptyOutput.put ["work", "out", "findings.jsonl"] (.file [] false)

/-- Two inputs, of which one comes twice. -/
def repeated : List (List UInt8) := [[50, 59], [49, 59], [50, 59]]

/-- What surrounds a run that starts no process. -/
def quiet : Surroundings where
  launcher := fun _ _ _ => .ok (.exit (.code 0))
  tree := emptyOutput
  here := ["work"]
  chance := 1

/-- A campaign that has retained these inputs. -/
def satisfied : SessionCampaign where
  runners := []
  predicate := fun _ _ => .ok true
  mutator := (StatementMutator.ofLimit .unwinds 1).mutate
  scheduler := .ofWindow NoveltyScheduler.defaultWindow
  reporter := .all []
  options := {}
  random := .ofSeed 1
  feedback := .ofVersions []
  corpus := .ofEntries (repeated.map fun input => ⟨0, input, { source := .seed, foundAt := 0 }⟩)

theorem locate_output : emptyOutput.locate ["work"] "out" = .ok ["work", "out"] := by
  have path : Path.ofText "out" = ⟨false, ["out"]⟩ := by decide
  have there : emptyOutput.node? ["work", "out"] = some .directory := rfl
  refine FileTree.locate_eq_ok_iff.mpr ⟨by decide, by decide, by decide, FileTree.maxLinks, ?_⟩
  rw [FileTree.pathStart, path]
  exact .name rfl ⟨by decide, by decide, by decide⟩ (by simp [there]) .arrived

theorem distinct_repeated : Distinct repeated := by
  unfold Distinct
  decide +kernel

theorem fits_repeated : ∀ input ∈ repeated, Fits "out/corpus" input := by
  unfold Fits
  decide +kernel

/-- Nothing stands below nothing. -/
theorem rooted_withFindings (place : Place) (vacant : withFindings.node? place = none) :
    withFindings.namesIn place = [] := by
  have root : [] ≠ place := by
    rintro rfl
    cases vacant
  have work : ["work"] ≠ place := by
    rintro rfl
    cases vacant
  have out : ["work", "out"] ≠ place := by
    rintro rfl
    cases vacant
  simp [FileTree.namesIn, withFindings, FileTree.put, FileTree.putNode, emptyOutput, root, work, out]

theorem ready_repeated : Ready withFindings ["work"] "out/corpus" repeated := by
  have path : Path.join "out" "corpus" = "out/corpus" := by decide
  have located : withFindings.locate ["work"] "out" = .ok ["work", "out"] :=
    FileTree.locate_put locate_output (by decide) rfl (by simp)
  rw [← path]
  refine .of_missing located rfl ?_ (by decide) rfl rooted_withFindings distinct_repeated
  constructor <;> decide

/-- This campaign reports nothing. -/
theorem settled_satisfied (arguments : Arguments) (output : arguments.output = "out") :
    settled quiet arguments { run := { maxIterations := 0 } } emptyOutput satisfied =
      withFindings := by
  have path : findingsPath arguments = Path.join "out" "findings.jsonl" := by
    rw [findingsPath, output]
  have isName : IsFileName "findings.jsonl" := by constructor <;> decide
  have vacant : emptyOutput.node? (["work", "out"] ++ ["findings.jsonl"]) = none := rfl
  have located : emptyOutput.locate ["work"] (findingsPath arguments) =
      .ok (["work", "out"] ++ ["findings.jsonl"]) := by
    rw [path]
    refine FileTree.locate_join locate_output rfl isName (by decide) fun text linked => ?_
    cases vacant.symm.trans linked
  have opened : emptyOutput.append ["work"] (findingsPath arguments) [] = .ok withFindings := by
    refine FileTree.update_of_vacant ?_ (· ++ []) located rfl rfl
    rw [path]
    decide
  have silent : writtenLines (satisfied.run 0).2.reporter = [] := by
    change Text.Utf8.octets (String.ofList []) = []
    decide +kernel
  unfold settled settleFiles
  dsimp only [quiet]
  rw [silent, opened]
  rfl

/-- An input that is written twice is read once, also by the next run. -/
theorem corpus_restored_repeated :
    (∃ kept loaded, writeAll withFindings ["work"] "out/corpus" repeated = .ok kept ∧
      readAll kept ["work"] ["out/corpus"] = .ok loaded ∧ Restores loaded repeated ∧
      writeAll kept ["work"] "out/corpus" loaded = .ok kept) ∧
    ∃ loaded, Restores loaded repeated ∧
      gatherSeeds
        { quiet with tree := (conclude quiet { output := "out" }
            { run := { maxIterations := 0 } } emptyOutput satisfied).tree }
        { seedPaths := ["out/corpus"] } {} = .ok loaded := by
  obtain ⟨restored, fed, _⟩ := corpus_restored
  constructor
  · rcases restored withFindings ["work"] "out/corpus" repeated ready_repeated with
      ⟨⟨input, member, long⟩, _⟩ | reloaded
    · exact absurd (fits_repeated input member) long
    · exact reloaded
  · have path : corpusPath { output := "out" } = "out/corpus" := by decide
    have isRetained : retained { run := { maxIterations := 0 } } satisfied = repeated := rfl
    have ready : Ready (settled quiet { output := "out" } { run := { maxIterations := 0 } }
        emptyOutput satisfied) quiet.here (corpusPath { output := "out" })
        (retained { run := { maxIterations := 0 } } satisfied) := by
      rw [settled_satisfied _ rfl, path, isRetained]
      exact ready_repeated
    have next := fed quiet { output := "out" } { run := { maxIterations := 0 } } emptyOutput
      satisfied ready
    rw [path, isRetained] at next
    rcases next with ⟨⟨input, member, long⟩, _⟩ | ⟨_, unwound, _⟩ | ⟨_, loaded, restores, feeds⟩
    · exact absurd (fits_repeated input member) long
    · cases unwound
    · exact ⟨loaded, restores, feeds _ { seedPaths := ["out/corpus"] } {} [] rfl rfl rfl rfl⟩

end Repeated

end CommandLine
end Crosscheck
