import Crosscheck.Random.Source

/-!
# Corpora

A corpus keeps inputs with what they revealed. Entries are numbered in order, are
never removed, and never change but for the count of their selections.
-/

namespace Crosscheck

/-- How an entry came to be. -/
inductive Source where
  /-- Given by the user. -/
  | seed
  /-- Derived from another entry. -/
  | mutated (parent : Nat)
  /-- Generated from scratch. -/
  | synthesized
  deriving DecidableEq, Repr

/-- What an entry revealed when it was kept. -/
structure Metadata where
  source : Source
  /-- The iteration in which the entry was found. -/
  foundAt : Nat
  /-- First hits, summed over the versions. -/
  novelEdges : Nat := 0
  /-- The versions with first hits. -/
  novelVersions : List String := []
  /-- The largest number of covered counters of a version. -/
  coveredEdges : Nat := 0
  /-- The coverage signature of the first version with a first hit. -/
  signature : String := ""
  /-- How often a scheduler picked the entry. -/
  selections : Nat := 0
  deriving DecidableEq, Repr

/-- A kept input. -/
structure Entry where
  id : Nat
  input : List UInt8
  metadata : Metadata
  deriving DecidableEq, Repr

/-- Entries in the order of their numbers. -/
structure Corpus where
  entries : Array Entry
  deriving DecidableEq, Repr

namespace Corpus

/-- No entries. -/
def empty : Corpus := ⟨#[]⟩

/-- A corpus of the given entries, numbered anew in order. -/
def ofEntries (entries : List Entry) : Corpus :=
  ⟨(entries.zipIdx.map fun (entry, id) => { entry with id }).toArray⟩

/-- The number of entries. -/
def size (corpus : Corpus) : Nat := corpus.entries.size

/-- Whether there are no entries. -/
def isEmpty (corpus : Corpus) : Bool := corpus.size == 0

/-- The corpus with one more entry, which is numbered by the size before. -/
def add (corpus : Corpus) (input : List UInt8) (metadata : Metadata) : Corpus :=
  ⟨corpus.entries.push ⟨corpus.size, input, metadata⟩⟩

/-- The entry with a number. -/
def get? (corpus : Corpus) (id : Nat) : Option Entry := corpus.entries[id]?

/-- Count one more selection of an entry. -/
def select (corpus : Corpus) (id : Nat) : Corpus :=
  ⟨corpus.entries.modify id fun entry =>
    { entry with metadata := { entry.metadata with selections := entry.metadata.selections + 1 } }⟩

/-- Draw an entry, each equally often as far as a word is a multiple of the size; an
empty corpus takes no word. -/
def random {σ : Type} [RandomSource σ] (corpus : Corpus) : StateM σ (Option Entry) := do
  if corpus.isEmpty then return none
  return corpus.get? ((← Random.word64).toNat % corpus.size)

end Corpus
end Crosscheck
