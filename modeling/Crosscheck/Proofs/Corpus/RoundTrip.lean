import Mathlib
import Crosscheck.Corpus.Json
import Crosscheck.Proofs.Json.Decode

/-!
# Corpora that come back from their text

The numbers of an entry are numbers of 64 bits. Entries with such numbers come back from the
text of their list, and whatever is decoded has such numbers. So a corpus that is built by
adding, selecting and importing keeps entries that come back, and since it numbers them by
their places, numbering them anew changes nothing.
-/

namespace Crosscheck

open Json

/-- A source whose parent is numbered with 64 bits. -/
def Source.Fits : Source → Prop
  | .mutated parent => parent < UInt64.size
  | .seed | .synthesized => True

/-- Metadata whose numbers have 64 bits. -/
structure Metadata.Fits (metadata : Metadata) : Prop where
  source : metadata.source.Fits
  foundAt : metadata.foundAt < UInt64.size
  novelEdges : metadata.novelEdges < UInt64.size
  coveredEdges : metadata.coveredEdges < UInt64.size
  selections : metadata.selections < UInt64.size

/-- An entry whose numbers have 64 bits. -/
structure Entry.Fits (entry : Entry) : Prop where
  id : entry.id < UInt64.size
  metadata : entry.metadata.Fits

section Restore

theorem Source.decode_document {source : Source} (fits : source.Fits) :
    Source.decode source.toJson.document = .ok source := by
  cases source with
  | seed => rfl
  | synthesized => rfl
  | mutated parent =>
      have stored : store (Json.number parent).document = .ok (Json.number parent).document :=
        if_pos (Document.isStorable_document fits _)
      have parsed := Document.natural?_document fits
      rw [toJson, document_object, decode]
      simp [splitKind, ofMembers, decodeKind, kinds, stored, parsed]

theorem Metadata.decode_document {metadata : Metadata} (fits : metadata.Fits) :
    Metadata.decode metadata.toJson.document = .ok metadata := by
  have count : ∀ {value}, value < UInt64.size →
      decodeCount (Json.number value).document = .ok value := Document.natural?_document
  rw [toJson, document_object, decode]
  simp [Partial.step, Source.decode_document fits.source, count fits.foundAt,
    count fits.novelEdges, count fits.coveredEdges, count fits.selections]

theorem Entry.decode_document {entry : Entry} (fits : entry.Fits) :
    Entry.decode entry.toJson.document = .ok entry := by
  have number : Metadata.decodeCount (Json.number entry.id).document = .ok entry.id :=
    Document.natural?_document fits.id
  rw [toJson, document_object, decode]
  simp [number, Metadata.decode_document fits.metadata]

/-- Entries come back from the text of their list. -/
theorem Entry.listOfText_compact {entries : List Entry} (fits : ∀ entry ∈ entries, entry.Fits) :
    Entry.listOfText (Entry.listToJson entries).compact = .ok entries := by
  rw [listOfText, Document.decodeText_compact, listToJson]
  exact Document.list?_document fun entry member => decode_document (fits entry member)

end Restore

section Decoded

open Document

theorem Source.fits_of_ofMembers {kind : String} {members : List (String × Document)}
    {source : Source} (decoded : ofMembers kind members = .ok source) : source.Fits := by
  unfold ofMembers at decoded
  split at decoded
  · cases decoded
    trivial
  · cases decoded
    trivial
  · obtain ⟨parent, folded, given⟩ := exists_of_bind decoded
    have bounded : ∀ number ∈ parent, number < UInt64.size := by
      refine foldlM_invariant (fun parent : Option Nat => ∀ number ∈ parent, number < UInt64.size)
        ?_ (by simp) folded
      rintro before ⟨name, value⟩ after held step
      dsimp only at step
      split at step
      · obtain ⟨number, parsed, rfl⟩ := of_once step
        simpa using lt_of_natural? parsed
      · cases step
        exact held
    split at given
    · cases given
      exact bounded _ rfl
    · cases given

theorem Source.fits_of_ofItems {kind : String} {items : List Document} {source : Source}
    (decoded : ofItems kind items = .ok source) : source.Fits := by
  unfold ofItems at decoded
  split at decoded
  · cases decoded
    trivial
  · cases decoded
    trivial
  · obtain ⟨parent, parsed, rfl⟩ := exists_of_map decoded
    exact lt_of_natural? parsed
  · cases decoded

theorem Source.fits_of_decode {document : Document} {source : Source}
    (decoded : Source.decode document = .ok source) : source.Fits := by
  unfold Source.decode at decoded
  split at decoded
  · obtain ⟨⟨kind, others⟩, _, chosen⟩ := exists_of_bind decoded
    dsimp only at chosen
    split at chosen
    · cases chosen
    · split at chosen
      · exact fits_of_ofMembers chosen
      · cases chosen
  · cases decoded
  · obtain ⟨kind, _, further⟩ := exists_of_bind decoded
    obtain ⟨rest, _, chosen⟩ := exists_of_bind further
    split at chosen
    · exact fits_of_ofItems chosen
    · cases chosen
  · cases decoded

/-- Metadata of which all that is known fits. -/
structure Metadata.Partial.Fits (found : Metadata.Partial) : Prop where
  source : ∀ source ∈ found.source, source.Fits
  foundAt : ∀ count ∈ found.foundAt, count < UInt64.size
  novelEdges : ∀ count ∈ found.novelEdges, count < UInt64.size
  coveredEdges : ∀ count ∈ found.coveredEdges, count < UInt64.size
  selections : ∀ count ∈ found.selections, count < UInt64.size

theorem Metadata.Partial.Fits.step {found next : Metadata.Partial} {name : String}
    {value : Document} (fits : found.Fits) (stepped : found.step name value = .ok next) :
    next.Fits := by
  have count : ∀ {before after : Option Nat}, once decodeCount before value = .ok after →
      ∀ number ∈ after, number < UInt64.size := by
    intro before after decoded
    obtain ⟨number, parsed, rfl⟩ := of_once decoded
    simpa using lt_of_natural? parsed
  unfold Partial.step at stepped
  split at stepped
  · obtain ⟨after, decoded, ⟨⟩⟩ := exists_of_bind stepped
    obtain ⟨source, parsed, rfl⟩ := of_once decoded
    exact { fits with source := by simpa using Source.fits_of_decode parsed }
  · obtain ⟨after, decoded, ⟨⟩⟩ := exists_of_bind stepped
    exact { fits with foundAt := count decoded }
  · obtain ⟨after, decoded, ⟨⟩⟩ := exists_of_bind stepped
    exact { fits with novelEdges := count decoded }
  · obtain ⟨after, decoded, ⟨⟩⟩ := exists_of_bind stepped
    exact { fits with }
  · obtain ⟨after, decoded, ⟨⟩⟩ := exists_of_bind stepped
    exact { fits with coveredEdges := count decoded }
  · obtain ⟨after, decoded, ⟨⟩⟩ := exists_of_bind stepped
    exact { fits with }
  · obtain ⟨after, decoded, ⟨⟩⟩ := exists_of_bind stepped
    exact { fits with selections := count decoded }
  · cases stepped
    exact fits

/-- Metadata that was decoded has numbers of 64 bits. -/
theorem Metadata.fits_of_decode {document : Document} {metadata : Metadata}
    (decoded : Metadata.decode document = .ok metadata) : metadata.Fits := by
  obtain ⟨fields, _, taken⟩ := exists_of_bind decoded
  obtain ⟨found, folded, required⟩ := exists_of_bind taken
  have fits : found.Fits := by
    refine Fields.fold_invariant Partial.Fits (fun held => held.step) ?_ folded
    constructor <;> simp
  obtain ⟨source, source', required⟩ := exists_of_bind required
  obtain ⟨foundAt, foundAt', required⟩ := exists_of_bind required
  obtain ⟨novelEdges, novelEdges', required⟩ := exists_of_bind required
  obtain ⟨novelVersions, _, required⟩ := exists_of_bind required
  obtain ⟨coveredEdges, coveredEdges', required⟩ := exists_of_bind required
  obtain ⟨signature, _, required⟩ := exists_of_bind required
  cases required
  exact
    { source := fits.source _ (Fields.of_require source')
      foundAt := fits.foundAt _ (Fields.of_require foundAt')
      novelEdges := fits.novelEdges _ (Fields.of_require novelEdges')
      coveredEdges := fits.coveredEdges _ (Fields.of_require coveredEdges')
      selections := by
        cases given : found.selections with
        | none => simp [UInt64.size]
        | some count => exact fits.selections count given }

/-- An entry that was decoded has numbers of 64 bits. -/
theorem Entry.fits_of_decode {document : Document} {entry : Entry}
    (decoded : Entry.decode document = .ok entry) : entry.Fits := by
  obtain ⟨fields, _, taken⟩ := exists_of_bind decoded
  obtain ⟨⟨id, input, metadata⟩, folded, required⟩ := exists_of_bind taken
  have fits : (∀ number ∈ id, number < UInt64.size) ∧ ∀ given ∈ metadata, given.Fits := by
    refine Fields.fold_invariant
      (fun found : Option Nat × Option (List UInt8) × Option Metadata =>
        (∀ number ∈ found.1, number < UInt64.size) ∧ ∀ given ∈ found.2.2, given.Fits)
      ?_ ⟨by simp, by simp⟩ folded
    rintro ⟨id, input, metadata⟩ name value next held step
    dsimp only at step
    split at step
    · obtain ⟨after, decoded, ⟨⟩⟩ := exists_of_bind step
      obtain ⟨number, parsed, rfl⟩ := of_once decoded
      exact ⟨by simpa using lt_of_natural? parsed, held.2⟩
    · obtain ⟨after, decoded, ⟨⟩⟩ := exists_of_bind step
      exact held
    · obtain ⟨after, decoded, ⟨⟩⟩ := exists_of_bind step
      obtain ⟨metadata, parsed, rfl⟩ := of_once decoded
      exact ⟨held.1, by simpa using Metadata.fits_of_decode parsed⟩
    · cases step
      exact held
  obtain ⟨number, number', required⟩ := exists_of_bind required
  obtain ⟨octets, _, required⟩ := exists_of_bind required
  obtain ⟨given, given', ⟨⟩⟩ := exists_of_bind required
  exact ⟨fits.1 _ (Fields.of_require number'), fits.2 _ (Fields.of_require given')⟩

/-- Entries that were decoded have numbers of 64 bits. -/
theorem Entry.fits_of_listOfText {text : String} {entries : List Entry}
    (decoded : Entry.listOfText text = .ok entries) : ∀ entry ∈ entries, entry.Fits := by
  obtain ⟨document, listed⟩ := exists_of_decodeText decoded
  exact forall_of_list? fits_of_decode listed

end Decoded

namespace Corpus

theorem ext_get? {left right : Corpus} (same : ∀ id, left.get? id = right.get? id) :
    left = right := by
  obtain ⟨left⟩ := left
  obtain ⟨right⟩ := right
  exact congrArg Corpus.mk (Array.ext_getElem? same)

@[simp] theorem get?_empty (id : Nat) : empty.get? id = none := rfl

theorem get?_add (corpus : Corpus) (input : List UInt8) (metadata : Metadata) (id : Nat) :
    (corpus.add input metadata).get? id =
      if id = corpus.size then some ⟨corpus.size, input, metadata⟩ else corpus.get? id := by
  rw [get?, add, Array.getElem?_push]
  rfl

theorem get?_select (corpus : Corpus) (selected id : Nat) :
    (corpus.select selected).get? id =
      if selected = id then (corpus.get? id).map fun entry =>
        { entry with metadata :=
          { entry.metadata with selections := entry.metadata.selections + 1 } }
      else corpus.get? id := by
  simp [get?, select, Array.getElem?_modify]

/-- A list of entries is numbered by its places, and otherwise kept as it is. -/
theorem get?_ofEntries (entries : List Entry) (id : Nat) :
    (ofEntries entries).get? id = entries[id]?.map fun entry => { entry with id } := by
  simp [get?, ofEntries, List.getElem?_zipIdx, Function.comp_def]

/-- Every entry is numbered by its place. -/
def Numbered (corpus : Corpus) : Prop :=
  ∀ place entry, corpus.get? place = some entry → entry.id = place

namespace Numbered

variable {corpus : Corpus}

theorem empty : Numbered .empty := by simp [Numbered]

theorem add (numbered : corpus.Numbered) (input : List UInt8) (metadata : Metadata) :
    (corpus.add input metadata).Numbered := by
  intro place entry held
  rw [get?_add] at held
  split at held
  · cases held
    exact Eq.symm ‹_›
  · exact numbered place entry held

theorem select (numbered : corpus.Numbered) (id : Nat) : (corpus.select id).Numbered := by
  intro place entry held
  rw [get?_select] at held
  split at held
  · obtain ⟨before, there, rfl⟩ := Option.map_eq_some_iff.mp held
    exact numbered place before there
  · exact numbered place entry held

theorem ofEntries (entries : List Entry) : (ofEntries entries).Numbered := by
  intro place entry held
  rw [get?_ofEntries] at held
  obtain ⟨before, _, rfl⟩ := Option.map_eq_some_iff.mp held
  rfl

end Numbered

/-- A corpus whose entries are numbered by their places, with numbers of 64 bits in what they
revealed. -/
structure Sound (corpus : Corpus) : Prop where
  id : ∀ {place entry}, corpus.get? place = some entry → entry.id = place
  fits : ∀ {place entry}, corpus.get? place = some entry → entry.metadata.Fits

namespace Sound

variable {corpus : Corpus}

theorem numbered (sound : corpus.Sound) : corpus.Numbered := fun _ _ held => sound.id held

theorem empty : Sound .empty := ⟨by simp, by simp⟩

theorem add (sound : corpus.Sound) (input : List UInt8) {metadata : Metadata}
    (fits : metadata.Fits) : (corpus.add input metadata).Sound where
  id := sound.numbered.add input metadata _ _
  fits {place entry} held := by
    rw [get?_add] at held
    split at held
    · cases held
      exact fits
    · exact sound.fits held

theorem select (sound : corpus.Sound) {id : Nat}
    (room : ∀ entry ∈ corpus.get? id, entry.metadata.selections + 1 < UInt64.size) :
    (corpus.select id).Sound where
  id := sound.numbered.select id _ _
  fits {place entry} held := by
    rw [get?_select] at held
    split at held
    next same =>
      subst same
      obtain ⟨before, there, rfl⟩ := Option.map_eq_some_iff.mp held
      exact { sound.fits there with selections := room before there }
    next => exact sound.fits held

theorem ofEntries {entries : List Entry} (fits : ∀ entry ∈ entries, entry.metadata.Fits) :
    (ofEntries entries).Sound where
  id := Numbered.ofEntries entries _ _
  fits {place entry} held := by
    rw [get?_ofEntries] at held
    obtain ⟨before, there, rfl⟩ := Option.map_eq_some_iff.mp held
    exact fits before (List.mem_of_getElem? there)

theorem importText {text : String} (imported : importText text = .ok corpus) : corpus.Sound := by
  obtain ⟨entries, decoded, rfl⟩ := Document.exists_of_map imported
  exact ofEntries fun entry member => (Entry.fits_of_listOfText decoded entry member).metadata

/-- Numbering the entries anew changes nothing. -/
theorem ofEntries_toList (sound : corpus.Sound) :
    Corpus.ofEntries corpus.entries.toList = corpus := by
  refine ext_get? fun id => ?_
  rw [get?_ofEntries, Array.getElem?_toList, ← get?]
  cases held : corpus.get? id with
  | none => rfl
  | some entry => rw [Option.map_some, ← sound.id held]

/-- A corpus whose entries are numbered with 64 bits comes back from its text. -/
theorem importText_exportText (sound : corpus.Sound) (numbered : corpus.size ≤ UInt64.size) :
    Corpus.importText corpus.exportText = .ok corpus := by
  have fits : ∀ entry ∈ corpus.entries.toList, entry.Fits := by
    intro entry member
    obtain ⟨place, inside, held⟩ := List.getElem_of_mem member
    have found : corpus.get? place = some entry := by
      rw [get?, ← Array.getElem?_toList, List.getElem?_eq_some_iff]
      exact ⟨inside, held⟩
    refine ⟨?_, sound.fits found⟩
    rw [sound.id found]
    exact (show place < corpus.size from inside).trans_le numbered
  rw [Corpus.importText, exportText, Entry.listOfText_compact fits, Except.map,
    sound.ofEntries_toList]

end Sound

/-- Corpora that are built up from nothing: by adding entries, by counting selections as far
as 64 bits go, and from given or imported entries. -/
inductive Built : Corpus → Prop where
  | empty : Built .empty
  | add {corpus metadata} (built : Built corpus) (input : List UInt8) (fits : metadata.Fits) :
      Built (corpus.add input metadata)
  | select {corpus} (built : Built corpus) (id : Nat)
      (room : ∀ entry ∈ corpus.get? id, entry.metadata.selections + 1 < UInt64.size) :
      Built (corpus.select id)
  | ofEntries {entries} (fits : ∀ entry ∈ entries, entry.metadata.Fits) : Built (.ofEntries entries)
  | importText {text corpus} (imported : importText text = .ok corpus) : Built corpus

theorem Built.sound {corpus : Corpus} (built : Built corpus) : corpus.Sound := by
  induction built with
  | empty => exact .empty
  | add _ input fits inductionHypothesis => exact inductionHypothesis.add input fits
  | select _ id room inductionHypothesis => exact inductionHypothesis.select room
  | ofEntries fits => exact .ofEntries fits
  | importText imported => exact .importText imported

/-- Entries come back from the text of their list, a corpus made of them is numbered by its
places, and a corpus that was built up comes back from its text, which it then has again. -/
theorem restored_of_built :
    (∀ entries : List Entry, (∀ entry ∈ entries, entry.Fits) →
      Entry.listOfText (Entry.listToJson entries).compact = .ok entries) ∧
    (∀ (entries : List Entry) (id : Nat),
      (ofEntries entries).get? id = entries[id]?.map fun entry => { entry with id }) ∧
    ∀ corpus, Built corpus → corpus.size ≤ UInt64.size →
      importText corpus.exportText = .ok corpus ∧
      (importText corpus.exportText).map exportText = .ok corpus.exportText := by
  refine ⟨fun _ => Entry.listOfText_compact, get?_ofEntries, fun corpus built numbered => ?_⟩
  have restored := built.sound.importText_exportText numbered
  exact ⟨restored, by rw [restored]; rfl⟩

/-- Metadata with the largest numbers, and with names that have to be escaped. -/
def remarkable : Metadata where
  source := .mutated (UInt64.size - 1)
  foundAt := UInt64.size - 1
  novelVersions := ["\x01\"\\\n", "", "é😀"]
  signature := "\t"

theorem fits_remarkable : remarkable.Fits where
  source := show UInt64.size - 1 < UInt64.size by decide
  foundAt := show UInt64.size - 1 < UInt64.size by decide
  novelEdges := by decide
  coveredEdges := by decide
  selections := by decide

/-- An input that is no text and an entry that was selected. -/
theorem restored_of_built_remarkable :
    (∀ entry ∈ [Entry.mk 7 [0, 34, 255] remarkable], entry.Fits) ∧
    Entry.listOfText (Entry.listToJson [⟨7, [0, 34, 255], remarkable⟩]).compact =
      .ok [⟨7, [0, 34, 255], remarkable⟩] ∧
    Built ((empty.add [0, 34, 255] remarkable).select 0) ∧
    importText ((empty.add [0, 34, 255] remarkable).select 0).exportText =
      .ok ((empty.add [0, 34, 255] remarkable).select 0) := by
  have fits : ∀ entry ∈ [Entry.mk 7 [0, 34, 255] remarkable], entry.Fits := by
    simpa using ⟨show 7 < UInt64.size by decide, fits_remarkable⟩
  have built : Built ((empty.add [0, 34, 255] remarkable).select 0) := by
    refine .select (.add .empty _ fits_remarkable) 0 ?_
    rintro entry ⟨⟩
    decide
  exact ⟨fits, restored_of_built.1 _ fits, built, (restored_of_built.2.2 _ built (by decide)).1⟩

end Corpus

end Crosscheck
