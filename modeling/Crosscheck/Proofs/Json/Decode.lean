import Mathlib
import Crosscheck.Json.Decode
import Crosscheck.Proofs.Except
import Crosscheck.Proofs.Json.Document

/-!
# Values that are decoded again

What is decoded from the document of a value is decoded from its text (`decodeText_compact`),
so the laws below are about documents: a number, a string and a list each come back from
their document, and the members of an object are taken one by one. The other way round, a
number that was decoded is below its bound, and what holds of a record's fields as they are
decoded one by one holds of the record (`Fields.fold_invariant`).
-/

namespace Crosscheck.Json

namespace Document

variable {α β : Type}

section Steps

@[simp] theorem pure_eq (value : α) : (pure value : Decoded α) = .ok value := rfl

@[simp] theorem bind_ok (value : α) (next : α → Decoded β) :
    (Except.ok value >>= next) = next value := rfl

@[simp] theorem map_ok (view : α → β) (value : α) :
    Except.map view (.ok value : Decoded α) = .ok (view value) := rfl

@[simp] theorem once_none (decode : Document → Decoded α) (value : Document) :
    once decode none value = (decode value).map some := rfl

@[simp] theorem fields?_object (names : List String)
    (members : List (Option String × Document)) (closed : Bool) :
    (object members closed).fields? names = .ok ⟨members, closed, false⟩ := rfl

@[simp] theorem Fields.fold_nil {σ : Type} (step : σ → String → Document → Decoded σ)
    (start : σ) : Fields.fold ⟨[], true, false⟩ step start = .ok start := rfl

@[simp] theorem Fields.fold_cons {σ : Type} (name : String) (value : Document)
    (members : List (Option String × Document)) (step : σ → String → Document → Decoded σ)
    (start : σ) : Fields.fold ⟨(some name, value) :: members, true, false⟩ step start =
      step start name value >>= Fields.fold ⟨members, true, false⟩ step := by
  rw [fold, List.foldlM_cons, bind_assoc]
  rfl

@[simp] theorem Fields.require_some (fields : Fields) (name : String) (value : α) :
    fields.require name (some value) = .ok value := rfl

end Steps

/-- A value is decoded from its text as it is from its document. -/
theorem decodeText_compact (decode : Document → Decoded α) (json : Json) :
    decodeText decode json.compact = decode json.document := by
  rw [decodeText, compact, String.toList_ofList, read_print]
  cases decoded : decode json.document with
  | error refusal =>
      dsimp only
      rw [decoded]
      rfl
  | ok value => simp [decoded]

@[simp] theorem text?_document (text : String) : (Json.string text).document.text? = .ok text :=
  rfl

theorem natural?_document {bound value : Nat} (below : value < bound) :
    (Json.number value).document.natural? bound = .ok value := by
  rw [document, natural?, if_pos below]

@[simp] theorem word?_document (word : UInt64) :
    (Json.number word.toNat).document.word? = .ok word := by
  rw [word?, natural?_document word.toNat_lt]
  simp [Except.map]

@[simp] theorem octet?_document (octet : UInt8) :
    (Json.number octet.toNat).document.octet? = .ok octet := by
  rw [octet?, natural?_document octet.toNat_lt]
  simp [Except.map]

/-- A list comes back if each of its values does. -/
theorem list?_document {encode : α → Json} {decode : Document → Decoded α} {values : List α}
    (each : ∀ value ∈ values, decode (encode value).document = .ok value) :
    (Json.array (values.map encode)).document.list? decode = .ok values := by
  have decoded : (values.map fun value => (encode value).document).mapM decode =
      .ok values := by
    induction values with
    | nil => rfl
    | cons value values inductionHypothesis =>
        rw [List.forall_mem_cons] at each
        rw [List.map_cons, List.mapM_cons, each.1, inductionHypothesis each.2]
        rfl
  rw [document_array, List.map_map, list?, Function.comp_def, decoded]
  rfl

@[simp] theorem list?_texts (texts : List String) :
    (Json.texts texts).document.list? text? = .ok texts :=
  list?_document fun text _ => text?_document text

@[simp] theorem list?_octets (octets : List UInt8) :
    (Json.array (octets.map fun octet => Json.number octet.toNat)).document.list? octet? =
      .ok octets :=
  list?_document fun octet _ => octet?_document octet

section Bounds

theorem exists_of_map {first : Decoded α} {view : α → β} {value : β}
    (decoded : first.map view = .ok value) : ∃ given, first = .ok given ∧ view given = value := by
  cases first with
  | error refusal => cases decoded
  | ok given => exact ⟨given, rfl, Except.ok.inj decoded⟩

theorem lt_of_natural? {bound value : Nat} {document : Document}
    (decoded : document.natural? bound = .ok value) : value < bound := by
  unfold natural? at decoded
  split at decoded
  · split at decoded
    · cases decoded
      assumption
    · cases decoded
  · cases decoded

/-- What a field was given was decoded from its value. -/
theorem of_once {decode : Document → Decoded α} {before after : Option α} {value : Document}
    (decoded : once decode before value = .ok after) :
    ∃ given, decode value = .ok given ∧ after = some given := by
  cases before with
  | some earlier => cases decoded
  | none =>
      obtain ⟨given, found, rfl⟩ := exists_of_map decoded
      exact ⟨given, found, rfl⟩

/-- What every step of a decoding keeps holds at its end. -/
theorem foldlM_invariant {σ : Type} (holds : σ → Prop) {step : σ → α → Decoded σ}
    (kept : ∀ {state item next}, holds state → step state item = .ok next → holds next)
    {items : List α} {start final : σ} (first : holds start)
    (folded : items.foldlM step start = .ok final) : holds final := by
  induction items generalizing start with
  | nil =>
      cases folded
      exact first
  | cons item items inductionHypothesis =>
      rw [List.foldlM_cons] at folded
      obtain ⟨next, stepped, others⟩ := exists_of_bind folded
      exact inductionHypothesis (kept first stepped) others

/-- What every member of a record keeps holds at its end. -/
theorem Fields.fold_invariant {σ : Type} (holds : σ → Prop) {fields : Fields}
    {step : σ → String → Document → Decoded σ}
    (kept : ∀ {state name value next}, holds state → step state name value = .ok next →
      holds next)
    {start final : σ} (first : holds start) (folded : fields.fold step start = .ok final) :
    holds final := by
  obtain ⟨state, taken, ended⟩ := exists_of_bind folded
  have last : state = final := by
    split at ended
    · exact Except.ok.inj ended
    · cases ended
  subst last
  refine foldlM_invariant holds (fun {_ item _} before stepped => ?_) first taken
  obtain ⟨_ | name, value⟩ := item
  · cases stepped
  · exact kept before stepped

/-- What holds of all that an item may be decoded to holds of all values of a list. -/
theorem forall_of_list? {decode : Document → Decoded α} {holds : α → Prop}
    (each : ∀ {item value}, decode item = .ok value → holds value) {document : Document}
    {values : List α} (decoded : document.list? decode = .ok values) :
    ∀ value ∈ values, holds value := by
  unfold list? at decoded
  split at decoded
  next items closed =>
    obtain ⟨taken, mapped, ended⟩ := exists_of_bind decoded
    have same : taken = values := by
      split at ended
      · exact Except.ok.inj ended
      · cases ended
    subst same
    clear decoded ended
    induction items generalizing taken with
    | nil =>
        cases mapped
        simp
    | cons item items inductionHypothesis =>
        rw [List.mapM_cons] at mapped
        obtain ⟨value, first, others⟩ := exists_of_bind mapped
        obtain ⟨rest, further, ⟨⟩⟩ := exists_of_bind others
        rw [List.forall_mem_cons]
        exact ⟨each first, inductionHypothesis rest further⟩
  next => cases decoded

/-- What is decoded from a text is decoded from a document. -/
theorem exists_of_decodeText {decode : Document → Decoded α} {text : String} {value : α}
    (decoded : decodeText decode text = .ok value) :
    ∃ document, decode document = .ok value := by
  rw [decodeText] at decoded
  generalize Document.read text.toList = reading at decoded
  obtain ⟨document, complete⟩ := reading
  obtain ⟨found, given, ended⟩ := exists_of_bind decoded
  split at ended
  · cases ended
    exact ⟨document, given⟩
  · cases ended

theorem Fields.of_require {fields : Fields} {name : String} {field : Option α} {value : α}
    (present : fields.require name field = .ok value) : field = some value := by
  cases field with
  | none => cases present
  | some given => exact congrArg some (Except.ok.inj present)

end Bounds

section Storage

theorem le_ofDigitChars (digits : List Char) (start : Nat) :
    start ≤ Nat.ofDigitChars 10 digits start := by
  induction digits generalizing start with
  | nil => exact Nat.le_refl start
  | cons digit digits inductionHypothesis =>
      have further := inductionHypothesis (10 * start + (digit.toNat - '0'.toNat))
      rw [Nat.ofDigitChars_cons]
      omega

/-- Digits of a number that fits 64 bits are all taken. -/
theorem significand_eq {digits : List Char} {start : Nat}
    (below : Nat.ofDigitChars 10 digits start < UInt64.size) :
    significand start digits = (Nat.ofDigitChars 10 digits start, []) := by
  induction digits generalizing start with
  | nil => rfl
  | cons digit digits inductionHypothesis =>
      rw [Nat.ofDigitChars_cons] at below ⊢
      have longer : 10 * start + digitsValue [digit] = 10 * start + (digit.toNat - '0'.toNat) := by
        simp [digitsValue]
      have first := (le_ofDigitChars digits _).trans_lt below
      rw [significand, longer, if_pos first, inductionHypothesis below]

theorem nearest_le {value : Nat} (positive : value ≠ 0) : nearest value ≤ 2 * value := by
  have unit : Nat.pow 2 (value.log2 - 52) ≤ value :=
    (Nat.pow_le_pow_right (by decide) (Nat.sub_le _ _)).trans (Nat.log2_self_le positive)
  have whole := Nat.div_mul_le_self value (Nat.pow 2 (value.log2 - 52))
  rw [nearest]
  split
  · omega
  · rw [Nat.add_mul]
    omega

/-- A number of at most 64 bits can be stored until it is needed. -/
theorem isStorable_document {value : Nat} (below : value < UInt64.size) (depth : Nat) :
    (Json.number value).document.isStorable depth = true := by
  have taken : significand 0 (Nat.toDigits 10 value) = (value, []) := by
    have whole : Nat.ofDigitChars 10 (Nat.toDigits 10 value) 0 = value :=
      Nat.ofDigitChars_toDigits (by decide) (by decide)
    rw [significand_eq (whole.symm ▸ below), whole]
  have room : 4 * UInt64.size ≤ overflow := by decide +kernel
  have one : nearest 1 = 1 := by decide
  have finite : value = 0 ∨ nearest value < overflow → isFinite (Nat.toDigits 10 value) [] 0 := by
    rw [isFinite, taken]
    simp [significand, one]
  rw [document, isStorable]
  apply finite
  by_cases zero : value = 0
  · exact .inl zero
  · refine .inr ?_
    have near := nearest_le zero
    omega

end Storage

end Document

end Crosscheck.Json
