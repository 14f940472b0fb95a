import Mathlib
import Crosscheck.Proofs.Json.Token

/-!
# Documents that are read back

Every value has a document, and it is what its text is read as, to the end and in front of
anything that a value may stand before (`reads`). So two values with the same text are
equal (`compact_injective`), and since nothing that is printed is a control, a text is
always a single line.
-/

namespace Crosscheck.Json

/-- Induction on a value, through the items of an array and the members of an object. -/
@[induction_eliminator]
theorem induction {motive : Json → Prop} (number : ∀ value, motive (.number value))
    (string : ∀ value, motive (.string value))
    (array : ∀ items, (∀ item ∈ items, motive item) → motive (.array items))
    (object : ∀ members, (∀ member ∈ members, motive member.2) → motive (.object members))
    (json : Json) : motive json := by
  refine @Json.rec motive (fun items => ∀ item ∈ items, motive item)
    (fun members => ∀ member ∈ members, motive member.2) (fun member => motive member.2)
    number string array object ?_ ?_ ?_ ?_ ?_ json
  · simp
  · intro item items first others
    simpa [first] using others
  · simp
  · intro member members first others
    simpa [first] using others
  · exact fun _ _ holds => holds

section Print

theorem printItems_eq (items : List Json) :
    printItems items = [','].intercalate (items.map print) := by
  induction items with
  | nil => rfl
  | cons item items inductionHypothesis =>
      cases items with
      | nil => simp [printItems, printFurtherItems]
      | cons next items =>
          rw [List.map_cons, List.map_cons, List.intercalate_cons_cons, ← List.map_cons,
            ← inductionHypothesis, List.append_assoc]
          rfl

theorem printMembers_eq (members : List (String × Json)) :
    printMembers members = [','].intercalate (members.map printMember) := by
  induction members with
  | nil => rfl
  | cons member members inductionHypothesis =>
      cases members with
      | nil => simp [printMembers, printFurtherMembers]
      | cons next members =>
          rw [List.map_cons, List.map_cons, List.intercalate_cons_cons, ← List.map_cons,
            ← inductionHypothesis, List.append_assoc]
          rfl

/-- What is joined holds only what its parts and the separator hold. -/
theorem mem_of_mem_intercalate {char : Char} {separator : List Char} {texts : List (List Char)}
    (member : char ∈ separator.intercalate texts) :
    char ∈ separator ∨ ∃ text ∈ texts, char ∈ text := by
  induction texts with
  | nil => simp at member
  | cons text texts inductionHypothesis =>
      cases texts with
      | nil => exact .inr ⟨text, by simpa using member⟩
      | cons next texts =>
          rw [List.intercalate_cons_cons, List.mem_append, List.mem_append] at member
          rcases member with (here | between) | later
          · exact .inr ⟨text, List.mem_cons_self, here⟩
          · exact .inl between
          · refine (inductionHypothesis later).imp_right ?_
            rintro ⟨other, listed, there⟩
            exact ⟨other, List.mem_cons_of_mem _ listed, there⟩

theorem not_isControl_of_mem_printText {char : Char} {text : List Char}
    (member : char ∈ printText text) : ¬IsControl char := by
  simp only [printText, List.mem_append, List.mem_cons, List.mem_flatMap, List.not_mem_nil,
    or_false] at member
  rcases member with (rfl | ⟨plain, _, escaped⟩) | rfl
  · decide
  · exact not_isControl_of_mem_escape escaped
  · decide

/-- No control is printed, so a text has no line end. -/
theorem not_isControl_of_mem_print {json : Json} {char : Char} (member : char ∈ json.print) :
    ¬IsControl char := by
  induction json with
  | number value => exact not_isControl_of_isDigit (isDigit_of_mem_printNumber member)
  | string value => exact not_isControl_of_mem_printText member
  | array items inductionHypothesis =>
      simp only [print, List.mem_append, List.mem_cons, List.not_mem_nil, or_false] at member
      rcases member with (rfl | inside) | rfl
      · decide
      · rw [printItems_eq] at inside
        rcases mem_of_mem_intercalate inside with comma | ⟨_, printed, inside⟩
        · obtain rfl := List.mem_singleton.mp comma
          decide
        · obtain ⟨item, listed, rfl⟩ := List.mem_map.mp printed
          exact inductionHypothesis item listed inside
      · decide
  | object members inductionHypothesis =>
      simp only [print, List.mem_append, List.mem_cons, List.not_mem_nil, or_false] at member
      rcases member with (rfl | inside) | rfl
      · decide
      · rw [printMembers_eq] at inside
        rcases mem_of_mem_intercalate inside with comma | ⟨_, printed, inside⟩
        · obtain rfl := List.mem_singleton.mp comma
          decide
        · obtain ⟨⟨name, value⟩, listed, rfl⟩ := List.mem_map.mp printed
          simp only [printMember, List.mem_append, List.mem_cons] at inside
          rcases inside with named | rfl | inside
          · exact not_isControl_of_mem_printText named
          · decide
          · exact inductionHypothesis _ listed inside
      · decide

end Print

mutual

/-- The document of a value. -/
def document : Json → Document
  | .number value => .natural value
  | .string value => .string (some value)
  | .array items => .array (documents items) true
  | .object members => .object (memberDocuments members) true

/-- The documents of values. -/
def documents : List Json → List Document
  | [] => []
  | item :: rest => item.document :: documents rest

/-- The documents of members. -/
def memberDocuments : List (String × Json) → List (Option String × Document)
  | [] => []
  | (name, value) :: rest => (some name, value.document) :: memberDocuments rest

end

@[simp] theorem documents_eq (items : List Json) : documents items = items.map document := by
  induction items with
  | nil => rfl
  | cons item items inductionHypothesis => rw [documents, inductionHypothesis]; rfl

@[simp] theorem memberDocuments_eq (members : List (String × Json)) :
    memberDocuments members = members.map fun member => (some member.1, member.2.document) := by
  induction members with
  | nil => rfl
  | cons member members inductionHypothesis => rw [memberDocuments, inductionHypothesis]; rfl

theorem document_array (items : List Json) :
    (array items).document = .array (items.map document) true := by
  rw [document, documents_eq]

theorem document_object (members : List (String × Json)) :
    (object members).document =
      .object (members.map fun member => (some member.1, member.2.document)) true := by
  rw [document, memberDocuments_eq]

theorem eq_of_map_eq {α β : Type} {view : α → β} {left : List α}
    (injective : ∀ item ∈ left, ∀ other, view item = view other → item = other) {right : List α}
    (same : left.map view = right.map view) : left = right := by
  induction left generalizing right with
  | nil => exact (List.map_eq_nil_iff.mp same.symm).symm
  | cons item left inductionHypothesis =>
      obtain ⟨other, others, rfl, first, rest⟩ := List.map_eq_cons_iff.mp same.symm
      rw [List.forall_mem_cons] at injective
      rw [injective.1 other first.symm, inductionHypothesis injective.2 rest.symm]

/-- Different values have different documents. -/
theorem document_injective : Function.Injective document := by
  intro left
  induction left with
  | number value =>
      intro right same
      cases right <;> simp_all [document]
  | string value =>
      intro right same
      cases right <;> simp_all [document]
  | array items inductionHypothesis =>
      intro right same
      cases right with
      | array others =>
          rw [document_array, document_array, Document.array.injEq] at same
          rw [eq_of_map_eq (fun item listed other => @inductionHypothesis item listed other) same.1]
      | _ => simp [document] at same
  | object members inductionHypothesis =>
      intro right same
      cases right with
      | object others =>
          rw [document_object, document_object, Document.object.injEq] at same
          have injective : ∀ member ∈ members, ∀ other : String × Json,
              (some member.1, member.2.document) = (some other.1, other.2.document) →
                member = other := by
            intro member listed other same
            rw [Prod.mk.injEq, Option.some.injEq] at same
            exact Prod.ext same.1 (inductionHypothesis member listed same.2)
          rw [eq_of_map_eq injective same.1]
      | _ => simp [document] at same

section Read

open Document

/-- A value is read back from its text in front of anything that it may stand before. -/
def Reads (json : Json) : Prop :=
  ∀ fuel rest, json.print.length ≤ fuel → Closes rest →
    readValue fuel (json.print ++ rest) = (json.document, some rest)

/-- A value begins with no blank and with no closing bracket. -/
theorem exists_print_eq_cons (json : Json) :
    ∃ first further, json.print = first :: further ∧ isBlank first = false ∧ first ≠ ']' := by
  cases json with
  | number value =>
      obtain ⟨first, further, written⟩ := List.exists_cons_of_ne_nil (printNumber_ne_nil value)
      have digit : first.isDigit = true :=
        isDigit_of_mem_printNumber (written ▸ List.mem_cons_self)
      refine ⟨first, further, written, ?_, ?_⟩
      · by_contra blank
        simp only [isBlank, Bool.not_eq_false, Bool.or_eq_true, beq_iff_eq] at blank
        rcases blank with ((rfl | rfl) | rfl) | rfl <;> exact absurd digit (by decide)
      · rintro rfl
        exact absurd digit (by decide)
  | _ => exact ⟨_, _, rfl, by decide, by decide⟩

theorem length_print_pos (json : Json) : 0 < json.print.length := by
  obtain ⟨first, further, written, _⟩ := json.exists_print_eq_cons
  simp [written]

theorem skipBlanks_print (json : Json) (rest : List Char) :
    skipBlanks (json.print ++ rest) = json.print ++ rest := by
  obtain ⟨first, further, written, visible, _⟩ := json.exists_print_eq_cons
  simp [written, skipBlanks, visible]

variable {fuel : Nat} {rest : List Char}

theorem reads_number (value : Nat) : Reads (.number value) := by
  intro fuel rest enough closes
  obtain ⟨fuel, rfl⟩ := Nat.exists_eq_add_of_lt ((length_print_pos _).trans_le enough)
  have other : ∀ {first further}, first.isDigit = false →
      printNumber value ++ rest ≠ first :: further := by
    intro first further plain written
    rw [isDigit_of_printNumber_append written] at plain
    cases plain
  rw [Nat.zero_add, readValue, skipBlanks_print, print]
  split
  next empty => simp [printNumber_ne_nil] at empty
  next written => exact absurd written (other (by decide))
  next written => exact absurd written (other (by decide))
  next written => exact absurd written (other (by decide))
  next written => exact absurd written (other (by decide))
  next written => exact absurd written (other (by decide))
  next written => exact absurd written (other (by decide))
  next => rw [readNumber_printNumber value closes, document]

theorem reads_string (value : String) : Reads (.string value) := by
  intro fuel rest enough closes
  obtain ⟨fuel, rfl⟩ := Nat.exists_eq_add_of_lt ((length_print_pos _).trans_le enough)
  rw [Nat.zero_add, readValue, skipBlanks_print]
  simp [print, printText, readText_printText, document]

theorem skipBlanks_cons {char : Char} (visible : isBlank char = false) (rest : List Char) :
    skipBlanks (char :: rest) = char :: rest := by
  simp [skipBlanks, visible]

/-- Items are read back one by one, in front of the bracket that closes them. -/
theorem readItems_printItems {item : Json} {items : List Json}
    (reads : ∀ other ∈ item :: items, Reads other) {earlier : List Document}
    (enough : (printItems (item :: items)).length < fuel) :
    readItems fuel earlier (printItems (item :: items) ++ ']' :: rest) =
      (.array (earlier.reverse ++ (item :: items).map document) true, some rest) := by
  induction items generalizing item earlier fuel with
  | nil =>
      obtain ⟨fuel, rfl⟩ := Nat.exists_eq_add_of_lt enough
      rw [printItems, printFurtherItems, List.append_nil] at enough ⊢
      rw [readItems, reads item List.mem_cons_self _ _ (by omega) (closes_bracket rest)]
      dsimp only
      rw [skipBlanks_cons (by decide)]
      simp
  | cons next items inductionHypothesis =>
      obtain ⟨fuel, rfl⟩ := Nat.exists_eq_add_of_lt enough
      have divided : printItems (item :: next :: items) =
          item.print ++ ',' :: printItems (next :: items) := rfl
      rw [List.forall_mem_cons] at reads
      rw [divided, List.length_append, List.length_cons] at enough ⊢
      rw [List.append_assoc, List.cons_append, readItems,
        reads.1 _ _ (by omega) (closes_comma _)]
      dsimp only
      rw [skipBlanks_cons (by decide)]
      refine (inductionHypothesis reads.2 (by omega)).trans ?_
      simp

/-- A member is read up to the comma or the brace after its value. -/
theorem readMembers_printMember {name : String} {value : Json} (reads : Reads value)
    {earlier : List (Option String × Document)} (enough : value.print.length ≤ fuel) :
    readMembers (fuel + 1) earlier (printMember (name, value) ++ ',' :: rest) =
        readMembers fuel ((some name, value.document) :: earlier) rest ∧
      readMembers (fuel + 1) earlier (printMember (name, value) ++ '\x7d' :: rest) =
        (.object ((some name, value.document) :: earlier).reverse true, some rest) := by
  have written : ∀ further, printMember (name, value) ++ further =
      '\x22' :: (name.toList.flatMap escape ++ '\x22' :: ':' :: (value.print ++ further)) := by
    simp [printMember, printText]
  constructor
  · rw [written, readMembers, skipBlanks_cons (by decide)]
    simp only [readText_printText, skipBlanks_cons (show isBlank ':' = false by decide),
      reads fuel _ enough (closes_comma rest), skipBlanks_cons (show isBlank ',' = false by decide)]
  · rw [written, readMembers, skipBlanks_cons (by decide)]
    simp only [readText_printText, skipBlanks_cons (show isBlank ':' = false by decide),
      reads fuel _ enough (closes_brace rest),
      skipBlanks_cons (show isBlank '\x7d' = false by decide)]

/-- Members are read back one by one, in front of the brace that closes them. -/
theorem readMembers_printMembers {member : String × Json} {members : List (String × Json)}
    (reads : ∀ other ∈ member :: members, Reads other.2)
    {earlier : List (Option String × Document)}
    (enough : (printMembers (member :: members)).length < fuel) :
    readMembers fuel earlier (printMembers (member :: members) ++ '\x7d' :: rest) =
      (.object (earlier.reverse ++
        (member :: members).map fun member => (some member.1, member.2.document)) true,
        some rest) := by
  have shorter : ∀ member : String × Json, member.2.print.length ≤ (printMember member).length := by
    rintro ⟨name, value⟩
    simp only [printMember, List.length_append, List.length_cons]
    omega
  induction members generalizing member earlier fuel with
  | nil =>
      obtain ⟨fuel, rfl⟩ := Nat.exists_eq_add_of_lt enough
      rw [printMembers, printFurtherMembers, List.append_nil] at enough ⊢
      have first := shorter member
      rw [(readMembers_printMember (reads member List.mem_cons_self) (by omega)).2]
      simp
  | cons next members inductionHypothesis =>
      obtain ⟨fuel, rfl⟩ := Nat.exists_eq_add_of_lt enough
      have divided : printMembers (member :: next :: members) =
          printMember member ++ ',' :: printMembers (next :: members) := rfl
      have first := shorter member
      rw [List.forall_mem_cons] at reads
      rw [divided, List.length_append, List.length_cons] at enough ⊢
      rw [List.append_assoc, List.cons_append, (readMembers_printMember reads.1 (by omega)).1,
        inductionHypothesis reads.2 (by omega)]
      simp

theorem reads_array {items : List Json} (reads : ∀ item ∈ items, Reads item) :
    Reads (.array items) := by
  intro fuel rest enough closes
  obtain ⟨fuel, rfl⟩ := Nat.exists_eq_add_of_lt ((length_print_pos _).trans_le enough)
  have written : (array items).print ++ rest = '[' :: (printItems items ++ ']' :: rest) := by
    simp [print]
  have bounded : (printItems items).length + 2 ≤ fuel + 1 := by
    simpa [print] using enough
  rw [Nat.zero_add, written, document_array, readValue, skipBlanks_cons (by decide)]
  cases items with
  | nil => rfl
  | cons item items =>
      obtain ⟨first, further, begun, visible, other⟩ := item.exists_print_eq_cons
      have opened : ∃ further, printItems (item :: items) ++ ']' :: rest = first :: further := by
        simp [printItems, begun]
      obtain ⟨further, opened⟩ := opened
      have same : skipBlanks (printItems (item :: items) ++ ']' :: rest) =
          printItems (item :: items) ++ ']' :: rest := by
        rw [opened, skipBlanks_cons visible]
      simp only [same]
      split
      next closed =>
        rw [opened, List.cons.injEq] at closed
        exact absurd closed.1 other
      next => exact readItems_printItems reads (by omega)

theorem reads_object {members : List (String × Json)}
    (reads : ∀ member ∈ members, Reads member.2) : Reads (.object members) := by
  intro fuel rest enough closes
  obtain ⟨fuel, rfl⟩ := Nat.exists_eq_add_of_lt ((length_print_pos _).trans_le enough)
  have written : (object members).print ++ rest =
      '\x7b' :: (printMembers members ++ '\x7d' :: rest) := by
    simp [print]
  have bounded : (printMembers members).length + 2 ≤ fuel + 1 := by
    simpa [print] using enough
  rw [Nat.zero_add, written, document_object, readValue, skipBlanks_cons (by decide)]
  cases members with
  | nil => rfl
  | cons member members =>
      obtain ⟨name, value⟩ := member
      have opened : ∃ further,
          printMembers ((name, value) :: members) ++ '\x7d' :: rest = '\x22' :: further := by
        simp [printMembers, printMember, printText]
      obtain ⟨further, opened⟩ := opened
      have same : skipBlanks (printMembers ((name, value) :: members) ++ '\x7d' :: rest) =
          printMembers ((name, value) :: members) ++ '\x7d' :: rest := by
        rw [opened, skipBlanks_cons (by decide)]
      simp only [same]
      split
      next closed =>
        rw [opened, List.cons.injEq] at closed
        exact absurd closed.1 (by decide)
      next => exact readMembers_printMembers reads (by omega)

/-- Every value is read back from its text. -/
theorem reads (json : Json) : Reads json := by
  induction json with
  | number value => exact reads_number value
  | string value => exact reads_string value
  | array items inductionHypothesis => exact reads_array inductionHypothesis
  | object members inductionHypothesis => exact reads_object inductionHypothesis

/-- A text that is printed is read to its end. -/
theorem read_print (json : Json) : Document.read json.print = (json.document, true) := by
  have whole := json.reads (2 * json.print.length + 2) [] (by omega) closes_nil
  rw [List.append_nil] at whole
  rw [Document.read, whole]
  rfl

/-- A text denotes a single value. -/
theorem print_injective : Function.Injective print := by
  intro left right same
  have both := left.read_print.symm.trans (same ▸ right.read_print)
  exact document_injective (congrArg Prod.fst both)

theorem compact_injective : Function.Injective compact := by
  intro left right same
  exact print_injective (String.ofList_injective same)

end Read

end Crosscheck.Json
