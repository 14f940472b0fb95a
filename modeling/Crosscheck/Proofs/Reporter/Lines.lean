import Mathlib
import Crosscheck.Proofs.Finding
import Crosscheck.Proofs.Text.Utf8
import Crosscheck.Reporter

/-!
# One line for each finding

A reporter of lines whose calls all succeed holds what it held before and the text of each
finding, each with a line end. No text has a line end of its own, as text or as octets, so
the lines of what was written are the texts of the findings, in the order of the calls.
-/

namespace Crosscheck

section Separated

variable {α : Type} [BEq α] [LawfulBEq α]

/-- Parts that are each ended by a separator are what splitting finds, and nothing is left. -/
theorem splitOn_flatMap_ended {separator : α} {parts : List (List α)}
    (free : ∀ part ∈ parts, separator ∉ part) :
    (parts.flatMap (· ++ [separator])).splitOn separator = parts ++ [[]] := by
  induction parts with
  | nil => rw [List.flatMap_nil, List.splitOn_nil, List.nil_append]
  | cons part parts inductionHypothesis =>
      rw [List.forall_mem_cons] at free
      rw [List.flatMap_cons, List.append_assoc, List.singleton_append,
        List.splitOn_append_cons_self_of_not_mem free.1, inductionHypothesis free.2,
        List.cons_append]

end Separated

namespace Text.Utf8

theorem newline_mem_encode_iff {text : List Char} : 0x0A ∈ encode text ↔ '\n' ∈ text := by
  rw [encode, List.mem_flatMap]
  constructor
  · rintro ⟨char, member, octet⟩
    rwa [← ofNat_eq_of_mem_utf8EncodeChar (by decide) octet] at member
  · exact fun member => ⟨'\n', member, by decide⟩

theorem encode_flatMap_ended (lines : List (List Char)) :
    encode (lines.flatMap (· ++ ['\n'])) = (lines.map encode).flatMap (· ++ [0x0A]) := by
  have ended : encode ['\n'] = [0x0A] := by decide
  induction lines with
  | nil => rfl
  | cons line lines inductionHypothesis =>
      rw [List.flatMap_cons, encode_append, encode_append, ended, inductionHypothesis,
        List.map_cons, List.flatMap_cons]

/-- Lines are told apart in the octets as they are in the text. -/
theorem splitOn_encode_flatMap_ended {lines : List (List Char)}
    (free : ∀ line ∈ lines, '\n' ∉ line) :
    (encode (lines.flatMap (· ++ ['\n']))).splitOn 0x0A = lines.map encode ++ [[]] := by
  rw [encode_flatMap_ended]
  refine splitOn_flatMap_ended fun octets member => ?_
  obtain ⟨line, listed, rfl⟩ := List.mem_map.mp member
  rw [newline_mem_encode_iff]
  exact free line listed

end Text.Utf8

namespace Writer

/-- Lines are what splitting at line ends finds. -/
theorem foldr_extendLines (text : List Char) :
    text.foldr extendLines [[]] = text.splitOn '\n' := by
  induction text with
  | nil => rw [List.foldr_nil, List.splitOn_nil]
  | cons char text inductionHypothesis =>
      obtain ⟨line, rest, split⟩ := List.exists_cons_of_ne_nil (List.splitOn_ne_nil '\n' text)
      rw [List.foldr_cons, inductionHypothesis, List.splitOn_cons_eq_if_modifyHead, split]
      simp [extendLines]

theorem completeLines_eq {writer : Writer} {lines : List (List Char)}
    (held : writer.held = lines.flatMap (· ++ ['\n'])) (free : ∀ line ∈ lines, '\n' ∉ line) :
    writer.completeLines = lines.map String.ofList := by
  rw [completeLines, held, foldr_extendLines, splitOn_flatMap_ended free, List.dropLast_concat]

theorem eq_of_write {writer written : Writer} {text : List Char}
    (accepted : writer.write text = .ok written) :
    written = { writer with held := writer.held ++ text } := by
  unfold write at accepted
  split at accepted
  · cases accepted
  · exact (Except.ok.inj accepted).symm

end Writer

namespace Reporter

/-- Calls with findings, all of which succeed, and what they leave of the reporter. -/
inductive Delivers : Reporter → List Finding → Reporter → Prop where
  | refl {reporter} : Delivers reporter [] reporter
  | step {before reports after} (earlier : Delivers before reports after) (report : Finding)
      (accepted : (after.finding report).result = .ok ()) :
      Delivers before (reports ++ [report]) (after.finding report).reporter

/-- A call that succeeds has added one line. -/
theorem eq_of_writeLine {writer : Writer} {report : Finding}
    (accepted : (writeLine writer report).2 = .ok ()) :
    (writeLine writer report).1 =
      { writer with held := writer.held ++ (report.toJson.print ++ ['\n']) } := by
  unfold writeLine at accepted ⊢
  cases first : writer.write report.toJson.print with
  | error cause => simp [first] at accepted
  | ok printed =>
      cases second : printed.write ['\n'] with
      | error cause => simp [first, second] at accepted
      | ok ended =>
          cases flushed : ended.flush with
          | error cause => simp [first, second, flushed] at accepted
          | ok =>
              have held := Writer.eq_of_write second
              rw [Writer.eq_of_write first] at held
              simp only [second, flushed]
              rw [held, List.append_assoc]

theorem Delivers.eq_lines {writer : Writer} {reports : List Finding} {reporter : Reporter}
    (delivers : Delivers (.lines writer) reports reporter) :
    reporter = .lines { writer with
      held := writer.held ++
        (reports.map fun report => report.toJson.print).flatMap (· ++ ['\n']) } := by
  induction delivers with
  | refl => simp
  | @step reports after earlier report accepted inductionHypothesis =>
      subst inductionHypothesis
      have added : (finding report (lines _)).reporter = lines _ :=
        congrArg lines (eq_of_writeLine accepted)
      rw [added]
      simp

/-- Each finding has one line, of which no octet is a line end. A reporter of lines that
started with nothing holds these lines and nothing else, in the order of its calls. And a
line tells all of its finding but what the input loses when it is read as text: none of its
members has the name of another, and the texts of two findings are the same only if all
else is. -/
theorem lines_of_delivers :
    (∀ finding : Finding, 0x0A ∉ Text.Utf8.encode finding.toJson.print) ∧
    (∀ (writer : Writer) (reports : List Finding) (reporter : Reporter), writer.held = [] →
      Delivers (.lines writer) reports reporter → ∃ written, reporter = .lines written ∧
        (Text.Utf8.encode written.held).splitOn 0x0A =
          (reports.map fun report => Text.Utf8.encode report.toJson.print) ++ [[]] ∧
        written.completeLines = reports.map fun report => report.toJson.compact) ∧
    (∀ finding : Finding, ∃ members, finding.toJson = .object members ∧
      (members.map Prod.fst).Nodup) ∧
    ∀ left right : Finding, left.toJson.compact = right.toJson.compact ↔
      Text.Utf8.lossyString left.input = Text.Utf8.lossyString right.input ∧
      left.inputHash = right.inputHash ∧ left.outcomes = right.outcomes ∧
      left.verdict = right.verdict := by
  refine ⟨?_, ?_, fun finding => ⟨_, finding.toJson_eq, finding.nodup_names⟩,
    fun _ _ => Finding.compact_eq_iff⟩
  · intro finding
    rw [Text.Utf8.newline_mem_encode_iff]
    exact finding.newline_notMem_print
  · intro writer reports reporter blank delivers
    have free : ∀ line ∈ reports.map fun report => report.toJson.print, '\n' ∉ line := by
      intro line member
      obtain ⟨report, _, rfl⟩ := List.mem_map.mp member
      exact report.newline_notMem_print
    refine ⟨_, delivers.eq_lines, ?_, ?_⟩
    · rw [blank, List.nil_append, Text.Utf8.splitOn_encode_flatMap_ended free, List.map_map]
      rfl
    · rw [Writer.completeLines_eq (by rw [blank, List.nil_append]) free, List.map_map]
      rfl

/-- An input that is no text, and line ends, quotes and names of members wherever there is
text. -/
def untidy (verdict : Verdict) : Finding where
  input := [0x0A, 0x22, 0xFF]
  inputHash := "\",\n"
  outcomes := [⟨"a\n", .completed (.rows [["\n", "\\"], []]), 3, 4⟩,
    ⟨"verdict", .faulted ⟨.crash, "\r\n"⟩, 0, 0⟩]
  verdict := verdict

/-- Two calls with findings that differ in their verdicts. -/
theorem lines_of_delivers_untidy :
    ∃ written, Delivers (.lines {}) [untidy (.fault ["verdict"]), untidy .agree] (.lines written) ∧
      (Text.Utf8.encode written.held).splitOn 0x0A =
        [Text.Utf8.encode (untidy (.fault ["verdict"])).toJson.print,
          Text.Utf8.encode (untidy .agree).toJson.print, []] ∧
      (untidy (.fault ["verdict"])).toJson.compact ≠ (untidy .agree).toJson.compact := by
  have delivers : Delivers (.lines {}) [untidy (.fault ["verdict"]), untidy .agree] _ :=
    .step (.step .refl _ rfl) _ rfl
  obtain ⟨written, same, split, _⟩ := lines_of_delivers.2.1 {} _ _ rfl delivers
  rw [same] at delivers
  refine ⟨written, delivers, split, fun equal => ?_⟩
  have verdicts := ((lines_of_delivers.2.2.2 _ _).mp equal).2.2.2
  cases verdicts

end Reporter

end Crosscheck
