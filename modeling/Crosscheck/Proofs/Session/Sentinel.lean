import Mathlib
import Crosscheck.Session.Settings
import Crosscheck.Proofs.Digest
import Crosscheck.Proofs.Session.Reception
import Crosscheck.Proofs.Text.Blank

/-!
# Which lines are sentinels

`Ends` spells the lines that are a token's sentinels, part by part, and `parse?_eq_some_iff` says
that no other line is taken for one. Such a line starts with the token, so of all tokens of a
length it belongs to one. Those of a session have one length, and they differ as their numbers
do, since the digits of a number are padded to a width (`token_injective`).
-/

namespace Crosscheck

namespace Sentinel

open Text

/-- A line that is the sentinel of a token with some count: the token, a colon, and the count in
decimal digits, perhaps after a plus sign and with blanks on both sides. -/
def Ends (line token : String) (count : Nat) : Prop :=
  ∃ lead sign digits trail : List Char,
    line.toList = token.toList ++ ':' :: (lead ++ (sign ++ digits) ++ trail) ∧
    (∀ char ∈ lead, isBlank char = true) ∧ (∀ char ∈ trail, isBlank char = true) ∧
    (sign = [] ∨ sign = ['+']) ∧ digits ≠ [] ∧ (∀ char ∈ digits, char.isDigit = true) ∧
    Nat.ofDigitChars 10 digits 0 = count

section Parse

variable {line token : String} {count : UInt64} {text rest front : List Char} {value : Nat}

theorem after?_eq_some_iff : after? front text = some rest ↔ text = front ++ rest := by
  unfold after?
  split
  next starts =>
    obtain ⟨after, rfl⟩ := List.isPrefixOf_iff_prefix.mp starts
    simp
  next other =>
    refine iff_of_false (by simp) ?_
    rintro rfl
    exact other (List.isPrefixOf_iff_prefix.mpr (List.prefix_append front rest))

theorem decimal?_eq_some_iff : decimal? text = some value ↔
    text ≠ [] ∧ (∀ char ∈ text, char.isDigit = true) ∧ Nat.ofDigitChars 10 text 0 = value := by
  have refused : (text.isEmpty = true ∨ (!text.all Char.isDigit) = true) ↔
      ¬(text ≠ [] ∧ ∀ char ∈ text, char.isDigit = true) := by
    rw [not_and_or, not_not, List.isEmpty_iff, Bool.not_eq_true', ← Bool.not_eq_true,
      List.all_eq_true]
  unfold decimal?
  rw [← and_assoc]
  split
  next other => exact iff_of_false (by simp) fun plain => refused.mp other plain.1
  next plain =>
    rw [refused, not_not] at plain
    rw [Option.some.injEq, and_iff_right plain]
    rfl

theorem ite_lt_size_eq_some_iff :
    (if value < UInt64.size then some (UInt64.ofNat value) else none) = some count ↔
      value = count.toNat := by
  have bound : count.toNat < UInt64.size := count.toNat_lt
  split
  next small => rw [Option.some.injEq, ← UInt64.toNat_inj, UInt64.toNat_ofNat_of_lt' small]
  next large => exact iff_of_false (by simp) (by omega)

theorem count?_plus : count? ('+' :: text) = some count ↔ decimal? text = some count.toNat := by
  simp only [count?]
  cases decimal? text with
  | none => simp
  | some value => simpa using ite_lt_size_eq_some_iff

theorem count?_of_head?_ne (unsigned : text.head? ≠ some '+') :
    count? text = some count ↔ decimal? text = some count.toNat := by
  unfold count?
  split
  next => exact absurd rfl unsigned
  next =>
    dsimp only
    cases decimal? text with
    | none => simp
    | some value => simpa using ite_lt_size_eq_some_iff

/-- A count is written in digits, perhaps after a plus sign. -/
theorem count?_eq_some_iff : count? text = some count ↔
    ∃ sign digits, text = sign ++ digits ∧ (sign = [] ∨ sign = ['+']) ∧ digits ≠ [] ∧
      (∀ char ∈ digits, char.isDigit = true) ∧
      Nat.ofDigitChars 10 digits 0 = count.toNat := by
  constructor
  · intro counted
    by_cases signed : text.head? = some '+'
    · obtain ⟨digits, rfl⟩ := List.head?_eq_some_iff.mp signed
      rw [count?_plus, decimal?_eq_some_iff] at counted
      exact ⟨['+'], digits, rfl, .inr rfl, counted⟩
    · rw [count?_of_head?_ne signed, decimal?_eq_some_iff] at counted
      exact ⟨[], text, rfl, .inl rfl, counted⟩
  · rintro ⟨sign, digits, rfl, rfl | rfl, written⟩
    · have unsigned : digits.head? ≠ some '+' := by
        intro head
        exact absurd (written.2.1 '+' (List.mem_of_head? head)) (by decide)
      rwa [List.nil_append, count?_of_head?_ne unsigned, decimal?_eq_some_iff]
    · rwa [List.singleton_append, count?_plus, decimal?_eq_some_iff]

/-- Neither the sign nor a digit is blank. -/
theorem trimmed_of_digits {sign digits : List Char} (signed : sign = [] ∨ sign = ['+'])
    (plain : ∀ char ∈ digits, char.isDigit = true) : Trimmed (sign ++ digits) := by
  refine .of_visible fun char member => ?_
  rcases List.mem_append.mp member with member | member
  · obtain rfl | rfl := signed
    · cases member
    · rw [List.mem_singleton.mp member]
      decide
  · exact isBlank_of_isDigit (plain char member)

/-- A line has a count for a token exactly if it spells the token's sentinel with that count. -/
theorem parse?_eq_some_iff : parse? line token = some count ↔ Ends line token count.toNat := by
  have parsed : parse? line token = some count ↔ ∃ rest,
      line.toList = token.toList ++ ':' :: rest ∧ count? (trim rest) = some count := by
    simp only [parse?, bind, Option.bind_eq_some_iff, after?_eq_some_iff, List.singleton_append]
    constructor
    · rintro ⟨after, divided, rest, rfl, counted⟩
      exact ⟨rest, divided, counted⟩
    · rintro ⟨rest, divided, counted⟩
      exact ⟨':' :: rest, divided, rest, rfl, counted⟩
  rw [parsed]
  constructor
  · rintro ⟨rest, divided, counted⟩
    obtain ⟨lead, trail, around, left, right⟩ := exists_blank_append rest
    obtain ⟨sign, digits, written, signed, nonempty, plain, value⟩ := count?_eq_some_iff.mp counted
    rw [written] at around
    exact ⟨lead, sign, digits, trail, around ▸ divided, left, right, signed, nonempty, plain, value⟩
  · rintro ⟨lead, sign, digits, trail, divided, left, right, signed, nonempty, plain, value⟩
    refine ⟨_, divided, ?_⟩
    rw [(trimmed_of_digits signed plain).trim_between (by simp [nonempty]) left right,
      count?_eq_some_iff]
    exact ⟨sign, digits, rfl, signed, nonempty, plain, value⟩

/-- The line that answers the query of a token is its sentinel, with the count it was built
with. -/
theorem parse?_answer (token : String) (count : UInt64) :
    parse? (token ++ ":" ++ toString count.toNat) token = some count := by
  rw [parse?_eq_some_iff]
  refine ⟨[], [], Nat.toDigits 10 count.toNat, [], ?_, by simp, by simp, .inl rfl,
    Nat.toDigits_ne_nil, fun char member => ?_, Nat.ofDigitChars_ten_toDigits⟩
  · simp [String.toList_append]
  · exact Nat.isDigit_of_mem_toDigits (by decide) (by decide) member

/-- The token of a sentinel stands at the start of the line. -/
theorem Ends.isPrefix {count : Nat} (ends : Ends line token count) :
    token.toList <+: line.toList := by
  obtain ⟨lead, sign, digits, trail, divided, -⟩ := ends
  exact ⟨_, divided.symm⟩

theorem eq_of_isPrefix {first second : String} (within : first.toList <+: second.toList)
    (aligned : first.utf8ByteSize = second.utf8ByteSize) : first = second := by
  obtain ⟨rest, continued⟩ := within
  have whole : second = first ++ String.ofList rest := by
    rw [← String.toList_inj, String.toList_append, String.toList_ofList, continued]
  have nothing : String.ofList rest = "" := by
    rw [← String.utf8ByteSize_eq_zero_iff]
    rw [whole, String.utf8ByteSize_append] at aligned
    omega
  rw [whole, nothing, String.append_empty]

/-- Of the tokens of one length, in characters or in octets, a line is the sentinel of one at
most. -/
theorem token_eq_of_parse? {first second : String} {count other : UInt64}
    (aligned : first.length = second.length ∨ first.utf8ByteSize = second.utf8ByteSize)
    (ended : parse? line first = some count) (again : parse? line second = some other) :
    first = second := by
  have starts := (parse?_eq_some_iff.mp ended).isPrefix
  have begins := (parse?_eq_some_iff.mp again).isPrefix
  obtain aligned | aligned := aligned
  · have aligned : first.toList.length = second.toList.length := by
      rwa [String.length_toList, String.length_toList]
    exact String.toList_inj.mp
      ((List.prefix_of_prefix_length_le starts begins aligned.le).eq_of_length aligned)
  · obtain within | within := List.prefix_or_prefix_of_prefix starts begins
    · exact eq_of_isPrefix within aligned
    · exact (eq_of_isPrefix within aligned.symm).symm

end Parse
end Sentinel

namespace SessionSettings

/-- A number in a fixed count of hexadecimal digits. -/
def sedecimal : Nat → Nat → List Char
  | 0, _ => []
  | width + 1, value => sedecimal width (value / 16) ++ [Nat.digitChar (value % 16)]

theorem length_sedecimal (width value : Nat) : (sedecimal width value).length = width := by
  induction width generalizing value with
  | zero => rfl
  | succ width inductionHypothesis =>
      rw [sedecimal, List.length_append, inductionHypothesis, List.length_singleton]

theorem sedecimal_zero (width : Nat) : sedecimal width 0 = List.replicate width '0' := by
  induction width with
  | zero => rfl
  | succ width inductionHypothesis =>
      rw [sedecimal, Nat.zero_div, inductionHypothesis, List.replicate_succ']
      rfl

/-- Zeros fill the digits of a number up to the count. -/
theorem padded_eq {width value : Nat} (positive : 0 < width) (bound : value < 16 ^ width) :
    List.replicate (width - (Nat.toDigits 16 value).length) '0' ++ Nat.toDigits 16 value =
      sedecimal width value := by
  induction width generalizing value with
  | zero => cases positive
  | succ width inductionHypothesis =>
      rcases Nat.lt_or_ge value 16 with small | large
      · rw [Nat.toDigits_of_lt_base small, sedecimal, Nat.div_eq_of_lt small,
          Nat.mod_eq_of_lt small, sedecimal_zero]
        rfl
      · have quotient : value / 16 < 16 ^ width :=
          Nat.div_lt_of_lt_mul (by rwa [Nat.pow_succ'] at bound)
        have wide : 0 < width := by
          rcases Nat.eq_zero_or_pos width with rfl | wide
          · omega
          · exact wide
        rw [Nat.toDigits_of_base_le (by decide) large, List.length_append, List.length_singleton,
          Nat.add_sub_add_right, ← List.append_assoc, inductionHypothesis wide quotient, sedecimal]

theorem sedecimal_injective {width first second : Nat} (small : first < 16 ^ width)
    (bound : second < 16 ^ width) (same : sedecimal width first = sedecimal width second) :
    first = second := by
  induction width generalizing first second with
  | zero => omega
  | succ width inductionHypothesis =>
      rw [Nat.pow_succ'] at small bound
      obtain ⟨front, last⟩ := List.append_inj' same rfl
      have low : first % 16 = second % 16 :=
        (Digest.digitChar_eq_iff _ (Nat.mod_lt _ (by decide)) _ (Nat.mod_lt _ (by decide))).mp
          (List.singleton_inj.mp last)
      have high := inductionHypothesis (Nat.div_lt_of_lt_mul small) (Nat.div_lt_of_lt_mul bound)
        front
      omega

variable (settings : SessionSettings) {first second : UInt64}

theorem toList_token (number : UInt64) :
    (settings.token number).toList =
      settings.sentinel.toList ++ '_' :: sedecimal 16 number.toNat := by
  have bound : number.toNat < 16 ^ 16 := number.toNat_lt
  simp [token, String.toList_append, ← padded_eq (by decide) bound]

/-- The tokens of a session have one length. -/
theorem length_token (number : UInt64) :
    (settings.token number).length = settings.sentinel.length + 17 := by
  rw [← String.length_toList, toList_token, List.length_append, List.length_cons,
    length_sedecimal, String.length_toList]

/-- They differ as the numbers do. -/
theorem token_injective (same : settings.token first = settings.token second) :
    first = second := by
  have digits : sedecimal 16 first.toNat = sedecimal 16 second.toNat := by
    simpa [toList_token] using congrArg String.toList same
  exact UInt64.toNat_inj.mp (sedecimal_injective first.toNat_lt second.toNat_lt digits)

end SessionSettings

/-- The answer to a query is the sentinel of its token, the sentinels are the lines that
`Ends` spells, and none is one of two tokens of a length. So a session that awaits the sentinel
of one input goes on to await it whatever sentinels of other inputs come. -/
theorem Sentinel.ends_own_input_only :
    (∀ (token : String) (count : UInt64),
      parse? (token ++ ":" ++ toString count.toNat) token = some count) ∧
    (∀ (line token : String) (count : UInt64),
      parse? line token = some count ↔ Ends line token count.toNat) ∧
    (∀ line first second : String, first ≠ second →
      (first.length = second.length ∨ first.utf8ByteSize = second.utf8ByteSize) →
      parse? line first = none ∨ parse? line second = none) ∧
    (∀ (settings : SessionSettings) (number : UInt64) (reception : Reception)
      (arrivals : List Arrival) (deadline : Nat),
      reception.token = settings.token number → reception.phase = .awaiting deadline →
      (∀ arrival ∈ arrivals, arrival.line ≠ .closed ∧ ∀ text, arrival.line = .out text →
        ∃ earlier count, earlier ≠ number ∧
          parse? text (settings.token earlier) = some count) →
      (reception.attend arrivals).phase = .awaiting deadline) := by
  have apart : ∀ line first second : String, first ≠ second →
      (first.length = second.length ∨ first.utf8ByteSize = second.utf8ByteSize) →
      parse? line first = none ∨ parse? line second = none := by
    intro line first second different aligned
    cases ended : parse? line first with
    | none => exact .inl rfl
    | some count =>
        cases again : parse? line second with
        | none => exact .inr rfl
        | some other => exact absurd (token_eq_of_parse? aligned ended again) different
  refine ⟨parse?_answer, fun line token count => parse?_eq_some_iff, apart, ?_⟩
  intro settings number reception arrivals deadline own awaiting stale
  refine Reception.attend_awaiting awaiting fun arrival member => ?_
  obtain ⟨goesOn, stale⟩ := stale arrival member
  refine ⟨goesOn, fun text out => ?_⟩
  obtain ⟨earlier, count, different, ended⟩ := stale text out
  have other : settings.token earlier ≠ settings.token number :=
    fun same => different (settings.token_injective same)
  obtain missing | missing := apart text _ _ other (.inl (by simp only [settings.length_token]))
  · rw [missing] at ended
    cases ended
  · rw [own, missing]

/-- A sentinel of another input, with blanks, a plus sign and a leading zero, is read as a row. -/
theorem Sentinel.ends_own_input_only_stale :
    parse? "S_0000000000000001:\u3000+07 " "S_0000000000000001" = some 7 ∧
    parse? "S_0000000000000001:\u3000+07 " "S_0000000000000002" = none ∧
    (Reception.attend { token := "S_0000000000000002", phase := .awaiting 9 }
      [⟨5, .out "S_0000000000000001:\u3000+07 "⟩]).phase = .awaiting 9 := by
  obtain ⟨-, spelled, apart, stale⟩ := Sentinel.ends_own_input_only
  have ended : parse? "S_0000000000000001:\u3000+07 " "S_0000000000000001" = some 7 :=
    (spelled _ _ _).mpr ⟨['\u3000'], ['+'], ['0', '7'], [' '], by decide +kernel,
      by simp [Text.isBlank], by simp [Text.isBlank], .inr rfl, by simp, by simp, rfl⟩
  refine ⟨ended, ?_, ?_⟩
  · obtain missing | missing := apart "S_0000000000000001:\u3000+07 " "S_0000000000000001"
      "S_0000000000000002" (by decide) (.inl (by decide +kernel))
    · rw [ended] at missing
      cases missing
    · exact missing
  · refine stale { SessionSettings.listMode "3" [] with sentinel := "S" } 2 _ _ 9
      (by decide +kernel) rfl fun arrival member => ?_
    obtain rfl := List.mem_singleton.mp member
    refine ⟨by simp, fun text out => ⟨1, 7, by decide, ?_⟩⟩
    cases out
    exact ended

end Crosscheck
