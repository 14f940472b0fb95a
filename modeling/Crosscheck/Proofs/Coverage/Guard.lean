import Mathlib
import Crosscheck.Coverage.Guard

/-!
# Guards never meet

A process has one registry and any number of images, whose guards are all zero when they are
loaded. Loaders announce images or parts of them in any order and as often as they like, and
the parts may overlap. A part is left alone, refused or numbered as a whole, and
`announce_cases` says what each of these does to the process. Numbering always starts past
the last identifier, so that no two slots of any image ever hold the same one, even where a
part writes over guards of an earlier one.
-/

namespace Crosscheck

namespace GuardRegistry

section AssignRange

variable (registry : GuardRegistry) (image : GuardImage) {start stop : Nat}

@[simp] theorem size_number (base start count : Nat) :
    (number image base start count).size = image.size := by
  unfold number
  induction count with
  | zero => rfl
  | succ count inductionHypothesis =>
      simp only [List.range_succ, List.foldl_append, List.foldl_cons, List.foldl_nil,
        Array.size_setIfInBounds, inductionHypothesis]

theorem number_succ (base start count : Nat) :
    number image base start (count + 1) =
      (number image base start count).setIfInBounds (start + count)
        (UInt32.ofNat (base + 1 + count)) := by
  simp [number, List.range_succ]

/-- Numbering counts upward over its own slots and reaches no other. -/
theorem getD_number (base : Nat) {start count : Nat} (inside : start + count ≤ image.size)
    (slot : Nat) :
    (number image base start count).getD slot 0 =
      if start ≤ slot ∧ slot < start + count then UInt32.ofNat (base + 1 + (slot - start))
      else image.getD slot 0 := by
  induction count with
  | zero =>
      have outside : ¬(start ≤ slot ∧ slot < start + 0) := by omega
      rw [if_neg outside]
      rfl
  | succ count inductionHypothesis =>
      have earlier := inductionHypothesis (by omega)
      rw [number_succ, Array.getD_eq_getD_getElem?, Array.getElem?_setIfInBounds]
      by_cases last : start + count = slot
      · subst last
        have written : start ≤ start + count ∧ start + count < start + (count + 1) := by omega
        have room : start + count < image.size := by omega
        simp [room, written]
      · have same : (start ≤ slot ∧ slot < start + (count + 1)) ↔
            (start ≤ slot ∧ slot < start + count) := by omega
        rw [if_neg last, ← Array.getD_eq_getD_getElem?, earlier]
        simp only [same]

/-- An answer never changes the size of an image. -/
@[simp] theorem size_assignRange (start stop : Nat) :
    (registry.assignRange image start stop).image.size = image.size := by
  unfold assignRange
  split_ifs <;> simp

/-- An empty section, or one whose first guard is active, is left as it is. -/
theorem assignRange_of_idle
    (idle : start = stop ∨ start < stop ∧ image.getD start 0 ≠ 0) :
    registry.assignRange image start stop = ⟨.ok 0, registry, image⟩ := by
  unfold assignRange
  rcases idle with rfl | ⟨ordered, active⟩
  · rw [if_pos rfl]
  · rw [if_neg ordered.ne, if_neg ordered.not_gt, if_pos active]

/-- A section that starts past its end is refused. -/
theorem assignRange_of_inverted (inverted : stop < start) :
    registry.assignRange image start stop =
      ⟨.error (.invalidRange start stop), registry, image⟩ := by
  unfold assignRange
  rw [if_neg inverted.ne', if_pos inverted]

/-- A section with more guards than there are identifiers left is refused. -/
theorem assignRange_of_full (ordered : start < stop) (inactive : image.getD start 0 = 0)
    (full : 2 ^ 32 - 1 < registry.lastIssued + (stop - start)) :
    registry.assignRange image start stop =
      ⟨.error (.exhausted registry.lastIssued (stop - start)), registry, image⟩ := by
  have none : ¬registry.lastIssued + (stop - start) < UInt32.size :=
    (Nat.le_of_pred_lt full).not_gt
  unfold assignRange
  rw [if_neg ordered.ne, if_neg ordered.not_gt, if_neg (not_not.mpr inactive), dif_neg none]

/-- Any other section is numbered, and the registry goes on after it. -/
theorem assignRange_of_room (ordered : start < stop) (inactive : image.getD start 0 = 0)
    (room : registry.lastIssued + (stop - start) ≤ 2 ^ 32 - 1) :
    registry.assignRange image start stop =
      ⟨.ok (stop - start), ⟨registry.lastIssued + (stop - start), Nat.lt_succ_of_le room⟩,
        number image registry.lastIssued start (stop - start)⟩ := by
  have some : registry.lastIssued + (stop - start) < UInt32.size := Nat.lt_succ_of_le room
  unfold assignRange
  rw [if_neg ordered.ne, if_neg ordered.not_gt, if_neg (not_not.mpr inactive), dif_pos some]

end AssignRange

end GuardRegistry

/-- What a loader announces: an image, or its slots from `start` up to `stop`. -/
inductive Announcement (ι : Type) where
  | whole (image : ι)
  | part (image : ι) (start stop : Nat)
  deriving DecidableEq, Repr

/-- The slots of an image from `start` up to `stop`. -/
structure Section (ι : Type) where
  image : ι
  start : Nat
  stop : Nat

/-- A process with its registry and its instrumented images. -/
structure Instrumentation (ι : Type) where
  registry : GuardRegistry
  images : ι → GuardImage

namespace Instrumentation

section Announcing

variable {ι : Type}

/-- The guard in a slot of an image, zero past its end. -/
def guard (process : Instrumentation ι) (image : ι) (slot : Nat) : Nat :=
  ((process.images image).getD slot 0).toNat

/-- The section that an announcement is about. -/
def sectionOf (process : Instrumentation ι) : Announcement ι → Section ι
  | .whole image => ⟨image, 0, (process.images image).size⟩
  | .part image start stop => ⟨image, start, stop⟩

/-- Whether an announcement stays within its image. -/
def Within (process : Instrumentation ι) (announcement : Announcement ι) : Prop :=
  let part := process.sectionOf announcement
  part.start ≤ (process.images part.image).size ∧ part.stop ≤ (process.images part.image).size

variable [DecidableEq ι]

/-- Answer an announcement. -/
def announce (process : Instrumentation ι) (announcement : Announcement ι) :
    Except GuardError Nat × Instrumentation ι :=
  let assignment := match announcement with
    | .whole image => process.registry.assign (process.images image)
    | .part image start stop => process.registry.assignRange (process.images image) start stop
  (assignment.assigned,
    ⟨assignment.registry,
      Function.update process.images (process.sectionOf announcement).image assignment.image⟩)

/-- The answers to any number of announcements within their images, and the process that
they leave. -/
inductive Loads (origin : Instrumentation ι) :
    List (Except GuardError Nat) → Instrumentation ι → Prop where
  | start : Loads origin [] origin
  | announce {answers process} (prior : Loads origin answers process)
      (announcement : Announcement ι) (within : process.Within announcement) :
      Loads origin (answers ++ [(process.announce announcement).1])
        (process.announce announcement).2

/-- What an announcement does to a process, by what its section is like. -/
structure Answered (process : Instrumentation ι) (announcement : Announcement ι)
    (part : Section ι) : Prop where
  /-- An empty section, or one whose first guard is active, changes nothing. -/
  idle : (part.start = part.stop ∨
      part.start < part.stop ∧ process.guard part.image part.start ≠ 0) →
    process.announce announcement = (.ok 0, process)
  inverted : part.stop < part.start →
    process.announce announcement = (.error (.invalidRange part.start part.stop), process)
  /-- Any other section is refused exactly if there are too few identifiers left. -/
  exhausted_iff : part.start < part.stop → process.guard part.image part.start = 0 →
    ((process.announce announcement).1 =
        .error (.exhausted process.registry.lastIssued (part.stop - part.start)) ↔
      2 ^ 32 - 1 < process.registry.lastIssued + (part.stop - part.start))
  refused : ∀ error, (process.announce announcement).1 = .error error →
    (process.announce announcement).2 = process
  /-- Otherwise it is numbered upward, and no other slot is touched. -/
  numbered : part.start < part.stop → process.guard part.image part.start = 0 →
    process.registry.lastIssued + (part.stop - part.start) ≤ 2 ^ 32 - 1 →
    (process.announce announcement).1 = .ok (part.stop - part.start) ∧
      (process.announce announcement).2.registry.lastIssued =
        process.registry.lastIssued + (part.stop - part.start) ∧
      ∀ image slot, (process.announce announcement).2.guard image slot =
        if image = part.image ∧ part.start ≤ slot ∧ slot < part.stop then
          process.registry.lastIssued + 1 + (slot - part.start)
        else process.guard image slot
  monotone : process.registry.lastIssued ≤
    (process.announce announcement).2.registry.lastIssued
  sized : ∀ image, ((process.announce announcement).2.images image).size =
    (process.images image).size

/-- What all announcements so far have left behind. -/
structure Numbered (origin : Instrumentation ι) (answers : List (Except GuardError Nat))
    (process : Instrumentation ι) : Prop where
  /-- Slots that hold the same active guard are one slot of one image. -/
  distinct : ∀ image other slot place, process.guard image slot ≠ 0 →
    process.guard image slot = process.guard other place → image = other ∧ slot = place
  issued : ∀ image slot, process.guard image slot ≠ 0 →
    origin.registry.lastIssued < process.guard image slot ∧
      process.guard image slot ≤ process.registry.lastIssued
  total : process.registry.lastIssued =
    origin.registry.lastIssued + (answers.map fun answer => answer.toOption.getD 0).sum
  bounded : process.registry.lastIssued ≤ 2 ^ 32 - 1

end Announcing

/-- The guards are told apart from zero as octets or as numbers. -/
theorem getD_eq_zero_iff {ι : Type} (process : Instrumentation ι) (image : ι) (slot : Nat) :
    (process.images image).getD slot 0 = 0 ↔ process.guard image slot = 0 := by
  rw [guard, ← UInt32.toNat_inj]
  rfl

/-- No guard is active before the first announcement. -/
theorem Numbered.start {ι : Type} {origin : Instrumentation ι}
    (blank : ∀ image slot, origin.guard image slot = 0) :
    Numbered origin [] origin where
  distinct image _ slot _ active := absurd (blank image slot) active
  issued image slot active := absurd (blank image slot) active
  total := by simp
  bounded := Nat.le_pred_of_lt origin.registry.bounded

section Process

variable {ι : Type} [DecidableEq ι]

/-- A whole image is announced as the section of all its slots. -/
theorem announce_eq (process : Instrumentation ι) (announcement : Announcement ι) :
    let part := process.sectionOf announcement
    let assignment :=
      process.registry.assignRange (process.images part.image) part.start part.stop
    process.announce announcement = (assignment.assigned,
      ⟨assignment.registry, Function.update process.images part.image assignment.image⟩) := by
  cases announcement <;> rfl

theorem announce_of_kept {process : Instrumentation ι} {announcement : Announcement ι}
    {answer : Except GuardError Nat}
    (kept : process.registry.assignRange
        (process.images (process.sectionOf announcement).image)
        (process.sectionOf announcement).start (process.sectionOf announcement).stop =
      ⟨answer, process.registry, process.images (process.sectionOf announcement).image⟩) :
    process.announce announcement = (answer, process) := by
  simp only [announce_eq, kept, Function.update_eq_self]

/-- No image changes its size. -/
theorem size_announce (process : Instrumentation ι) (announcement : Announcement ι) (image : ι) :
    ((process.announce announcement).2.images image).size = (process.images image).size := by
  rw [announce_eq]
  by_cases here : image = (process.sectionOf announcement).image
  · subst here
    simp
  · simp [Function.update_of_ne here]

/-- The guards once a section was numbered. -/
theorem guard_update (process : Instrumentation ι) (registry : GuardRegistry)
    {part : Section ι} (ordered : part.start < part.stop)
    (inside : part.stop ≤ (process.images part.image).size)
    (room : process.registry.lastIssued + (part.stop - part.start) ≤ 2 ^ 32 - 1) (image : ι)
    (slot : Nat) :
    guard ⟨registry, Function.update process.images part.image
        (GuardRegistry.number (process.images part.image) process.registry.lastIssued part.start
          (part.stop - part.start))⟩ image slot =
      if image = part.image ∧ part.start ≤ slot ∧ slot < part.stop then
        process.registry.lastIssued + 1 + (slot - part.start)
      else process.guard image slot := by
  have stop : part.start + (part.stop - part.start) = part.stop := by omega
  simp only [guard]
  by_cases here : image = part.image
  · subst here
    rw [Function.update_self, GuardRegistry.getD_number _ _ (by omega), stop]
    by_cases within : part.start ≤ slot ∧ slot < part.stop
    · have fits : process.registry.lastIssued + 1 + (slot - part.start) < UInt32.size := by
        have last : process.registry.lastIssued + 1 + (slot - part.start) ≤ 2 ^ 32 - 1 := by omega
        exact Nat.lt_succ_of_le last
      rw [if_pos within, if_pos ⟨rfl, within⟩, UInt32.toNat_ofNat_of_lt' fits]
    · rw [if_neg within, if_neg fun has => within has.2]
  · rw [Function.update_of_ne here, if_neg fun has => here has.1]

variable {process : Instrumentation ι} {announcement : Announcement ι} {part : Section ι}

theorem announce_of_idle (named : process.sectionOf announcement = part)
    (idle : part.start = part.stop ∨
      part.start < part.stop ∧ process.guard part.image part.start ≠ 0) :
    process.announce announcement = (.ok 0, process) := by
  subst named
  refine announce_of_kept (GuardRegistry.assignRange_of_idle _ _ ?_)
  rwa [ne_eq, getD_eq_zero_iff]

theorem announce_of_inverted (named : process.sectionOf announcement = part)
    (inverted : part.stop < part.start) :
    process.announce announcement = (.error (.invalidRange part.start part.stop), process) := by
  subst named
  exact announce_of_kept (GuardRegistry.assignRange_of_inverted _ _ inverted)

theorem announce_of_full (named : process.sectionOf announcement = part)
    (ordered : part.start < part.stop) (inactive : process.guard part.image part.start = 0)
    (full : 2 ^ 32 - 1 < process.registry.lastIssued + (part.stop - part.start)) :
    process.announce announcement =
      (.error (.exhausted process.registry.lastIssued (part.stop - part.start)), process) := by
  subst named
  exact announce_of_kept (GuardRegistry.assignRange_of_full _ _ ordered
    ((process.getD_eq_zero_iff _ _).mpr inactive) full)

/-- A section that there are identifiers for takes the next ones. -/
theorem announce_of_room (named : process.sectionOf announcement = part)
    (inside : part.stop ≤ (process.images part.image).size) (ordered : part.start < part.stop)
    (inactive : process.guard part.image part.start = 0)
    (room : process.registry.lastIssued + (part.stop - part.start) ≤ 2 ^ 32 - 1) :
    (process.announce announcement).1 = .ok (part.stop - part.start) ∧
      (process.announce announcement).2.registry.lastIssued =
        process.registry.lastIssued + (part.stop - part.start) ∧
      ∀ image slot, (process.announce announcement).2.guard image slot =
        if image = part.image ∧ part.start ≤ slot ∧ slot < part.stop then
          process.registry.lastIssued + 1 + (slot - part.start)
        else process.guard image slot := by
  subst named
  have numbered := GuardRegistry.assignRange_of_room process.registry _ ordered
    ((process.getD_eq_zero_iff _ _).mpr inactive) room
  rw [announce_eq, numbered]
  exact ⟨rfl, rfl, process.guard_update _ ordered inside room⟩

/-- An announcement leaves a process as it is, and then no guard counts as assigned, or it
numbers its section. -/
theorem announce_cases (named : process.sectionOf announcement = part) :
    (∃ answer, process.announce announcement = (answer, process) ∧
        answer.toOption.getD 0 = 0) ∨
      part.start < part.stop ∧ process.guard part.image part.start = 0 ∧
        process.registry.lastIssued + (part.stop - part.start) ≤ 2 ^ 32 - 1 := by
  rcases Nat.lt_trichotomy part.start part.stop with ordered | empty | inverted
  · by_cases inactive : process.guard part.image part.start = 0
    · rcases le_or_gt (process.registry.lastIssued + (part.stop - part.start))
        (2 ^ 32 - 1) with room | full
      · exact .inr ⟨ordered, inactive, room⟩
      · exact .inl ⟨_, announce_of_full named ordered inactive full, rfl⟩
    · exact .inl ⟨_, announce_of_idle named (.inr ⟨ordered, inactive⟩), rfl⟩
  · exact .inl ⟨_, announce_of_idle named (.inl empty), rfl⟩
  · exact .inl ⟨_, announce_of_inverted named inverted, rfl⟩

/-- Every announcement within its image is answered by what its section is like. -/
theorem answered_of_within (within : process.Within announcement) :
    process.Answered announcement (process.sectionOf announcement) where
  idle := announce_of_idle rfl
  inverted := announce_of_inverted rfl
  exhausted_iff ordered inactive := by
    constructor
    · intro exhausted
      by_contra room
      rw [(announce_of_room rfl within.2 ordered inactive (not_lt.mp room)).1] at exhausted
      cases exhausted
    · intro full
      rw [announce_of_full rfl ordered inactive full]
  refused error refused := by
    rcases announce_cases (rfl : process.sectionOf announcement = _) with
      ⟨answer, kept, -⟩ | ⟨ordered, inactive, room⟩
    · rw [kept]
    · rw [(announce_of_room rfl within.2 ordered inactive room).1] at refused
      cases refused
  numbered := announce_of_room rfl within.2
  monotone := by
    rcases announce_cases (rfl : process.sectionOf announcement = _) with
      ⟨answer, kept, -⟩ | ⟨ordered, inactive, room⟩
    · rw [kept]
    · rw [(announce_of_room rfl within.2 ordered inactive room).2.1]
      exact Nat.le_add_right _ _
  sized := process.size_announce announcement

namespace Numbered

variable {origin : Instrumentation ι} {answers : List (Except GuardError Nat)}

/-- An announcement keeps active guards apart, for those it writes are all past the last
identifier. -/
theorem announce (numbered : Numbered origin answers process)
    (within : process.Within announcement) :
    Numbered origin (answers ++ [(process.announce announcement).1])
      (process.announce announcement).2 := by
  generalize named : process.sectionOf announcement = part
  rcases announce_cases named with ⟨answer, kept, none⟩ | ⟨ordered, inactive, room⟩
  · rw [kept]
    exact { numbered with total := by simp [numbered.total, none] }
  · have inside : part.stop ≤ (process.images part.image).size := named ▸ within.2
    obtain ⟨answered, last, guards⟩ := announce_of_room named inside ordered inactive room
    have old := numbered.issued
    have grown : origin.registry.lastIssued ≤ process.registry.lastIssued :=
      numbered.total ▸ Nat.le_add_right _ _
    exact
      { distinct := by
          intro image other slot place active same
          rw [guards] at active same
          rw [guards] at same
          split_ifs at active same with here there there
          · exact ⟨here.1.trans there.1.symm, by omega⟩
          · have bound := old other place (by omega)
            omega
          · have bound := old image slot active
            omega
          · exact numbered.distinct image other slot place active same
        issued := by
          intro image slot active
          rw [guards] at active ⊢
          rw [last]
          split_ifs at active ⊢ with here
          · omega
          · have bound := old image slot active
            omega
        total := by
          rw [answered, last, numbered.total]
          simp [Except.toOption, Nat.add_assoc]
        bounded := last ▸ room }

end Numbered

/-- So do any number of announcements. -/
theorem Loads.numbered {origin : Instrumentation ι} {answers : List (Except GuardError Nat)}
    (loads : Loads origin answers process)
    (blank : ∀ image slot, origin.guard image slot = 0) : Numbered origin answers process := by
  induction loads with
  | start => exact .start blank
  | announce _ _ within inductionHypothesis => exact inductionHypothesis.announce within

/-- Over any number of announcements of images whose guards were all zero, active guards stay
apart and account for all identifiers, and the next announcement is answered by what its
section is like. -/
theorem numbered_of_loads {origin process : Instrumentation ι}
    {answers : List (Except GuardError Nat)}
    (blank : ∀ image slot, origin.guard image slot = 0) (loads : Loads origin answers process) :
    Numbered origin answers process ∧
      ∀ announcement, process.Within announcement →
        process.Answered announcement (process.sectionOf announcement) :=
  ⟨loads.numbered blank, fun _ => answered_of_within⟩

end Process

/-- Two images of three guards each, with six identifiers left. -/
def nearlySpent : Instrumentation Bool := ⟨⟨4294967289, by decide⟩, fun _ => #[0, 0, 0]⟩

/-- Parts that overlap, end before they start or ask for too much, up to the last identifier. -/
theorem numbered_of_loads_nearlySpent :
    (∀ image slot, nearlySpent.guard image slot = 0) ∧
      ∃ process, Loads nearlySpent [.ok 2, .ok 3, .ok 0, .error (.invalidRange 2 1),
          .error (.exhausted 4294967294 3), .ok 1] process ∧
        (process.images true).toList = [4294967292, 4294967293, 4294967294] ∧
        (process.images false).toList = [0, 4294967295, 0] ∧
        Numbered nearlySpent [.ok 2, .ok 3, .ok 0, .error (.invalidRange 2 1),
          .error (.exhausted 4294967294 3), .ok 1] process ∧
        process.Within (.whole false) ∧
        process.Answered (.whole false) (process.sectionOf (.whole false)) := by
  have blank : ∀ image slot, nearlySpent.guard image slot = 0 := by
    intro image slot
    rcases slot with _ | _ | _ | slot <;> rfl
  have loads : Loads nearlySpent _ _ := Loads.start
    |>.announce (.part true 1 3) ⟨by decide +kernel, by decide +kernel⟩
    |>.announce (.whole true) ⟨by decide +kernel, by decide +kernel⟩
    |>.announce (.whole true) ⟨by decide +kernel, by decide +kernel⟩
    |>.announce (.part true 2 1) ⟨by decide +kernel, by decide +kernel⟩
    |>.announce (.whole false) ⟨by decide +kernel, by decide +kernel⟩
    |>.announce (.part false 1 2) ⟨by decide +kernel, by decide +kernel⟩
  obtain ⟨answers, told, loads⟩ :
      ∃ answers, answers = [.ok 2, .ok 3, .ok 0, .error (.invalidRange 2 1),
        .error (.exhausted 4294967294 3), .ok 1] ∧ Loads nearlySpent answers _ :=
    ⟨_, by decide +kernel, loads⟩
  obtain ⟨numbered, answered⟩ := numbered_of_loads blank loads
  subst told
  refine ⟨blank, _, loads, by decide +kernel, by decide +kernel, numbered, ?_, answered _ ?_⟩
  all_goals exact ⟨by decide +kernel, by decide +kernel⟩

end Instrumentation
end Crosscheck
