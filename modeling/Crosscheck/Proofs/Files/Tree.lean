import Mathlib
import Crosscheck.Files.Tree
import Crosscheck.Proofs.Except
import Crosscheck.Proofs.Files.Path

/-!
# Places that paths lead to

What stands at each place after a node was put somewhere is said by `node?_put`. A path is
followed by `Leads`, part by part and link by link (`walk_eq_ok_iff`): where one path ends
another one can go on (`Leads.append`), and a path does so at each of its parts
(`Leads.exists_of_append`). A path that leads somewhere does not notice a file that is put
where there was none (`Leads.put`), since its way leads through directories and links alone.
-/

namespace Crosscheck.FileTree

variable {tree : FileTree} {place spot : Place} {node : Node} {name : String}

section Nodes

theorem isDirectory_iff : tree.isDirectory place = true ↔ tree.node? place = some .directory := by
  rw [isDirectory, beq_iff_eq]

theorem lookup_cons_eq_ite {nodes : List (Place × Node)} {other : Place} :
    ((other, node) :: nodes).lookup place =
      if place = other then some node else nodes.lookup place := by
  rw [List.lookup_cons]
  by_cases same : place = other
  · rw [if_pos same, beq_iff_eq.mpr same]
  · rw [if_neg same, beq_eq_false_iff_ne.mpr same]

theorem lookup_putNode (spot : Place) (node : Node) (nodes : List (Place × Node)) (place : Place) :
    (putNode spot node nodes).lookup place =
      if place = spot then some node else nodes.lookup place := by
  induction nodes with
  | nil => exact lookup_cons_eq_ite
  | cons entry rest inductionHypothesis =>
      obtain ⟨other, current⟩ := entry
      rw [putNode]
      by_cases found : other = spot
      · subst found
        rw [if_pos rfl, lookup_cons_eq_ite, lookup_cons_eq_ite]
        split_ifs <;> rfl
      · rw [if_neg found, lookup_cons_eq_ite, lookup_cons_eq_ite, inductionHypothesis]
        by_cases same : place = other
        · rw [if_pos same, if_pos same, if_neg (same ▸ found)]
        · rw [if_neg same, if_neg same]

/-- A node that is put somewhere stands there, and all others stand where they did. -/
theorem node?_put (below : spot ≠ []) (node : Node) (place : Place) :
    (tree.put spot node).node? place = if place = spot then some node else tree.node? place := by
  unfold node? put
  by_cases root : place = []
  · simp [root, below.symm]
  · rw [if_neg root, if_neg root, lookup_putNode]

/-- What stood anywhere stands there still when a node is put where there was none. -/
theorem node?_put_of_vacant {present : Node} (below : spot ≠ []) (vacant : tree.node? spot = none)
    (held : tree.node? place = some present) (node : Node) :
    (tree.put spot node).node? place = some present := by
  rw [node?_put below, if_neg]
  · exact held
  · rintro rfl
    rw [vacant] at held
    cases held

theorem putNode_of_lookup {nodes : List (Place × Node)} (held : nodes.lookup spot = some node) :
    putNode spot node nodes = nodes := by
  induction nodes with
  | nil => cases held
  | cons entry rest inductionHypothesis =>
      obtain ⟨other, current⟩ := entry
      rw [lookup_cons_eq_ite] at held
      rw [putNode]
      by_cases same : spot = other
      · rw [if_pos same, Option.some.injEq] at held
        rw [if_pos same.symm, same, held]
      · rw [if_neg same] at held
        rw [if_neg (Ne.symm same), inductionHypothesis held]

/-- To put a node where it stands changes nothing. -/
theorem put_of_node? (below : spot ≠ []) (held : tree.node? spot = some node) :
    tree.put spot node = tree := by
  rw [node?, if_neg below] at held
  rw [put, putNode_of_lookup held]

theorem putNode_of_lookup_eq_none {nodes : List (Place × Node)}
    (free : nodes.lookup spot = none) : putNode spot node nodes = nodes ++ [(spot, node)] := by
  induction nodes with
  | nil => rfl
  | cons entry rest inductionHypothesis =>
      obtain ⟨other, current⟩ := entry
      rw [lookup_cons_eq_ite] at free
      by_cases same : spot = other
      · rw [if_pos same] at free
        cases free
      · rw [if_neg same] at free
        rw [putNode, if_neg (Ne.symm same), inductionHypothesis free, List.cons_append]

/-- A node at a new place is one name more in its directory. -/
theorem namesIn_put (free : tree.node? (place ++ [name]) = none) :
    (tree.put (place ++ [name]) node).namesIn place = tree.namesIn place ++ [name] := by
  rw [node?, if_neg (by simp)] at free
  simp [namesIn, put, putNode_of_lookup_eq_none free]

/-- A new directory has the names below it that were there before. -/
theorem namesIn_put_self (free : tree.node? (place ++ [name]) = none) :
    (tree.put (place ++ [name]) node).namesIn (place ++ [name]) =
      tree.namesIn (place ++ [name]) := by
  rw [node?, if_neg (by simp)] at free
  simp [namesIn, put, putNode_of_lookup_eq_none free]

/-- Nothing stands where a directory has no name for it. -/
theorem node?_eq_none_of_notMem (absent : name ∉ tree.namesIn place) :
    tree.node? (place ++ [name]) = none := by
  rw [node?, if_neg (by simp), List.lookup_eq_none_iff]
  rintro ⟨other, current⟩ member
  rw [bne_iff_ne]
  rintro rfl
  refine absent (List.mem_filterMap.mpr ⟨_, member, ?_⟩)
  simp

end Nodes

/-- A name that is looked up where it is met. -/
abbrev IsLookedUp (name : String) : Prop :=
  name ≠ "." ∧ name ≠ ".." ∧ name.utf8ByteSize ≤ 255

/-- A name that is no link is looked up in its directory. -/
theorem walk_name {links : Nat} {rest : List String}
    (directory : tree.node? place = some .directory) (lookedUp : IsLookedUp name)
    (plain : ∀ text, tree.node? (place ++ [name]) ≠ some (.link text)) :
    tree.walk links place (name :: rest) = tree.walk links (place ++ [name]) rest := by
  rw [walk, directory]
  dsimp only
  rw [if_neg lookedUp.1, if_neg lookedUp.2.1, if_neg (Nat.not_lt.mpr lookedUp.2.2)]
  split
  next linked => exact absurd linked (plain _)
  next => rfl

/-- Where a path starts that is met in a directory. -/
def pathStart (place : Place) (text : String) : Place :=
  if (Path.ofText text).isAbsolute then [] else place

/-- The parts of a path lead from one place to another one. It may lead through a number of
links, of which some are left at its end. -/
inductive Leads (tree : FileTree) : Nat → Place → List String → Nat → Place → Prop where
  | arrived {links : Nat} {place : Place} : Leads tree links place [] links place
  | dot {links left : Nat} {place target : Place} {rest : List String}
      (directory : tree.node? place = some .directory)
      (onward : Leads tree links place rest left target) :
      Leads tree links place ("." :: rest) left target
  | dots {links left : Nat} {place target : Place} {rest : List String}
      (directory : tree.node? place = some .directory)
      (onward : Leads tree links place.dropLast rest left target) :
      Leads tree links place (".." :: rest) left target
  | name {links left : Nat} {place target : Place} {name : String} {rest : List String}
      (directory : tree.node? place = some .directory) (lookedUp : IsLookedUp name)
      (plain : ∀ text, tree.node? (place ++ [name]) ≠ some (.link text))
      (onward : Leads tree links (place ++ [name]) rest left target) :
      Leads tree links place (name :: rest) left target
  | link {links left : Nat} {place target : Place} {name text : String} {rest : List String}
      (directory : tree.node? place = some .directory) (lookedUp : IsLookedUp name)
      (linked : tree.node? (place ++ [name]) = some (.link text))
      (onward : Leads tree links (pathStart place text) ((Path.ofText text).parts ++ rest)
        left target) :
      Leads tree (links + 1) place (name :: rest) left target

namespace Leads

variable {links left : Nat} {target final : Place} {parts more : List String}

theorem walk (leads : tree.Leads links place parts left target) :
    tree.walk links place parts = .ok target := by
  induction leads with
  | arrived => rw [FileTree.walk]
  | dot directory _ inductionHypothesis =>
      rw [FileTree.walk, directory]
      exact inductionHypothesis
  | dots directory _ inductionHypothesis =>
      rw [FileTree.walk, directory]
      exact inductionHypothesis
  | name directory lookedUp plain _ inductionHypothesis =>
      rw [walk_name directory lookedUp plain]
      exact inductionHypothesis
  | link directory lookedUp linked _ inductionHypothesis =>
      rw [FileTree.walk, directory]
      dsimp only
      rw [if_neg lookedUp.1, if_neg lookedUp.2.1, if_neg (Nat.not_lt.mpr lookedUp.2.2), linked]
      exact inductionHypothesis

/-- Where one path ends another one can go on. -/
theorem append {remaining : Nat} (leads : tree.Leads links place parts left target)
    (onward : tree.Leads left target more remaining final) :
    tree.Leads links place (parts ++ more) remaining final := by
  induction leads with
  | arrived => exact onward
  | dot directory _ inductionHypothesis => exact .dot directory (inductionHypothesis onward)
  | dots directory _ inductionHypothesis => exact .dots directory (inductionHypothesis onward)
  | name directory lookedUp plain _ inductionHypothesis =>
      exact .name directory lookedUp plain (inductionHypothesis onward)
  | link directory lookedUp linked _ inductionHypothesis =>
      have joined := inductionHypothesis onward
      rw [List.append_assoc] at joined
      exact .link directory lookedUp linked joined

/-- A path goes on at each of its parts. -/
theorem exists_of_append (leads : tree.Leads links place (parts ++ more) left final) :
    ∃ between target, tree.Leads links place parts between target ∧
      tree.Leads between target more left final := by
  generalize whole : parts ++ more = path at leads
  induction leads generalizing parts with
  | arrived =>
      obtain ⟨rfl, rfl⟩ := List.append_eq_nil_iff.mp whole
      exact ⟨_, _, .arrived, .arrived⟩
  | dot directory onward inductionHypothesis =>
      rcases List.append_eq_cons_iff.mp whole with ⟨rfl, rfl⟩ | ⟨parts, rfl, same⟩
      · exact ⟨_, _, .arrived, .dot directory onward⟩
      · obtain ⟨between, target, first, second⟩ := inductionHypothesis same.symm
        exact ⟨between, target, .dot directory first, second⟩
  | dots directory onward inductionHypothesis =>
      rcases List.append_eq_cons_iff.mp whole with ⟨rfl, rfl⟩ | ⟨parts, rfl, same⟩
      · exact ⟨_, _, .arrived, .dots directory onward⟩
      · obtain ⟨between, target, first, second⟩ := inductionHypothesis same.symm
        exact ⟨between, target, .dots directory first, second⟩
  | name directory lookedUp plain onward inductionHypothesis =>
      rcases List.append_eq_cons_iff.mp whole with ⟨rfl, rfl⟩ | ⟨parts, rfl, same⟩
      · exact ⟨_, _, .arrived, .name directory lookedUp plain onward⟩
      · obtain ⟨between, target, first, second⟩ := inductionHypothesis same.symm
        exact ⟨between, target, .name directory lookedUp plain first, second⟩
  | link directory lookedUp linked onward inductionHypothesis =>
      rcases List.append_eq_cons_iff.mp whole with ⟨rfl, rfl⟩ | ⟨parts, rfl, rfl⟩
      · exact ⟨_, _, .arrived, .link directory lookedUp linked onward⟩
      · obtain ⟨between, target, first, second⟩ :=
          inductionHypothesis (List.append_assoc _ parts more)
        exact ⟨between, target, .link directory lookedUp linked first, second⟩

/-- A path does not notice a file that is put where there was none. -/
theorem put (leads : tree.Leads links place parts left target) (below : spot ≠ [])
    (vacant : tree.node? spot = none) (plain : ∀ text, node ≠ .link text) :
    (tree.put spot node).Leads links place parts left target := by
  have kept : ∀ {place : Place} {present : Node}, tree.node? place = some present →
      (tree.put spot node).node? place = some present :=
    fun held => node?_put_of_vacant below vacant held node
  induction leads with
  | arrived => exact .arrived
  | dot directory _ inductionHypothesis => exact .dot (kept directory) inductionHypothesis
  | dots directory _ inductionHypothesis => exact .dots (kept directory) inductionHypothesis
  | name directory lookedUp unlinked _ inductionHypothesis =>
      refine .name (kept directory) lookedUp (fun text linked => ?_) inductionHypothesis
      rw [node?_put below] at linked
      split at linked
      · exact plain text (Option.some.inj linked)
      · exact unlinked text linked
  | link directory lookedUp linked _ inductionHypothesis =>
      exact .link (kept directory) lookedUp (kept linked) inductionHypothesis

theorem directory_of_cons (leads : tree.Leads links place (name :: parts) left target) :
    tree.node? place = some .directory := by
  cases leads with
  | dot directory => exact directory
  | dots directory => exact directory
  | name directory => exact directory
  | link directory => exact directory

/-- A dot stays in the directory where it is met. -/
theorem eq_of_dot (leads : tree.Leads links place ["."] left target) :
    links = left ∧ place = target := by
  generalize lone : ["."] = path at leads
  cases leads with
  | arrived => cases lone
  | dot _ onward =>
      obtain ⟨_, rfl⟩ := List.cons.inj lone
      cases onward
      exact ⟨rfl, rfl⟩
  | dots => exact absurd (List.cons.inj lone).1 (by decide)
  | name _ lookedUp => exact absurd (List.cons.inj lone).1.symm lookedUp.1
  | link _ lookedUp => exact absurd (List.cons.inj lone).1.symm lookedUp.1

/-- A name on the way to something is itself the name of something. -/
theorem exists_node_of_cons (leads : tree.Leads links place (name :: parts) left target)
    (noDot : name ≠ ".") (noDots : name ≠ "..") (held : tree.node? target = some node) :
    IsLookedUp name ∧ ∃ met, tree.node? (place ++ [name]) = some met := by
  cases leads with
  | dot => contradiction
  | dots => contradiction
  | name _ lookedUp _ onward =>
      refine ⟨lookedUp, ?_⟩
      cases parts with
      | nil =>
          cases onward
          exact ⟨node, held⟩
      | cons => exact ⟨.directory, onward.directory_of_cons⟩
  | link _ lookedUp linked => exact ⟨lookedUp, _, linked⟩

end Leads

section Locate

variable {links : Nat} {here target : Place} {parts : List String} {text directory : String}

/-- Parts are followed exactly to where they lead. -/
theorem walk_eq_ok_iff :
    tree.walk links place parts = .ok target ↔ ∃ left, tree.Leads links place parts left target := by
  refine ⟨fun arrives => ?_, fun ⟨_, leads⟩ => leads.walk⟩
  fun_induction walk tree links place parts
  case case1 =>
    cases arrives
    exact ⟨_, .arrived⟩
  case case3 directory inductionHypothesis =>
    obtain ⟨left, leads⟩ := inductionHypothesis arrives
    exact ⟨left, .dot directory leads⟩
  case case4 directory _ inductionHypothesis =>
    obtain ⟨left, leads⟩ := inductionHypothesis arrives
    exact ⟨left, .dots directory leads⟩
  case case7 directory noDot noDots short text linked _ path inductionHypothesis =>
    obtain ⟨left, leads⟩ := inductionHypothesis arrives
    exact ⟨left, .link directory ⟨noDot, noDots, Nat.not_lt.mp short⟩ linked leads⟩
  case case8 directory noDot noDots short plain inductionHypothesis =>
    obtain ⟨left, leads⟩ := inductionHypothesis arrives
    exact ⟨left, .name directory ⟨noDot, noDots, Nat.not_lt.mp short⟩ plain leads⟩
  all_goals cases arrives

/-- A text is located if it can be a path and its parts lead somewhere. -/
theorem locate_eq_ok_iff : tree.locate here text = .ok target ↔
    text ≠ "" ∧ '\x00' ∉ text.toList ∧ text.utf8ByteSize < maxOctets ∧
      ∃ left, tree.Leads maxLinks (pathStart here text) (Path.ofText text).parts left target := by
  unfold locate pathStart
  dsimp only
  split_ifs with empty zero long
  all_goals simp_all [walk_eq_ok_iff]

/-- The path of a name in a directory leads through the directory. -/
theorem exists_leads_join (located : tree.locate here directory = .ok place)
    (isName : IsFileName name) :
    ∃ parts left, (Path.ofText (Path.join directory name)).parts = parts ++ [name] ∧
      tree.Leads maxLinks (pathStart here (Path.join directory name)) parts left place := by
  obtain ⟨nonempty, _, _, left, leads⟩ := locate_eq_ok_iff.mp located
  obtain ⟨parts, joined, isParts⟩ := Path.parts_ofText_join nonempty isName
  refine ⟨parts, left, joined, ?_⟩
  rw [pathStart, Path.isAbsolute_ofText_join nonempty isName, ← pathStart]
  rcases isParts with same | same <;> rw [same] at leads
  · exact leads
  · obtain ⟨between, middle, first, second⟩ := leads.exists_of_append
    obtain ⟨rfl, rfl⟩ := second.eq_of_dot
    exact first

/-- A name in a directory is located there. -/
theorem locate_join (located : tree.locate here directory = .ok place)
    (isDirectory : tree.node? place = some .directory) (isName : IsFileName name)
    (short : (Path.join directory name).utf8ByteSize < maxOctets)
    (plain : ∀ text, tree.node? (place ++ [name]) ≠ some (.link text)) :
    tree.locate here (Path.join directory name) = .ok (place ++ [name]) := by
  obtain ⟨nonempty, clean, _⟩ := locate_eq_ok_iff.mp located
  obtain ⟨parts, left, joined, leads⟩ := exists_leads_join located isName
  have onward : tree.Leads left place [name] left (place ++ [name]) :=
    .name isDirectory ⟨isName.ne_dot, isName.ne_dots, isName.short⟩ plain .arrived
  refine locate_eq_ok_iff.mpr ⟨Path.join_ne_empty nonempty isName,
    Path.zero_notMem_join clean nonempty isName, short, left, ?_⟩
  rw [joined]
  exact leads.append onward

/-- A path is located as before when a file is put where there was none. -/
theorem locate_put (located : tree.locate here text = .ok target) (below : spot ≠ [])
    (vacant : tree.node? spot = none) (plain : ∀ text, node ≠ .link text) :
    (tree.put spot node).locate here text = .ok target := by
  rw [locate_eq_ok_iff] at located ⊢
  obtain ⟨nonempty, clean, short, left, leads⟩ := located
  exact ⟨nonempty, clean, short, left, leads.put below vacant plain⟩

end Locate

section Files

variable {here : Place} {text : String} {octets : List UInt8} {executable : Bool}

theorem find_of_locate (located : tree.locate here text = .ok place)
    (held : tree.node? place = some node) : tree.find here text = .ok node := by
  simp only [find, located, bind, Except.bind, held]

theorem read_of_locate (located : tree.locate here text = .ok place)
    (isFile : tree.node? place = some (.file octets executable)) :
    tree.read here text = .ok octets := by
  simp only [read, find_of_locate located isFile, bind, Except.bind]

theorem list_of_locate (located : tree.locate here text = .ok place)
    (isDirectory : tree.node? place = some .directory) :
    tree.list here text = .ok (tree.namesIn place) := by
  simp only [list, find_of_locate located isDirectory, located, bind, Except.bind, pure,
    Except.pure]

/-- What is listed is a directory. -/
theorem exists_of_list {names : List String} (listed : tree.list here text = .ok names) :
    ∃ place, tree.locate here text = .ok place ∧ tree.node? place = some .directory ∧
      tree.namesIn place = names := by
  obtain ⟨node, found, listed⟩ := exists_of_bind listed
  obtain ⟨place, located, held⟩ := exists_of_bind found
  cases present : tree.node? place with
  | none =>
      rw [present] at held
      cases held
  | some other =>
      rw [present] at held
      cases held
      cases node with
      | directory =>
          obtain ⟨again, locatedAgain, same⟩ := exists_of_bind listed
          cases located.symm.trans locatedAgain
          exact ⟨place, located, present, Except.ok.inj same⟩
      | file => cases listed
      | link => cases listed
      | device => cases listed

theorem hasDirectory_of_locate (located : tree.locate here text = .ok place)
    (isDirectory : tree.node? place = some .directory) :
    tree.hasDirectory here text = true := by
  simp only [hasDirectory, find_of_locate located isDirectory]

/-- What a file holds is changed. -/
theorem update_of_file (unended : text.toList.getLast? ≠ some '/')
    (change : List UInt8 → List UInt8) (located : tree.locate here text = .ok place)
    (isFile : tree.node? place = some (.file octets executable)) :
    tree.update here text change = .ok (tree.put place (.file (change octets) executable)) := by
  unfold update
  rw [if_neg (by simpa using unended)]
  simp only [located, bind, Except.bind, isFile]

/-- A file that is missing in a directory is created. -/
theorem update_of_vacant (unended : text.toList.getLast? ≠ some '/')
    (change : List UInt8 → List UInt8) (located : tree.locate here text = .ok (place ++ [name]))
    (vacant : tree.node? (place ++ [name]) = none)
    (isDirectory : tree.node? place = some .directory) :
    tree.update here text change =
      .ok (tree.put (place ++ [name]) (.file (change []) false)) := by
  unfold update
  rw [if_neg (by simpa using unended)]
  simp only [located, bind, Except.bind, vacant, List.dropLast_concat]
  rw [if_pos (isDirectory_iff.mpr isDirectory)]

end Files

section Directories

variable {here : Place} {text : String}

/-- A directory is not created where a path leads to something. -/
theorem createDirectory_of_locate (located : tree.locate here text = .ok place)
    (held : tree.node? place = some node) (named : Path.withoutSlashes text ≠ "") :
    tree.createDirectory here text = .error .exists := by
  rw [locate_eq_ok_iff] at located
  obtain ⟨nonempty, clean, short, left, leads⟩ := located
  unfold createDirectory locateNew
  dsimp only
  rcases List.eq_nil_or_concat (Path.ofText (Path.withoutSlashes text)).parts with
    none | ⟨parts, name, split⟩
  · simp only [none, List.getLast?_nil, String.isEmpty_iff, if_neg nonempty]
    rfl
  rw [List.concat_eq_append] at split
  obtain ⟨more, whole⟩ := Path.exists_parts_of_withoutSlashes named split
  rw [whole] at leads
  obtain ⟨between, parent, first, second⟩ := leads.exists_of_append
  have stays : tree.Leads between parent ["."] between parent :=
    .dot second.directory_of_cons .arrived
  have arrives : tree.walk maxLinks (pathStart here text) (parts ++ ["."]) = .ok parent :=
    (first.append stays).walk
  rw [pathStart, ← Path.isAbsolute_ofText_withoutSlashes named] at arrives
  simp only [split, List.getLast?_concat, List.dropLast_concat, arrives]
  rw [if_neg (Nat.not_le.mpr short), if_neg (by simpa using clean)]
  by_cases dots : name = "." ∨ name = ".."
  · simp only [if_pos dots]
    rfl
  · obtain ⟨noDot, noDots⟩ := not_or.mp dots
    obtain ⟨lookedUp, met, stands⟩ := second.exists_node_of_cons noDot noDots held
    simp only [if_neg dots, if_neg (Nat.not_lt.mpr lookedUp.2.2), bind, Except.bind, pure,
      Except.pure, stands]

/-- There is nothing to create below no name. -/
theorem exists_createDirectory_of_bare (located : tree.locate here text = .ok place)
    (bare : Path.withoutSlashes text = "") :
    ∃ refusal, tree.createDirectory here text = .error refusal := by
  have path : Path.ofText "" = ⟨false, ["."]⟩ := by decide
  rw [locate_eq_ok_iff] at located
  obtain ⟨_, clean, short, _⟩ := located
  unfold createDirectory locateNew
  simp only [bare, path, List.getLast?_singleton, Bool.false_eq_true, if_false, true_or, if_true]
  rw [if_neg (Nat.not_le.mpr short), if_neg (by simpa using clean)]
  cases tree.walk maxLinks here (["."].dropLast ++ ["."]) with
  | error refusal => exact ⟨refusal, rfl⟩
  | ok parent => exact ⟨.exists, rfl⟩

/-- Where a directory is there and its creation is refused nothing changes, as long as
nothing changes above it. -/
theorem createDirectoriesWithin_of_refused {refusal : FileError} {depth : Nat}
    (there : tree.hasDirectory here text = true)
    (refused : tree.createDirectory here text = .error refusal)
    (above : refusal = .notFound →
      tree.createDirectoriesWithin here (Path.parentText text) depth = .ok tree) :
    tree.createDirectoriesWithin here text (depth + 1) = .ok tree := by
  rw [createDirectoriesWithin, refused]
  split_ifs
  · rfl
  split
  next created => cases created
  next missing =>
    simp only [above (Except.error.inj missing), bind, Except.bind, refused]
    rw [if_pos there]
  next => rfl

theorem locate_slash : tree.locate here "/" = .ok [] :=
  locate_eq_ok_iff.mpr ⟨by decide, by decide, by decide, maxLinks, .dot rfl .arrived⟩

/-- Below no name there is nothing to create. -/
theorem createDirectoriesWithin_of_bare (located : tree.locate here text = .ok place)
    (isDirectory : tree.node? place = some .directory) (bare : Path.withoutSlashes text = "")
    (depth : Nat) : tree.createDirectoriesWithin here text depth = .ok tree := by
  induction depth generalizing text place with
  | zero => rfl
  | succ depth inductionHypothesis =>
      obtain ⟨refusal, refused⟩ := exists_createDirectory_of_bare located bare
      refine createDirectoriesWithin_of_refused (hasDirectory_of_locate located isDirectory) refused
        fun _ => ?_
      rcases Path.parentText_of_bare bare with root | nothing
      · rw [root]
        exact inductionHypothesis locate_slash rfl (by decide)
      · rw [nothing]
        cases depth <;> rfl

/-- A directory that is there is left as it is. -/
theorem createDirectories_of_locate (located : tree.locate here text = .ok place)
    (isDirectory : tree.node? place = some .directory) :
    tree.createDirectories here text = .ok tree := by
  unfold createDirectories
  by_cases bare : Path.withoutSlashes text = ""
  · exact createDirectoriesWithin_of_bare located isDirectory bare _
  · refine createDirectoriesWithin_of_refused (hasDirectory_of_locate located isDirectory)
      (createDirectory_of_locate located isDirectory bare) fun missing => ?_
    cases missing

/-- A directory is created in one that is there. -/
theorem createDirectory_join {directory : String} (located : tree.locate here directory = .ok place)
    (isDirectory : tree.node? place = some .directory) (isName : IsFileName name)
    (short : (Path.join directory name).utf8ByteSize < maxOctets)
    (vacant : tree.node? (place ++ [name]) = none) :
    tree.createDirectory here (Path.join directory name) =
      .ok (tree.put (place ++ [name]) .directory) := by
  obtain ⟨nonempty, clean, _⟩ := locate_eq_ok_iff.mp located
  have zero := Path.zero_notMem_join clean nonempty isName
  obtain ⟨parts, left, joined, leads⟩ := exists_leads_join located isName
  have arrives : tree.walk maxLinks (pathStart here (Path.join directory name)) (parts ++ ["."]) =
      .ok place := (leads.append (.dot isDirectory .arrived)).walk
  rw [pathStart] at arrives
  unfold createDirectory locateNew
  simp only [Path.withoutSlashes_join nonempty isName, joined, List.getLast?_concat,
    List.dropLast_concat, arrives]
  rw [if_neg (Nat.not_le.mpr short), if_neg (by simpa using zero)]
  simp only [isName.ne_dot, isName.ne_dots, or_self, if_false,
    if_neg (Nat.not_lt.mpr isName.short), bind, Except.bind, pure, Except.pure, vacant]

theorem createDirectories_of_created {after : FileTree} (nonempty : text ≠ "")
    (created : tree.createDirectory here text = .ok after) :
    tree.createDirectories here text = .ok after := by
  rw [createDirectories, createDirectoriesWithin, if_neg (by simpa using nonempty), created]

end Directories

end Crosscheck.FileTree
