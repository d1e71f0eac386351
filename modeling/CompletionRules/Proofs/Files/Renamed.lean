import CompletionRules.Proofs.Files.Change
import CompletionRules.Proofs.Text.AfterLast

-- A path that names a file, taken apart before the name, and where it leads with another extension.

namespace CompletionRules

namespace Path

structure Names (path : String) (front name : List Char) : Prop where
  whole : path.toList = front ++ name
  seam : front = [] ∨ ∃ upper, front = upper ++ ['/']
  plain : '/' ∉ name
  filled : name ≠ []
  named : name ≠ ['.'] ∧ name ≠ ['.', '.']

theorem parted (path : String) : ∃ front name, path.toList = front ++ name ∧
    (front = [] ∨ ∃ upper, front = upper ++ ['/']) ∧ '/' ∉ name := by
  obtain ⟨plain, parts⟩ := Text.afterLast_exact '/' path.toList
  rcases parts with whole | ⟨start, found⟩
  · exact ⟨[], _, whole.symm, .inl rfl, plain⟩
  · refine ⟨start ++ ['/'], _, ?_, .inr ⟨start, rfl⟩, plain⟩
    rw [List.append_assoc]
    exact found

theorem components_append {front name : List Char} (seam : front = [] ∨ ∃ upper, front = upper ++ ['/'])
    (plain : '/' ∉ name) (filled : name ≠ []) :
    components (.ofList (front ++ name)) = components (.ofList front) ++ [.ofList name] := by
  have alone := Text.pieces_of_not_mem plain
  have kept : (!name.isEmpty) = true := by simpa using filled
  unfold components
  rw [String.toList_ofList, String.toList_ofList]
  rcases seam with rfl | ⟨upper, rfl⟩
  · simp [alone, kept, Text.pieces]
  · rw [List.append_assoc, List.singleton_append, Text.pieces_append_separator _ _ _ _ (by simp), alone,
      Text.pieces_append_separator _ _ _ _ (by simp)]
    simp [kept, Text.pieces]

theorem isAbsolute_append {front name : List Char} (plain : '/' ∉ name) :
    isAbsolute (.ofList (front ++ name)) = isAbsolute (.ofList front) := by
  unfold isAbsolute
  rw [String.toList_ofList, String.toList_ofList]
  cases front with
  | cons c rest => rfl
  | nil =>
    cases name with
    | nil => rfl
    | cons c rest =>
      simp only [List.mem_cons, not_or] at plain
      simp [Ne.symm plain.1]

def stem (name : List Char) : List Char := (stemReversed name.reverse).reverse

theorem stem_ne_nil {name : List Char} (filled : name ≠ []) : stem name ≠ [] := by
  unfold stem stemReversed
  rcases name.reverse.dropWhile (· ≠ '.') with _ | ⟨c, _ | ⟨d, rest⟩⟩
  · simpa using filled
  · simpa using filled
  · simp

theorem stem_subset {name : List Char} : stem name ⊆ name := by
  intro c member
  have kept := (List.dropWhile_suffix (fun d : Char => decide (d ≠ '.')) (l := name.reverse)).subset
  unfold stem stemReversed at member
  generalize name.reverse.dropWhile (· ≠ '.') = dropped at member kept
  rcases dropped with _ | ⟨d, _ | ⟨e, rest⟩⟩
  · simpa using member
  · simpa using member
  · exact List.mem_reverse.mp (kept (List.mem_cons_of_mem _ (List.mem_reverse.mp member)))

theorem stem_append {base extension : List Char} (filled : base ≠ []) (plain : '.' ∉ extension) :
    stem (base ++ '.' :: extension) = base := by
  have dropped : (base ++ '.' :: extension).reverse.dropWhile (· ≠ '.') = '.' :: base.reverse := by
    rw [List.reverse_append, List.reverse_cons, List.append_assoc, List.singleton_append,
      List.dropWhile_append_of_pos]
    · simp
    · intro c member
      have unlike : c ≠ '.' := by
        rintro rfl
        exact plain (List.mem_reverse.mp member)
      simpa using unlike
  unfold stem stemReversed
  rw [dropped]
  cases backward : base.reverse with
  | nil => exact absurd (List.reverse_eq_nil_iff.mp backward) filled
  | cons c rest => rw [← List.reverse_inj.mp (backward.trans (List.reverse_reverse _).symm)]

namespace Names

variable {path : String} {front name : List Char}

theorem eq_ofList (names : Names path front name) : path = .ofList (front ++ name) := by
  rw [← names.whole, String.ofList_toList]

theorem lastComponent_eq (names : Names path front name) : lastComponent path = .ofList name := by
  rw [lastComponent, names.eq_ofList, components_append names.seam names.plain names.filled]
  simp

theorem dropTrailing_eq (names : Names path front name) :
    dropTrailing path.toList.reverse = name.reverse ++ front.reverse := by
  rw [names.whole, List.reverse_append]
  have plain : '/' ∉ name.reverse := fun member => names.plain (List.mem_reverse.mp member)
  have single : name.reverse ≠ ['.'] := fun same => names.named.1 (by simpa using congrArg List.reverse same)
  cases backward : name.reverse with
  | nil => exact absurd (List.reverse_eq_nil_iff.mp backward) names.filled
  | cons c rest =>
    rw [backward] at plain single
    unfold dropTrailing
    split
    · simp_all
    -- A dot in front of a slash would be the whole name.
    · rename_i deeper found
      cases rest with
      | nil => simp_all
      | cons d others => simp_all
    · rfl

theorem takeWhile_eq (names : Names path front name) :
    (name.reverse ++ front.reverse).takeWhile (· ≠ '/') = name.reverse ∧
      (name.reverse ++ front.reverse).dropWhile (· ≠ '/') = front.reverse := by
  have plain : ∀ c ∈ name.reverse, decide (c ≠ '/') = true := by
    intro c member
    have unlike : c ≠ '/' := by
      rintro rfl
      exact names.plain (List.mem_reverse.mp member)
    simpa using unlike
  rw [List.takeWhile_append_of_pos plain, List.dropWhile_append_of_pos plain]
  rcases names.seam with rfl | ⟨upper, rfl⟩
  · simp
  · simp

theorem withExtension_eq (names : Names path front name) (extension : String) :
    withExtension path extension = .ofList (front ++ stem name ++ '.' :: extension.toList) := by
  have proper : ¬ (name.reverse = [] || name.reverse = ['.'] || name.reverse = ['.', '.']) = true := by
    simpa [List.reverse_eq_iff] using ⟨⟨names.filled, names.named.1⟩, names.named.2⟩
  unfold withExtension
  rw [names.dropTrailing_eq]
  dsimp only
  rw [names.takeWhile_eq.1, names.takeWhile_eq.2, if_neg proper]
  apply String.toList_injective
  simp [stem]

theorem renamed (names : Names path front name) :
    Names (withExtension path "bash") front (stem name ++ ".bash".toList) where
  whole := by
    rw [names.withExtension_eq, String.toList_ofList, List.append_assoc]
    rfl
  seam := names.seam
  plain := by
    intro member
    rcases List.mem_append.mp member with inside | extension
    · exact names.plain (stem_subset inside)
    · revert extension
      decide
  filled := by simp
  named := by
    constructor
    · intro same
      simpa using congrArg List.length same
    · intro same
      simpa using congrArg List.length same

theorem withExtension_same (names : Names path front name) :
    withExtension path "bash" = path ↔ ∃ base, base ≠ "" ∧ lastComponent path = base ++ ".bash" := by
  have spelled : path.toList = front ++ name := names.whole
  rw [names.lastComponent_eq]
  constructor
  · intro same
    have ends : stem name ++ ".bash".toList = name := by
      have whole := names.renamed.whole
      rw [same, spelled] at whole
      exact (List.append_cancel_left whole).symm
    refine ⟨.ofList (stem name), ?_, ?_⟩
    · simpa using stem_ne_nil names.filled
    · apply String.toList_injective
      simpa using ends.symm
  · rintro ⟨base, filled, ends⟩
    have named : name = base.toList ++ ".bash".toList := by simpa using congrArg String.toList ends
    have kept : stem name = base.toList := by
      rw [named]
      exact stem_append (by simpa using filled) (by decide)
    apply String.toList_injective
    rw [names.renamed.whole, kept, spelled, named]

end Names

theorem join_names (left : String) {right : String} (plain : '/' ∉ right.toList) (filled : right.toList ≠ [])
    (named : right.toList ≠ ['.'] ∧ right.toList ≠ ['.', '.']) :
    ∃ front, Names (join left right) front right.toList := by
  have relative : isAbsolute right = false := by
    unfold isAbsolute
    cases spelled : right.toList with
    | nil => rfl
    | cons c rest =>
      rw [spelled, List.mem_cons, not_or] at plain
      simpa using Ne.symm plain.1
  unfold join
  rw [relative]
  split
  · exact ⟨[], rfl, .inl rfl, plain, filled, named⟩
  split
  · rename_i slashed
    have last : left.toList.getLast? = some '/' := by simpa [endsInSlash] using slashed
    obtain ⟨upper, ends⟩ := List.getLast?_eq_some_iff.mp last
    exact ⟨left.toList, String.toList_append, .inr ⟨upper, ends⟩, plain, filled, named⟩
  · exact ⟨left.toList ++ ['/'], by simp, .inr ⟨_, rfl⟩, plain, filled, named⟩

end Path

namespace FileSystem

def upper (files : FileSystem) (front : List Char) : Except FileError Location :=
  files.follow (if Path.isAbsolute (.ofList front) then [] else files.workingDirectory)
    (Path.components (.ofList front))

theorem follow_concat (files : FileSystem) (start : Location) (components : List String) (last : String) :
    files.follow start (components ++ [last]) =
      match files.follow start components with
      | .error error => .error error
      | .ok reached => files.step reached last := by
  induction components generalizing start with
  | nil => 
    simp only [List.nil_append, follow]
    cases files.step start last with
    | error error => rfl
    | ok next => rfl
  | cons component rest ih =>
    simp only [List.cons_append, follow]
    cases files.step start component with
    | error error => rfl
    | ok next => exact ih next

variable {files : FileSystem} {path other text : String} {front name : List Char} {location : Location}

theorem locate_last (whole : path.toList = front ++ name) (seam : front = [] ∨ ∃ upper, front = upper ++ ['/'])
    (plain : '/' ∉ name) (filled : name ≠ []) (located : files.locate path = .ok location) :
    ∃ reached, files.upper front = .ok reached ∧ files.step reached (.ofList name) = .ok location := by
  have spelled : path = .ofList (front ++ name) := by rw [← whole, String.ofList_toList]
  unfold locate at located
  split at located
  · cases located
  split at located
  · cases located
  rw [spelled, Path.isAbsolute_append plain, Path.components_append seam plain filled, follow_concat] at located
  unfold upper
  split at located
  · cases located
  · rename_i reached led
    exact ⟨reached, led, located⟩

theorem step_parts {reached : Location} {component : String} (stepped : files.step reached component = .ok location) :
    files.node? reached = some .directory ∧
      (component = "." ∧ location = reached ∨ component = ".." ∧ location = reached.dropLast ∨
        component ≠ "." ∧ component ≠ ".." ∧ location = reached ++ [component]) := by
  unfold step at stepped
  split at stepped
  · cases stepped
  · cases stepped
  · rename_i directory
    refine ⟨directory, ?_⟩
    split at stepped
    · rename_i same
      exact .inl ⟨same, (Except.ok.inj stepped).symm⟩
    split at stepped
    · rename_i same
      exact .inr (.inl ⟨same, (Except.ok.inj stepped).symm⟩)
    split at stepped
    · cases stepped
    · rename_i unlike parent _
      exact .inr (.inr ⟨unlike, parent, (Except.ok.inj stepped).symm⟩)

theorem locate_names (names : Path.Names path front name) (located : files.locate path = .ok location) :
    ∃ reached, files.upper front = .ok reached ∧ location = reached ++ [.ofList name] := by
  obtain ⟨reached, led, stepped⟩ := locate_last names.whole names.seam names.plain names.filled located
  refine ⟨reached, led, ?_⟩
  rcases (step_parts stepped).2 with ⟨dot, _⟩ | ⟨dots, _⟩ | ⟨_, _, ends⟩
  · exact absurd (by simpa using congrArg String.toList dot) names.named.1
  · exact absurd (by simpa using congrArg String.toList dots) names.named.2
  · exact ends

theorem leadToSame_names {base : List Char} (names : Path.Names path front name) (others : Path.Names other front base)
    (located : files.locate path = .ok location) : Desk.leadToSame files other path = true ↔ other = path := by
  constructor
  · intro same
    rw [leadToSame_comm] at same
    obtain ⟨reached, led, ends⟩ := locate_names names located
    obtain ⟨reached', led', ends'⟩ := locate_names others (locate_of_leadToSame same located)
    obtain rfl : reached = reached' := Except.ok.inj (led.symm.trans led')
    have alike : name = base := by
      apply String.ofList_injective
      simpa using List.append_cancel_left (ends.symm.trans ends')
    rw [others.eq_ofList, names.eq_ofList, alike]
  · rintro rfl
    simp [Desk.leadToSame, located]

theorem apart_names {front' base : List Char} (names : Path.Names path front name) (others : Path.Names other front' base)
    (unlike : name ≠ base) : Desk.leadToSame files path other = false := by
  unfold Desk.leadToSame
  split
  · rename_i first second located beside
    obtain ⟨reached, _, rfl⟩ := locate_names names located
    obtain ⟨reached', _, rfl⟩ := locate_names others beside
    refine decide_eq_false fun same => unlike ?_
    apply String.ofList_injective
    simpa using congrArg List.getLast? same
  · rfl

def Rooted (files : FileSystem) : Prop :=
  ∀ location, (files.node? location).isSome → files.node? location.dropLast = some .directory

theorem rooted_of_nodes (inside : ∀ pair ∈ files.nodes, files.node? pair.1.dropLast = some .directory) :
    files.Rooted := by
  intro location held
  unfold node? at held
  split at held
  · rfl
  · obtain ⟨node, found⟩ := Option.isSome_iff_exists.mp held
    exact inside _ (Pairs.find?_mem found)

theorem read_names (rooted : files.Rooted) (readable : files.read path = .ok text) :
    ∃ front name, Path.Names path front name := by
  obtain ⟨location, located, unslashed, held⟩ := read_parts readable
  obtain ⟨front, name, whole, seam, plain⟩ := Path.parted path
  have filled : name ≠ [] := by
    rintro rfl
    rw [List.append_nil] at whole
    rcases seam with rfl | ⟨upper, rfl⟩
    · simp [locate, String.toList_eq_nil_iff.mp whole] at located
    · simp [Path.endsInSlash, whole] at unslashed
  obtain ⟨reached, _, stepped⟩ := locate_last whole seam plain filled located
  obtain ⟨directory, ends⟩ := step_parts stepped
  refine ⟨front, name, whole, seam, plain, filled, ?_⟩
  rcases ends with ⟨_, rfl⟩ | ⟨_, rfl⟩ | ⟨dot, dots, _⟩
  · cases directory.symm.trans held
  · cases (rooted reached (by rw [directory]; rfl)).symm.trans held
  · exact ⟨fun same => dot (by rw [same]), fun same => dots (by rw [same])⟩

end FileSystem

end CompletionRules
